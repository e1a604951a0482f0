import Mathlib.Data.List.Induction

/-!
# Switches

A log of switches, oldest first: each entry turns one key on or off, and a key
is in the state its last entry left it in.  When several keys are merged under
one name, the merged switch need not show whether one of them is on, because
turning one off turns off the name.
-/

namespace TurbocableServer.Foundations

universe u v

section

variable {κ : Type u} [DecidableEq κ]

/-- The state of `key` after the log. -/
def isOn (log : List (κ × Bool)) (key : κ) : Bool :=
  log.foldl (fun on entry => if entry.1 = key then entry.2 else on) false

@[simp]
theorem isOn_nil (key : κ) : isOn [] key = false :=
  rfl

@[simp]
theorem isOn_append_singleton (log : List (κ × Bool)) (entry : κ × Bool)
    (key : κ) :
    isOn (log ++ [entry]) key =
      if entry.1 = key then entry.2 else isOn log key := by
  simp [isOn, List.foldl_append]

theorem isOn_turnedOn_iff {log : List (κ × Bool)} {turned key : κ} :
    isOn (log ++ [(turned, true)]) key = true ↔
      key = turned ∨ isOn log key = true := by
  rw [isOn_append_singleton]
  by_cases same : turned = key
  · simp [same]
  · simp [same, Ne.symm same]

theorem isOn_turnedOff_iff {log : List (κ × Bool)} {turned key : κ} :
    isOn (log ++ [(turned, false)]) key = true ↔
      key ≠ turned ∧ isOn log key = true := by
  rw [isOn_append_singleton]
  by_cases same : turned = key
  · simp [same]
  · simp [same, Ne.symm same]

/-- The last entry of a key that is on turned it on. -/
theorem exists_of_isOn {log : List (κ × Bool)} {key : κ}
    (on : isOn log key = true) :
    ∃ earlier later,
      log = earlier ++ (key, true) :: later ∧
        ∀ entry, entry ∈ later → entry.1 ≠ key := by
  induction log using List.reverseRecOn with
  | nil =>
      cases on
  | append_singleton log entry ih =>
      rw [isOn_append_singleton] at on
      split at on
      · rename_i same
        refine ⟨log, [], ?_, by simp⟩
        rw [← same, ← on]
      · rename_i different
        obtain ⟨earlier, later, rfl, untouched⟩ := ih on
        refine ⟨earlier, later ++ [entry], by simp, ?_⟩
        intro added member
        rcases List.mem_append.mp member with before | isEntry
        · exact untouched added before
        · rw [List.mem_singleton.mp isEntry]
          exact different

/-- What comes after leaves alone a key it does not mention. -/
theorem isOn_append_of_untouched {log later : List (κ × Bool)} {key : κ}
    (untouched : ∀ entry, entry ∈ later → entry.1 ≠ key) :
    isOn (log ++ later) key = isOn log key := by
  induction later using List.reverseRecOn with
  | nil =>
      rw [List.append_nil]
  | append_singleton later entry ih =>
      have different := untouched entry (by simp)
      rw [← List.append_assoc, isOn_append_singleton, if_neg different]
      exact ih
        (fun added member => untouched added (by simp [member]))

theorem isOn_of_last {earlier later : List (κ × Bool)} {key : κ} {on : Bool}
    (untouched : ∀ entry, entry ∈ later → entry.1 ≠ key) :
    isOn (earlier ++ (key, on) :: later) key = on := by
  have split :
      earlier ++ (key, on) :: later = (earlier ++ [(key, on)]) ++ later := by
    simp
  rw [split, isOn_append_of_untouched untouched]
  simp

/-- A key that was turned on stays on, or some last entry turns it off. -/
theorem isOn_or_turnedOff (earlier later : List (κ × Bool)) (key : κ) :
    isOn (earlier ++ (key, true) :: later) key = true ∨
      ∃ between rest,
        later = between ++ (key, false) :: rest ∧
          ∀ entry, entry ∈ rest → entry.1 ≠ key := by
  induction later using List.reverseRecOn with
  | nil =>
      simp
  | append_singleton later entry ih =>
      have split :
          earlier ++ (key, true) :: (later ++ [entry]) =
            (earlier ++ (key, true) :: later) ++ [entry] := by
        simp
      by_cases same : entry.1 = key
      · cases turned : entry.2 with
        | true =>
            left
            rw [split, isOn_append_singleton, if_pos same, turned]
        | false =>
            right
            refine ⟨later, [], ?_, by simp⟩
            rw [← same, ← turned]
      · rcases ih with on | ⟨between, rest, rfl, untouched⟩
        · left
          rw [split, isOn_append_singleton, if_neg same, on]
        · right
          refine ⟨between, rest ++ [entry], by simp, ?_⟩
          intro added member
          rcases List.mem_append.mp member with before | isEntry
          · exact untouched added before
          · rw [List.mem_singleton.mp isEntry]
            exact same

/-- A key that is on was turned on after every entry that turned it off. -/
theorem turnedOn_of_isOn {earlier rest : List (κ × Bool)} {key : κ}
    (on : isOn (earlier ++ (key, false) :: rest) key = true) :
    (key, true) ∈ rest := by
  by_contra absent
  induction rest using List.reverseRecOn with
  | nil =>
      simp at on
  | append_singleton rest entry ih =>
      have split :
          earlier ++ (key, false) :: (rest ++ [entry]) =
            (earlier ++ (key, false) :: rest) ++ [entry] := by
        simp
      rw [split, isOn_append_singleton] at on
      split at on
      · rename_i same
        apply absent
        rw [← same, ← on]
        simp
      · exact ih on (fun member => absent (by simp [member]))

end

/-! ## Merged keys -/

section Merged

variable {ι : Type u} {κ : Type v}

/-- The log as the names see it. -/
def merged (name : ι → κ) (log : List (ι × Bool)) : List (κ × Bool) :=
  log.map (Prod.map name id)

@[simp]
theorem merged_append (name : ι → κ) (earlier later : List (ι × Bool)) :
    merged name (earlier ++ later) =
      merged name earlier ++ merged name later :=
  List.map_append ..

/-- Once a key of the name is on for good, every entry that turns the name off
is followed by one that turns it on again. -/
def NeverUndercut (name : ι → κ) (log : List (ι × Bool)) (target : κ) : Prop :=
  ∀ key earlier later,
    log = earlier ++ (key, true) :: later → name key = target →
      (∀ entry, entry ∈ later → entry.1 ≠ key) →
        ∀ other between rest,
          later = between ++ (other, false) :: rest → name other = target →
            ∃ again, (again, true) ∈ rest ∧ name again = target

variable [DecidableEq ι] [DecidableEq κ]
variable {name : ι → κ} {log : List (ι × Bool)} {target : κ}

/-- A name that is on has a key that is on. -/
theorem exists_isOn_of_merged (on : isOn (merged name log) target = true) :
    ∃ key, name key = target ∧ isOn log key = true := by
  obtain ⟨earlier, later, isMerged, untouched⟩ := exists_of_isOn on
  obtain ⟨before, rest, rfl, -, isRest⟩ := List.map_eq_append_iff.mp isMerged
  obtain ⟨⟨key, state⟩, after, rfl, isEntry, rfl⟩ :=
    List.map_eq_cons_iff.mp isRest
  obtain ⟨isName, isState⟩ := Prod.mk.inj isEntry
  refine ⟨key, isName, ?_⟩
  have isLast :
      ∀ entry, entry ∈ after → entry.1 ≠ key := by
    intro entry member same
    refine untouched (Prod.map name id entry)
      (List.mem_map_of_mem member) ?_
    rw [Prod.map_fst, same, isName]
  rw [isOn_of_last isLast]
  exact isState

/-- The name shows whether one of its keys is on exactly when no key that is on
was undercut. -/
theorem isOn_merged_iff :
    (isOn (merged name log) target = true ↔
        ∃ key, name key = target ∧ isOn log key = true) ↔
      NeverUndercut name log target := by
  constructor
  · intro shows key earlier later isLog isName untouched other between rest
      isLater isOther
    have on : isOn log key = true := by
      rw [isLog, isOn_of_last untouched]
    have mergedOn := shows.mpr ⟨key, isName, on⟩
    have split :
        merged name log =
          merged name (earlier ++ (key, true) :: between) ++
            (target, false) :: merged name rest := by
      rw [isLog, isLater, ← isOther]
      simp [merged]
    rw [split] at mergedOn
    obtain ⟨⟨again, state⟩, member, isEntry⟩ :=
      List.mem_map.mp (turnedOn_of_isOn mergedOn)
    obtain ⟨isAgain, isState⟩ := Prod.mk.inj isEntry
    obtain rfl : state = true := isState
    exact ⟨again, member, isAgain⟩
  · intro never
    refine ⟨exists_isOn_of_merged, ?_⟩
    rintro ⟨key, isName, on⟩
    obtain ⟨earlier, later, isLog, untouched⟩ := exists_of_isOn on
    have split :
        merged name log =
          merged name earlier ++ (target, true) :: merged name later := by
      rw [isLog, ← isName]
      simp [merged]
    rw [split]
    rcases isOn_or_turnedOff (merged name earlier) (merged name later)
        target with
      stays | ⟨before, after, isLater, isLast⟩
    · exact stays
    · -- The last entry of the name turned it off, against the condition.
      obtain ⟨between, remaining, rfl, -, isRemaining⟩ :=
        List.map_eq_append_iff.mp isLater
      obtain ⟨⟨other, state⟩, rest, rfl, isEntry, rfl⟩ :=
        List.map_eq_cons_iff.mp isRemaining
      obtain ⟨isOther, isState⟩ := Prod.mk.inj isEntry
      obtain rfl : state = false := isState
      obtain ⟨again, member, isAgain⟩ :=
        never key earlier _ isLog isName untouched other between rest rfl
          isOther
      exact absurd isAgain
        (isLast (name again, true) (List.mem_map_of_mem member))

end Merged

end TurbocableServer.Foundations
