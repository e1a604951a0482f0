import Mathlib.Algebra.Order.Field.Basic
import Mathlib.Data.List.Induction
import Mathlib.Tactic.Linarith
import Mathlib.Tactic.Ring

/-!
# Token buckets and arrival curves

A bucket of capacity `burst` is filled at `rate` tokens per unit of time, and an
arrival passes if it finds a token, which it takes.  The level of the bucket is
one capped number; what it stands for is the least slack, over all windows that
end now, between the line `burst + rate * d` and what passed in the window.  A
bucket therefore admits exactly the greedy part of the traffic that conforms to
that line.
-/

namespace TurbocableServer.Foundations.TokenBucket

universe u

variable {K : Type u}

/-- An arrival with its verdict. -/
structure Arrival (K : Type u) where
  time : K
  allowed : Bool

/-- How many arrivals passed. -/
def passed (arrivals : List (Arrival K)) : Nat :=
  arrivals.countP (·.allowed)

@[simp]
theorem passed_nil : passed ([] : List (Arrival K)) = 0 :=
  rfl

@[simp]
theorem passed_append (left right : List (Arrival K)) :
    passed (left ++ right) = passed left + passed right :=
  List.countP_append

theorem passed_singleton (arrival : Arrival K) :
    passed [arrival] = if arrival.allowed then 1 else 0 := by
  simp [passed]

variable [Field K] [LinearOrder K]

/-- The level of the bucket at a time, after arrivals of which the newest comes
first. -/
def level (rate burst : K) : List (Arrival K) → K → K
  | [], _ => burst
  | newest :: older, now =>
      min
        (level rate burst older newest.time -
            (if newest.allowed then 1 else 0) +
          (now - newest.time) * rate)
        burst

/-- The verdicts are those of the bucket. -/
def Metered (rate burst : K) (arrivals : List (Arrival K)) : Prop :=
  ∀ past arrival later, arrivals = past ++ arrival :: later →
    (arrival.allowed = true ↔
      1 ≤ level rate burst past.reverse arrival.time)

/-- An arrival passes exactly if it does not take any window that ends with it
above the line. -/
def Greedy (rate burst : K) (arrivals : List (Arrival K)) : Prop :=
  ∀ past arrival later, arrivals = past ++ arrival :: later →
    (arrival.allowed = true ↔
      ∀ j first, (past ++ [arrival])[j]? = some first →
        (passed (past.drop j) + 1 : K) ≤
          burst + rate * (arrival.time - first.time))

/-- The verdicts are those of the bucket, one arrival at a time. -/
def MeteredFrom (rate burst : K) :
    List (Arrival K) → List (Arrival K) → Prop
  | _, [] => True
  | history, arrival :: later =>
      (arrival.allowed = true ↔ 1 ≤ level rate burst history arrival.time) ∧
        MeteredFrom rate burst (arrival :: history) later

theorem MeteredFrom.of_split {rate burst : K} {arrival : Arrival K}
    {later : List (Arrival K)} :
    ∀ (past history : List (Arrival K)),
      MeteredFrom rate burst history (past ++ arrival :: later) →
        (arrival.allowed = true ↔
          1 ≤ level rate burst (past.reverse ++ history) arrival.time)
  | [], _, metered => metered.1
  | head :: tail, history, metered => by
      have rest := MeteredFrom.of_split tail (head :: history) metered.2
      rw [List.reverse_cons, List.append_assoc]
      exact rest

theorem MeteredFrom.metered {rate burst : K} {arrivals : List (Arrival K)}
    (metered : MeteredFrom rate burst [] arrivals) :
    Metered rate burst arrivals := by
  intro past arrival later isSplit
  rw [isSplit] at metered
  have verdict := metered.of_split past []
  rwa [List.append_nil] at verdict

variable [IsStrictOrderedRing K] {rate burst : K}

/-! ## The level is the least slack -/

omit [Field K] [LinearOrder K] [IsStrictOrderedRing K] in
/-- A property of the positions of a list with one more arrival. -/
theorem forall_getElem?_append_singleton
    {older : List (Arrival K)} {newest : Arrival K}
    {holds : Nat → Arrival K → Prop} :
    (∀ j first, (older ++ [newest])[j]? = some first → holds j first) ↔
      (∀ j first, older[j]? = some first → holds j first) ∧
        holds older.length newest := by
  constructor
  · intro all
    constructor
    · intro j first isFirst
      apply all j first
      rw [List.getElem?_append_left (List.getElem?_eq_some_iff.mp isFirst).1]
      exact isFirst
    · apply all
      simp
  · intro both j first isFirst
    rcases Nat.lt_or_ge j older.length with earlier | last
    · rw [List.getElem?_append_left earlier] at isFirst
      exact both.1 j first isFirst
    · rw [List.getElem?_append_right last, List.getElem?_singleton] at isFirst
      split at isFirst
      · have atEnd : j = older.length := by omega
        rw [atEnd, ← Option.some.inj isFirst]
        exact both.2
      · cases isFirst

theorem le_level_reverse_iff (past : List (Arrival K)) :
    ∀ (needed now : K),
      needed ≤ level rate burst past.reverse now ↔
        needed ≤ burst ∧
          ∀ j first, past[j]? = some first →
            needed + passed (past.drop j) ≤
              burst + rate * (now - first.time) := by
  -- the newest arrival is last, so the windows grow at their end
  induction past using List.reverseRecOn with
  | nil =>
      intro needed now
      simp [level]
  | append_singleton older newest ih =>
      intro needed now
      have cost :
          (if newest.allowed then (1 : K) else 0) = passed [newest] := by
        rw [passed_singleton]
        split <;> simp
      have grown : ∀ j first, older[j]? = some first →
          (passed ((older ++ [newest]).drop j) : K) =
            passed (older.drop j) + passed [newest] := by
        intro j first isFirst
        have within := (List.getElem?_eq_some_iff.mp isFirst).1
        rw [List.drop_append_of_le_length (Nat.le_of_lt within),
          passed_append, Nat.cast_add]
      rw [List.reverse_append, List.reverse_singleton, List.singleton_append,
        level, le_min_iff, cost, forall_getElem?_append_singleton,
        List.drop_left]
      have shifted := ih
        (needed + passed [newest] - (now - newest.time) * rate) newest.time
      constructor
      · intro both
        obtain ⟨enough, capped⟩ := both
        have slack := shifted.mp (by linarith)
        refine ⟨capped, ?_, by linarith [slack.1]⟩
        intro j first isFirst
        have window := slack.2 j first isFirst
        rw [grown j first isFirst]
        linarith
      · intro both
        obtain ⟨capped, windows, last⟩ := both
        refine ⟨?_, capped⟩
        have slack := shifted.mpr ⟨by linarith, ?_⟩
        · linarith
        · intro j first isFirst
          have window := windows j first isFirst
          rw [grown j first isFirst] at window
          linarith

/-- A bucket admits greedily. -/
theorem Metered.greedy {arrivals : List (Arrival K)}
    (metered : Metered rate burst arrivals) (fits : 1 ≤ burst) :
    Greedy rate burst arrivals := by
  intro past arrival later isSplit
  rw [metered past arrival later isSplit, le_level_reverse_iff,
    forall_getElem?_append_singleton, List.drop_length]
  have own : (passed ([] : List (Arrival K)) + 1 : K) ≤
      burst + rate * (arrival.time - arrival.time) := by
    simpa using fits
  constructor
  · intro both
    refine ⟨?_, own⟩
    intro j first isFirst
    linarith [both.2 j first isFirst]
  · intro both
    refine ⟨fits, ?_⟩
    intro j first isFirst
    linarith [both.1 j first isFirst]

/-! ## Windows -/

/-- The arrival falls into the window. -/
def InWindow (start length : K) (arrival : Arrival K) : Prop :=
  start ≤ arrival.time ∧ arrival.time ≤ start + length

instance (start length : K) (arrival : Arrival K) :
    Decidable (InWindow start length arrival) :=
  inferInstanceAs (Decidable (_ ∧ _))

/-- How many arrivals fall into the window. -/
def arrivedIn (start length : K) (arrivals : List (Arrival K)) : Nat :=
  arrivals.countP (fun arrival => InWindow start length arrival)

/-- The arrival passes and falls into the window. -/
def passesIn (start length : K) (arrival : Arrival K) : Bool :=
  arrival.allowed && InWindow start length arrival

/-- How many arrivals pass in the window. -/
def passedIn (start length : K) (arrivals : List (Arrival K)) : Nat :=
  arrivals.countP (passesIn start length)

/-- The traffic stays below the line in every window. -/
def Conforms (rate burst : K) (arrivals : List (Arrival K)) : Prop :=
  ∀ start length, 0 ≤ length →
    (arrivedIn start length arrivals : K) ≤ burst + rate * length

omit [Field K] [LinearOrder K] [IsStrictOrderedRing K] in
/-- Counting may start at the first arrival that counts. -/
theorem exists_first_counted (counts : Arrival K → Bool)
    {arrival : Arrival K} (counted : counts arrival = true) :
    ∀ past : List (Arrival K), ∃ j first,
      (past ++ [arrival])[j]? = some first ∧ counts first = true ∧
        past.countP counts ≤ (past.drop j).countP counts
  | [] => ⟨0, arrival, rfl, counted, Nat.le_refl _⟩
  | head :: tail => by
      cases headCounts : counts head with
      | true => exact ⟨0, head, rfl, headCounts, Nat.le_refl _⟩
      | false =>
          obtain ⟨j, first, isFirst, firstCounts, most⟩ :=
            exists_first_counted counts counted tail
          refine ⟨j + 1, first, isFirst, firstCounts, ?_⟩
          rw [List.countP_cons_of_neg (by simp [headCounts])]
          exact most

omit [IsStrictOrderedRing K] in
theorem Greedy.of_append {past : List (Arrival K)} {arrival : Arrival K}
    (greedy : Greedy rate burst (past ++ [arrival])) :
    Greedy rate burst past := by
  intro before middle after isSplit
  apply greedy before middle (after ++ [arrival])
  rw [isSplit, List.append_assoc, List.cons_append]

omit [IsStrictOrderedRing K] in
theorem passesIn_iff {start length : K} {arrival : Arrival K} :
    passesIn start length arrival = true ↔
      arrival.allowed = true ∧ InWindow start length arrival := by
  rw [passesIn, Bool.and_eq_true, decide_eq_true_iff]

/-- No window lets more than the line through. -/
theorem Greedy.passedIn_le {start length : K}
    (ratePositive : 0 ≤ rate) (burstPositive : 0 ≤ burst)
    (lengthPositive : 0 ≤ length) (arrivals : List (Arrival K))
    (greedy : Greedy rate burst arrivals) :
    (passedIn start length arrivals : K) ≤ burst + rate * length := by
  have grows : 0 ≤ rate * length := mul_nonneg ratePositive lengthPositive
  induction arrivals using List.reverseRecOn with
  | nil =>
      simp only [passedIn, List.countP_nil, Nat.cast_zero]
      linarith
  | append_singleton past arrival ih =>
      rw [passedIn, List.countP_append]
      by_cases counted : passesIn start length arrival = true
      · -- the last one that counts closes a window with the first
        obtain ⟨j, first, isFirst, firstCounted, most⟩ :=
          exists_first_counted (passesIn start length) counted past
        have allPassed :
            (past.drop j).countP (passesIn start length) ≤
              passed (past.drop j) := by
          apply List.countP_mono_left
          intro other _ passes
          exact (passesIn_iff.mp passes).1
        have total :
            (past.countP (passesIn start length) + 1 : K) ≤
              passed (past.drop j) + 1 := by
          exact_mod_cast Nat.add_le_add_right (Nat.le_trans most allPassed) 1
        obtain ⟨allowed, inWindow⟩ := passesIn_iff.mp counted
        obtain ⟨-, firstInWindow⟩ := passesIn_iff.mp firstCounted
        have line := (greedy past arrival [] rfl).mp allowed j first isFirst
        have short : rate * (arrival.time - first.time) ≤ rate * length := by
          apply mul_le_mul_of_nonneg_left _ ratePositive
          linarith [inWindow.2, firstInWindow.1]
        rw [List.countP_singleton, if_pos counted, Nat.cast_add, Nat.cast_one]
        linarith
      · rw [List.countP_singleton, if_neg counted, Nat.add_zero]
        exact ih greedy.of_append

/-- The arrivals from one to a later one lie between them. -/
theorem length_drop_le_arrivedIn
    {past later : List (Arrival K)} {arrival first : Arrival K} {j : Nat}
    (sorted :
      (past ++ arrival :: later).Pairwise
        (fun early late => early.time ≤ late.time))
    (isFirst : (past ++ [arrival])[j]? = some first) :
    first.time ≤ arrival.time ∧
      (past.drop j).length + 1 ≤
        arrivedIn first.time (arrival.time - first.time)
          (past ++ arrival :: later) := by
  have shape : past ++ arrival :: later = past ++ [arrival] ++ later := by
    simp
  rw [shape] at sorted ⊢
  have sortedPast := (List.pairwise_append.mp sorted).1
  have within := (List.getElem?_eq_some_iff.mp isFirst).1
  have fits : j ≤ past.length := by
    rw [List.length_append, List.length_singleton] at within
    exact Nat.le_of_lt_succ within
  have segment :
      past.drop j ++ [arrival] = first :: (past ++ [arrival]).drop (j + 1) := by
    rw [← (List.getElem?_eq_some_iff.mp isFirst).2,
      ← List.drop_eq_getElem_cons within, List.drop_append_of_le_length fits]
  have part : (past.drop j ++ [arrival]).Sublist (past ++ [arrival]) :=
    (List.drop_sublist j past).append (List.Sublist.refl _)
  have sortedSegment := sortedPast.sublist part
  have notBefore : ∀ other ∈ past.drop j ++ [arrival],
      first.time ≤ other.time := by
    intro other member
    rw [segment] at member sortedSegment
    rcases List.mem_cons.mp member with same | later
    · rw [same]
    · exact (List.pairwise_cons.mp sortedSegment).1 other later
  have notAfter : ∀ other ∈ past.drop j ++ [arrival],
      other.time ≤ arrival.time := by
    intro other member
    rcases List.mem_append.mp member with earlier | last
    · exact (List.pairwise_append.mp sortedSegment).2.2 other earlier arrival
        (List.mem_singleton_self arrival)
    · rw [List.mem_singleton.mp last]
  constructor
  · exact notBefore arrival (by simp)
  · have inside : ∀ other ∈ past.drop j ++ [arrival],
        decide (InWindow first.time (arrival.time - first.time) other) =
          true := by
      intro other member
      rw [decide_eq_true_iff]
      refine ⟨notBefore other member, ?_⟩
      linarith [notAfter other member]
    have counted := List.countP_eq_length.mpr inside
    rw [List.length_append, List.length_singleton] at counted
    rw [← counted]
    exact (part.trans (List.sublist_append_left _ _)).countP_le

/-- Traffic that conforms to the line passes. -/
theorem Greedy.allowed_of_conforms {arrivals : List (Arrival K)}
    (greedy : Greedy rate burst arrivals)
    (sorted :
      arrivals.Pairwise (fun early late => early.time ≤ late.time))
    (conforms : Conforms rate burst arrivals) :
    ∀ arrival ∈ arrivals, arrival.allowed = true := by
  intro arrival member
  obtain ⟨past, later, isSplit⟩ := List.append_of_mem member
  rw [greedy past arrival later isSplit]
  intro j first isFirst
  rw [isSplit] at sorted
  obtain ⟨ordered, counted⟩ := length_drop_le_arrivedIn sorted isFirst
  have line := conforms first.time (arrival.time - first.time)
    (sub_nonneg.mpr ordered)
  have few : passed (past.drop j) + 1 ≤
      arrivedIn first.time (arrival.time - first.time) arrivals := by
    rw [isSplit]
    exact Nat.le_trans
      (Nat.add_le_add_right List.countP_le_length 1) counted
  have cast : (passed (past.drop j) + 1 : K) ≤
      arrivedIn first.time (arrival.time - first.time) arrivals := by
    exact_mod_cast few
  linarith

end TurbocableServer.Foundations.TokenBucket
