import TurbocableServer.Auth.KeyLocks

/-!
# Updates of the verifier

An update writes the PEM before it gives back the lock of the key, so whoever
has that lock finds the two fields as the earlier updates left them, one after
the other.  The fields therefore agree with `JwtVerifier.updateKey`, which makes
an update in one step, whenever no update has the lock.
-/

namespace TurbocableServer.Auth

open Foundations

variable {Pem Key : Type}

/-! ## The atomic verifier -/

namespace JwtVerifier

variable {decoder : PemDecoder Pem Key} {verifier : JwtVerifier Pem Key}

/-- The key is the one of the PEM. -/
def Consistent (decoder : PemDecoder Pem Key)
    (verifier : JwtVerifier Pem Key) : Prop :=
  decoder.fromRsaPem verifier.pem = some verifier.key

theorem updateKey_of_valid {pem : Pem} {key : Key}
    (parsed : decoder.fromRsaPem pem = some key) :
    verifier.updateKey decoder pem = ⟨key, pem⟩ := by
  rw [updateKey, parsed]

theorem Consistent.updateKey (consistent : verifier.Consistent decoder)
    (pem : Pem) : (verifier.updateKey decoder pem).Consistent decoder := by
  cases parsed : decoder.fromRsaPem pem with
  | none =>
      rw [JwtVerifier.updateKey, parsed]
      exact consistent
  | some key =>
      rw [updateKey_of_valid parsed]
      exact parsed

theorem Consistent.foldl (consistent : verifier.Consistent decoder)
    (pems : List Pem) :
    (pems.foldl (JwtVerifier.updateKey decoder) verifier).Consistent
      decoder := by
  induction pems generalizing verifier with
  | nil => exact consistent
  | cons pem pems ih =>
      exact ih (consistent.updateKey pem)

/-- A valid update leaves nothing of the earlier ones. -/
theorem foldl_updateKey_of_getLast? {pems : List Pem} {pem : Pem} {key : Key}
    (isLast : pems.getLast? = some pem)
    (parsed : decoder.fromRsaPem pem = some key) :
    pems.foldl (updateKey decoder) verifier = ⟨key, pem⟩ := by
  obtain ⟨earlier, rfl⟩ := List.getLast?_eq_some_iff.mp isLast
  rw [List.foldl_append]
  exact updateKey_of_valid parsed

/-- Invalid arguments make no difference. -/
theorem foldl_validPems (pems : List Pem) :
    (validPems decoder pems).foldl (updateKey decoder) verifier =
      pems.foldl (updateKey decoder) verifier := by
  induction pems generalizing verifier with
  | nil => rfl
  | cons pem pems ih =>
      have later :
          (validPems decoder pems).foldl (updateKey decoder)
              (verifier.updateKey decoder pem) =
            pems.foldl (updateKey decoder) (verifier.updateKey decoder pem) :=
        ih
      rw [validPems] at later ⊢
      cases parsed : decoder.fromRsaPem pem with
      | none =>
          have unchanged : verifier.updateKey decoder pem = verifier := by
            rw [updateKey, parsed]
          rw [unchanged] at later
          simp only [List.filter_cons, parsed, Option.isSome_none,
            Bool.false_eq_true, if_false, List.foldl_cons, unchanged, later]
      | some key =>
          simp only [List.filter_cons, parsed, Option.isSome_some, if_true,
            List.foldl_cons, later]

theorem pem_foldl_updateKey {pems : List Pem}
    (valid : ∀ pem, pem ∈ pems → (decoder.fromRsaPem pem).isSome) :
    (pems.foldl (updateKey decoder) verifier).pem =
      pems.getLast?.getD verifier.pem := by
  cases isLast : pems.getLast? with
  | none =>
      rw [List.getLast?_eq_none_iff.mp isLast]
      rfl
  | some pem =>
      obtain ⟨key, parsed⟩ := Option.isSome_iff_exists.mp
        (valid pem (List.mem_of_getLast? isLast))
      rw [foldl_updateKey_of_getLast? isLast parsed, Option.getD_some]

theorem key_foldl_updateKey (pems : List Pem) :
    (pems.foldl (updateKey decoder) verifier).key =
      (pems.filterMap decoder.fromRsaPem).getLast?.getD verifier.key := by
  induction pems using List.reverseRecOn with
  | nil => rfl
  | append_singleton pems pem ih =>
      rw [List.foldl_append, List.foldl_cons, List.foldl_nil, key_updateKey,
        ih, List.filterMap_append]
      cases parsed : decoder.fromRsaPem pem with
      | none => simp [parsed]
      | some key => simp [parsed]

end JwtVerifier

/-! ## What the lock of the key protects -/

namespace VerifierState

/-- The fields are what the updates that got the lock of the key make of the
first verifier, one after the other. -/
def Settled (decoder : PemDecoder Pem Key) (initial : JwtVerifier Pem Key)
    (state : VerifierState Pem Key) : Prop :=
  state.verifier = state.acquired.foldl (JwtVerifier.updateKey decoder) initial ∧
    ∀ pem, pem ∈ state.acquired → (decoder.fromRsaPem pem).isSome

/-- An update with this argument was the last to get the lock. -/
def LastAcquired (decoder : PemDecoder Pem Key) (pem : Pem) (key : Key)
    (state : VerifierState Pem Key) : Prop :=
  decoder.fromRsaPem pem = some key ∧ state.acquired.getLast? = some pem ∧
    ∀ earlier, earlier ∈ state.acquired → (decoder.fromRsaPem earlier).isSome

variable {decoder : PemDecoder Pem Key} {initial : JwtVerifier Pem Key}
variable {state : VerifierState Pem Key} {pem : Pem} {key : Key}

theorem settled_new : (new initial).Settled decoder initial :=
  ⟨rfl, fun _ member => by cases member⟩

theorem Settled.recordAcquired (settled : state.Settled decoder initial)
    (parsed : decoder.fromRsaPem pem = some key) :
    (state.recordAcquired pem).LastAcquired decoder pem key := by
  refine ⟨parsed, List.getLast?_concat .., ?_⟩
  intro earlier member
  rcases List.mem_append.mp member with before | isNew
  · exact settled.2 earlier before
  · rw [List.mem_singleton.mp isNew, parsed]
    rfl

theorem LastAcquired.settled (last : state.LastAcquired decoder pem key)
    (isVerifier : state.verifier = ⟨key, pem⟩) :
    state.Settled decoder initial := by
  obtain ⟨parsed, isLast, valid⟩ := last
  refine ⟨?_, valid⟩
  rw [isVerifier, JwtVerifier.foldl_updateKey_of_getLast? isLast parsed]

end VerifierState

namespace Stage

variable {decoder : PemDecoder Pem Key} {initial : JwtVerifier Pem Key}
variable {state after : VerifierState Pem Key} {stage next : Stage Pem Key}

/-- What a task inside an update knows of the state. -/
def Knows (decoder : PemDecoder Pem Key) (initial : JwtVerifier Pem Key)
    (state : VerifierState Pem Key) : Stage Pem Key → Prop
  | .updating .entered pem key _ =>
      decoder.fromRsaPem pem = some key ∧ state.Settled decoder initial
  | .updating .recorded pem key _ => state.LastAcquired decoder pem key
  | .updating .keyWritten pem key _ =>
      state.LastAcquired decoder pem key ∧ state.verifier.key = key
  | .updating .pemLocked pem key _ =>
      state.LastAcquired decoder pem key ∧ state.verifier.key = key
  | .updating .pemWritten _ _ _ => state.Settled decoder initial
  | .updating .leaving _ _ _ => state.Settled decoder initial
  | _ => False

/-- A step inside an update leaves the task with what it has to know, and the
last one leaves the state settled. -/
theorem Step.knows (step : Step decoder state stage after next)
    (knows : stage.Knows decoder initial state) :
    (next.IsUpdating → next.Knows decoder initial after) ∧
      (¬ next.IsUpdating → after.Settled decoder initial) := by
  cases step with
  | enter | lockField | takeField | unlockField => cases knows
  | record =>
      obtain ⟨parsed, settled⟩ := knows
      exact ⟨fun _ => settled.recordAcquired parsed,
        fun outside => absurd trivial outside⟩
  | writeKey => exact ⟨fun _ => ⟨knows, rfl⟩, fun outside => absurd trivial outside⟩
  | lockPem => exact ⟨fun _ => knows, fun outside => absurd trivial outside⟩
  | @writePem pem key pending =>
      obtain ⟨last, rfl⟩ := knows
      have written : (state.setPem pem).LastAcquired decoder pem
          state.verifier.key := last
      exact ⟨fun _ => written.settled rfl, fun outside => absurd trivial outside⟩
  | unlockPem => exact ⟨fun _ => knows, fun outside => absurd trivial outside⟩
  | leave => exact ⟨fun inside => absurd inside id, fun _ => knows⟩

/-- A step outside of updates leaves the fields alone. -/
theorem Step.fields_eq (step : Step decoder state stage after next)
    (before : ¬ stage.IsUpdating) :
    after.verifier = state.verifier ∧ after.acquired = state.acquired := by
  cases step with
  | enter | lockField | unlockField => exact ⟨rfl, rfl⟩
  | @takeField reader =>
      cases reader with
      | verify | currentPem => exact ⟨rfl, rfl⟩
  | record | writeKey | lockPem | writePem | unlockPem | leave =>
      exact absurd trivial before

theorem settled_congr (sameFields : after.verifier = state.verifier)
    (sameAcquired : after.acquired = state.acquired)
    (settled : state.Settled decoder initial) :
    after.Settled decoder initial := by
  rw [VerifierState.Settled, sameFields, sameAcquired]
  exact settled

theorem knows_congr (sameFields : after.verifier = state.verifier)
    (sameAcquired : after.acquired = state.acquired)
    (knows : stage.Knows decoder initial state) :
    stage.Knows decoder initial after := by
  cases stage with
  | between pending => cases knows
  | reading point reader => cases knows
  | updating point pem key pending =>
      cases point <;>
        simpa only [Knows, VerifierState.Settled, VerifierState.LastAcquired,
          sameFields, sameAcquired] using knows

theorem Step.enters (step : Step decoder state stage after next)
    (before : ¬ stage.IsUpdating) (entered : next.IsUpdating)
    (settled : state.Settled decoder initial) :
    next.Knows decoder initial after := by
  cases step with
  | enter parsed isNext => exact ⟨parsed, settled⟩
  | leave | lockField | takeField | unlockField => cases entered
  | record | writeKey | lockPem | writePem | unlockPem =>
      exact absurd trivial before

end Stage

section Runs

variable {decoder : PemDecoder Pem Key} {initial : JwtVerifier Pem Key}

theorem exists_stage_ofCall (decoder : PemDecoder Pem Key)
    (call : VerifierCall Pem) :
    ∃ stage : Stage Pem Key,
      ⟨[], VerifierProgram.ofCall decoder call⟩ = stage.task decoder := by
  cases call with
  | updateKey pem => exact ⟨.between [pem], rfl⟩
  | watchLoop results =>
      refine ⟨.between (results.filterMap (WatchResult.value decoder)), ?_⟩
      rw [VerifierProgram.ofCall, VerifierProgram.watchLoop_eq_updateAll]
      rfl
  | verify => exact ⟨.reading .waiting .verify, rfl⟩
  | currentPem => exact ⟨.reading .waiting .currentPem, rfl⟩

/-- While nobody has the lock of the key for writing, the fields are settled. -/
theorem protects_key (decoder : PemDecoder Pem Key)
    (initial : JwtVerifier Pem Key) :
    LockSystem.Protects (VerifierProgram.ofCall decoder) VerifierLock.key
      (VerifierState.Settled decoder initial)
      (fun task => ∃ stage : Stage Pem Key, task = stage.task decoder)
      (fun state task => ∃ stage : Stage Pem Key,
        task = stage.task decoder ∧ stage.Knows decoder initial state) where
  spawned := exists_stage_ofCall decoder
  passes := by
    rintro tasks answer state after _ moved ⟨stage, rfl⟩ notWriting advanced -
    obtain ⟨next, rfl, step⟩ := Stage.step_of_advance advanced
    obtain ⟨sameFields, sameAcquired⟩ :=
      step.fields_eq (Stage.writes_task_iff.not.mp notWriting)
    refine ⟨⟨next, rfl⟩, Stage.settled_congr sameFields sameAcquired, ?_⟩
    rintro _ ⟨other, rfl, knows⟩
    exact ⟨other, rfl, Stage.knows_congr sameFields sameAcquired knows⟩
  enters := by
    rintro tasks answer state after _ moved ⟨stage, rfl⟩ notWriting advanced
      writes settled
    obtain ⟨next, rfl, step⟩ := Stage.step_of_advance advanced
    exact ⟨next, rfl, step.enters (Stage.writes_task_iff.not.mp notWriting)
      (Stage.writes_task_iff.mp writes) settled⟩
  works := by
    rintro tasks answer state after _ moved ⟨stage, rfl, knows⟩ advanced writes
    obtain ⟨next, rfl, step⟩ := Stage.step_of_advance advanced
    exact ⟨next, rfl,
      (step.knows knows).1 (Stage.writes_task_iff.mp writes)⟩
  leaves := by
    rintro tasks answer state after _ moved ⟨stage, rfl, knows⟩ advanced
      notWriting
    obtain ⟨next, rfl, step⟩ := Stage.step_of_advance advanced
    exact ⟨⟨next, rfl⟩,
      (step.knows knows).2 (Stage.writes_task_iff.not.mp notWriting)⟩

end Runs

/-! ## The watch loop among readers -/

abbrev VerifierSystem (Pem Key : Type) :=
  LockSystem (VerifierState Pem Key) VerifierLock

/-- The loop has been spawned; `results` is what the watch will deliver. -/
def watching (decoder : PemDecoder Pem Key) (verifier : JwtVerifier Pem Key)
    (results : List (WatchResult Pem)) : VerifierSystem Pem Key where
  shared := .new verifier
  tasks := [⟨[], VerifierProgram.ofCall decoder (.watchLoop results)⟩]

/-- Nobody else calls `update_key`. -/
def ReadersOnly (_ : VerifierSystem Pem Key) :
    LockAction (VerifierCall Pem) → Prop
  | .spawn (.updateKey _) => False
  | .spawn (.watchLoop _) => False
  | .spawn .verify => True
  | .spawn .currentPem => True
  | .advance _ _ => True

namespace Stage

/-- The valid arguments that have not been recorded yet. -/
def toRecord (decoder : PemDecoder Pem Key) : Stage Pem Key → List Pem
  | .between pending => validPems decoder pending
  | .updating .entered pem _ pending => pem :: validPems decoder pending
  | .updating _ _ _ pending => validPems decoder pending
  | .reading _ _ => []

/-- The task will not make an update any more. -/
def IsReader (decoder : PemDecoder Pem Key) : Stage Pem Key → Prop
  | .between pending => validPems decoder pending = []
  | .updating _ _ _ _ => False
  | .reading _ _ => True

variable {decoder : PemDecoder Pem Key}
variable {state after : VerifierState Pem Key} {stage next : Stage Pem Key}

theorem Step.acquired_append_toRecord
    (step : Step decoder state stage after next) :
    after.acquired ++ next.toRecord decoder =
      state.acquired ++ stage.toRecord decoder := by
  cases step with
  | enter parsed isNext => rw [toRecord, toRecord, isNext]
  | record => exact List.append_assoc ..
  | @takeField reader =>
      cases reader with
      | verify => rfl
      | currentPem => rfl
  | writeKey | lockPem | writePem | unlockPem | leave | lockField
  | unlockField => rfl

theorem IsReader.not_isUpdating (isReader : stage.IsReader decoder) :
    ¬ stage.IsUpdating := by
  cases stage with
  | updating point pem key pending => cases isReader
  | between pending => exact id
  | reading point reader => exact id

theorem Step.isReader (step : Step decoder state stage after next)
    (isReader : stage.IsReader decoder) :
    next.IsReader decoder ∧ after.acquired = state.acquired := by
  have sameAcquired := (step.fields_eq isReader.not_isUpdating).2
  refine ⟨?_, sameAcquired⟩
  cases step with
  | enter parsed isNext =>
      rw [IsReader, isNext] at isReader
      cases isReader
  | record | writeKey | lockPem | writePem | unlockPem | leave => cases isReader
  | lockField | takeField => trivial
  | unlockField => rfl

/-- A task at its end has applied everything it had to. -/
theorem eq_between_of_isDone
    (isDone : (stage.task decoder).program.isDone = true) :
    ∃ pending, stage = .between pending ∧ validPems decoder pending = [] ∧
      VerifierProgram.updateAll decoder pending = .done := by
  cases stage with
  | between pending =>
      refine ⟨pending, rfl, ?_⟩
      rcases VerifierProgram.updateAll_cases decoder pending with
        ended | ⟨pem, key, rest, -, -, isProgram⟩
      · exact ended
      · rw [task, isProgram] at isDone
        cases isDone
  | updating point pem key pending => cases point <;> cases isDone
  | reading point reader => cases point <;> cases isDone

end Stage

/-- The first task applies what is left of the results, and the others read. -/
structure Watched (decoder : PemDecoder Pem Key)
    (results : List (WatchResult Pem)) (sys : VerifierSystem Pem Key) :
    Prop where
  loop :
    ∃ stage : Stage Pem Key, sys.tasks[0]? = some (stage.task decoder) ∧
      sys.shared.acquired ++ stage.toRecord decoder =
        validPems decoder (results.filterMap (WatchResult.value decoder))
  readers :
    ∀ place task, place ≠ 0 → sys.tasks[place]? = some task →
      ∃ stage : Stage Pem Key,
        task = stage.task decoder ∧ stage.IsReader decoder

namespace Watched

variable {decoder : PemDecoder Pem Key} {results : List (WatchResult Pem)}
variable {sys next : VerifierSystem Pem Key}

theorem initially (verifier : JwtVerifier Pem Key) :
    Watched decoder results (watching decoder verifier results) where
  loop := by
    refine ⟨.between (results.filterMap (WatchResult.value decoder)), ?_, rfl⟩
    rw [watching, VerifierProgram.ofCall,
      VerifierProgram.watchLoop_eq_updateAll]
    rfl
  readers := by
    intro place task notFirst present
    have nothing : (watching decoder verifier results).tasks[place]? = none :=
      List.getElem?_eq_none (Nat.one_le_iff_ne_zero.mpr notFirst)
    rw [nothing] at present
    cases present

theorem spawn (watched : Watched decoder results sys)
    {call : VerifierCall Pem} (onlyReads : ReadersOnly sys (.spawn call)) :
    Watched decoder results
      { sys with
        tasks := sys.tasks ++ [⟨[], VerifierProgram.ofCall decoder call⟩] } := by
  obtain ⟨stage, isFirst, recorded⟩ := watched.loop
  have isReader : ∃ stage : Stage Pem Key,
      ⟨[], VerifierProgram.ofCall decoder call⟩ = stage.task decoder ∧
        stage.IsReader decoder := by
    cases call with
    | updateKey pem => cases onlyReads
    | watchLoop results => cases onlyReads
    | verify => exact ⟨.reading .waiting .verify, rfl, trivial⟩
    | currentPem => exact ⟨.reading .waiting .currentPem, rfl, trivial⟩
  refine ⟨⟨stage, ?_, recorded⟩, ?_⟩
  · obtain ⟨inRange, -⟩ := List.getElem?_eq_some_iff.mp isFirst
    rw [List.getElem?_append_left inRange]
    exact isFirst
  · intro place task notFirst present
    by_cases inRange : place < sys.tasks.length
    · rw [List.getElem?_append_left inRange] at present
      exact watched.readers place task notFirst present
    · rw [List.getElem?_append_right (Nat.le_of_not_lt inRange)] at present
      have isNew := List.mem_singleton.mp (List.mem_of_getElem? present)
      rw [isNew]
      exact isReader

theorem move (watched : Watched decoder results sys) {index : Nat}
    {answer : Bool}
    {task moved : LockTask (VerifierState Pem Key) VerifierLock}
    {after : VerifierState Pem Key}
    (present : sys.tasks[index]? = some task)
    (advanced : LockSystem.advance sys.tasks answer sys.shared task =
      some (after, moved)) :
    Watched decoder results
      { shared := after, tasks := sys.tasks.set index moved } := by
  obtain ⟨stage, isFirst, recorded⟩ := watched.loop
  obtain ⟨inRange, -⟩ := List.getElem?_eq_some_iff.mp present
  have others :
      ∀ place other, place ≠ 0 → place ≠ index →
        (sys.tasks.set index moved)[place]? = some other →
          ∃ stage : Stage Pem Key,
            other = stage.task decoder ∧ stage.IsReader decoder := by
    intro place other notFirst apart isOther
    rw [List.getElem?_set_ne (Ne.symm apart)] at isOther
    exact watched.readers place other notFirst isOther
  by_cases first : index = 0
  · subst first
    rw [isFirst] at present
    cases present
    obtain ⟨next, rfl, step⟩ := Stage.step_of_advance advanced
    refine ⟨⟨next, List.getElem?_set_self inRange, ?_⟩, ?_⟩
    · rw [← recorded]
      exact step.acquired_append_toRecord
    · intro place other notFirst isOther
      exact others place other notFirst notFirst isOther
  · obtain ⟨reader, rfl, isReader⟩ :=
      watched.readers index task first present
    obtain ⟨next, rfl, step⟩ := Stage.step_of_advance advanced
    obtain ⟨stillReader, sameAcquired⟩ := step.isReader isReader
    refine ⟨⟨stage, ?_, ?_⟩, ?_⟩
    · rw [List.getElem?_set_ne first]
      exact isFirst
    · rw [sameAcquired]
      exact recorded
    · intro place other notFirst isOther
      rcases LockSystem.getElem?_set_cases isOther with
        ⟨-, rfl⟩ | ⟨apart, -⟩
      · exact ⟨next, rfl, stillReader⟩
      · exact others place other notFirst apart isOther

theorem of_reaches {verifier : JwtVerifier Pem Key}
    (run :
      Reaches (LockSystem.step (VerifierProgram.ofCall decoder)) ReadersOnly
        (watching decoder verifier results) sys) :
    Watched decoder results sys := by
  refine run.invariant (fun source action target onlyReads stepped watched => ?_)
    (initially verifier)
  rcases LockSystem.step_cases stepped with
    ⟨call, rfl, rfl⟩ | ⟨index, answer, task, state, moved, -, present, advanced,
      rfl⟩
  · exact watched.spawn onlyReads
  · exact watched.move present advanced

/-- Once the loop is at its end it has recorded every valid entry, and nobody
has the lock of the key for writing. -/
theorem ended (watched : Watched decoder results sys)
    (isEnded : sys.tasks[0]? = some ⟨[], .done⟩) :
    sys.shared.acquired =
        validPems decoder (results.filterMap (WatchResult.value decoder)) ∧
      ∀ task, task ∈ sys.tasks → ¬ LockSystem.Writes VerifierLock.key task := by
  obtain ⟨stage, isFirst, recorded⟩ := watched.loop
  have isTask : stage.task decoder = ⟨[], .done⟩ :=
    Option.some.inj (isFirst.symm.trans isEnded)
  have isDone : (stage.task decoder).program.isDone = true := by
    rw [isTask]
    rfl
  obtain ⟨pending, rfl, nothing, -⟩ := Stage.eq_between_of_isDone isDone
  constructor
  · rw [Stage.toRecord, nothing, List.append_nil] at recorded
    exact recorded
  · intro task member
    obtain ⟨place, present⟩ := List.mem_iff_getElem?.mp member
    by_cases first : place = 0
    · subst first
      rw [isFirst] at present
      rw [← Option.some.inj present, Stage.writes_task_iff]
      exact id
    · obtain ⟨reader, rfl, isReader⟩ := watched.readers place task first present
      rw [Stage.writes_task_iff]
      exact isReader.not_isUpdating

/-- The loop comes to its end from everywhere. -/
theorem exists_ended {verifier : JwtVerifier Pem Key}
    (run :
      Reaches (LockSystem.step (VerifierProgram.ofCall decoder)) ReadersOnly
        (watching decoder verifier results) sys) :
    ∃ ended, Reaches (LockSystem.step (VerifierProgram.ofCall decoder))
        ReadersOnly sys ended ∧
      ended.tasks[0]? = some ⟨[], .done⟩ := by
  have inOrder := VerifierProgram.ordered_ofCall decoder
  have atStart :
      (watching decoder verifier results).Ordered VerifierLock.rank := by
    intro task member
    rw [List.mem_singleton.mp member]
    exact inOrder (.watchLoop results)
  have orderedRun := run.invariant
    (fun _ _ _ _ stepped (ordered : LockSystem.Ordered VerifierLock.rank _) =>
      ordered.step inOrder stepped) atStart
  have advances (sys : VerifierSystem Pem Key) (index : Nat) (answer : Bool) :
      ReadersOnly sys (.advance index answer) :=
    trivial
  obtain ⟨ended, toEnd, allDone⟩ := orderedRun.exists_finished inOrder advances
  refine ⟨ended, toEnd, ?_⟩
  obtain ⟨stage, isFirst, -⟩ := (of_reaches (run.trans toEnd)).loop
  have isDone := allDone _ (List.mem_of_getElem? isFirst)
  obtain ⟨pending, rfl, -, isProgram⟩ := Stage.eq_between_of_isDone isDone
  rw [isFirst, Stage.task, isProgram]

end Watched

/-! ## Every run -/

section Runs

variable {decoder : PemDecoder Pem Key} {initial : JwtVerifier Pem Key}
variable {sys next : VerifierSystem Pem Key}

/-- Tasks stand inside the programs, and those in an update know the state. -/
def Guarded (decoder : PemDecoder Pem Key) (initial : JwtVerifier Pem Key)
    (sys : VerifierSystem Pem Key) : Prop :=
  sys.Guarded VerifierLock.key (VerifierState.Settled decoder initial)
    (fun task => ∃ stage : Stage Pem Key, task = stage.task decoder)
    (fun state task => ∃ stage : Stage Pem Key,
      task = stage.task decoder ∧ stage.Knows decoder initial state)

theorem guarded_of_reaches
    (run :
      Reaches (LockSystem.step (VerifierProgram.ofCall decoder))
        (fun _ _ => True) (.start (.new initial)) sys) :
    Guarded decoder initial sys :=
  (protects_key decoder initial).of_reaches
    (LockSystem.guarded_start VerifierState.settled_new) run

theorem guarded_of_watching {results : List (WatchResult Pem)}
    (run :
      Reaches (LockSystem.step (VerifierProgram.ofCall decoder)) ReadersOnly
        (watching decoder initial results) sys) :
    Guarded decoder initial sys := by
  have spawned :
      LockSystem.step (VerifierProgram.ofCall decoder) (.start (.new initial))
        (.spawn (.watchLoop results)) =
          some (watching decoder initial results) :=
    rfl
  have atStart := (protects_key decoder initial).step
    (LockSystem.guarded_start VerifierState.settled_new) spawned
  exact (protects_key decoder initial).of_reaches atStart run

/-- The loop does to the fields what it does to the verifier that is updated in
one step. -/
theorem verifier_eq_reload {results : List (WatchResult Pem)}
    (run :
      Reaches (LockSystem.step (VerifierProgram.ofCall decoder)) ReadersOnly
        (watching decoder initial results) sys)
    (isEnded : sys.tasks[0]? = some ⟨[], .done⟩) :
    sys.shared.verifier =
      initial.reload decoder (results.filterMap WatchResult.entry?) := by
  obtain ⟨isAcquired, nobody⟩ := (Watched.of_reaches run).ended isEnded
  obtain ⟨isVerifier, -⟩ := (guarded_of_watching run).unlocked nobody
  rw [isVerifier, isAcquired, JwtVerifier.foldl_validPems, JwtVerifier.reload,
    ← filterMap_entry?, List.foldl_map]

/-! ### What readers see -/

/-- Keys and PEMs in the fields and with the readers are those of the first
verifier or of updates that got the lock. -/
structure Installed (decoder : PemDecoder Pem Key)
    (initial : JwtVerifier Pem Key) (state : VerifierState Pem Key) :
    Prop where
  key :
    ∃ pem, pem ∈ initial.pem :: state.acquired ∧
      decoder.fromRsaPem pem = some state.verifier.key
  pem : state.verifier.pem ∈ initial.pem :: state.acquired
  verified :
    ∀ key, key ∈ state.verified →
      ∃ pem, pem ∈ initial.pem :: state.acquired ∧
        decoder.fromRsaPem pem = some key
  published :
    ∀ pem, pem ∈ state.published → pem ∈ initial.pem :: state.acquired

theorem Installed.step {state after : VerifierState Pem Key}
    {stage next : Stage Pem Key}
    (installed : Installed decoder initial state)
    (knows : stage.IsUpdating → stage.Knows decoder initial state)
    (step : Stage.Step decoder state stage after next) :
    Installed decoder initial after := by
  cases step with
  | enter | lockPem | unlockPem | leave | lockField | unlockField =>
      exact installed
  | @record pem key pending =>
      have kept {earlier : Pem}
          (member : earlier ∈ initial.pem :: state.acquired) :
          earlier ∈ initial.pem :: (state.recordAcquired pem).acquired := by
        rcases List.mem_cons.mp member with isInitial | before
        · exact List.mem_cons.mpr (Or.inl isInitial)
        · exact List.mem_cons_of_mem _ (List.mem_append_left _ before)
      obtain ⟨source, isSource, parsed⟩ := installed.key
      refine ⟨⟨source, kept isSource, parsed⟩, kept installed.pem, ?_, ?_⟩
      · intro seen member
        obtain ⟨source, isSource, parsed⟩ := installed.verified seen member
        exact ⟨source, kept isSource, parsed⟩
      · intro seen member
        exact kept (installed.published seen member)
  | @writeKey pem key pending =>
      obtain ⟨parsed, isLast, -⟩ := knows trivial
      have member := List.mem_cons_of_mem initial.pem
        (List.mem_of_getLast? isLast)
      exact ⟨⟨pem, member, parsed⟩, installed.pem, installed.verified,
        installed.published⟩
  | @writePem pem key pending =>
      obtain ⟨⟨-, isLast, -⟩, -⟩ := knows trivial
      have member := List.mem_cons_of_mem initial.pem
        (List.mem_of_getLast? isLast)
      exact ⟨installed.key, member, installed.verified, installed.published⟩
  | @takeField reader =>
      cases reader with
      | verify =>
          refine ⟨installed.key, installed.pem, ?_, installed.published⟩
          intro seen member
          rcases List.mem_append.mp member with before | isNew
          · exact installed.verified seen before
          · rw [List.mem_singleton.mp isNew]
            exact installed.key
      | currentPem =>
          refine ⟨installed.key, installed.pem, installed.verified, ?_⟩
          intro seen member
          rcases List.mem_append.mp member with before | isNew
          · exact installed.published seen before
          · rw [List.mem_singleton.mp isNew]
            exact installed.pem

/-- A reader never sees a key or a PEM that was not installed. -/
theorem installed_of_reaches (consistent : initial.Consistent decoder)
    (run :
      Reaches (LockSystem.step (VerifierProgram.ofCall decoder))
        (fun _ _ => True) (.start (.new initial)) sys) :
    Installed decoder initial sys.shared := by
  have atStart : Installed decoder initial (.new initial) :=
    { key := ⟨initial.pem, List.mem_cons_self, consistent⟩
      pem := List.mem_cons_self
      verified := fun _ member => by cases member
      published := fun _ member => by cases member }
  have kept (source : VerifierSystem Pem Key)
      (action : LockAction (VerifierCall Pem))
      (target : VerifierSystem Pem Key) (_ : True)
      (stepped :
        LockSystem.step (VerifierProgram.ofCall decoder) source action =
          some target)
      (before : Guarded decoder initial source ∧
        Installed decoder initial source.shared) :
      Guarded decoder initial target ∧
        Installed decoder initial target.shared := by
    obtain ⟨guarded, installed⟩ := before
    refine ⟨(protects_key decoder initial).step guarded stepped, ?_⟩
    rcases LockSystem.step_cases stepped with
      ⟨call, -, rfl⟩ | ⟨index, answer, task, state, moved, -, present,
        advanced, rfl⟩
    · exact installed
    · have member := List.mem_of_getElem? present
      by_cases writes : LockSystem.Writes VerifierLock.key task
      · obtain ⟨stage, rfl, knows⟩ := guarded.insider task member writes
        obtain ⟨next, -, step⟩ := Stage.step_of_advance advanced
        exact installed.step (fun _ => knows) step
      · obtain ⟨stage, rfl⟩ := guarded.outsiders task member writes
        obtain ⟨next, -, step⟩ := Stage.step_of_advance advanced
        exact installed.step
          (fun updating => absurd (Stage.writes_task_iff.mpr updating) writes)
          step
  exact (run.invariant kept ⟨guarded_of_reaches (Reaches.refl _), atStart⟩).2

/-! ### Key and PEM -/

/-- Whenever no update has the lock of the key, the key is the one of the PEM,
and the PEM is the argument of the last valid update that got the lock, or the
first PEM; an update with an invalid PEM is over at once and leaves the state as
it is; and the watch loop, which always comes to its end, leaves the key of the
last valid entry. -/
theorem key_and_pem_stay_in_step (decoder : PemDecoder Pem Key) (pem : Pem)
    (key : Key) (valid : decoder.fromRsaPem pem = some key) :
    (∀ sys : VerifierSystem Pem Key,
      Reaches (LockSystem.step (VerifierProgram.ofCall decoder))
        (fun _ _ => True) (.start (.new ⟨key, pem⟩)) sys →
      (∀ task, task ∈ sys.tasks → ¬ LockSystem.Writes VerifierLock.key task) →
        decoder.fromRsaPem sys.shared.verifier.pem =
            some sys.shared.verifier.key ∧
          sys.shared.verifier.pem = sys.shared.acquired.getLast?.getD pem) ∧
    (∀ (sys : VerifierSystem Pem Key) (invalid : Pem),
      decoder.fromRsaPem invalid = none →
        LockSystem.step (VerifierProgram.ofCall decoder) sys
            (.spawn (.updateKey invalid)) =
          some { sys with tasks := sys.tasks ++ [⟨[], .done⟩] }) ∧
    ∀ (results : List (WatchResult Pem)) (sys : VerifierSystem Pem Key),
      Reaches (LockSystem.step (VerifierProgram.ofCall decoder)) ReadersOnly
        (watching decoder ⟨key, pem⟩ results) sys →
      (sys.tasks[0]? = some ⟨[], .done⟩ →
        sys.shared.verifier.key =
          (results.filterMap
            (fun result =>
              (result.value decoder).bind decoder.fromRsaPem)).getLast?.getD
            key) ∧
      ∃ ended, Reaches (LockSystem.step (VerifierProgram.ofCall decoder))
          ReadersOnly sys ended ∧
        ended.tasks[0]? = some ⟨[], .done⟩ := by
  refine ⟨?_, ?_, ?_⟩
  · intro sys run nobody
    obtain ⟨isVerifier, allValid⟩ :=
      (guarded_of_reaches run).unlocked nobody
    have consistent :
        (JwtVerifier.mk key pem).Consistent decoder := valid
    rw [isVerifier]
    exact ⟨consistent.foldl sys.shared.acquired,
      JwtVerifier.pem_foldl_updateKey allValid⟩
  · intro sys invalid notParsed
    simp only [LockSystem.step, VerifierProgram.ofCall,
      VerifierProgram.updateKey, notParsed]
  · intro results sys run
    have watched := Watched.of_reaches run
    constructor
    · intro isEnded
      obtain ⟨isAcquired, nobody⟩ := watched.ended isEnded
      obtain ⟨isVerifier, -⟩ := (guarded_of_watching run).unlocked nobody
      rw [isVerifier, isAcquired, JwtVerifier.foldl_validPems,
        JwtVerifier.key_foldl_updateKey, List.filterMap_filterMap]
    · exact Watched.exists_ended run

end Runs

/-- Two updates, of which the one that was called first gets the lock last, an
invalid one, and the readers in between. -/
def contendedCalls : List (LockAction (VerifierCall RailsValue)) :=
  [.spawn (.updateKey (.publicKey 2)), .spawn (.updateKey (.publicKey 3)),
    .spawn (.updateKey .garbage), .spawn .verify, .spawn .currentPem,
    .advance 1 true, .advance 1 true, .advance 1 true, .advance 4 true,
    .advance 4 true, .advance 4 true, .advance 1 true, .advance 1 true,
    .advance 1 true, .advance 1 true, .advance 3 true, .advance 3 true,
    .advance 3 true, .advance 0 true, .advance 0 true, .advance 0 true,
    .advance 0 true, .advance 0 true, .advance 0 true, .advance 0 true]

def contended : VerifierSystem RailsValue Nat where
  shared :=
    { verifier := ⟨2, .publicKey 2⟩
      acquired := [.publicKey 3, .publicKey 2]
      verified := [3]
      published := [.publicKey 1] }
  tasks := List.replicate 5 ⟨[], .done⟩

def reloadedResults : List (WatchResult RailsValue) :=
  [.ok (.put .garbage), .ok (.put (.publicKey 2)), .err, .ok .delete]

def reloaded : VerifierSystem RailsValue Nat where
  shared :=
    { verifier := ⟨2, .publicKey 2⟩
      acquired := [.publicKey 2]
      verified := []
      published := [] }
  tasks := [⟨[], .done⟩]

theorem key_and_pem_stay_in_step_contended :
    Reaches (LockSystem.step (VerifierProgram.ofCall railsDecoder))
        (fun _ _ => True) (.start (.new ⟨1, .publicKey 1⟩)) contended ∧
      railsDecoder.fromRsaPem contended.shared.verifier.pem =
        some contended.shared.verifier.key ∧
      contended.shared.verifier.pem =
        contended.shared.acquired.getLast?.getD (.publicKey 1) ∧
      Reaches (LockSystem.step (VerifierProgram.ofCall railsDecoder))
        ReadersOnly (watching railsDecoder ⟨1, .publicKey 1⟩ reloadedResults)
        reloaded ∧
      reloaded.shared.verifier.key = 2 := by
  obtain ⟨atRest, -, watched⟩ :=
    key_and_pem_stay_in_step railsDecoder (.publicKey 1) 1 rfl
  have contendedRun :
      contendedCalls.foldlM
          (LockSystem.step (VerifierProgram.ofCall railsDecoder))
          (.start (.new ⟨1, .publicKey 1⟩)) =
        some contended :=
    rfl
  have toContended :
      Reaches (LockSystem.step (VerifierProgram.ofCall railsDecoder))
        (fun _ _ => True) (.start (.new ⟨1, .publicKey 1⟩)) contended :=
    reaches_of_foldlM (fun _ _ _ => trivial) contendedRun
  have nobody : ∀ task, task ∈ contended.tasks →
      ¬ LockSystem.Writes VerifierLock.key task := by
    intro task member writes
    rw [List.eq_of_mem_replicate member] at writes
    cases writes
  have reloadedRun :
      (List.replicate 7 (LockAction.advance 0 true)).foldlM
          (LockSystem.step (VerifierProgram.ofCall railsDecoder))
          (watching railsDecoder ⟨1, .publicKey 1⟩ reloadedResults) =
        some reloaded :=
    rfl
  have toReloaded :
      Reaches (LockSystem.step (VerifierProgram.ofCall railsDecoder))
        ReadersOnly (watching railsDecoder ⟨1, .publicKey 1⟩ reloadedResults)
        reloaded := by
    refine reaches_of_foldlM (fun sys action member => ?_) reloadedRun
    rw [List.eq_of_mem_replicate member]
    trivial
  obtain ⟨consistent, lastAcquired⟩ := atRest contended toContended nobody
  exact ⟨toContended, consistent, lastAcquired, toReloaded,
    (watched reloadedResults reloaded toReloaded).1 rfl⟩

end TurbocableServer.Auth
