import TurbocableServer.Auth.KeyWatcher
import TurbocableServer.Foundations.LockPrograms

/-!
# The locks of the verifier

`auth/jwt.rs` keeps the key and its PEM behind two locks.  `update_key` parses
its argument first, and then writes the PEM while it still has the lock of the
key; `verify` and `current_pem` read one field each.  `watch_loop` of
`auth/key_watcher.rs` calls `update_key` on every entry that the watch delivers
and goes on after errors.
-/

namespace TurbocableServer.Auth

open Foundations

inductive VerifierLock where
  | key
  | pem
  deriving DecidableEq

/-- The lock of the PEM is taken under the lock of the key. -/
def VerifierLock.rank : VerifierLock → Nat
  | .key => 0
  | .pem => 1

/-- The verifier, and what has happened to it: the arguments of the updates that
got the lock of the key, the keys that `verify` cloned, and the PEMs that
`current_pem` returned, each in order. -/
structure VerifierState (Pem Key : Type) where
  verifier : JwtVerifier Pem Key
  acquired : List Pem
  verified : List Key
  published : List Pem

variable {Pem Key : Type}

namespace VerifierState

def new (verifier : JwtVerifier Pem Key) : VerifierState Pem Key where
  verifier := verifier
  acquired := []
  verified := []
  published := []

def recordAcquired (pem : Pem) (state : VerifierState Pem Key) :
    VerifierState Pem Key :=
  { state with acquired := state.acquired ++ [pem] }

def setKey (key : Key) (state : VerifierState Pem Key) :
    VerifierState Pem Key :=
  { state with verifier := { state.verifier with key := key } }

def setPem (pem : Pem) (state : VerifierState Pem Key) :
    VerifierState Pem Key :=
  { state with verifier := { state.verifier with pem := pem } }

def cloneKey (state : VerifierState Pem Key) : VerifierState Pem Key :=
  { state with verified := state.verified ++ [state.verifier.key] }

def copyPem (state : VerifierState Pem Key) : VerifierState Pem Key :=
  { state with published := state.published ++ [state.verifier.pem] }

end VerifierState

/-! ## The programs -/

abbrev VerifierProgram (Pem Key : Type) :=
  LockProgram (VerifierState Pem Key) VerifierLock

/-- What the watch hands to the loop. -/
inductive WatchResult (Pem : Type) where
  | ok (entry : KvEntry Pem)
  | err

inductive VerifierCall (Pem : Type) where
  | updateKey (pem : Pem)
  | watchLoop (results : List (WatchResult Pem))
  | verify
  | currentPem

namespace VerifierProgram

/-- The second half of `update_key`, which ends with both guards dropped. -/
def writePem (pem : Pem) (next : VerifierProgram Pem Key) :
    VerifierProgram Pem Key :=
  .access .pem .write (.setPem pem) (fun _ => .release next)

/-- `update_key` once it has the lock of the key. -/
def writeFields (key : Key) (pem : Pem) (next : VerifierProgram Pem Key) :
    VerifierProgram Pem Key :=
  .act (.setKey key) (fun _ => writePem pem next)

def updateKey (decoder : PemDecoder Pem Key) (pem : Pem)
    (next : VerifierProgram Pem Key) : VerifierProgram Pem Key :=
  match decoder.fromRsaPem pem with
  | none => next
  | some key =>
      .acquire .key .write
        (.act (.recordAcquired pem) (fun _ => writeFields key pem next))

def watchLoop (decoder : PemDecoder Pem Key) :
    List (WatchResult Pem) → VerifierProgram Pem Key
  | [] => .done
  | .ok entry :: results =>
      updateKey decoder (entry.value decoder) (watchLoop decoder results)
  | .err :: results => watchLoop decoder results

def verify : VerifierProgram Pem Key :=
  .access .key .read .cloneKey (fun _ => .done)

def currentPem : VerifierProgram Pem Key :=
  .access .pem .read .copyPem (fun _ => .done)

def ofCall (decoder : PemDecoder Pem Key) :
    VerifierCall Pem → VerifierProgram Pem Key
  | .updateKey pem => updateKey decoder pem .done
  | .watchLoop results => watchLoop decoder results
  | .verify => verify
  | .currentPem => currentPem

/-! ## The locks are taken in order -/

theorem ordered_updateKey (decoder : PemDecoder Pem Key) (pem : Pem)
    {next : VerifierProgram Pem Key}
    (ordered : next.Ordered VerifierLock.rank []) :
    (updateKey decoder pem next).Ordered VerifierLock.rank [] := by
  rw [updateKey]
  split
  · exact ordered
  · refine ⟨fun entry member => (by cases member), fun _ _ => ?_⟩
    apply LockProgram.ordered_access
    · intro entry isKey
      rw [List.mem_singleton.mp isKey]
      exact Nat.zero_lt_one
    · intro _
      exact ⟨_, [], rfl, ordered⟩

theorem ordered_ofCall (decoder : PemDecoder Pem Key)
    (call : VerifierCall Pem) :
    (ofCall decoder call).Ordered VerifierLock.rank [] := by
  cases call with
  | updateKey pem => exact ordered_updateKey decoder pem rfl
  | watchLoop results =>
      rw [ofCall]
      induction results with
      | nil => rfl
      | cons result results ih =>
          cases result with
          | ok entry =>
              exact ordered_updateKey decoder _ ih
          | err => exact ih
  | verify | currentPem =>
      exact LockProgram.ordered_access (fun _ member => by cases member)
        (fun _ => rfl)

/-! ## Updates one after the other -/

def updateAll (decoder : PemDecoder Pem Key) (pems : List Pem) :
    VerifierProgram Pem Key :=
  pems.foldr (updateKey decoder) .done

end VerifierProgram

/-- `entry.value` of an entry. -/
def WatchResult.value (decoder : PemDecoder Pem Key) :
    WatchResult Pem → Option Pem
  | .ok entry => some (entry.value decoder)
  | .err => none

def WatchResult.entry? : WatchResult Pem → Option (KvEntry Pem)
  | .ok entry => some entry
  | .err => none

theorem filterMap_entry? (decoder : PemDecoder Pem Key)
    (results : List (WatchResult Pem)) :
    (results.filterMap WatchResult.entry?).map (KvEntry.value decoder) =
      results.filterMap (WatchResult.value decoder) := by
  rw [List.map_filterMap]
  congr 1
  funext result
  cases result with
  | ok entry => rfl
  | err => rfl

/-- The PEMs that an update takes the locks for. -/
def validPems (decoder : PemDecoder Pem Key) (pems : List Pem) : List Pem :=
  pems.filter (fun pem => (decoder.fromRsaPem pem).isSome)

theorem VerifierProgram.watchLoop_eq_updateAll (decoder : PemDecoder Pem Key)
    (results : List (WatchResult Pem)) :
    watchLoop decoder results =
      updateAll decoder (results.filterMap (WatchResult.value decoder)) := by
  induction results with
  | nil => rfl
  | cons result results ih =>
      cases result with
      | ok entry | err =>
          rw [watchLoop, ih]
          rfl

/-- A series of updates is over, or waits for the lock of the key with its next
valid argument. -/
theorem VerifierProgram.updateAll_cases (decoder : PemDecoder Pem Key)
    (pems : List Pem) :
    (validPems decoder pems = [] ∧ updateAll decoder pems = .done) ∨
      ∃ pem key rest, decoder.fromRsaPem pem = some key ∧
        validPems decoder pems = pem :: validPems decoder rest ∧
        updateAll decoder pems =
          .acquire .key .write (.act (.recordAcquired pem)
            (fun _ => writeFields key pem (updateAll decoder rest))) := by
  induction pems with
  | nil => exact Or.inl ⟨rfl, rfl⟩
  | cons pem pems ih =>
      cases parsed : decoder.fromRsaPem pem with
      | none =>
          have skipped :
              validPems decoder (pem :: pems) = validPems decoder pems := by
            simp [validPems, parsed]
          have sameProgram :
              updateAll decoder (pem :: pems) = updateAll decoder pems := by
            simp [updateAll, updateKey, parsed]
          rw [skipped, sameProgram]
          exact ih
      | some key =>
          right
          refine ⟨pem, key, pems, parsed, ?_, ?_⟩
          · simp [validPems, parsed]
          · simp [updateAll, updateKey, parsed]

/-! ## Where a task stands -/

inductive Reader where
  | verify
  | currentPem

namespace Reader

def lock : Reader → VerifierLock
  | .verify => .key
  | .currentPem => .pem

def take : Reader → VerifierState Pem Key → VerifierState Pem Key
  | .verify => .cloneKey
  | .currentPem => .copyPem

end Reader

inductive UpdatePoint where
  | entered
  | recorded
  | keyWritten
  | pemLocked
  | pemWritten
  | leaving

inductive ReadPoint where
  | waiting
  | holding
  | taken

/-- Between two updates, inside one, or inside a reader. -/
inductive Stage (Pem Key : Type) where
  | between (pending : List Pem)
  | updating (point : UpdatePoint) (pem : Pem) (key : Key)
      (pending : List Pem)
  | reading (point : ReadPoint) (reader : Reader)

namespace Stage

open VerifierProgram

def task (decoder : PemDecoder Pem Key) :
    Stage Pem Key → LockTask (VerifierState Pem Key) VerifierLock
  | .between pending => ⟨[], updateAll decoder pending⟩
  | .updating .entered pem key pending =>
      ⟨[(.key, .write)], .act (.recordAcquired pem)
        (fun _ => writeFields key pem (updateAll decoder pending))⟩
  | .updating .recorded pem key pending =>
      ⟨[(.key, .write)], writeFields key pem (updateAll decoder pending)⟩
  | .updating .keyWritten pem _ pending =>
      ⟨[(.key, .write)], writePem pem (updateAll decoder pending)⟩
  | .updating .pemLocked pem _ pending =>
      ⟨[(.pem, .write), (.key, .write)], .act (.setPem pem)
        (fun _ => .release (.release (updateAll decoder pending)))⟩
  | .updating .pemWritten _ _ pending =>
      ⟨[(.pem, .write), (.key, .write)],
        .release (.release (updateAll decoder pending))⟩
  | .updating .leaving _ _ pending =>
      ⟨[(.key, .write)], .release (updateAll decoder pending)⟩
  | .reading .waiting reader =>
      ⟨[], .access reader.lock .read reader.take (fun _ => .done)⟩
  | .reading .holding reader =>
      ⟨[(reader.lock, .read)], .act reader.take (fun _ => .release .done)⟩
  | .reading .taken reader => ⟨[(reader.lock, .read)], .release .done⟩

/-- The steps of a task. -/
inductive Step (decoder : PemDecoder Pem Key) :
    VerifierState Pem Key → Stage Pem Key → VerifierState Pem Key →
      Stage Pem Key → Prop
  | enter {state : VerifierState Pem Key} {pem : Pem} {key : Key}
      {pending rest : List Pem}
      (parsed : decoder.fromRsaPem pem = some key)
      (isNext : validPems decoder pending = pem :: validPems decoder rest) :
      Step decoder state (.between pending)
        state (.updating .entered pem key rest)
  | record {state : VerifierState Pem Key} {pem : Pem} {key : Key}
      {pending : List Pem} :
      Step decoder state (.updating .entered pem key pending)
        (state.recordAcquired pem) (.updating .recorded pem key pending)
  | writeKey {state : VerifierState Pem Key} {pem : Pem} {key : Key}
      {pending : List Pem} :
      Step decoder state (.updating .recorded pem key pending)
        (state.setKey key) (.updating .keyWritten pem key pending)
  | lockPem {state : VerifierState Pem Key} {pem : Pem} {key : Key}
      {pending : List Pem} :
      Step decoder state (.updating .keyWritten pem key pending)
        state (.updating .pemLocked pem key pending)
  | writePem {state : VerifierState Pem Key} {pem : Pem} {key : Key}
      {pending : List Pem} :
      Step decoder state (.updating .pemLocked pem key pending)
        (state.setPem pem) (.updating .pemWritten pem key pending)
  | unlockPem {state : VerifierState Pem Key} {pem : Pem} {key : Key}
      {pending : List Pem} :
      Step decoder state (.updating .pemWritten pem key pending)
        state (.updating .leaving pem key pending)
  | leave {state : VerifierState Pem Key} {pem : Pem} {key : Key}
      {pending : List Pem} :
      Step decoder state (.updating .leaving pem key pending)
        state (.between pending)
  | lockField {state : VerifierState Pem Key} {reader : Reader} :
      Step decoder state (.reading .waiting reader)
        state (.reading .holding reader)
  | takeField {state : VerifierState Pem Key} {reader : Reader} :
      Step decoder state (.reading .holding reader)
        (reader.take state) (.reading .taken reader)
  | unlockField {state : VerifierState Pem Key} {reader : Reader} :
      Step decoder state (.reading .taken reader) state (.between [])

variable {decoder : PemDecoder Pem Key}
variable {state after : VerifierState Pem Key} {stage next : Stage Pem Key}

/-- A task that stands somewhere moves on to where it stands next. -/
theorem step_of_advance
    {tasks : List (LockTask (VerifierState Pem Key) VerifierLock)}
    {answer : Bool} {moved : LockTask (VerifierState Pem Key) VerifierLock}
    (advanced :
      LockSystem.advance tasks answer state (stage.task decoder) =
        some (after, moved)) :
    ∃ next, moved = task decoder next ∧ Step decoder state stage after next := by
  have acquired {lock : VerifierLock} {mode : LockMode}
      {held : List (VerifierLock × LockMode)}
      {rest : VerifierProgram Pem Key}
      (isAcquire :
        LockSystem.advance tasks answer state ⟨held, .acquire lock mode rest⟩ =
          some (after, moved)) :
      after = state ∧ moved = ⟨(lock, mode) :: held, rest⟩ := by
    cases LockSystem.taskStep_of_advance isAcquire with
    | acquire => exact ⟨rfl, rfl⟩
  cases stage with
  | between pending =>
      rw [task] at advanced
      rcases updateAll_cases decoder pending with
        ⟨-, isDone⟩ | ⟨pem, key, rest, parsed, isNext, isProgram⟩
      · rw [isDone] at advanced
        cases advanced
      · rw [isProgram] at advanced
        obtain ⟨rfl, rfl⟩ := acquired advanced
        exact ⟨.updating .entered pem key rest, rfl, .enter parsed isNext⟩
  | updating point pem key pending =>
      cases point with
      | entered =>
          cases advanced
          exact ⟨.updating .recorded pem key pending, rfl, .record⟩
      | recorded =>
          cases advanced
          exact ⟨.updating .keyWritten pem key pending, rfl, .writeKey⟩
      | keyWritten =>
          obtain ⟨rfl, rfl⟩ := acquired advanced
          exact ⟨.updating .pemLocked pem key pending, rfl, .lockPem⟩
      | pemLocked =>
          cases advanced
          exact ⟨.updating .pemWritten pem key pending, rfl, .writePem⟩
      | pemWritten =>
          cases advanced
          exact ⟨.updating .leaving pem key pending, rfl, .unlockPem⟩
      | leaving =>
          cases advanced
          exact ⟨.between pending, rfl, .leave⟩
  | reading point reader =>
      cases point with
      | waiting =>
          obtain ⟨rfl, rfl⟩ := acquired advanced
          exact ⟨.reading .holding reader, rfl, .lockField⟩
      | holding =>
          cases advanced
          exact ⟨.reading .taken reader, rfl, .takeField⟩
      | taken =>
          cases advanced
          exact ⟨.between [], rfl, .unlockField⟩

/-- The task has the lock of the key for writing. -/
def IsUpdating : Stage Pem Key → Prop
  | .updating _ _ _ _ => True
  | _ => False

theorem writes_task_iff :
    LockSystem.Writes VerifierLock.key (stage.task decoder) ↔
      stage.IsUpdating := by
  cases stage with
  | between pending => simp [LockSystem.Writes, task, IsUpdating]
  | updating point pem key pending | reading point reader =>
      cases point <;> simp [LockSystem.Writes, task, IsUpdating]

end Stage

end TurbocableServer.Auth
