import TurbocableServer.Foundations.Reachability

/-!
# Loading and watching the public key

`auth/key_watcher.rs`: the entry `TC_PUBKEYS.rails_public_key` is read, a
verifier is built from it, a watch is created, and a task applies the entries
that the watch delivers.  These are separate remote calls, and the entry may be
written between any two of them.
-/

namespace TurbocableServer.Auth

open Foundations

/-- `DecodingKey::from_rsa_pem` on values of the bucket.  The empty value, which
a delete marker carries, is not a PEM. -/
structure PemDecoder (Pem Key : Type) where
  fromRsaPem : Pem → Option Key
  empty : Pem
  fromRsaPem_empty : fromRsaPem empty = none

/-! ## The verifier -/

/-- The fields of `JwtVerifier` that a new key replaces. -/
structure JwtVerifier (Pem Key : Type) where
  key : Key
  pem : Pem

variable {Pem Key : Type}

namespace JwtVerifier

def fromRsaPem (decoder : PemDecoder Pem Key) (pem : Pem) :
    Option (JwtVerifier Pem Key) :=
  (decoder.fromRsaPem pem).map (fun key => ⟨key, pem⟩)

/-- The verifier after `update_key`, which leaves it alone when the PEM is not
valid. -/
def updateKey (decoder : PemDecoder Pem Key) (verifier : JwtVerifier Pem Key)
    (pem : Pem) : JwtVerifier Pem Key :=
  match decoder.fromRsaPem pem with
  | some key => ⟨key, pem⟩
  | none => verifier

theorem key_updateKey (decoder : PemDecoder Pem Key)
    (verifier : JwtVerifier Pem Key) (pem : Pem) :
    (verifier.updateKey decoder pem).key =
      (decoder.fromRsaPem pem).getD verifier.key := by
  unfold updateKey
  split <;> simp [*]

end JwtVerifier

/-! ## The bucket -/

/-- A revision of the entry. -/
inductive KvEntry (Pem : Type) where
  | put (pem : Pem)
  | delete

namespace KvEntry

/-- `entry.value`, which is empty in a delete marker. -/
def value (decoder : PemDecoder Pem Key) : KvEntry Pem → Pem
  | .put pem => pem
  | .delete => decoder.empty

/-- What `kv.get` returns of the revision. -/
def current : KvEntry Pem → Option Pem
  | .put pem => some pem
  | .delete => none

end KvEntry

/-- The key of the latest valid PEM among revisions, the newest first. -/
def latestKey (decoder : PemDecoder Pem Key) : List (KvEntry Pem) → Option Key
  | [] => none
  | .put pem :: older =>
      (decoder.fromRsaPem pem).or (latestKey decoder older)
  | .delete :: older => latestKey decoder older

/-- A revision replaces the latest key with its own, if it has one. -/
theorem latestKey_cons (decoder : PemDecoder Pem Key) (entry : KvEntry Pem)
    (older : List (KvEntry Pem)) :
    latestKey decoder (entry :: older) =
      (decoder.fromRsaPem (entry.value decoder)).or (latestKey decoder older) := by
  cases entry with
  | put pem => rfl
  | delete =>
      rw [KvEntry.value, decoder.fromRsaPem_empty]
      rfl

/-! ## The task -/

/-- How far `load_and_watch_from_nats` has come, with what it has by then.  From
the watch on, there are entries still to be handed to the loop, the oldest
first. -/
inductive LoadPhase (Pem Key : Type) where
  | opened
  | fetched (pem : Pem)
  | built (verifier : JwtVerifier Pem Key)
  | subscribed (verifier : JwtVerifier Pem Key) (pending : List (KvEntry Pem))
  | watching (verifier : JwtVerifier Pem Key) (pending : List (KvEntry Pem))
  | failed

namespace LoadPhase

/-- The answer to `kv.get`. -/
def get : Option Pem → LoadPhase Pem Key
  | some pem => .fetched pem
  | none => .failed

def build (decoder : PemDecoder Pem Key) (pem : Pem) : LoadPhase Pem Key :=
  match JwtVerifier.fromRsaPem decoder pem with
  | some verifier => .built verifier
  | none => .failed

/-- A new revision goes to the watch, once there is one. -/
def deliver (entry : KvEntry Pem) : LoadPhase Pem Key → LoadPhase Pem Key
  | .subscribed verifier pending => .subscribed verifier (pending ++ [entry])
  | .watching verifier pending => .watching verifier (pending ++ [entry])
  | phase => phase

end LoadPhase

/-- The revisions of the entry, the newest first, and the task. -/
structure KeyLoader (Pem Key : Type) where
  revisions : List (KvEntry Pem)
  phase : LoadPhase Pem Key

/-- A write to the bucket, or a step of the task.  Remote calls may fail, and the
watch may hand out an error. -/
inductive KeyAction (Pem : Type) where
  | write (entry : KvEntry Pem)
  | get (answered : Bool)
  | build
  | watch (answered : Bool)
  | spawn
  | next
  | watchError

namespace KeyLoader

def initial : KeyLoader Pem Key where
  revisions := []
  phase := .opened

def write (loader : KeyLoader Pem Key) (entry : KvEntry Pem) :
    KeyLoader Pem Key where
  revisions := entry :: loader.revisions
  phase := loader.phase.deliver entry

/-- What the entry holds. -/
def currentPem (loader : KeyLoader Pem Key) : Option Pem :=
  loader.revisions.head?.bind KvEntry.current

/-- Where the task goes. -/
def move (decoder : PemDecoder Pem Key) (loader : KeyLoader Pem Key) :
    KeyAction Pem → Option (LoadPhase Pem Key)
  | .write _ => none
  | .get answered =>
      match loader.phase with
      | .opened =>
          some (.get (if answered then loader.currentPem else none))
      | _ => none
  | .build =>
      match loader.phase with
      | .fetched pem => some (.build decoder pem)
      | _ => none
  | .watch answered =>
      match loader.phase with
      | .built verifier =>
          some (if answered then .subscribed verifier [] else .failed)
      | _ => none
  | .spawn =>
      match loader.phase with
      | .subscribed verifier pending => some (.watching verifier pending)
      | _ => none
  | .next =>
      match loader.phase with
      | .watching verifier (entry :: pending) =>
          some (.watching
            (verifier.updateKey decoder (entry.value decoder)) pending)
      | _ => none
  | .watchError =>
      match loader.phase with
      | .watching verifier pending => some (.watching verifier pending)
      | _ => none

def step (decoder : PemDecoder Pem Key) (loader : KeyLoader Pem Key) :
    KeyAction Pem → Option (KeyLoader Pem Key)
  | .write entry => some (loader.write entry)
  | action =>
      (loader.move decoder action).map (fun phase =>
        { loader with phase := phase })

end KeyLoader

/-! ## The key that the task is heading for -/

/-- The verifier once the entries have been applied. -/
def JwtVerifier.reload (decoder : PemDecoder Pem Key)
    (verifier : JwtVerifier Pem Key) (entries : List (KvEntry Pem)) :
    JwtVerifier Pem Key :=
  entries.foldl
    (fun current entry => current.updateKey decoder (entry.value decoder))
    verifier

namespace LoadPhase

/-- The key that has been read while there is no watch yet. -/
def loadedKey (decoder : PemDecoder Pem Key) :
    LoadPhase Pem Key → Option Key
  | .fetched pem => decoder.fromRsaPem pem
  | .built verifier => some verifier.key
  | _ => none

/-- The key of the verifier once everything pending has been applied. -/
def finalKey (decoder : PemDecoder Pem Key) :
    LoadPhase Pem Key → Option Key
  | .subscribed verifier pending =>
      some (verifier.reload decoder pending).key
  | .watching verifier pending =>
      some (verifier.reload decoder pending).key
  | phase => phase.loadedKey decoder

end LoadPhase

namespace KeyLoader

variable {decoder : PemDecoder Pem Key} {loader next : KeyLoader Pem Key}

/-- The task is heading for the latest key. -/
def Sound (decoder : PemDecoder Pem Key) (loader : KeyLoader Pem Key) : Prop :=
  ∀ key, loader.phase.finalKey decoder = some key →
    latestKey decoder loader.revisions = some key

/-- Whenever the watcher has nothing left to process, the verifier's key is the
one of the latest valid PEM. -/
def KeyCurrent (decoder : PemDecoder Pem Key) (loader : KeyLoader Pem Key) :
    Prop :=
  ∀ verifier, loader.phase = .watching verifier [] →
    latestKey decoder loader.revisions = some verifier.key

theorem Sound.keyCurrent (sound : loader.Sound decoder) :
    loader.KeyCurrent decoder := by
  intro verifier settled
  apply sound
  rw [settled]
  rfl

/-- No other key is written after the entry has been read and before the watch
exists. -/
def NoRotationBeforeWatch (decoder : PemDecoder Pem Key)
    (loader : KeyLoader Pem Key) : KeyAction Pem → Prop
  | .write entry =>
      ∀ loaded key,
        loader.phase.loadedKey decoder = some loaded →
        decoder.fromRsaPem (entry.value decoder) = some key →
          key = loaded
  | _ => True

instance [DecidableEq Key] (decoder : PemDecoder Pem Key)
    (loader : KeyLoader Pem Key) :
    (action : KeyAction Pem) →
      Decidable (loader.NoRotationBeforeWatch decoder action)
  | .write entry =>
      decidable_of_iff
        (∀ loaded ∈ loader.phase.loadedKey decoder,
          ∀ key ∈ decoder.fromRsaPem (entry.value decoder), key = loaded)
        ⟨fun undisturbed loaded key isLoaded isKey =>
          undisturbed loaded isLoaded key isKey,
        fun undisturbed loaded isLoaded key isKey =>
          undisturbed loaded key isLoaded isKey⟩
  | .get _ | .build | .watch _ | .spawn | .next | .watchError => isTrue trivial

/-! ## Runs -/

/-- What is written is what `kv.get` returns and what is latest, if it is
valid. -/
theorem latestKey_of_currentPem {pem : Pem} {key : Key}
    (current : loader.currentPem = some pem)
    (valid : decoder.fromRsaPem pem = some key) :
    latestKey decoder loader.revisions = some key := by
  rw [currentPem] at current
  cases isRevisions : loader.revisions with
  | nil =>
      rw [isRevisions] at current
      cases current
  | cons entry older =>
      rw [isRevisions] at current
      cases entry with
      | put newest =>
          obtain rfl : newest = pem := Option.some.inj current
          rw [latestKey_cons, KvEntry.value, valid, Option.some_or]
      | delete => cases current

/-- With a watch, the new entry is applied after the pending ones; without one,
it has left the key alone. -/
theorem finalKey_deliver {entry : KvEntry Pem} {key : Key}
    (undisturbed : loader.NoRotationBeforeWatch decoder (.write entry))
    (isFinal :
      (loader.phase.deliver entry).finalKey decoder = some key) :
    ∃ earlier, loader.phase.finalKey decoder = some earlier ∧
      (decoder.fromRsaPem (entry.value decoder)).getD earlier = key := by
  have kept (loaded : loader.phase.loadedKey decoder = some key) :
      (decoder.fromRsaPem (entry.value decoder)).getD key = key := by
    cases written : decoder.fromRsaPem (entry.value decoder) with
    | none => rfl
    | some other => exact undisturbed key other loaded written
  have applied (verifier : JwtVerifier Pem Key)
      (pending : List (KvEntry Pem)) :
      (verifier.reload decoder (pending ++ [entry])).key =
        (decoder.fromRsaPem (entry.value decoder)).getD
          (verifier.reload decoder pending).key := by
    rw [JwtVerifier.reload, List.foldl_append]
    exact JwtVerifier.key_updateKey _ _ _
  cases isPhase : loader.phase with
  | opened | failed =>
      rw [isPhase] at isFinal
      cases isFinal
  | fetched pem | built verifier =>
      rw [isPhase] at isFinal kept
      exact ⟨key, isFinal, kept isFinal⟩
  | subscribed verifier pending | watching verifier pending =>
      rw [isPhase] at isFinal
      refine ⟨_, rfl, ?_⟩
      rw [← applied]
      exact Option.some.inj isFinal

/-- A step of the task keeps the key it is heading for, but for the first, which
takes what the entry holds. -/
theorem finalKey_move {action : KeyAction Pem} {phase : LoadPhase Pem Key}
    {key : Key}
    (moved : loader.move decoder action = some phase)
    (isFinal : phase.finalKey decoder = some key) :
    loader.phase.finalKey decoder = some key ∨
      ∃ pem, loader.currentPem = some pem ∧
        decoder.fromRsaPem pem = some key := by
  cases action with
  | write entry => cases moved
  | get answered =>
      simp only [move] at moved
      split at moved
      · cases moved
        right
        cases answered with
        | false => cases isFinal
        | true =>
            cases current : loader.currentPem with
            | none =>
                rw [current] at isFinal
                cases isFinal
            | some pem =>
                rw [current] at isFinal
                exact ⟨pem, rfl, isFinal⟩
      · cases moved
  | build =>
      simp only [move] at moved
      split at moved
      · rename_i pem isPhase
        cases moved
        left
        rw [isPhase]
        cases decoded : decoder.fromRsaPem pem with
        | none =>
            simp [LoadPhase.build, JwtVerifier.fromRsaPem, decoded,
              LoadPhase.finalKey, LoadPhase.loadedKey] at isFinal
        | some loaded =>
            simp only [LoadPhase.build, JwtVerifier.fromRsaPem, decoded,
              Option.map_some] at isFinal
            exact decoded.trans isFinal
      · cases moved
  | watch answered =>
      simp only [move] at moved
      split at moved
      · rename_i verifier isPhase
        cases moved
        left
        rw [isPhase]
        cases answered with
        | false => cases isFinal
        | true => exact isFinal
      · cases moved
  | spawn | next | watchError =>
      -- pending entries are only moved along
      simp only [move] at moved
      split at moved
      · rename_i isPhase
        cases moved
        left
        rw [isPhase]
        exact isFinal
      · cases moved

theorem Sound.write {entry : KvEntry Pem}
    (sound : loader.Sound decoder)
    (undisturbed : loader.NoRotationBeforeWatch decoder (.write entry)) :
    (loader.write entry).Sound decoder := by
  intro key isFinal
  obtain ⟨earlier, wasFinal, isKey⟩ := finalKey_deliver undisturbed isFinal
  have latest := sound earlier wasFinal
  rw [KeyLoader.write, latestKey_cons, latest, ← isKey]
  cases decoder.fromRsaPem (entry.value decoder) with
  | none => rfl
  | some written => rfl

theorem Sound.move {action : KeyAction Pem} {phase : LoadPhase Pem Key}
    (sound : loader.Sound decoder)
    (moved : loader.move decoder action = some phase) :
    ({ loader with phase := phase } : KeyLoader Pem Key).Sound decoder := by
  intro key isFinal
  rcases finalKey_move moved isFinal with wasFinal | ⟨pem, current, valid⟩
  · exact sound key wasFinal
  · exact latestKey_of_currentPem current valid

theorem Sound.step {action : KeyAction Pem}
    (sound : loader.Sound decoder)
    (undisturbed : loader.NoRotationBeforeWatch decoder action)
    (moves : loader.step decoder action = some next) :
    next.Sound decoder := by
  cases action with
  | write entry =>
      obtain rfl : loader.write entry = next := Option.some.inj moves
      exact sound.write undisturbed
  | get | build | watch | spawn | next | watchError =>
      obtain ⟨phase, moved, rfl⟩ := Option.map_eq_some_iff.mp moves
      exact sound.move moved

theorem sound_initial : (initial : KeyLoader Pem Key).Sound decoder := by
  intro key isFinal
  cases isFinal

/-- A rotation is not lost in any run in which no other key is written between
the reading of the entry and the creation of the watch. -/
theorem rotation_not_lost
    (decoder : PemDecoder Pem Key) (loader : KeyLoader Pem Key)
    (run :
      Reaches (step decoder) (NoRotationBeforeWatch decoder) initial loader) :
    loader.KeyCurrent decoder := by
  apply Sound.keyCurrent
  exact run.invariant
    (fun source action target undisturbed moves sound =>
      sound.step undisturbed moves)
    sound_initial

end KeyLoader

/-! ## A rotation while the gateway starts -/

/-- Values of the bucket: PEMs of numbered keys, and others. -/
inductive RailsValue where
  | empty
  | garbage
  | publicKey (number : Nat)

def railsDecoder : PemDecoder RailsValue Nat where
  fromRsaPem
    | .publicKey number => some number
    | _ => none
  empty := .empty
  fromRsaPem_empty := rfl

namespace KeyLoader

/-- The first key is loaded; then the second one is written, garbage, and a
delete marker. -/
def rotationWatched : List (KeyAction RailsValue) :=
  [.write (.put (.publicKey 1)), .get true, .write (.put .garbage), .build,
    .watch true, .write (.put (.publicKey 2)), .spawn, .next, .watchError,
    .write .delete, .next]

/-- Where this leads. -/
def watchedLoader : KeyLoader RailsValue Nat where
  revisions :=
    [.delete, .put (.publicKey 2), .put .garbage, .put (.publicKey 1)]
  phase := .watching ⟨2, .publicKey 2⟩ []

theorem rotation_not_lost_watched :
    Reaches (step railsDecoder) (NoRotationBeforeWatch railsDecoder) initial
        watchedLoader ∧
      watchedLoader.KeyCurrent railsDecoder := by
  have completes :
      execute (step railsDecoder) (NoRotationBeforeWatch railsDecoder) initial
        rotationWatched = some watchedLoader :=
    rfl
  have run := reaches_of_execute completes
  exact ⟨run, rotation_not_lost railsDecoder watchedLoader run⟩

/-- The second key is written once the first has been read. -/
def rotationMissed : List (KeyAction RailsValue) :=
  [.write (.put (.publicKey 1)), .get true, .write (.put (.publicKey 2)),
    .build, .watch true, .spawn]

/-- The watcher is waiting, and the verifier has the first key. -/
def staleLoader : KeyLoader RailsValue Nat where
  revisions := [.put (.publicKey 2), .put (.publicKey 1)]
  phase := .watching ⟨1, .publicKey 1⟩ []

theorem rotation_lost_before_watch :
    Reaches (step railsDecoder) (fun _ _ => True) initial staleLoader ∧
      ¬ staleLoader.KeyCurrent railsDecoder := by
  have completes :
      rotationMissed.foldlM (step railsDecoder) initial = some staleLoader :=
    rfl
  refine ⟨reaches_of_foldlM (fun _ _ _ => trivial) completes, ?_⟩
  intro current
  have latest := current ⟨1, .publicKey 1⟩ rfl
  cases latest

end KeyLoader

end TurbocableServer.Auth
