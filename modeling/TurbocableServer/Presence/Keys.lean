import TurbocableServer.Presence.Tracking

/-!
# Isolation of presence entries

The operations of `PresenceManager` on the bucket `TC_PRESENCE`, with the time at
which an entry was last written, so that it expires unless it is refreshed.  Two
pairs of a stream and a user share an entry exactly when a dot lets a part of the
stream's name be read as a part of the user's.
-/

namespace TurbocableServer.Presence

/-! ## The manager -/

/-- Seconds before a presence key expires if not refreshed. -/
def presenceTtlSecs : Nat :=
  30

/-- The bucket, by the second in which each entry was last written, and the
heartbeat tasks that are running. -/
structure Manager where
  entries : String → Option Nat
  running : Finset (String × String)

/-- A call of the key-value client: when it is served, and whether the server
answers it. -/
structure KvCall where
  now : Nat
  succeeds : Bool

/-- What is called for a stream and a user. -/
inductive PresenceCall where
  | put (call : KvCall)
  | startHeartbeat
  | heartbeat (call : KvCall)
  | dropHandle
  | delete (call : KvCall)

namespace Manager

/-- The entry is in the bucket and has not expired. -/
def Exists (manager : Manager) (now : Nat) (pair : String × String) : Prop :=
  ∃ written, manager.entries (presenceKey pair.1 pair.2) = some written ∧
    now < written + presenceTtlSecs

/-- A write of the client, which refuses the keys that are not valid. -/
def write (validKey : String → Bool) (manager : Manager)
    (key : String) (entry : Option Nat) (call : KvCall) : Manager :=
  if validKey key && call.succeeds then
    { manager with entries := Function.update manager.entries key entry }
  else
    manager

/-- `PresenceManager::put`.  A failure is logged. -/
def put (validKey : String → Bool) (manager : Manager)
    (pair : String × String) (call : KvCall) : Manager :=
  manager.write validKey (presenceKey pair.1 pair.2) (some call.now) call

/-- `PresenceManager::delete`.  A failure is logged. -/
def delete (validKey : String → Bool) (manager : Manager)
    (pair : String × String) (call : KvCall) : Manager :=
  manager.write validKey (presenceKey pair.1 pair.2) none call

/-- One call for the pair.  A heartbeat task puts the key until its handle is
dropped. -/
def operate (validKey : String → Bool) (pair : String × String)
    (manager : Manager) : PresenceCall → Manager
  | .put call => manager.put validKey pair call
  | .startHeartbeat =>
      { manager with running := insert pair manager.running }
  | .heartbeat call =>
      if pair ∈ manager.running then
        manager.put validKey pair call
      else
        manager
  | .dropHandle =>
      { manager with running := manager.running.erase pair }
  | .delete call => manager.delete validKey pair call

def run (validKey : String → Bool) (pair : String × String)
    (manager : Manager) (calls : List PresenceCall) : Manager :=
  calls.foldl (operate validKey pair) manager

end Manager

/-! ## Keys -/

/-- The first pair is the second with a part of the user's name, and the dot
after it, moved over to the stream. -/
def MovesDot (left right : String × String) : Prop :=
  ∃ part, left.1 = right.1 ++ "." ++ part ∧ right.2 = part ++ "." ++ left.2

/-- Two ways of writing a list with a delimiter in it. -/
theorem append_cons_eq_append_cons_iff {α : Type} {delimiter : α}
    {left right leftRest rightRest : List α} :
    left ++ delimiter :: leftRest = right ++ delimiter :: rightRest ↔
      (left = right ∧ leftRest = rightRest) ∨
        (∃ part, left = right ++ delimiter :: part ∧
          rightRest = part ++ delimiter :: leftRest) ∨
        ∃ part, right = left ++ delimiter :: part ∧
          leftRest = part ++ delimiter :: rightRest := by
  constructor
  · intro same
    rcases List.append_eq_append_iff.mp same with
      ⟨part, isRight, isRest⟩ | ⟨part, isLeft, isRest⟩
    · cases part with
      | nil =>
          left
          simpa [eq_comm] using And.intro isRight isRest
      | cons head tail =>
          rw [List.cons_append, List.cons.injEq] at isRest
          obtain ⟨rfl, isRest⟩ := isRest
          exact Or.inr (Or.inr ⟨tail, isRight, isRest⟩)
    · cases part with
      | nil =>
          left
          simpa [eq_comm] using And.intro isLeft isRest
      | cons head tail =>
          rw [List.cons_append, List.cons.injEq] at isRest
          obtain ⟨rfl, isRest⟩ := isRest
          exact Or.inr (Or.inl ⟨tail, isLeft, isRest⟩)
  · intro split
    rcases split with
      ⟨rfl, rfl⟩ | ⟨part, rfl, rfl⟩ | ⟨part, rfl, rfl⟩
    · rfl
    · simp
    · simp

theorem presenceKey_toList (stream user : String) :
    (presenceKey stream user).toList =
      stream.toList ++ '.' :: user.toList := by
  simp [presenceKey]

theorem movesDot_iff_toList {left right : String × String} :
    MovesDot left right ↔
      ∃ part, left.1.toList = right.1.toList ++ '.' :: part ∧
        right.2.toList = part ++ '.' :: left.2.toList := by
  constructor
  · intro moves
    obtain ⟨part, isStream, isUser⟩ := moves
    refine ⟨part.toList, ?_, ?_⟩
    · simp [isStream]
    · simp [isUser]
  · intro moves
    obtain ⟨part, isStream, isUser⟩ := moves
    refine ⟨String.ofList part, ?_, ?_⟩
    · apply String.toList_injective
      simp [isStream]
    · apply String.toList_injective
      simp [isUser]

/-- Pairs that share a key. -/
theorem presenceKey_eq_iff {left right : String × String} :
    presenceKey left.1 left.2 = presenceKey right.1 right.2 ↔
      left = right ∨ MovesDot left right ∨ MovesDot right left := by
  rw [← String.toList_inj, presenceKey_toList, presenceKey_toList,
    append_cons_eq_append_cons_iff, String.toList_inj, String.toList_inj,
    ← Prod.ext_iff, movesDot_iff_toList, movesDot_iff_toList]

/-! ## Isolation -/

namespace Manager

variable {validKey : String → Bool}

/-- Only the key that is written can change, and only if it is valid. -/
theorem entries_write_of_ne {manager : Manager} {key other : String}
    {entry : Option Nat} {call : KvCall}
    (apart : other ≠ key ∨ validKey key = false) :
    (manager.write validKey key entry call).entries other =
      manager.entries other := by
  unfold write
  split
  · rename_i written
    rcases apart with different | invalid
    · exact Function.update_of_ne different _ _
    · rw [invalid] at written
      cases written
  · rfl

theorem entries_operate_of_ne {pair : String × String} {other : String}
    (apart : other ≠ presenceKey pair.1 pair.2 ∨
      validKey (presenceKey pair.1 pair.2) = false)
    (manager : Manager) (call : PresenceCall) :
    (manager.operate validKey pair call).entries other =
      manager.entries other := by
  cases call with
  | put call => exact entries_write_of_ne apart
  | startHeartbeat => rfl
  | heartbeat call =>
      rw [operate]
      split
      · exact entries_write_of_ne apart
      · rfl
  | dropHandle => rfl
  | delete call => exact entries_write_of_ne apart

theorem entries_run_of_ne {pair : String × String} {other : String}
    (apart : other ≠ presenceKey pair.1 pair.2 ∨
      validKey (presenceKey pair.1 pair.2) = false)
    (calls : List PresenceCall) (manager : Manager) :
    (manager.run validKey pair calls).entries other =
      manager.entries other := by
  induction calls generalizing manager with
  | nil => rfl
  | cons call calls ih =>
      have later := ih (manager.operate validKey pair call)
      exact later.trans (entries_operate_of_ne apart manager call)

end Manager

/-- No calls for the first pair change, at any time, whether the entry of the
second exists. -/
def Isolated (validKey : String → Bool) (acting other : String × String) :
    Prop :=
  ∀ (manager : Manager) (calls : List PresenceCall) (now : Nat),
    (manager.run validKey acting calls).Exists now other ↔
      manager.Exists now other

/-- The bucket when nobody is present. -/
def emptyManager : Manager where
  entries := fun _ => none
  running := ∅

theorem not_exists_emptyManager (now : Nat) (pair : String × String) :
    ¬ emptyManager.Exists now pair := by
  intro present
  obtain ⟨written, isEntry, _⟩ := present
  cases isEntry

/-- Putting one of two pairs with a common valid key puts the other. -/
theorem not_isolated_of_key_eq
    {validKey : String → Bool} {acting other : String × String}
    (valid : validKey (presenceKey acting.1 acting.2) = true)
    (same : presenceKey acting.1 acting.2 = presenceKey other.1 other.2) :
    ¬ Isolated validKey acting other := by
  intro isolated
  have unchanged := isolated emptyManager [.put ⟨0, true⟩] 0
  refine not_exists_emptyManager 0 other (unchanged.mp ⟨0, ?_, by decide⟩)
  rw [← same]
  simp [Manager.run, Manager.operate, Manager.put, Manager.write, valid]

/-- Different pairs are isolated unless their names differ by moving a dot
across and the store takes the key. -/
theorem presence_isolated_iff
    (validKey : String → Bool) (acting other : String × String)
    (distinct : acting ≠ other) :
    Isolated validKey acting other ↔
      ¬ (MovesDot acting other ∨ MovesDot other acting) ∨
        validKey (presenceKey acting.1 acting.2) = false := by
  have key_iff :
      presenceKey acting.1 acting.2 = presenceKey other.1 other.2 ↔
        MovesDot acting other ∨ MovesDot other acting := by
    rw [presenceKey_eq_iff, or_iff_right distinct]
  rw [← key_iff]
  constructor
  · intro isolated
    by_cases same :
        presenceKey acting.1 acting.2 = presenceKey other.1 other.2
    · right
      apply Bool.eq_false_of_not_eq_true
      intro valid
      exact not_isolated_of_key_eq valid same isolated
    · exact Or.inl same
  · intro apart manager calls now
    have unchanged := Manager.entries_run_of_ne
      (apart.imp_left Ne.symm) calls manager
    simp only [Manager.Exists, unchanged]

/-- The keys that a JetStream key-value store takes. -/
def natsValidKey (key : String) : Bool :=
  key.toList.all (fun c => c.isAlphanum || "-/_=.".toList.contains c) &&
    key.toList.head?.any (· != '.') && key.toList.getLast?.any (· != '.')

theorem presence_isolated_iff_chat :
    ("chat", "alice") ≠ ("chat", "bob") ∧
      Isolated natsValidKey ("chat", "alice") ("chat", "bob") := by
  have distinct : ("chat", "alice") ≠ ("chat", "bob") := by decide
  have keys : presenceKey "chat" "alice" ≠ presenceKey "chat" "bob" := by
    decide
  refine ⟨distinct,
    (presence_isolated_iff natsValidKey _ _ distinct).mpr (Or.inl ?_)⟩
  intro movesDot
  exact keys (presenceKey_eq_iff.mpr (Or.inr movesDot))

/-- The bucket once `eu.alice` has subscribed to `news`. -/
def newsManager : Manager :=
  emptyManager.put natsValidKey ("news", "eu.alice") ⟨0, true⟩

/-- When `alice` leaves `news.eu`, the entry of `eu.alice` on `news` is gone. -/
theorem departure_erases_another_user :
    ("news.eu", "alice") ≠ ("news", "eu.alice") ∧
      newsManager.Exists 1 ("news", "eu.alice") ∧
      ¬ (newsManager.run natsValidKey ("news.eu", "alice")
          [.delete ⟨1, true⟩]).Exists 1 ("news", "eu.alice") ∧
      ¬ Isolated natsValidKey ("news.eu", "alice") ("news", "eu.alice") := by
  have valid : natsValidKey (presenceKey "news" "eu.alice") = true := by
    decide
  have same :
      presenceKey "news.eu" "alice" = presenceKey "news" "eu.alice" := by
    decide
  have present : newsManager.Exists 1 ("news", "eu.alice") := by
    refine ⟨0, ?_, by decide⟩
    simp [newsManager, Manager.put, Manager.write, valid]
  have erased :
      ¬ (newsManager.run natsValidKey ("news.eu", "alice")
          [.delete ⟨1, true⟩]).Exists 1 ("news", "eu.alice") := by
    intro remains
    obtain ⟨written, isEntry, _⟩ := remains
    simp [Manager.run, Manager.operate, Manager.delete, Manager.write, same,
      valid] at isEntry
  refine ⟨by decide, present, erased, ?_⟩
  intro isolated
  exact erased ((isolated newsManager [.delete ⟨1, true⟩] 1).mpr present)

end TurbocableServer.Presence
