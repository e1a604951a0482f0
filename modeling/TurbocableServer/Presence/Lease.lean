import TurbocableServer.Presence.Keys

/-!
# Presence entries as leases

An entry of the bucket expires 30 seconds after it was last written, and the
heartbeat task of a subscription writes it again every 25 seconds.  As long as
the writes succeed and come through within the 5 seconds in between, the entry
never expires, and only another connection of the user can delete it.  A write
that fails is not repeated before the next heartbeat, and by then the entry has
expired.
-/

namespace TurbocableServer.Presence

open Foundations

/-- How often the heartbeat task re-writes a key to extend its TTL. -/
def heartbeatIntervalSecs : Nat :=
  25

/-- Where the heartbeat task stands: it waits for its interval to tick, has sent
its write, or is about to learn how the write went. -/
inductive BeatPc where
  | waiting
  | asking (since : Nat)
  | answered
  deriving DecidableEq, Repr

/-- The bucket and one heartbeat task, with the clock and the time of the next
tick. -/
structure Lease where
  manager : Manager
  now : Nat
  due : Nat
  pc : BeatPc

/-- `refresh` and `delete` are calls for the same key by other connections of
the user, when they subscribe or their heartbeats tick and when they leave. -/
inductive LeaseAction where
  | elapse (duration : Nat)
  | tick
  | serve (succeeds : Bool)
  | answer
  | refresh (succeeds : Bool)
  | delete (succeeds : Bool)
  deriving DecidableEq, Repr

namespace LeaseAction

def duration : LeaseAction → Nat
  | .elapse duration => duration
  | _ => 0

def isRefresh : LeaseAction → Bool
  | .refresh _ => true
  | _ => false

def isDelete : LeaseAction → Bool
  | .delete _ => true
  | _ => false

end LeaseAction

/-- How late the task may take a tick, and how long a write may take until it is
served; together less than the time by which the heartbeat precedes the expiry. -/
structure Promptness where
  pickup : Nat
  answer : Nat
  inTime : heartbeatIntervalSecs + pickup + answer < presenceTtlSecs

namespace Lease

/-- The heartbeat task begins.  The first tick comes at once and is skipped. -/
def start (manager : Manager) (now : Nat) : Lease where
  manager := manager
  now := now
  due := now + heartbeatIntervalSecs
  pc := .waiting

section

variable (validKey : String → Bool) (pair : String × String)

/-- An interval that was polled late still ticks at the multiples of its
period. -/
def step (lease : Lease) : LeaseAction → Option Lease
  | .elapse duration => some { lease with now := lease.now + duration }
  | .tick =>
      if lease.pc = .waiting ∧ lease.due ≤ lease.now then
        some { lease with
          pc := .asking lease.now
          due := lease.due + heartbeatIntervalSecs }
      else
        none
  | .serve succeeds =>
      match lease.pc with
      | .asking _ =>
          some { lease with
            manager := lease.manager.put validKey pair ⟨lease.now, succeeds⟩
            pc := .answered }
      | _ => none
  | .answer =>
      if lease.pc = .answered then some { lease with pc := .waiting } else none
  | .refresh succeeds =>
      some { lease with
        manager := lease.manager.put validKey pair ⟨lease.now, succeeds⟩ }
  | .delete succeeds =>
      some { lease with
        manager := lease.manager.delete validKey pair ⟨lease.now, succeeds⟩ }

end

/-- The time when the entry was last written, if it is in the bucket. -/
def written (lease : Lease) (pair : String × String) : Option Nat :=
  lease.manager.entries (presenceKey pair.1 pair.2)

/-- The time by which the task goes on or its write is served. -/
def limit (prompt : Promptness) (lease : Lease) : Nat :=
  match lease.pc with
  | .asking since => since + prompt.answer
  | _ => lease.due + prompt.pickup

/-- Time does not run on where the task or the server would be late. -/
def Punctual (prompt : Promptness) (lease : Lease) (action : LeaseAction) :
    Prop :=
  lease.now + action.duration ≤ lease.limit prompt

/-- Moreover, the heartbeat's writes succeed. -/
def Healthy (prompt : Promptness) (lease : Lease) (action : LeaseAction) :
    Prop :=
  Punctual prompt lease action ∧ action ≠ .serve false

/-- No other connection writes the key.  It may still delete it. -/
def Unaided (_ : Lease) (action : LeaseAction) : Prop :=
  action.isRefresh = false

instance (prompt : Promptness) (lease : Lease) (action : LeaseAction) :
    Decidable (Punctual prompt lease action) :=
  inferInstanceAs (Decidable (_ ≤ _))

instance (prompt : Promptness) (lease : Lease) (action : LeaseAction) :
    Decidable (Healthy prompt lease action) :=
  inferInstanceAs (Decidable (_ ∧ _))

instance (lease : Lease) (action : LeaseAction) :
    Decidable (Unaided lease action) :=
  inferInstanceAs (Decidable (_ = false))

variable {validKey : String → Bool} {pair : String × String}
variable {prompt : Promptness} {lease next later : Lease}
variable {action : LeaseAction} {manager : Manager} {begun since : Nat}

/-! ## Inversion -/

inductive Moves (validKey : String → Bool) (pair : String × String)
    (lease : Lease) : LeaseAction → Lease → Prop
  | elapse (duration : Nat) :
      Moves validKey pair lease (.elapse duration)
        { lease with now := lease.now + duration }
  | tick :
      lease.pc = .waiting → lease.due ≤ lease.now →
      Moves validKey pair lease .tick
        { lease with
          pc := .asking lease.now
          due := lease.due + heartbeatIntervalSecs }
  | serve (since : Nat) (succeeds : Bool) :
      lease.pc = .asking since →
      Moves validKey pair lease (.serve succeeds)
        { lease with
          manager := lease.manager.put validKey pair ⟨lease.now, succeeds⟩
          pc := .answered }
  | answer :
      lease.pc = .answered →
      Moves validKey pair lease .answer { lease with pc := .waiting }
  | refresh (succeeds : Bool) :
      Moves validKey pair lease (.refresh succeeds)
        { lease with
          manager := lease.manager.put validKey pair ⟨lease.now, succeeds⟩ }
  | delete (succeeds : Bool) :
      Moves validKey pair lease (.delete succeeds)
        { lease with
          manager :=
            lease.manager.delete validKey pair ⟨lease.now, succeeds⟩ }

theorem moves_of_step (moved : lease.step validKey pair action = some next) :
    Moves validKey pair lease action next := by
  cases action with
  | elapse duration =>
      obtain rfl := Option.some.inj moved
      exact .elapse duration
  | tick =>
      simp only [step] at moved
      split at moved
      · rename_i due
        obtain rfl := Option.some.inj moved
        exact .tick due.1 due.2
      · cases moved
  | serve succeeds =>
      simp only [step] at moved
      split at moved
      · rename_i since here
        obtain rfl := Option.some.inj moved
        exact .serve since succeeds here
      · cases moved
  | answer =>
      simp only [step] at moved
      split at moved
      · rename_i here
        obtain rfl := Option.some.inj moved
        exact .answer here
      · cases moved
  | refresh succeeds =>
      obtain rfl := Option.some.inj moved
      exact .refresh succeeds
  | delete succeeds =>
      obtain rfl := Option.some.inj moved
      exact .delete succeeds

/-- A write puts the time of the clock into the entry, or leaves it. -/
theorem entries_put (manager : Manager) (now : Nat) (succeeds : Bool) :
    (manager.put validKey pair ⟨now, succeeds⟩).entries
        (presenceKey pair.1 pair.2) =
      if validKey (presenceKey pair.1 pair.2) && succeeds then some now
      else manager.entries (presenceKey pair.1 pair.2) := by
  unfold Manager.put Manager.write
  split
  · exact Function.update_self ..
  · rfl

/-- A delete leaves no entry, or leaves it as it was. -/
theorem entries_delete (manager : Manager) (now : Nat) (succeeds : Bool) :
    (manager.delete validKey pair ⟨now, succeeds⟩).entries
          (presenceKey pair.1 pair.2) = none ∨
      (manager.delete validKey pair ⟨now, succeeds⟩).entries
          (presenceKey pair.1 pair.2) =
        manager.entries (presenceKey pair.1 pair.2) := by
  unfold Manager.delete Manager.write
  split
  · exact Or.inl (Function.update_self ..)
  · exact Or.inr rfl

/-- What is still in the bucket after a delete was there before. -/
theorem written_of_delete {succeeds : Bool} {written : Nat}
    (isWritten :
      { lease with
        manager := lease.manager.delete validKey pair ⟨lease.now, succeeds⟩
        : Lease }.written pair = some written) :
    lease.written pair = some written := by
  unfold Lease.written at isWritten ⊢
  rcases entries_delete lease.manager lease.now succeeds with gone | same
  · rw [gone] at isWritten
    cases isWritten
  · exact same ▸ isWritten

/-! ## Punctual runs -/

/-- Where the clock stands between two heartbeats. -/
structure OnTime (prompt : Promptness) (lease : Lease) : Prop where
  early : lease.now ≤ lease.limit prompt
  near : lease.due ≤ lease.now + heartbeatIntervalSecs
  asking :
    ∀ since, lease.pc = .asking since →
      since ≤ lease.now ∧ lease.due ≤ since + heartbeatIntervalSecs ∧
        since + heartbeatIntervalSecs ≤ lease.due + prompt.pickup

theorem onTime_start (prompt : Promptness) (manager : Manager) (now : Nat) :
    (start manager now).OnTime prompt := by
  refine ⟨?_, Nat.le_refl _, fun since here => by cases here⟩
  show now ≤ now + heartbeatIntervalSecs + prompt.pickup
  omega

theorem OnTime.step (onTime : lease.OnTime prompt)
    (punctual : Punctual prompt lease action)
    (moves : Moves validKey pair lease action next) : next.OnTime prompt := by
  have inTime := prompt.inTime
  have early := onTime.early
  have near := onTime.near
  cases moves with
  | elapse duration =>
      refine ⟨punctual, ?_, fun since here => ?_⟩
      · show lease.due ≤ lease.now + duration + _
        omega
      · obtain ⟨sent, around⟩ := onTime.asking since here
        exact ⟨Nat.le_add_right_of_le sent, around⟩
  | tick here due =>
      simp only [limit, here] at early
      have next_due :
          lease.due + heartbeatIntervalSecs ≤
            lease.now + heartbeatIntervalSecs :=
        Nat.add_le_add_right due _
      refine ⟨Nat.le_add_right .., next_due, fun since isAsking => ?_⟩
      obtain rfl : lease.now = since := BeatPc.asking.inj isAsking
      refine ⟨Nat.le_refl _, next_due, ?_⟩
      show _ ≤ lease.due + heartbeatIntervalSecs + prompt.pickup
      omega
  | serve since succeeds here =>
      simp only [limit, here] at early
      obtain ⟨_, _, sent⟩ := onTime.asking since here
      refine ⟨?_, near, fun other isAsking => by cases isAsking⟩
      -- A write is served long before the next tick.
      show lease.now ≤ lease.due + prompt.pickup
      unfold heartbeatIntervalSecs presenceTtlSecs at *
      omega
  | answer here =>
      simp only [limit, here] at early
      exact ⟨early, near, fun since isAsking => by cases isAsking⟩
  | refresh succeeds | delete succeeds => exact ⟨early, near, onTime.asking⟩

/-- The time by which the next write of the task has been served. -/
def nextWrite (prompt : Promptness) (lease : Lease) : Nat :=
  match lease.pc with
  | .asking since => since + prompt.answer
  | _ => lease.due + prompt.pickup + prompt.answer

theorem limit_le_nextWrite (prompt : Promptness) (lease : Lease) :
    lease.limit prompt ≤ lease.nextWrite prompt := by
  unfold limit nextWrite
  split
  · exact Nat.le_refl _
  · exact Nat.le_add_right ..

/-- What is written now lasts beyond the next write of the task. -/
theorem OnTime.nextWrite_lt (onTime : lease.OnTime prompt) :
    lease.nextWrite prompt < lease.now + presenceTtlSecs := by
  have inTime := prompt.inTime
  have near := onTime.near
  unfold nextWrite
  split
  · rename_i since here
    obtain ⟨sent, _⟩ := onTime.asking since here
    omega
  · omega

/-! ## A healthy heartbeat -/

/-- An entry that is in the bucket lasts beyond the next write. -/
structure Covered (prompt : Promptness) (pair : String × String)
    (lease : Lease) : Prop where
  onTime : lease.OnTime prompt
  lasts :
    ∀ written, lease.written pair = some written →
      lease.nextWrite prompt < written + presenceTtlSecs

theorem Covered.step (covered : lease.Covered prompt pair)
    (valid : validKey (presenceKey pair.1 pair.2) = true)
    (healthy : Healthy prompt lease action)
    (moves : Moves validKey pair lease action next) :
    next.Covered prompt pair := by
  have onTime := covered.onTime.step healthy.1 moves
  have renewed := onTime.nextWrite_lt
  refine ⟨onTime, fun last isLast => ?_⟩
  cases moves with
  | elapse duration => exact covered.lasts last isLast
  | tick here due =>
      have lasts := covered.lasts last isLast
      have early := covered.onTime.early
      simp only [limit, here] at early
      simp only [nextWrite, here] at lasts ⊢
      omega
  | serve since succeeds here =>
      have isServed : succeeds = true := by
        cases succeeds with
        | true => rfl
        | false => exact absurd rfl healthy.2
      unfold written at isLast
      rw [entries_put, isServed, valid] at isLast
      obtain rfl := Option.some.inj isLast
      exact renewed
  | answer here =>
      have lasts := covered.lasts last isLast
      simp only [nextWrite, here] at lasts ⊢
      exact lasts
  | refresh succeeds =>
      unfold written at isLast
      rw [entries_put] at isLast
      split at isLast
      · obtain rfl := Option.some.inj isLast
        exact renewed
      · exact covered.lasts last isLast
  | delete succeeds => exact covered.lasts last (written_of_delete isLast)

/-- Only a delete removes the entry from the bucket. -/
theorem isSome_written_step (notDelete : action.isDelete = false)
    (moves : Moves validKey pair lease action next)
    (isWritten : (lease.written pair).isSome) :
    (next.written pair).isSome := by
  have kept (succeeds : Bool) :
      ((lease.manager.put validKey pair ⟨lease.now, succeeds⟩).entries
        (presenceKey pair.1 pair.2)).isSome := by
    rw [entries_put]
    split
    · rfl
    · exact isWritten
  cases moves with
  | serve since succeeds here => exact kept succeeds
  | refresh succeeds => exact kept succeeds
  | delete succeeds => cases notDelete
  | elapse duration | tick here due | answer here => exact isWritten

/-- While the heartbeat's writes succeed and are served in time, the entry never
expires, whatever other connections of the user do: it exists, or one of them
has deleted it since it was last written. -/
theorem heartbeat_keeps_entry {firstWrite : Nat}
    {allowed : Lease → LeaseAction → Prop}
    (valid : validKey (presenceKey pair.1 pair.2) = true)
    (isWritten :
      manager.entries (presenceKey pair.1 pair.2) = some firstWrite)
    (soon :
      begun + heartbeatIntervalSecs + prompt.pickup + prompt.answer <
        firstWrite + presenceTtlSecs)
    (healthy :
      ∀ source action, allowed source action → Healthy prompt source action)
    (run : Reaches (step validKey pair) allowed (start manager begun) lease) :
    (lease.manager.Exists lease.now pair ∨ lease.written pair = none) ∧
      ((∀ source action, allowed source action → action.isDelete = false) →
        lease.manager.Exists lease.now pair) := by
  have initially : (start manager begun).Covered prompt pair := by
    refine ⟨onTime_start prompt manager begun, fun written isFirst => ?_⟩
    obtain rfl := Option.some.inj (isWritten.symm.trans isFirst)
    exact soon
  have kept :
      ∀ source action target,
        allowed source action →
          step validKey pair source action = some target →
            source.Covered prompt pair → target.Covered prompt pair :=
    fun _ _ _ isAllowed moved covered =>
      covered.step valid (healthy _ _ isAllowed) (moves_of_step moved)
  have covered := run.invariant kept initially
  have exists_of_written {written : Nat}
      (isLast : lease.written pair = some written) :
      lease.manager.Exists lease.now pair := by
    have early : lease.now ≤ lease.nextWrite prompt :=
      covered.onTime.early.trans (limit_le_nextWrite prompt lease)
    exact ⟨written, isLast,
      Nat.lt_of_le_of_lt early (covered.lasts written isLast)⟩
  constructor
  · cases isLast : lease.written pair with
    | none => exact Or.inr rfl
    | some written => exact Or.inl (exists_of_written isLast)
  · intro undeleted
    have remains :
        ∀ source action target,
          allowed source action →
            step validKey pair source action = some target →
              (source.written pair).isSome → (target.written pair).isSome :=
      fun _ _ _ isAllowed moved =>
        isSome_written_step (undeleted _ _ isAllowed) (moves_of_step moved)
    have first : ((start manager begun).written pair).isSome := by
      rw [written, start, isWritten]
      rfl
    obtain ⟨written, isLast⟩ :=
      Option.isSome_iff_exists.mp (run.invariant remains first)
    exact exists_of_written isLast

/-- A tick is taken within a second, and a write is served within two. -/
def swift : Promptness where
  pickup := 1
  answer := 2
  inTime := Nat.lt_of_sub_eq_succ rfl

/-- The entry of the pair was written at second `1`. -/
def aliceManager : Manager where
  entries := fun key =>
    if key = presenceKey "news" "alice" then some 1 else none
  running := ∅

theorem aliceManager_entries :
    aliceManager.entries (presenceKey "news" "alice") = some 1 := by
  simp [aliceManager]

def aliceRun (allowed : Lease → LeaseAction → Prop)
    [∀ lease action, Decidable (allowed lease action)]
    (actions : List LeaseAction) : Option Lease :=
  execute (step (fun _ => true) ("news", "alice")) allowed
    (start aliceManager 2) actions

/-- A heartbeat later. -/
def aliceKept : Lease :=
  (aliceRun
    (fun source action =>
      Healthy swift source action ∧ action.isDelete = false)
    [.elapse 25, .tick, .elapse 2, .serve true, .answer, .elapse 20]).get
    (by decide)

theorem heartbeat_keeps_entry_alice :
    aliceKept.now = 49 ∧
      aliceKept.manager.Exists aliceKept.now ("news", "alice") := by
  have run :
      Reaches (step (fun _ => true) ("news", "alice"))
        (fun source action =>
          Healthy swift source action ∧ action.isDelete = false)
        (start aliceManager 2) aliceKept :=
    reaches_execute_get _
  have kept :=
    heartbeat_keeps_entry rfl aliceManager_entries (by decide)
      (fun _ _ guard => guard.1) run
  exact ⟨by decide, kept.2 (fun _ _ guard => guard.2)⟩

/-! ## A heartbeat that fails -/

/-- Without other writers, the entry is at least as old as the last heartbeat,
if there is one. -/
structure Aged (prompt : Promptness) (pair : String × String)
    (lease : Lease) : Prop where
  onTime : lease.OnTime prompt
  resting :
    (∀ since, lease.pc ≠ .asking since) →
      heartbeatIntervalSecs ≤ lease.due ∧
        ∀ written, lease.written pair = some written →
          written + heartbeatIntervalSecs ≤
            lease.due + prompt.pickup + prompt.answer
  asking :
    ∀ since, lease.pc = .asking since →
      2 * heartbeatIntervalSecs ≤ lease.due ∧
        ∀ written, lease.written pair = some written →
          written + 2 * heartbeatIntervalSecs ≤
            lease.due + prompt.pickup + prompt.answer

theorem Aged.step (aged : lease.Aged prompt pair)
    (punctual : Punctual prompt lease action)
    (unaided : Unaided lease action)
    (moves : Moves validKey pair lease action next) :
    next.Aged prompt pair := by
  have onTime := aged.onTime.step punctual moves
  cases moves with
  | elapse duration => exact ⟨onTime, aged.resting, aged.asking⟩
  | tick here due =>
      refine ⟨onTime, fun notAsking => absurd rfl (notAsking lease.now), ?_⟩
      intro since _
      obtain ⟨started, old⟩ := aged.resting (by simp [here])
      refine ⟨?_, fun written isWritten => ?_⟩
      · show _ ≤ lease.due + heartbeatIntervalSecs
        omega
      · have earlier := old written isWritten
        show _ ≤ lease.due + heartbeatIntervalSecs + _ + _
        omega
  | serve since succeeds here =>
      refine ⟨onTime, ?_, fun _ isAsking => by cases isAsking⟩
      obtain ⟨started, old⟩ := aged.asking since here
      obtain ⟨_, _, sent⟩ := aged.onTime.asking since here
      have served := aged.onTime.early
      simp only [limit, here] at served
      refine fun _ => ⟨by show _ ≤ lease.due; omega, fun last isLast => ?_⟩
      unfold written at isLast
      rw [entries_put] at isLast
      split at isLast
      · obtain rfl := Option.some.inj isLast
        show lease.now + _ ≤ lease.due + _ + _
        omega
      · have earlier := old last isLast
        show last + _ ≤ lease.due + _ + _
        omega
  | answer here =>
      exact ⟨onTime, fun _ => aged.resting (by simp [here]),
        fun _ isAsking => by cases isAsking⟩
  | refresh succeeds => cases unaided
  | delete succeeds =>
      refine ⟨onTime, fun notAsking => ?_, fun since here => ?_⟩
      · exact (aged.resting notAsking).imp_right
          (fun old written isWritten =>
            old written (written_of_delete isWritten))
      · exact (aged.asking since here).imp_right
          (fun old written isWritten =>
            old written (written_of_delete isWritten))

theorem aged_of_reaches
    (past :
      ∀ firstWrite,
        manager.entries (presenceKey pair.1 pair.2) = some firstWrite →
          firstWrite ≤ begun)
    (run : Reaches (step validKey pair)
      (fun source action =>
        Punctual prompt source action ∧ Unaided source action)
      (start manager begun) lease) : lease.Aged prompt pair := by
  have initially : (start manager begun).Aged prompt pair := by
    refine ⟨onTime_start prompt manager begun, ?_, fun _ isAsking => by
      cases isAsking⟩
    refine fun _ => ⟨Nat.le_add_left .., fun written isFirst => ?_⟩
    have before := past written isFirst
    show _ ≤ begun + heartbeatIntervalSecs + _ + _
    omega
  have kept :
      ∀ source action target,
        (Punctual prompt source action ∧ Unaided source action) →
          step validKey pair source action = some target →
            source.Aged prompt pair → target.Aged prompt pair :=
    fun _ _ _ guard moved aged =>
      aged.step guard.1 guard.2 (moves_of_step moved)
  exact run.invariant kept initially

/-- Until the next tick is due, a task that is not writing leaves the entry as
it is. -/
theorem written_until_due
    (run : Reaches (step validKey pair) Unaided lease later)
    (resting : ∀ since, lease.pc ≠ .asking since)
    (early : later.now < lease.due) {written : Nat}
    (isWritten : later.written pair = some written) :
    lease.written pair = some written := by
  have kept :
      ∀ source action target,
        Unaided source action →
          step validKey pair source action = some target →
          (lease.due ≤ source.now ∨
            (∀ since, source.pc ≠ .asking since) ∧
              source.due = lease.due ∧
              ∀ written, source.written pair = some written →
                lease.written pair = some written) →
          lease.due ≤ target.now ∨
            (∀ since, target.pc ≠ .asking since) ∧
              target.due = lease.due ∧
              ∀ written, target.written pair = some written →
                lease.written pair = some written := by
    intro source action target unaided moved known
    rcases known with late | ⟨notAsking, sameDue, same⟩
    · left
      cases moves_of_step moved with
      | elapse duration => exact Nat.le_add_right_of_le late
      | _ => exact late
    · cases moves_of_step moved with
      | elapse duration => exact Or.inr ⟨notAsking, sameDue, same⟩
      | tick here due =>
          -- The task writes again only once the tick is due.
          left
          rw [← sameDue]
          exact due
      | serve since succeeds here => exact absurd here (notAsking since)
      | answer here => exact Or.inr ⟨by simp, sameDue, same⟩
      | refresh succeeds => cases unaided
      | delete succeeds =>
          exact Or.inr ⟨notAsking, sameDue,
            fun last isLast => same last (written_of_delete isLast)⟩
  rcases run.invariant kept (Or.inr ⟨resting, rfl, fun _ => id⟩) with
    late | known
  · omega
  · exact known.2.2 written isWritten

/-- One heartbeat that fails makes a user absent who is connected all the time:
the write is not repeated, and for more than 15 seconds before the next tick
there is no entry that has not expired, unless another connection of the user
writes it. -/
theorem failed_heartbeat_expires
    (past :
      ∀ firstWrite,
        manager.entries (presenceKey pair.1 pair.2) = some firstWrite →
          firstWrite ≤ begun)
    (run : Reaches (step validKey pair)
      (fun source action =>
        Punctual prompt source action ∧ Unaided source action)
      (start manager begun) lease)
    (asking : lease.pc = .asking since)
    (failed : lease.step validKey pair (.serve false) = some next) :
    ∃ expiry, expiry + 15 < next.due ∧
      ∀ later, Reaches (step validKey pair) Unaided next later →
        expiry ≤ later.now → later.now < next.due →
          ¬ later.manager.Exists later.now pair := by
  have inTime := prompt.inTime
  have aged := aged_of_reaches past run
  cases moves_of_step failed with
  | serve _ _ _ =>
      have unchanged :
          { lease with
            manager := lease.manager.put validKey pair ⟨lease.now, false⟩
            pc := .answered : Lease }.written pair = lease.written pair := by
        unfold written
        rw [entries_put, Bool.and_false]
        rfl
      obtain ⟨started, old⟩ := aged.asking since asking
      unfold heartbeatIntervalSecs presenceTtlSecs at *
      -- The write before the one that failed is two intervals old at the next
      -- tick.
      refine ⟨lease.due + prompt.pickup + prompt.answer - 20, ?_, ?_⟩
      · show _ < lease.due
        omega
      · rintro later wait expired early ⟨last, isLast, fresh⟩
        have same := written_until_due wait (by simp) early isLast
        have earlier := old last (unchanged.symm.trans same)
        unfold presenceTtlSecs at fresh
        omega

/-- The first heartbeat is on its way. -/
def aliceAsking : Lease :=
  (aliceRun
    (fun source action =>
      Punctual swift source action ∧ Unaided source action)
    [.elapse 25, .tick, .elapse 2]).get (by decide)

def aliceFailed : Lease :=
  (aliceAsking.step (fun _ => true) ("news", "alice") (.serve false)).get
    (by decide)

theorem failed_heartbeat_expires_alice :
    ∃ expiry, expiry + 15 < aliceFailed.due ∧
      ∀ later,
        Reaches (step (fun _ => true) ("news", "alice")) Unaided aliceFailed
          later →
        expiry ≤ later.now → later.now < aliceFailed.due →
          ¬ later.manager.Exists later.now ("news", "alice") := by
  have run :
      Reaches (step (fun _ => true) ("news", "alice"))
        (fun source action =>
          Punctual swift source action ∧ Unaided source action)
        (start aliceManager 2) aliceAsking :=
    reaches_execute_get _
  have past :
      ∀ firstWrite,
        aliceManager.entries (presenceKey "news" "alice") = some firstWrite →
          firstWrite ≤ 2 := by
    intro firstWrite isFirst
    obtain rfl := Option.some.inj (aliceManager_entries.symm.trans isFirst)
    exact Nat.le_succ 1
  have asking : aliceAsking.pc = .asking 27 := by decide
  exact failed_heartbeat_expires past run asking (Option.some_get _).symm

end Lease

end TurbocableServer.Presence
