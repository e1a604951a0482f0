import Mathlib.Algebra.Order.BigOperators.Group.List
import Mathlib.Algebra.Order.Ring.Nat
import TurbocableServer.Connection.RegistryConsistency

/-!
# How much the registry tasks have left to do

A rank for the call that a connection task is in, and one for the fan-out and
the evictions that the fan-out task is busy with.  Every access of a task lowers
its rank, and a task waits only for a guard that some other task gives back.
-/

namespace TurbocableServer.Connection

open Foundations

/-- The accesses left in a `deregister` call, where `held` streams are on the
list of the connection. -/
def DeregPc.accessesLeft (held : Nat) : DeregPc → Nat
  | .takeStreams => 2 * held + 3
  | .detaching todo => 2 * todo.length + 2
  | .pruning _ todo => 2 * todo.length + 3
  | .countingDown => 1

theorem DeregPc.accessesLeft_pos (held : Nat) (pc : DeregPc) :
    0 < pc.accessesLeft held := by
  cases pc <;> simp [accessesLeft]

theorem accessesLeft_deregStep {registry : Registry} {conn : ConnId}
    {pc next : DeregPc}
    (goesOn : (deregStep registry conn pc).2 = some next) (held : Nat) :
    next.accessesLeft held <
      pc.accessesLeft (registry.streamsOf conn).length := by
  cases pc with
  | takeStreams =>
      obtain rfl := Option.some.inj goesOn
      simp [DeregPc.accessesLeft]
  | detaching todo =>
      cases todo with
      | nil =>
          simp only [deregStep] at goesOn
          split at goesOn
          · obtain rfl := Option.some.inj goesOn
            simp [DeregPc.accessesLeft]
          · cases goesOn
      | cons stream rest =>
          obtain rfl := Option.some.inj goesOn
          split <;> simp only [DeregPc.accessesLeft, List.length_cons] <;>
            omega
  | pruning stream rest =>
      obtain rfl := Option.some.inj goesOn
      simp [DeregPc.accessesLeft]
  | countingDown => cases goesOn

/-- A `deregister` call puts no stream on a list. -/
theorem length_streamsOf_deregStep_le (registry : Registry) (conn : ConnId)
    (pc : DeregPc) (tested : ConnId) :
    ((deregStep registry conn pc).1.streamsOf tested).length ≤
      (registry.streamsOf tested).length := by
  cases pc with
  | takeStreams =>
      by_cases same : tested = conn
      · subst same
        simp [deregStep, Registry.streamsOf]
      · simp [deregStep, Registry.streamsOf,
          Finmap.lookup_erase_ne same]
  | detaching todo => cases todo <;> exact Nat.le_refl _
  | pruning stream rest =>
      show (((registry.removeIfEmpty stream).streamsOf tested)).length ≤ _
      unfold Registry.removeIfEmpty
      split <;> exact Nat.le_refl _
  | countingDown => exact Nat.le_refl _

/-- The accesses left in the call that a connection task is in.  A task that
has begun to deregister has no streams on its list any more. -/
def TaskPc.accessesLeft : TaskPc → Nat
  | .insertingStreams => 2
  | .countingUp => 1
  | .pushing _ => 2
  | .recording _ => 1
  | .pruning _ => 2
  | .forgetting _ => 1
  | .deregistering pc => pc.accessesLeft 0
  | .unborn | .ready | .gone => 0

/-- The task is registered and has not begun to deregister. -/
def TaskPc.serves : TaskPc → Bool
  | .unborn | .deregistering _ | .gone => false
  | _ => true

/-- The task deregisters or has deregistered. -/
def TaskPc.departs : TaskPc → Bool
  | .deregistering _ | .gone => true
  | _ => false

/-- The connection whose task makes an access. -/
def RegAction.actor : RegAction → Option ConnId
  | .register conn _ => some conn
  | .subscribe conn _ => some conn
  | .unsubscribe conn _ => some conn
  | .deregister conn => some conn
  | .advance conn => some conn
  | .fanout _ | .deliver _ | .release | .evict => none

namespace RegSystem

variable {sys next : RegSystem} {conn : ConnId} {action : RegAction}

/-! ## Connection tasks -/

theorem Steps.task_of_ne_actor (steps : Steps sys action next)
    (notActor : action.actor ≠ some conn) :
    next.task conn = sys.task conn := by
  have different :
      ∀ {actor : ConnId}, action.actor = some actor → conn ≠ actor := by
    rintro actor isActor rfl
    exact notActor isActor
  cases steps with
  | register | subscribe | unsubscribe =>
      exact move_task_of_ne sys (different rfl) _ _
  | deregister => exact taskDeregister_task_of_ne sys (different rfl) _
  | insertConnStreams | countUp | push | record | prune | forget =>
      exact move_task_of_ne sys (different rfl) _ _
  | deregStep => exact taskDeregister_task_of_ne sys (different rfl) _
  | evict => rw [fanDeregister_task]
  | _ => rfl

/-- Only `register` brings a task to life. -/
theorem Steps.task_of_unborn (steps : Steps sys action next)
    (notRegister : ∀ entry, action ≠ .register conn entry)
    (isUnborn : sys.task conn = .unborn) : next.task conn = .unborn := by
  by_cases isActor : action.actor = some conn
  · cases steps with
    | register other entry here =>
        obtain rfl := Option.some.inj isActor
        exact absurd rfl (notRegister entry)
    | subscribeIgnored => exact isUnborn
    | subscribe other stream held here | unsubscribe other stream here
    | deregister other here | insertConnStreams other here
    | countUp other here | push other stream here | record other stream here
    | prune other stream here | forget other stream here
    | deregStep other pc here =>
        obtain rfl := Option.some.inj isActor
        cases isUnborn.symm.trans here
    | _ => cases isActor
  · rw [steps.task_of_ne_actor isActor]
    exact isUnborn

/-- A connection task leaves the fan-out task where it is. -/
theorem Steps.fan_of_actor (steps : Steps sys action next)
    (isActor : action.actor = some conn) : next.fan = sys.fan := by
  cases steps with
  | deregister | deregStep => exact taskDeregister_fan sys _ _
  | fanoutMissing | fanout | refused | passed | release | evict =>
      cases isActor
  | _ => rfl

theorem departs_taskDeregister (sys : RegSystem) (conn : ConnId)
    (pc : DeregPc) :
    ((sys.taskDeregister conn pc).task conn).departs = true := by
  rw [taskDeregister]
  split
  · rw [move_task_self]
    rfl
  · rename_i registry steps
    show ((sys.move conn registry .gone).task conn).departs = true
    rw [move_task_self]
    rfl

/-- A call of a task that serves ends with the task still serving, and a
`deregister` call is not given up. -/
theorem Steps.task_of_advance (steps : Steps sys (.advance conn) next) :
    (sys.task conn).serves = true ∧ (next.task conn).serves = true ∨
      (∃ pc, sys.task conn = .deregistering pc) ∧
        (next.task conn).departs = true := by
  cases steps with
  | insertConnStreams _ here | countUp _ here | push _ stream here unlocked
  | record _ stream here | prune _ stream here unlocked
  | forget _ stream here => simp [here, TaskPc.serves]
  | deregStep _ pc here unlocked =>
      exact Or.inr ⟨⟨pc, here⟩, departs_taskDeregister sys conn pc⟩

private theorem accessesLeft_taskDeregister {pc : DeregPc}
    (noStreams : sys.reg.streamsOf conn = []) :
    ((sys.taskDeregister conn pc).task conn).accessesLeft <
      pc.accessesLeft 0 := by
  rw [taskDeregister]
  split
  · rename_i registry following steps
    have goesOn : (deregStep sys.reg conn pc).2 = some following := by
      rw [steps]
    have lower := accessesLeft_deregStep goesOn 0
    rw [noStreams] at lower
    rw [move_task_self]
    exact lower
  · rename_i registry steps
    show ((sys.move conn registry .gone).task conn).accessesLeft < _
    rw [move_task_self]
    exact pc.accessesLeft_pos 0

private theorem accessesLeft_move {registry : Registry} {pc : TaskPc}
    (lower : pc.accessesLeft < (sys.task conn).accessesLeft) :
    ((sys.move conn registry pc).task conn).accessesLeft <
        (sys.task conn).accessesLeft ∧
      (∀ other, other ≠ conn →
        (sys.move conn registry pc).task other = sys.task other) ∧
      (sys.move conn registry pc).fan = sys.fan := by
  rw [move_task_self]
  exact ⟨lower, fun _ different => move_task_of_ne sys different registry pc,
    rfl⟩

/-- An access of a connection task brings it closer to the end of its call and
moves no other task. -/
theorem accessesLeft_lt_of_advance (sound : sys.Sound)
    (moved : sys.step (.advance conn) = some next) :
    (next.task conn).accessesLeft < (sys.task conn).accessesLeft ∧
      (∀ other, other ≠ conn → next.task other = sys.task other) ∧
      next.fan = sys.fan := by
  cases steps_of_step moved with
  | insertConnStreams _ here | countUp _ here | push _ stream here unlocked
  | record _ stream here | prune _ stream here unlocked
  | forget _ stream here =>
      apply accessesLeft_move
      simp [here, TaskPc.accessesLeft]
  | deregStep _ pc here unlocked =>
      have noStreams : sys.reg.streamsOf conn = [] := by
        have noEntry := (sound.coherent conn).detached.1 pc here
        rw [Registry.streamsOf, show sys.reg.connStreams.lookup conn = none
          from noEntry]
        rfl
      rw [here]
      exact ⟨accessesLeft_taskDeregister noStreams,
        fun _ different => taskDeregister_task_of_ne sys different pc,
        taskDeregister_fan sys conn pc⟩

/-- A connection task is inside a registry call. -/
def Calls (sys : RegSystem) (conn : ConnId) : Prop :=
  sys.task conn ≠ .unborn ∧ sys.task conn ≠ .ready ∧ sys.task conn ≠ .gone

/-- Without a read guard in its way, a call goes on. -/
theorem exists_advance (calls : sys.Calls conn)
    (unlocked : ∀ stream, sys.readLocked stream = false) :
    ∃ next, sys.step (.advance conn) = some next := by
  show ∃ next, sys.advance conn = some next
  obtain ⟨born, busy, present⟩ := calls
  cases here : sys.task conn with
  | unborn => exact absurd here born
  | ready => exact absurd here busy
  | gone => exact absurd here present
  | insertingStreams | countingUp => exact ⟨_, by rw [advance, here]⟩
  | pushing stream => exact ⟨_, by simp [advance, here, unlocked]; rfl⟩
  | recording stream => exact ⟨_, by rw [advance, here]⟩
  | pruning stream => exact ⟨_, by simp [advance, here, unlocked]; rfl⟩
  | forgetting stream => exact ⟨_, by rw [advance, here]⟩
  | deregistering pc =>
      have free : (pc.writes.map sys.readLocked).getD false = false := by
        cases pc.writes <;> simp [unlocked]
      exact ⟨_, by simp [advance, here, free]; rfl⟩

/-! ## The fan-out task -/

/-- The accesses that the evictions of these connections take. -/
def evictionsLeft (registry : Registry) (conns : List ConnId) : Nat :=
  (conns.map (fun conn =>
    DeregPc.takeStreams.accessesLeft (registry.streamsOf conn).length)).sum

/-- A bound on the accesses of the fan-out task for the message it is busy
with. -/
def fanLeft (sys : RegSystem) : Nat :=
  match sys.fan with
  | .idle => 0
  | .scanning _ todo evicted =>
      todo.length + 1 + evictionsLeft sys.reg (todo ++ evicted)
  | .evicting conn pc rest =>
      pc.accessesLeft (sys.reg.streamsOf conn).length +
        evictionsLeft sys.reg rest

theorem evictionsLeft_deregStep_le (registry : Registry) (conn : ConnId)
    (pc : DeregPc) (conns : List ConnId) :
    evictionsLeft (deregStep registry conn pc).1 conns ≤
      evictionsLeft registry conns := by
  apply List.sum_le_sum
  intro tested _
  have shorter := length_streamsOf_deregStep_le registry conn pc tested
  simp only [DeregPc.accessesLeft]
  omega

theorem fanLeft_lt_of_deliver {accepted : Bool}
    (moved : sys.step (.deliver accepted) = some next) :
    next.fanLeft < sys.fanLeft := by
  cases steps_of_step moved with
  | refused stream target todo evicted here present =>
      simp only [fanLeft, here, evictionsLeft, List.map_append, List.sum_append,
        List.map_cons, List.sum_cons, List.map_nil, List.sum_nil,
        List.length_cons]
      omega
  | passed stream target todo evicted accepted here served =>
      simp only [fanLeft, here, evictionsLeft, List.map_append, List.sum_append,
        List.map_cons, List.sum_cons, List.length_cons]
      omega

theorem fanLeft_evictNext (conns : List ConnId)
    (isNext : sys.fan = evictNext conns) :
    sys.fanLeft = evictionsLeft sys.reg conns := by
  cases conns with
  | nil => rw [fanLeft, isNext]; rfl
  | cons conn rest =>
      rw [fanLeft, isNext]
      simp [evictNext, evictionsLeft]

theorem fanLeft_lt_of_release (moved : sys.step .release = some next) :
    next.fanLeft < sys.fanLeft := by
  cases steps_of_step moved with
  | release stream evicted here =>
      rw [fanLeft_evictNext evicted rfl, fanLeft, here]
      simp

theorem fanLeft_lt_of_evict (moved : sys.step .evict = some next) :
    next.fanLeft < sys.fanLeft := by
  cases steps_of_step moved with
  | evict target pc rest here unlocked =>
      have before :
          sys.fanLeft =
            pc.accessesLeft (sys.reg.streamsOf target).length +
              evictionsLeft sys.reg rest := by
        rw [fanLeft, here]
      have fewer := evictionsLeft_deregStep_le sys.reg target pc rest
      rw [before, fanDeregister]
      split
      · rename_i registry following steps
        rw [steps] at fewer
        have goesOn : (deregStep sys.reg target pc).2 = some following := by
          rw [steps]
        have lower :=
          accessesLeft_deregStep goesOn (registry.streamsOf target).length
        simp only at fewer
        simp only [fanLeft]
        omega
      · rename_i registry steps
        rw [steps] at fewer
        have positive :=
          pc.accessesLeft_pos (sys.reg.streamsOf target).length
        rw [fanLeft_evictNext rest rfl]
        simp only at fewer ⊢
        omega

/-- While the fan-out task evicts, it holds no read guard. -/
theorem readLocked_of_not_scanning
    (notScanning : ∀ stream todo evicted,
      sys.fan ≠ .scanning stream todo evicted) (stream : String) :
    sys.readLocked stream = false := by
  unfold readLocked
  split
  · rename_i held todo evicted scanning
    exact absurd scanning (notScanning held todo evicted)
  · rfl

/-- The fan-out task waits only for a `subscribe` call to end. -/
theorem exists_evict {target : ConnId} {pc : DeregPc} {rest : List ConnId}
    (evicting : sys.fan = .evicting target pc rest)
    (unlocked : sys.connStreamsLocked target = false) :
    ∃ next, sys.step .evict = some next := by
  simp [step, evicting, unlocked]

theorem calls_of_connStreamsLocked
    (locked : sys.connStreamsLocked conn = true) : sys.Calls conn := by
  unfold connStreamsLocked at locked
  split at locked
  · rename_i stream pushing
    simp [Calls, pushing]
  · rename_i stream recording
    simp [Calls, recording]
  · cases locked

end RegSystem

end TurbocableServer.Connection
