import TurbocableServer.Connection.RegistryConsistency

/-!
# Where subscriptions come from

A connection gets on a subscriber list, on its own stream list or into a scan of
the fan-out task only through a `subscribe` call of its own for that stream.
-/

namespace TurbocableServer.Connection

open Foundations

/-- The connection is on the list of `stream` or about to be. -/
def ConnView.Wants (view : ConnView) (stream : String) : Prop :=
  view.listed stream ∨ stream ∈ view.held.getD [] ∨
    view.task = .pushing stream ∨ view.task = .recording stream

theorem ConnView.Wants.of_step {view next : ConnView}
    {effect : SharedEffect} {stream : String}
    (moved : ViewStep view effect next) (wants : next.Wants stream) :
    view.Wants stream ∨
      view.task = .ready ∧ next.task = .pushing stream := by
  cases moved with
  | forget forgotten atForget =>
      cases present : view.held with
      | none | some held => grind [ConnView.Wants]
  | _ => grind [ConnView.Wants]

namespace RegSystem

variable {sys next : RegSystem} {conn : ConnId} {stream : String}

/-- A task that waits for its next call begins only calls of its own. -/
theorem Steps.task_of_ready {action : RegAction}
    (steps : Steps sys action next) (ready : sys.task conn = .ready) :
    next.task conn = .ready ∨
      (∃ stream, action = .subscribe conn stream ∧
        next.task conn = .pushing stream) ∨
      (∃ stream, action = .unsubscribe conn stream ∧
        (next.task conn = .pruning stream ∨
          next.task conn = .forgetting stream)) ∨
      action = .deregister conn ∧
        ∃ pc, next.task conn = .deregistering pc := by
  have stays :
      ∀ {target : ConnId} {registry : Registry} {pc before : TaskPc},
        sys.task target = before → before ≠ .ready →
          (sys.move target registry pc).task conn = .ready := by
    intro target registry pc before here busy
    have different : conn ≠ target := by
      rintro rfl
      exact busy (here.symm.trans ready)
    rw [move_task_of_ne sys different, ready]
  cases steps with
  | subscribe target wanted held atReady present absent =>
      by_cases same : conn = target
      · subst same
        exact Or.inr (Or.inl ⟨wanted, rfl, move_task_self ..⟩)
      · left
        rw [move_task_of_ne sys same, ready]
  | unsubscribe target wanted atReady unlocked =>
      by_cases same : conn = target
      · subst same
        refine Or.inr (Or.inr (Or.inl ⟨wanted, rfl, ?_⟩))
        rw [move_task_self]
        split
        · exact Or.inl rfl
        · exact Or.inr rfl
      · left
        rw [move_task_of_ne sys same, ready]
  | deregister target atReady =>
      by_cases same : conn = target
      · subst same
        exact Or.inr (Or.inr (Or.inr ⟨rfl, _, move_task_self ..⟩))
      · left
        rw [taskDeregister_task_of_ne sys same, ready]
  | deregStep target pc here unlocked =>
      left
      have different : conn ≠ target := by
        rintro rfl
        rw [ready] at here
        cases here
      rw [taskDeregister_task_of_ne sys different, ready]
  | evict target pc rest here unlocked =>
      left
      rw [fanDeregister_task, ready]
  | register target entry unborn => exact Or.inl (stays unborn (by simp))
  | insertConnStreams target here | countUp target here
  | push target wanted here unlocked | record target wanted here
  | prune target wanted here unlocked | forget target wanted here =>
      exact Or.inl (stays here (by simp))
  | _ => exact Or.inl ready

/-- Only the `subscribe` call for a stream leads to its subscriber list. -/
theorem Steps.subscribe_of_pushing {action : RegAction}
    (steps : Steps sys action next) (ready : sys.task conn = .ready)
    (pushing : next.task conn = .pushing stream) :
    action = .subscribe conn stream := by
  rcases steps.task_of_ready ready with
    still | ⟨asked, isCall, there⟩ | ⟨asked, -, there | there⟩ |
      ⟨-, pc, there⟩
  · rw [pushing] at still
    cases still
  · rw [pushing] at there
    cases there
    exact isCall
  · rw [pushing] at there
    cases there
  · rw [pushing] at there
    cases there
  · rw [pushing] at there
    cases there

/-- A scan starts with the subscribers of a stream and goes through them. -/
theorem Steps.scanning_cases {action : RegAction}
    {todo evicted : List ConnId} (steps : Steps sys action next)
    (scanning : next.fan = .scanning stream todo evicted) :
    (sys.fan = .idle ∧ action = .fanout stream ∧
        todo = sys.reg.subscribers stream ∧ evicted = []) ∨
      ∃ before refused,
        sys.fan = .scanning stream before refused ∧
          (before = todo ∧ refused = evicted ∨
            ∃ served, before = served :: todo ∧
              (refused = evicted ∨ refused ++ [served] = evicted)) := by
  have notEvictNext :
      ∀ waiting, evictNext waiting ≠ .scanning stream todo evicted := by
    intro waiting
    cases waiting <;> simp [evictNext]
  cases steps with
  | fanout started subscribers idle present =>
      cases scanning
      exact Or.inl ⟨idle, rfl, by simp [Registry.subscribers, present], rfl⟩
  | refused scanned target remaining refused here present =>
      cases scanning
      exact Or.inr ⟨_, _, here, Or.inr ⟨target, rfl, Or.inr rfl⟩⟩
  | passed scanned target remaining refused accepted here served =>
      cases scanning
      exact Or.inr ⟨_, _, here, Or.inr ⟨target, rfl, Or.inl rfl⟩⟩
  | release scanned refused here =>
      exact absurd scanning (notEvictNext refused)
  | evict target pc rest here unlocked =>
      rw [fanDeregister] at scanning
      split at scanning
      · cases scanning
      · exact absurd scanning (notEvictNext rest)
  | deregister target ready | deregStep target pc here unlocked =>
      rw [taskDeregister_fan] at scanning
      exact Or.inr ⟨_, _, scanning, Or.inl ⟨rfl, rfl⟩⟩
  | _ => exact Or.inr ⟨_, _, scanning, Or.inl ⟨rfl, rfl⟩⟩

/-- The system connects `conn` with `stream`. -/
def Wants (sys : RegSystem) (conn : ConnId) (stream : String) : Prop :=
  (sys.view conn).Wants stream ∨
    ∃ todo evicted,
      sys.fan = .scanning stream todo evicted ∧ conn ∈ todo

theorem Wants.of_step {action : RegAction}
    (sound : sys.Sound) (moved : sys.step action = some next)
    (wants : next.Wants conn stream) :
    sys.Wants conn stream ∨ action = .subscribe conn stream := by
  have steps := steps_of_step moved
  rcases wants with inView | ⟨todo, evicted, scanning, member⟩
  · have viewStep :
        next.view conn = sys.view conn ∨
          ∃ effect, ViewStep (sys.view conn) effect (next.view conn) := by
      rcases steps.moves sound.coherent sound.pendingBorn with
        ⟨-, sameView⟩ | ⟨target, effect, moves⟩
      · exact Or.inl (congrFun sameView conn)
      · exact moves.view_cases conn
    rcases viewStep with same | ⟨effect, viewMoved⟩
    · rw [same] at inView
      exact Or.inl (Or.inl inView)
    · rcases ConnView.Wants.of_step viewMoved inView with
        before | ⟨ready, pushing⟩
      · exact Or.inl (Or.inl before)
      · exact Or.inr (steps.subscribe_of_pushing ready pushing)
  · left
    rcases steps.scanning_cases scanning with
      ⟨-, -, isStart, -⟩ | ⟨before, refused, was, sameTodo | served⟩
    · rw [isStart] at member
      exact Or.inl (Or.inl member)
    · exact Or.inr ⟨before, refused, was, sameTodo.1 ▸ member⟩
    · obtain ⟨target, isBefore, -⟩ := served
      refine Or.inr ⟨before, refused, was, ?_⟩
      rw [isBefore]
      exact List.mem_cons_of_mem target member

end RegSystem

end TurbocableServer.Connection
