import TurbocableServer.Connection.RegistryProvenance

/-!
# What the fan-out owes a connection

A connection that is registered and on the list of a stream stays there until
it unsubscribes or some `deregister` call takes it off, and then it never
returns to a list.  A connection the fan-out task has given up is served by no
later scan.
-/

namespace TurbocableServer.Connection

open Foundations

/-- The fan-out task has given up the connection: it is among the ids to evict
and no longer among those to serve. -/
def FanPc.GivenUp : FanPc → ConnId → Prop
  | .idle, _ => False
  | .scanning _ todo evicted, conn => conn ∈ evicted ∧ conn ∉ todo
  | .evicting target _ rest, conn => conn = target ∨ conn ∈ rest

namespace ConnView

variable {view next : ConnView} {effect : SharedEffect} {stream : String}

theorem not_registered_step (moved : ViewStep view effect next)
    (born : view.task.Born) (absent : ¬ view.registered) :
    ¬ next.registered := by
  cases moved <;> grind [TaskPc.Born]

/-- An entry of `conn_streams` that was taken away does not come back. -/
theorem held_eq_none_step (moved : ViewStep view effect next)
    (born : view.task.Born) (taken : view.held = none) : next.held = none := by
  cases moved <;> grind [TaskPc.Born]

/-- Without such an entry the connection gets on no list. -/
theorem not_listed_step (coherent : view.Coherent)
    (moved : ViewStep view effect next) (taken : view.held = none)
    (unlisted : ¬ view.listed stream) : ¬ next.listed stream := by
  have guarded := coherent.guardHeld
  cases moved <;> grind [GuardHeld]

/-- A connection leaves a list by its own `unsubscribe` or when its entry in
`conn_streams` has been taken away. -/
theorem listed_step (coherent : view.Coherent)
    (moved : ViewStep view effect next) (isListed : view.listed stream) :
    next.listed stream ∨ next.task.Born ∧ next.held = none ∨
      view.task = .ready ∧
        (next.task = .pruning stream ∨ next.task = .forgetting stream) := by
  have detached := coherent.detached
  have stages := coherent.birthStages
  cases moved with
  | retain wanted emptied ready =>
      cases emptied <;> grind
  | _ => grind [Detached, BirthStages, TaskPc.Born]

theorem pushing_of_step (moved : ViewStep view effect next)
    (pushing : next.task = .pushing stream) :
    view.task = .pushing stream ∨ view.task = .ready := by
  cases moved <;> grind

end ConnView

namespace RegSystem

variable {sys next : RegSystem} {action : RegAction}
variable {conn : ConnId} {stream : String}

/-- The connection is registered and on the list of `stream`. -/
def Attached (sys : RegSystem) (conn : ConnId) (stream : String) : Prop :=
  conn ∈ sys.reg.connections ∧ conn ∈ sys.reg.subscribers stream

/-- The scan under way is for `stream` and has yet to serve the connection. -/
def Awaits (sys : RegSystem) (conn : ConnId) (stream : String) : Prop :=
  ∃ todo evicted, sys.fan = .scanning stream todo evicted ∧ conn ∈ todo

/-- No message of any stream will be enqueued to the connection. -/
def Doomed (sys : RegSystem) (conn : ConnId) : Prop :=
  (sys.task conn).Born ∧
    (conn ∉ sys.reg.connections ∨ sys.fan.GivenUp conn)

/-- No message of `stream` will be enqueued to the connection. -/
def Halted (sys : RegSystem) (conn : ConnId) (stream : String) : Prop :=
  sys.Doomed conn ∨
    (sys.task conn).Born ∧ sys.reg.connStreams.lookup conn = none ∧
      conn ∉ sys.reg.subscribers stream ∧ ¬ sys.Awaits conn stream

/-- A scan serves every subscriber once. -/
def ScanNodup (sys : RegSystem) : Prop :=
  ∀ stream todo evicted, sys.fan = .scanning stream todo evicted → todo.Nodup

theorem ScanNodup.step (nodup : sys.ScanNodup) (sound : sys.Sound)
    (steps : Steps sys action next) : next.ScanNodup := by
  intro scanned todo evicted scanning
  rcases steps.scanning_cases scanning with
    ⟨-, -, isStart, -⟩ | ⟨before, refused, was, ⟨same, -⟩ | ⟨served, same, -⟩⟩
  · rw [isStart]
    exact sound.subscribersNodup scanned
  · exact same ▸ nodup scanned before refused was
  · have whole := nodup scanned before refused was
    rw [same] at whole
    exact (List.nodup_cons.mp whole).2

/-! ## Views -/

/-- A step changes the view of a connection as an access does, if at all. -/
theorem Steps.view_cases (sound : sys.Sound) (steps : Steps sys action next)
    (conn : ConnId) :
    next.view conn = sys.view conn ∨
      ∃ effect, ViewStep (sys.view conn) effect (next.view conn) := by
  rcases steps.moves sound.coherent sound.pendingBorn with
    ⟨-, sameView⟩ | ⟨target, effect, moves⟩
  · exact Or.inl (congrFun sameView conn)
  · exact moves.view_cases conn

theorem Steps.born (sound : sys.Sound) (steps : Steps sys action next)
    (born : (sys.task conn).Born) : (next.task conn).Born := by
  rcases steps.view_cases sound conn with same | ⟨effect, moved⟩
  · rw [show next.task conn = sys.task conn from congrArg ConnView.task same]
    exact born
  · exact ConnView.born_step born moved

/-- Once its registration is over, a connection does not come back. -/
theorem Steps.not_registered (sound : sys.Sound)
    (steps : Steps sys action next) (born : (sys.task conn).Born)
    (absent : conn ∉ sys.reg.connections) :
    conn ∉ next.reg.connections := by
  have absentView : ¬ (sys.view conn).registered := absent
  suffices gone : ¬ (next.view conn).registered from gone
  rcases steps.view_cases sound conn with same | ⟨effect, moved⟩
  · rw [same]
    exact absentView
  · exact ConnView.not_registered_step moved born absentView

/-- While a scan holds the entry of a stream, nobody joins or leaves it. -/
theorem Steps.subscribers_of_scanning {todo evicted : List ConnId}
    (steps : Steps sys action next)
    (scanning : sys.fan = .scanning stream todo evicted) :
    conn ∈ next.reg.subscribers stream ↔ conn ∈ sys.reg.subscribers stream := by
  have locked : sys.readLocked stream = true := by
    simp [readLocked, scanning]
  have other :
      ∀ {wanted}, sys.readLocked wanted = false → stream ≠ wanted := by
    rintro wanted unlocked rfl
    rw [locked] at unlocked
    cases unlocked
  cases steps with
  | unsubscribe target wanted ready unlocked =>
      rw [move, Registry.mem_subscribers_retainSubscribers]
      simp [other unlocked]
  | push target wanted here unlocked =>
      rw [move, Registry.mem_subscribers_pushSubscriber]
      simp [other unlocked]
  | prune target wanted here unlocked => simp [move]
  | deregister target ready => exact Iff.rfl
  | deregStep target pc here unlocked =>
      rw [taskDeregister_reg]
      cases pc with
      | takeStreams => exact Iff.rfl
      | detaching streams =>
          cases streams with
          | nil => exact Iff.rfl
          | cons first rest =>
              rw [Connection.deregStep,
                Registry.mem_subscribers_retainSubscribers]
              simp [other (unlocked first rfl)]
      | pruning pruned rest => simp [Connection.deregStep]
      | countingDown => exact Iff.rfl
  | evict target pc rest here unlocked =>
      rw [scanning] at here
      cases here
  | _ => exact Iff.rfl

/-! ## Scans -/

section Deliver

variable {todo evicted : List ConnId}

theorem step_deliver_true
    (scanning : sys.fan = .scanning stream (conn :: todo) evicted) :
    sys.step (.deliver true) =
      some { sys with fan := .scanning stream todo evicted } := by
  simp [step, scanning]

theorem step_deliver_false
    (scanning : sys.fan = .scanning stream (conn :: todo) evicted)
    (present : conn ∈ sys.reg.connections) :
    sys.step (.deliver false) =
      some { sys with fan := .scanning stream todo (evicted ++ [conn]) } := by
  simp [step, scanning, present]

end Deliver

theorem Awaits.of_step (steps : Steps sys action next)
    (awaits : next.Awaits conn stream) :
    sys.Awaits conn stream ∨
      action = .fanout stream ∧ conn ∈ sys.reg.subscribers stream := by
  obtain ⟨todo, evicted, scanning, inTodo⟩ := awaits
  rcases steps.scanning_cases scanning with
    ⟨-, isFanout, isStart, -⟩ |
      ⟨before, refused, was, ⟨same, -⟩ | ⟨served, same, -⟩⟩
  · exact Or.inr ⟨isFanout, isStart ▸ inTodo⟩
  · exact Or.inl ⟨before, refused, was, same ▸ inTodo⟩
  · refine Or.inl ⟨before, refused, was, ?_⟩
    rw [same]
    exact List.mem_cons_of_mem served inTodo

/-- A scan passes a connection only by serving it. -/
theorem Awaits.step (awaits : sys.Awaits conn stream)
    (steps : Steps sys action next) :
    next.Awaits conn stream ∨
      ∃ accepted todo evicted,
        action = .deliver accepted ∧
          sys.fan = .scanning stream (conn :: todo) evicted := by
  obtain ⟨todo, evicted, scanning, inTodo⟩ := awaits
  cases steps with
  | fanout wanted subscribers idle present =>
      rw [idle] at scanning
      cases scanning
  | refused scanned target remaining waiting here present =>
      cases here.symm.trans scanning
      rcases List.mem_cons.mp inTodo with rfl | inRest
      · exact Or.inr ⟨false, remaining, _, rfl, here⟩
      · exact Or.inl ⟨remaining, _, rfl, inRest⟩
  | passed scanned target remaining waiting accepted here _ =>
      cases here.symm.trans scanning
      rcases List.mem_cons.mp inTodo with rfl | inRest
      · exact Or.inr ⟨accepted, remaining, _, rfl, here⟩
      · exact Or.inl ⟨remaining, _, rfl, inRest⟩
  | release scanned waiting here =>
      cases here.symm.trans scanning
      cases inTodo
  | evict target pc rest here unlocked =>
      cases here.symm.trans scanning
  | deregister target ready | deregStep target pc here unlocked =>
      left
      rw [Awaits, taskDeregister_fan]
      exact ⟨todo, evicted, scanning, inTodo⟩
  | _ => exact Or.inl ⟨todo, evicted, scanning, inTodo⟩

/-- A step that neither starts a scan nor serves the connection changes
nothing about what it waits for. -/
theorem awaits_iff_of_step (moved : sys.step action = some next)
    (noScan : ∀ wanted, action ≠ .fanout wanted)
    (notServed :
      ∀ accepted scanned todo evicted, action = .deliver accepted →
        sys.fan ≠ .scanning scanned (conn :: todo) evicted) :
    next.Awaits conn stream ↔ sys.Awaits conn stream := by
  have steps := steps_of_step moved
  constructor
  · intro awaits
    rcases Awaits.of_step steps awaits with before | ⟨isFanout, -⟩
    · exact before
    · exact absurd isFanout (noScan stream)
  · intro awaits
    rcases awaits.step steps with after | ⟨accepted, todo, evicted, isDeliver,
      scanning⟩
    · exact after
    · exact absurd scanning (notServed accepted stream todo evicted isDeliver)

/-! ## Connections that are given up -/

theorem givenUp_evictNext {evicted : List ConnId} (member : conn ∈ evicted) :
    (evictNext evicted).GivenUp conn := by
  cases evicted with
  | nil => cases member
  | cons first rest => exact List.mem_cons.mp member

/-- A connection the fan-out task has given up stays so until it is gone. -/
theorem Steps.givenUp (soundNext : next.Sound) (steps : Steps sys action next)
    (givenUp : sys.fan.GivenUp conn) :
    conn ∉ next.reg.connections ∨ next.fan.GivenUp conn := by
  cases steps with
  | fanoutMissing wanted idle missing => exact Or.inr givenUp
  | fanout wanted subscribers idle present =>
      rw [idle] at givenUp
      cases givenUp
  | refused scanned target todo evicted here present =>
      rw [here] at givenUp
      obtain ⟨waiting, served⟩ := givenUp
      exact Or.inr ⟨List.mem_append_left _ waiting,
        fun inTodo => served (List.mem_cons_of_mem target inTodo)⟩
  | passed scanned target todo evicted accepted here _ =>
      rw [here] at givenUp
      obtain ⟨waiting, served⟩ := givenUp
      exact Or.inr ⟨waiting,
        fun inTodo => served (List.mem_cons_of_mem target inTodo)⟩
  | release scanned evicted here =>
      rw [here] at givenUp
      exact Or.inr (givenUp_evictNext givenUp.1)
  | evict target pc rest here unlocked =>
      rw [here] at givenUp
      unfold fanDeregister at soundNext ⊢
      split at soundNext
      · exact Or.inr givenUp
      · rcases givenUp with rfl | inRest
        · -- The call has returned, so the id is gone.
          have absent :=
            soundNext.deregisteredAbsent conn
              (List.mem_append_right _ (List.mem_singleton_self conn))
          exact Or.inl absent.2.1
        · exact Or.inr (givenUp_evictNext inRest)
  | deregister target ready | deregStep target pc here unlocked =>
      rw [taskDeregister_fan]
      exact Or.inr givenUp
  | _ => exact Or.inr givenUp

theorem Doomed.step (doomed : sys.Doomed conn) (sound : sys.Sound)
    (moved : sys.step action = some next) : next.Doomed conn := by
  have steps := steps_of_step moved
  obtain ⟨born, absent | givenUp⟩ := doomed
  · exact ⟨steps.born sound born,
      Or.inl (steps.not_registered sound born absent)⟩
  · exact ⟨steps.born sound born, steps.givenUp (sound.step moved) givenUp⟩

/-- A scan does not come to a connection that is given up. -/
theorem Doomed.not_served {todo evicted : List ConnId}
    (doomed : sys.Doomed conn)
    (scanning : sys.fan = .scanning stream (conn :: todo) evicted) :
    conn ∉ sys.reg.connections := by
  obtain ⟨-, absent | givenUp⟩ := doomed
  · exact absent
  · rw [scanning] at givenUp
    exact absurd (List.mem_cons_self ..) givenUp.2

/-! ## Connections on a list -/

theorem Halted.step (halted : sys.Halted conn stream) (sound : sys.Sound)
    (moved : sys.step action = some next) : next.Halted conn stream := by
  have steps := steps_of_step moved
  rcases halted with doomed | ⟨born, taken, unlisted, notAwaited⟩
  · exact Or.inl (doomed.step sound moved)
  · have takenView : (sys.view conn).held = none := taken
    have unlistedView : ¬ (sys.view conn).listed stream := unlisted
    have after :
        (next.view conn).held = none ∧ ¬ (next.view conn).listed stream := by
      rcases steps.view_cases sound conn with same | ⟨effect, viewMoved⟩
      · rw [same]
        exact ⟨takenView, unlistedView⟩
      · exact ⟨ConnView.held_eq_none_step viewMoved born takenView,
          ConnView.not_listed_step (sound.coherent conn) viewMoved takenView
            unlistedView⟩
    refine Or.inr ⟨steps.born sound born, after.1, after.2, ?_⟩
    rintro ⟨todo, evicted, scanning, inTodo⟩
    rcases steps.scanning_cases scanning with
      ⟨-, -, isStart, -⟩ |
        ⟨before, refused, was, ⟨same, -⟩ | ⟨served, same, -⟩⟩
    · exact unlisted (isStart ▸ inTodo)
    · exact notAwaited ⟨before, refused, was, same ▸ inTodo⟩
    · refine notAwaited ⟨before, refused, was, ?_⟩
      rw [same]
      exact List.mem_cons_of_mem served inTodo

theorem Halted.not_served {todo evicted : List ConnId}
    (halted : sys.Halted conn stream)
    (scanning : sys.fan = .scanning stream (conn :: todo) evicted) :
    conn ∉ sys.reg.connections := by
  rcases halted with doomed | ⟨-, -, -, notAwaited⟩
  · exact doomed.not_served scanning
  · exact absurd ⟨_, evicted, scanning, List.mem_cons_self ..⟩ notAwaited

/-- A connection stays on a list until it unsubscribes or is served no
more. -/
theorem Attached.step (attached : sys.Attached conn stream)
    (sound : sys.Sound) (moved : sys.step action = some next)
    (stays : action ≠ .unsubscribe conn stream) :
    next.Attached conn stream ∨ next.Halted conn stream := by
  have steps := steps_of_step moved
  obtain ⟨registered, listed⟩ := attached
  have born : (sys.task conn).Born :=
    (sound.coherent conn).born_of_listed listed
  by_cases present : conn ∈ next.reg.connections
  · rcases steps.view_cases sound conn with same | ⟨effect, viewMoved⟩
    · left
      refine ⟨present, ?_⟩
      have listedView : (sys.view conn).listed stream := listed
      rw [← same] at listedView
      exact listedView
    · rcases ConnView.listed_step (sound.coherent conn) viewMoved listed with
        still | ⟨bornNext, taken⟩ | ⟨ready, leaving⟩
      · exact Or.inl ⟨present, still⟩
      · by_cases still : conn ∈ next.reg.subscribers stream
        · exact Or.inl ⟨present, still⟩
        · refine Or.inr (Or.inr ⟨bornNext, taken, still, ?_⟩)
          rintro ⟨todo, evicted, scanning, -⟩
          apply still
          rcases steps.scanning_cases scanning with
            ⟨-, rfl, -, -⟩ | ⟨before, refused, was, -⟩
          · cases steps <;> exact listed
          · exact (steps.subscribers_of_scanning was).mpr listed
      · exfalso
        rcases steps.task_of_ready ready with
          idle | ⟨asked, -, there⟩ | ⟨asked, isCall, there⟩ | ⟨-, pc, there⟩
        · rcases leaving with here | here <;>
            cases here.symm.trans idle
        · rcases leaving with here | here <;>
            cases here.symm.trans there
        · apply stays
          rcases leaving with here | here <;> rcases there with there | there <;>
            cases here.symm.trans there <;> exact isCall
        · rcases leaving with here | here <;>
            cases here.symm.trans there
  · exact Or.inr (Or.inl ⟨steps.born sound born, Or.inl present⟩)

theorem fan_ne_scanning (unlocked : sys.readLocked stream = false)
    (todo evicted : List ConnId) :
    sys.fan ≠ .scanning stream todo evicted := by
  intro scanning
  simp [readLocked, scanning] at unlocked

/-- The access that puts a connection on the list of a stream. -/
theorem push_of_advance (pushing : sys.task conn = .pushing stream)
    (moved : sys.step (.advance conn) = some next) :
    sys.readLocked stream = false ∧
      next = sys.move conn (sys.reg.pushSubscriber stream conn)
        (.recording stream) := by
  simp only [step, advance, pushing] at moved
  split at moved
  · cases moved
  · rename_i unlocked
    exact ⟨by simpa using unlocked, (Option.some.inj moved).symm⟩

/-- `deregister` puts nobody on a list. -/
theorem mem_subscribers_of_deregStep {registry : Registry} {target : ConnId}
    {pc : DeregPc}
    (listed : conn ∈ (deregStep registry target pc).1.subscribers stream) :
    conn ∈ registry.subscribers stream := by
  cases pc with
  | takeStreams => exact listed
  | detaching streams =>
      cases streams with
      | nil => exact listed
      | cons first rest =>
          rw [deregStep, Registry.mem_subscribers_retainSubscribers] at listed
          exact listed.1
  | pruning pruned rest =>
      rw [deregStep, Registry.subscribers_removeIfEmpty] at listed
      exact listed
  | countingDown => exact listed

/-- Only the push of its `subscribe` call puts a connection on a list. -/
theorem Steps.push_of_listed (steps : Steps sys action next)
    (unlisted : conn ∉ sys.reg.subscribers stream)
    (listed : conn ∈ next.reg.subscribers stream) :
    sys.task conn = .pushing stream ∧ sys.readLocked stream = false ∧
      next = sys.move conn (sys.reg.pushSubscriber stream conn)
        (.recording stream) := by
  cases steps with
  | push target wanted here unlocked =>
      rcases (Registry.mem_subscribers_pushSubscriber ..).mp listed with
        ⟨rfl, rfl⟩ | before
      · exact ⟨here, unlocked, rfl⟩
      · exact absurd before unlisted
  | unsubscribe target wanted ready unlocked =>
      rw [move, Registry.mem_subscribers_retainSubscribers] at listed
      exact absurd listed.1 unlisted
  | prune target wanted here unlocked =>
      rw [move, Registry.subscribers_removeIfEmpty] at listed
      exact absurd listed unlisted
  | deregister target ready | deregStep target pc here unlocked =>
      rw [taskDeregister_reg] at listed
      exact absurd (mem_subscribers_of_deregStep listed) unlisted
  | evict target pc rest here unlocked =>
      rw [fanDeregister_reg] at listed
      exact absurd (mem_subscribers_of_deregStep listed) unlisted
  | _ => exact absurd listed unlisted

/-- A task comes to a push only by beginning its `subscribe` call. -/
theorem Steps.pushing_cases (sound : sys.Sound)
    (steps : Steps sys action next)
    (pushing : next.task conn = .pushing stream) :
    sys.task conn = .pushing stream ∨ action = .subscribe conn stream := by
  have pushingView : (next.view conn).task = .pushing stream := pushing
  rcases steps.view_cases sound conn with same | ⟨effect, moved⟩
  · rw [same] at pushingView
    exact Or.inl pushingView
  · exact (ConnView.pushing_of_step moved pushingView).imp_right
      (fun ready => steps.subscribe_of_pushing ready pushing)

/-- The `deregister` call of another connection changes nothing. -/
theorem deregStep_keeps {registry : Registry} {target : ConnId}
    (different : conn ≠ target) (pc : DeregPc)
    (registered : conn ∈ registry.connections)
    (listed : conn ∈ registry.subscribers stream) :
    conn ∈ (deregStep registry target pc).1.connections ∧
      conn ∈ (deregStep registry target pc).1.subscribers stream := by
  cases pc with
  | takeStreams => exact ⟨registered, listed⟩
  | detaching streams =>
      cases streams with
      | nil =>
          refine ⟨?_, listed⟩
          simpa [deregStep, different] using registered
      | cons first rest =>
          refine ⟨registered, ?_⟩
          rw [deregStep, Registry.mem_subscribers_retainSubscribers]
          exact ⟨listed, fun both => different both.2⟩
  | pruning pruned rest => simp [deregStep, registered, listed]
  | countingDown => exact ⟨registered, listed⟩

/-- Without an unsubscribe and without a `deregister` call for it, a connection
stays on the list. -/
theorem Attached.kept (attached : sys.Attached conn stream)
    (active : ∀ pc, sys.task conn ≠ .deregistering pc)
    (steps : Steps sys action next)
    (noUnsubscribe : action ≠ .unsubscribe conn stream)
    (noDeregister : action ≠ .deregister conn)
    (noEviction :
      ∀ pc rest, action = .evict → sys.fan ≠ .evicting conn pc rest) :
    next.Attached conn stream ∧
      ∀ pc, next.task conn ≠ .deregistering pc := by
  obtain ⟨registered, listed⟩ := attached
  have busy :
      ∀ {target : ConnId} {registry : Registry} {after : TaskPc},
        (∀ pc, after ≠ .deregistering pc) →
          ∀ pc, (sys.move target registry after).task conn ≠
            .deregistering pc := by
    intro target registry after other pc
    by_cases same : conn = target
    · subst same
      rw [move_task_self]
      exact other pc
    · rw [move_task_of_ne sys same]
      exact active pc
  cases steps with
  | register target entry unborn =>
      refine ⟨⟨?_, listed⟩, busy (by simp)⟩
      simp [move, registered]
  | unsubscribe target wanted ready unlocked =>
      refine ⟨⟨registered, ?_⟩, busy (by split <;> simp)⟩
      rw [move, Registry.mem_subscribers_retainSubscribers]
      refine ⟨listed, ?_⟩
      rintro ⟨rfl, rfl⟩
      exact noUnsubscribe rfl
  | deregister target ready =>
      have different : conn ≠ target := by
        rintro rfl
        exact noDeregister rfl
      refine ⟨?_, fun pc => ?_⟩
      · rw [Attached, taskDeregister_reg]
        exact deregStep_keeps different _ registered listed
      · rw [taskDeregister_task_of_ne sys different]
        exact active pc
  | deregStep target pc here unlocked =>
      have different : conn ≠ target := by
        rintro rfl
        exact active pc here
      refine ⟨?_, fun pc => ?_⟩
      · rw [Attached, taskDeregister_reg]
        exact deregStep_keeps different _ registered listed
      · rw [taskDeregister_task_of_ne sys different]
        exact active pc
  | evict target pc rest here unlocked =>
      have different : conn ≠ target := by
        rintro rfl
        exact noEviction pc rest rfl here
      refine ⟨?_, ?_⟩
      · rw [Attached, fanDeregister_reg]
        exact deregStep_keeps different _ registered listed
      · rw [fanDeregister_task]
        exact active
  | push target wanted here unlocked =>
      refine ⟨⟨registered, ?_⟩, busy (by simp)⟩
      rw [move, Registry.mem_subscribers_pushSubscriber]
      exact Or.inr listed
  | prune target wanted here unlocked =>
      refine ⟨⟨?_, ?_⟩, busy (by simp)⟩
      · simpa [move] using registered
      · simpa [move] using listed
  | subscribe target wanted held ready present absent
  | insertConnStreams target here =>
      exact ⟨⟨registered, listed⟩, busy (by simp)⟩
  | countUp target here => exact ⟨⟨registered, listed⟩, busy (by simp)⟩
  | record target wanted here | forget target wanted here =>
      exact ⟨⟨registered, listed⟩, busy (by simp)⟩
  | _ => exact ⟨⟨registered, listed⟩, active⟩

end RegSystem

end TurbocableServer.Connection
