import Mathlib.Data.Finset.Card
import TurbocableServer.Connection.RegistryViews
import TurbocableServer.Foundations.Reachability

/-!
# What a registry access does to the views

Every move of the system changes the views of its connections as `ViewStep`
allows.  With the few facts that are not about a single connection (lists
without repetitions, no forgotten empty entry, the counter), this gives the
state of the maps whenever no call is in progress.
-/

namespace TurbocableServer.Connection

open Foundations

/-! ## What a move does to the views -/

/-- Two registries say the same about `conn`. -/
structure Registry.Agree
    (left right : Registry) (conn : ConnId) : Prop where
  connections : conn ∈ left.connections ↔ conn ∈ right.connections
  connStreams :
    left.connStreams.lookup conn = right.connStreams.lookup conn
  subscribers :
    ∀ stream, conn ∈ left.subscribers stream ↔ conn ∈ right.subscribers stream

/-- The access made on behalf of `conn` changes the shared parts as `effect`
says. -/
def SharedEffect.Matches
    (effect : SharedEffect) (conn : ConnId) (before after : Registry) :
    Prop :=
  match effect with
  | .nothing =>
      after.streams = before.streams ∧ after.active = before.active
  | .push stream =>
      after.streams = (before.pushSubscriber stream conn).streams ∧
        after.active = before.active
  | .retain stream emptied =>
      after.streams = (before.retainSubscribers stream conn).streams ∧
        emptied = before.shouldRemove stream conn ∧
        after.active = before.active
  | .prune stream =>
      after.streams = (before.removeIfEmpty stream).streams ∧
        after.active = before.active
  | .countUp =>
      after.streams = before.streams ∧ after.active = before.active + 1
  | .countDown =>
      after.streams = before.streams ∧ after.active = before.active - 1

namespace RegSystem

variable {sys next : RegSystem} {conn other : ConnId}

/-- What the maps and the fan-out task say, for a task at `pc`. -/
def viewAt
    (registry : Registry) (fan : FanPc) (conn : ConnId) (pc : TaskPc) :
    ConnView where
  registered := conn ∈ registry.connections
  held := registry.connStreams.lookup conn
  listed := fun stream => conn ∈ registry.subscribers stream
  task := pc
  evicting := fan.deregOf conn

theorem view_move_self (registry : Registry) (pc : TaskPc) :
    (sys.move conn registry pc).view conn =
      viewAt registry sys.fan conn pc := by
  simp [view, viewAt, move]

theorem view_of_agree
    (agree : next.reg.Agree sys.reg conn)
    (sameTask : next.task conn = sys.task conn) :
    next.view conn =
      { sys.view conn with evicting := next.fan.deregOf conn } := by
  ext
  · exact agree.connections
  · rw [view, agree.connStreams]
    rfl
  · exact agree.subscribers _
  · rw [view, sameTask]
    rfl
  · rfl

/-- The fan-out task turns to `conn`. -/
theorem fanBegin_of_agree
    (agree : next.reg.Agree sys.reg conn)
    (sameTask : next.task conn = sys.task conn)
    (idle : sys.fan.deregOf conn = none)
    (begun : next.fan.deregOf conn = some .takeStreams)
    (born : (sys.task conn).Born) :
    ViewStep (sys.view conn) .nothing (next.view conn) := by
  refine ViewStep.of_eq (ViewStep.fanBegin idle born) ?_
  rw [view_of_agree agree sameTask, begun]

theorem view_eq_of_agree
    (agree : next.reg.Agree sys.reg conn)
    (sameTask : next.task conn = sys.task conn)
    (sameFan : next.fan.deregOf conn = sys.fan.deregOf conn) :
    next.view conn = sys.view conn := by
  rw [view_of_agree agree sameTask, sameFan]
  rfl

end RegSystem

/-- An access of `deregister` on one id says nothing about the others. -/
theorem deregStep_agree
    (registry : Registry) {conn other : ConnId} (different : other ≠ conn)
    (pc : DeregPc) :
    (deregStep registry conn pc).1.Agree registry other := by
  cases pc with
  | takeStreams =>
      exact ⟨Iff.rfl, by simp [deregStep, different], fun _ => Iff.rfl⟩
  | detaching todo =>
      cases todo with
      | nil =>
          exact ⟨by simp [deregStep, different], rfl, fun _ => Iff.rfl⟩
      | cons stream rest =>
          refine ⟨Iff.rfl, rfl, fun tested => ?_⟩
          rw [deregStep, Registry.mem_subscribers_retainSubscribers]
          simp [different]
  | pruning stream rest =>
      exact ⟨by simp [deregStep], by simp [deregStep],
        fun tested => by simp [deregStep]⟩
  | countingDown =>
      exact ⟨Iff.rfl, rfl, fun _ => Iff.rfl⟩

namespace RegSystem

variable {sys next : RegSystem} {conn other : ConnId}

/-- One access on behalf of `conn`; the views of other connections stay, or
the fan-out task turns to one of them. -/
structure Moves
    (sys next : RegSystem) (conn : ConnId) (effect : SharedEffect) :
    Prop where
  shared : effect.Matches conn sys.reg next.reg
  own : ViewStep (sys.view conn) effect (next.view conn)
  others :
    ∀ other, other ≠ conn →
      next.view other = sys.view other ∨
        ViewStep (sys.view other) .nothing (next.view other)

/-- A move of the task of `conn` that says nothing about the others. -/
theorem Moves.of_task {registry : Registry} {pc : TaskPc}
    {effect : SharedEffect}
    (shared : effect.Matches conn sys.reg registry)
    (agree : ∀ other, other ≠ conn → registry.Agree sys.reg other)
    (own :
      ViewStep (sys.view conn) effect (viewAt registry sys.fan conn pc)) :
    Moves sys (sys.move conn registry pc) conn effect where
  shared := shared
  own := by
    rw [view_move_self]
    exact own
  others := by
    intro other different
    left
    exact view_eq_of_agree (agree other different)
      (Function.update_of_ne different _ _) rfl

theorem register_moves (unborn : sys.task conn = .unborn)
    (entry : ConnectionEntry) :
    Moves sys
      (sys.move conn (sys.reg.insertConnection conn entry) .insertingStreams)
      conn .nothing := by
  refine Moves.of_task ⟨rfl, rfl⟩ (fun other different => ?_) ?_
  · exact ⟨by simp [different], rfl, fun _ => Iff.rfl⟩
  · refine ViewStep.of_eq (ViewStep.insertConnection unborn) ?_
    ext <;> simp [viewAt, view, Registry.subscribers]

theorem subscribe_moves {stream : String} {held : List String}
    (ready : sys.task conn = .ready)
    (present : sys.reg.connStreams.lookup conn = some held)
    (absent : stream ∉ held) :
    Moves sys (sys.move conn sys.reg (.pushing stream)) conn .nothing := by
  refine Moves.of_task ⟨rfl, rfl⟩ (fun other different => ?_) ?_
  · exact ⟨Iff.rfl, rfl, fun _ => Iff.rfl⟩
  · exact ViewStep.lock stream held ready present absent

theorem unsubscribe_moves (ready : sys.task conn = .ready)
    (stream : String) :
    Moves sys
      (sys.move conn (sys.reg.retainSubscribers stream conn)
        (if sys.reg.shouldRemove stream conn then
          .pruning stream
        else
          .forgetting stream))
      conn (.retain stream (sys.reg.shouldRemove stream conn)) := by
  refine Moves.of_task ⟨rfl, rfl, rfl⟩ (fun other different => ?_) ?_
  · refine ⟨Iff.rfl, rfl, fun tested => ?_⟩
    rw [Registry.mem_subscribers_retainSubscribers]
    simp [different]
  · refine ViewStep.of_eq (ViewStep.retain stream _ ready) ?_
    ext <;>
      simp [viewAt, view, Registry.mem_subscribers_retainSubscribers,
        and_comm]

/-- What an access of `deregister` does to the shared parts. -/
def deregEffect (registry : Registry) (conn : ConnId) :
    DeregPc → SharedEffect
  | .detaching (stream :: _) =>
      .retain stream (registry.shouldRemove stream conn)
  | .pruning stream _ => .prune stream
  | .countingDown => .countDown
  | _ => .nothing

theorem deregEffect_matches
    (registry : Registry) (conn : ConnId) (pc : DeregPc) :
    (deregEffect registry conn pc).Matches conn registry
      (deregStep registry conn pc).1 := by
  cases pc with
  | takeStreams =>
      exact ⟨rfl, rfl⟩
  | detaching todo =>
      cases todo with
      | nil =>
          exact ⟨rfl, rfl⟩
      | cons stream rest =>
          exact ⟨rfl, rfl, rfl⟩
  | pruning stream rest =>
      exact ⟨rfl, by simp [deregStep]⟩
  | countingDown =>
      exact ⟨rfl, rfl⟩

/-- An access of a `deregister` call of the connection's own task. -/
theorem own_deregStep_viewStep {pc : DeregPc}
    (here :
      sys.task conn = .deregistering pc ∨
        sys.task conn = .ready ∧ pc = .takeStreams) :
    ViewStep (sys.view conn) (deregEffect sys.reg conn pc)
      (viewAt (deregStep sys.reg conn pc).1 sys.fan conn
        (((deregStep sys.reg conn pc).2.map TaskPc.deregistering).getD
          .gone)) := by
  cases pc with
  | takeStreams =>
      have atTake :
          (sys.view conn).task = .ready ∨
            (sys.view conn).task = .deregistering .takeStreams := by
        rcases here with inCall | ⟨ready, -⟩
        · exact Or.inr inCall
        · exact Or.inl ready
      refine ViewStep.of_eq (ViewStep.ownTake atTake) ?_
      ext <;>
        simp [viewAt, view, deregStep, Registry.subscribers,
          Registry.streamsOf]
  | detaching todo =>
      have inCall : sys.task conn = .deregistering (.detaching todo) := by
        simpa using here
      cases todo with
      | nil =>
          by_cases present : conn ∈ sys.reg.connections
          · refine ViewStep.of_eq (ViewStep.ownDrop inCall present) ?_
            ext <;>
              simp [viewAt, view, deregStep, Registry.subscribers, present]
          · refine ViewStep.of_eq (ViewStep.ownLeave inCall present) ?_
            ext <;>
              simp [viewAt, view, deregStep, Registry.subscribers, present]
      | cons stream rest =>
          refine ViewStep.of_eq
            (ViewStep.ownDetach stream rest
              (sys.reg.shouldRemove stream conn) inCall) ?_
          ext <;>
            simp [viewAt, view, deregStep,
              Registry.mem_subscribers_retainSubscribers, and_comm]
  | pruning stream rest =>
      have inCall :
          sys.task conn = .deregistering (.pruning stream rest) := by
        simpa using here
      refine ViewStep.of_eq (ViewStep.ownPrune stream rest inCall) ?_
      ext <;> simp [viewAt, view, deregStep]
  | countingDown =>
      have inCall : sys.task conn = .deregistering .countingDown := by
        simpa using here
      exact ViewStep.ownCount inCall

theorem taskDeregister_moves {pc : DeregPc}
    (here :
      sys.task conn = .deregistering pc ∨
        sys.task conn = .ready ∧ pc = .takeStreams) :
    Moves sys (sys.taskDeregister conn pc) conn
      (deregEffect sys.reg conn pc) := by
  have moves :=
    Moves.of_task (deregEffect_matches sys.reg conn pc)
      (fun _ different => deregStep_agree sys.reg different pc)
      (own_deregStep_viewStep here)
  rw [taskDeregister]
  split
  · rename_i registry after result
    rw [result] at moves
    exact moves
  · rename_i registry result
    rw [result] at moves
    exact ⟨moves.shared, moves.own, moves.others⟩

theorem insertConnStreams_moves (here : sys.task conn = .insertingStreams) :
    Moves sys
      (sys.move conn (sys.reg.insertConnStreams conn) .countingUp) conn
      .nothing := by
  refine Moves.of_task ⟨rfl, rfl⟩ (fun other different => ?_) ?_
  · exact ⟨Iff.rfl, by simp [different], fun _ => Iff.rfl⟩
  · refine ViewStep.of_eq (ViewStep.insertConnStreams here) ?_
    ext <;> simp [viewAt, view, Registry.subscribers]

theorem countUp_moves (here : sys.task conn = .countingUp) :
    Moves sys (sys.move conn sys.reg.countUp .ready) conn .countUp := by
  refine Moves.of_task ⟨rfl, rfl⟩ (fun other different => ?_) ?_
  · exact ⟨Iff.rfl, rfl, fun _ => Iff.rfl⟩
  · exact ViewStep.countUp here

theorem push_moves {stream : String}
    (here : sys.task conn = .pushing stream) :
    Moves sys
      (sys.move conn (sys.reg.pushSubscriber stream conn)
        (.recording stream))
      conn (.push stream) := by
  refine Moves.of_task ⟨rfl, rfl⟩ (fun other different => ?_) ?_
  · refine ⟨Iff.rfl, rfl, fun tested => ?_⟩
    rw [Registry.mem_subscribers_pushSubscriber]
    simp [different]
  · refine ViewStep.of_eq (ViewStep.push stream here) ?_
    ext <;> simp [viewAt, view, Registry.mem_subscribers_pushSubscriber]

theorem record_moves {stream : String}
    (coherent : (sys.view conn).Coherent)
    (here : sys.task conn = .recording stream) :
    Moves sys
      (sys.move conn (sys.reg.pushConnStream conn stream) .ready) conn
      .nothing := by
  obtain ⟨held, present, -⟩ := (coherent.guardHeld stream).1 (Or.inr here)
  have lookup : sys.reg.connStreams.lookup conn = some held := present
  refine Moves.of_task ⟨rfl, rfl⟩ (fun other different => ?_) ?_
  · refine ⟨Iff.rfl, ?_, fun _ => Iff.rfl⟩
    simp [Table.lookup_modify, different]
  · refine ViewStep.of_eq (ViewStep.record stream held here present) ?_
    ext <;>
      simp [viewAt, view, Registry.subscribers, Table.lookup_modify, lookup]

theorem prune_moves {stream : String}
    (here : sys.task conn = .pruning stream) :
    Moves sys
      (sys.move conn (sys.reg.removeIfEmpty stream) (.forgetting stream))
      conn (.prune stream) := by
  refine Moves.of_task ⟨rfl, by simp⟩ (fun other different => ?_) ?_
  · exact ⟨by simp, by simp, fun _ => by simp⟩
  · refine ViewStep.of_eq (ViewStep.prune stream here) ?_
    ext <;> simp [viewAt, view]

theorem forget_moves {stream : String}
    (here : sys.task conn = .forgetting stream) :
    Moves sys
      (sys.move conn (sys.reg.forgetConnStream conn stream) .ready) conn
      .nothing := by
  refine Moves.of_task ⟨rfl, rfl⟩ (fun other different => ?_) ?_
  · refine ⟨Iff.rfl, ?_, fun _ => Iff.rfl⟩
    simp [Table.lookup_modify, different]
  · refine ViewStep.of_eq (ViewStep.forget stream here) ?_
    ext <;> simp [viewAt, view, Registry.subscribers, Table.lookup_modify]

/-! ### The fan-out task -/

/-- An access of the fan-out task's `deregister` call that is not its last. -/
theorem fan_deregStep_viewStep
    {pc after : DeregPc} {rest : List ConnId}
    (here : sys.fan = .evicting conn pc rest)
    (unlocked : pc = .takeStreams → sys.connStreamsLocked conn = false)
    (continues : (deregStep sys.reg conn pc).2 = some after) :
    ViewStep (sys.view conn) (deregEffect sys.reg conn pc)
      (viewAt (deregStep sys.reg conn pc).1 (.evicting conn after rest) conn
        (sys.task conn)) := by
  have evicting : (sys.view conn).evicting = some pc := by
    simp [view, here]
  cases pc with
  | takeStreams =>
      have free := unlocked rfl
      have notPushing : ∀ stream, (sys.view conn).task ≠ .pushing stream := by
        intro stream pushing
        rw [connStreamsLocked, show sys.task conn = _ from pushing] at free
        cases free
      have notRecording :
          ∀ stream, (sys.view conn).task ≠ .recording stream := by
        intro stream recording
        rw [connStreamsLocked, show sys.task conn = _ from recording] at free
        cases free
      obtain rfl := Option.some.inj continues
      refine ViewStep.of_eq
        (ViewStep.fanTake evicting notPushing notRecording) ?_
      ext <;>
        simp [viewAt, view, deregStep, Registry.subscribers,
          Registry.streamsOf]
  | detaching todo =>
      cases todo with
      | nil =>
          by_cases present : conn ∈ sys.reg.connections
          · simp only [deregStep, present, if_true] at continues
            obtain rfl := Option.some.inj continues
            refine ViewStep.of_eq (ViewStep.fanDrop evicting present) ?_
            ext <;> simp [viewAt, view, deregStep, Registry.subscribers]
          · simp [deregStep, present] at continues
      | cons stream rest =>
          obtain rfl := Option.some.inj continues
          refine ViewStep.of_eq
            (ViewStep.fanDetach stream rest
              (sys.reg.shouldRemove stream conn) evicting) ?_
          ext <;>
            simp [viewAt, view, deregStep,
              Registry.mem_subscribers_retainSubscribers, and_comm]
  | pruning stream rest =>
      obtain rfl := Option.some.inj continues
      refine ViewStep.of_eq (ViewStep.fanPrune stream rest evicting) ?_
      ext <;> simp [viewAt, view, deregStep]
  | countingDown =>
      cases continues

/-- The last access of the fan-out task's `deregister` call. -/
theorem fan_deregStep_end_viewStep
    {pc : DeregPc} {rest : List ConnId}
    (here : sys.fan = .evicting conn pc rest)
    (returns : (deregStep sys.reg conn pc).2 = none) :
    ViewStep (sys.view conn) (deregEffect sys.reg conn pc)
      (viewAt (deregStep sys.reg conn pc).1 (evictNext rest) conn
        (sys.task conn)) := by
  have evicting : (sys.view conn).evicting = some pc := by
    simp [view, here]
  have target :
      (evictNext rest).deregOf conn = none ∨
        (evictNext rest).deregOf conn = some .takeStreams := by
    rw [FanPc.deregOf_evictNext]
    split <;> simp
  cases pc with
  | takeStreams =>
      cases returns
  | detaching todo =>
      cases todo with
      | nil =>
          have missing : conn ∉ sys.reg.connections := by
            intro present
            simp [deregStep, present] at returns
          refine ViewStep.of_eq (ViewStep.fanLeave _ evicting missing target) ?_
          ext <;>
            simp [viewAt, view, deregStep, Registry.subscribers, missing]
      | cons stream rest =>
          cases returns
  | pruning stream rest =>
      cases returns
  | countingDown =>
      exact ViewStep.fanCount _ evicting target

theorem fanDeregister_moves {pc : DeregPc} {rest : List ConnId}
    (here : sys.fan = .evicting conn pc rest)
    (unlocked : pc = .takeStreams → sys.connStreamsLocked conn = false)
    (born : ∀ other, other ∈ rest → (sys.task other).Born) :
    Moves sys (sys.fanDeregister conn pc rest) conn
      (deregEffect sys.reg conn pc) := by
  have shared := deregEffect_matches sys.reg conn pc
  have agree :
      ∀ other, other ≠ conn →
        (deregStep sys.reg conn pc).1.Agree sys.reg other :=
    fun other different => deregStep_agree sys.reg different pc
  rw [fanDeregister]
  split
  · rename_i registry after result
    have own := fan_deregStep_viewStep here unlocked (by rw [result])
    rw [result] at shared agree own
    refine ⟨shared, own, fun other different => Or.inl ?_⟩
    refine view_eq_of_agree (agree other different) rfl ?_
    simp [here, different]
  · rename_i registry result
    have own := fan_deregStep_end_viewStep here (by rw [result])
    rw [result] at shared agree own
    refine ⟨shared, own, fun other different => ?_⟩
    have idle : sys.fan.deregOf other = none := by
      simp [here, different]
    by_cases first : rest.head? = some other
    · right
      refine fanBegin_of_agree (agree other different) rfl idle ?_
        (born other (List.mem_of_head? first))
      rw [FanPc.deregOf_evictNext, if_pos first]
    · left
      refine view_eq_of_agree (agree other different) rfl ?_
      rw [FanPc.deregOf_evictNext, if_neg first, idle]

/-- The fan-out task turns from the subscribers to the ids it has to evict. -/
theorem release_moves {stream : String} {evicted : List ConnId}
    (here : sys.fan = .scanning stream [] evicted)
    (born : ∀ conn, conn ∈ evicted → (sys.task conn).Born) :
    ({ sys with fan := evictNext evicted } : RegSystem).view = sys.view ∨
      ∃ conn,
        Moves sys { sys with fan := evictNext evicted } conn .nothing := by
  have same : ∀ conn, sys.reg.Agree sys.reg conn :=
    fun conn => ⟨Iff.rfl, rfl, fun _ => Iff.rfl⟩
  cases evicted with
  | nil =>
      left
      funext conn
      refine view_eq_of_agree (same conn) rfl ?_
      simp [here, evictNext]
  | cons target rest =>
      right
      refine ⟨target, ⟨rfl, rfl⟩, ?_, fun other different => Or.inl ?_⟩
      · refine fanBegin_of_agree (same target) rfl ?_ ?_
          (born target (List.mem_cons_self ..))
        · simp [here]
        · simp [evictNext]
      · refine view_eq_of_agree (same other) rfl ?_
        simp [here, evictNext, different]

/-- Every step is one access on behalf of one connection, or changes nothing
but the position of the fan-out task among the subscribers. -/
theorem Steps.moves {action : RegAction}
    (coherent : ∀ conn, (sys.view conn).Coherent)
    (born : ∀ conn, conn ∈ sys.fan.pending → (sys.task conn).Born)
    (steps : Steps sys action next) :
    (next.reg = sys.reg ∧ next.view = sys.view) ∨
      ∃ conn effect, Moves sys next conn effect := by
  cases steps with
  | register conn entry unborn =>
      exact Or.inr ⟨conn, _, register_moves unborn entry⟩
  | subscribeIgnored conn stream ready already =>
      exact Or.inl ⟨rfl, rfl⟩
  | subscribe conn stream held ready present absent =>
      exact Or.inr ⟨conn, _, subscribe_moves ready present absent⟩
  | unsubscribe conn stream ready unlocked =>
      exact Or.inr ⟨conn, _, unsubscribe_moves ready stream⟩
  | deregister conn ready =>
      exact Or.inr ⟨conn, _, taskDeregister_moves (Or.inr ⟨ready, rfl⟩)⟩
  | insertConnStreams conn here =>
      exact Or.inr ⟨conn, _, insertConnStreams_moves here⟩
  | countUp conn here =>
      exact Or.inr ⟨conn, _, countUp_moves here⟩
  | push conn stream here unlocked =>
      exact Or.inr ⟨conn, _, push_moves here⟩
  | record conn stream here =>
      exact Or.inr ⟨conn, _, record_moves (coherent conn) here⟩
  | prune conn stream here unlocked =>
      exact Or.inr ⟨conn, _, prune_moves here⟩
  | forget conn stream here =>
      exact Or.inr ⟨conn, _, forget_moves here⟩
  | deregStep conn pc here unlocked =>
      exact Or.inr ⟨conn, _, taskDeregister_moves (Or.inl here)⟩
  | fanoutMissing stream idle missing =>
      exact Or.inl ⟨rfl, rfl⟩
  | fanout stream subscribers idle present =>
      refine Or.inl ⟨rfl, funext fun conn => ?_⟩
      simp [view, idle]
  | refused stream conn todo evicted here present
  | passed stream conn todo evicted accepted here served =>
      refine Or.inl ⟨rfl, funext fun conn => ?_⟩
      simp [view, here]
  | release stream evicted here =>
      have bornEvicted :
          ∀ conn, conn ∈ evicted → (sys.task conn).Born := by
        intro conn member
        exact born conn (by simpa [here, FanPc.pending] using member)
      rcases release_moves here bornEvicted with same | ⟨conn, moves⟩
      · exact Or.inl ⟨rfl, same⟩
      · exact Or.inr ⟨conn, .nothing, moves⟩
  | evict conn pc rest here unlocked =>
      refine Or.inr ⟨conn, _, fanDeregister_moves here unlocked ?_⟩
      intro other member
      exact born other (by simp [here, FanPc.pending, member])

end RegSystem

end TurbocableServer.Connection
