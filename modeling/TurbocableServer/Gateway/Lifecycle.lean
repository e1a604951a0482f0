import TurbocableServer.Connection.RegistryRanks
import TurbocableServer.Connection.SessionRanks
import TurbocableServer.Gateway.Origins

/-!
# The life of a connection in a node

A connection task makes its registry calls and works off its plan in one
sequence.  So the point of its registry task and the stage of its session fit
together: a connection that is served is registered, one whose plan is down to
the last statement has begun to deregister, and a closed one is gone.
-/

namespace TurbocableServer.Gateway.Node

open Foundations Protocol Pubsub Connection

variable {env : Environment} {node next : Node} {action : NodeAction}
variable {conn : ConnId}

section Reached

variable {allowed : Node → NodeAction → Prop} {log : MessageLog}
variable {cursor : Nat}

/-! ## Stages -/

/-- The fan-out loop delivers nothing to a client that has not sent a frame. -/
theorem Traced.not_deliver (traced : node.Traced env) {move : SessionAction}
    (isMove : SessionMove env node conn action move)
    (noFrames : (node.sessions conn).frames = []) (frame : ServerMessage) :
    move ≠ .deliver frame := by
  intro isDeliver
  obtain ⟨message, isLive⟩ := isMove.deliversLive frame isDeliver
  have ofStream : identifierField frame = some message.stream := by
    rw [isLive]
    rfl
  obtain ⟨identifier, asked, -⟩ :=
    traced.delivers isMove frame message.stream isDeliver ofStream
  rw [noFrames] at asked
  cases asked

theorem stage_of_reaches
    (run : Reaches (step env) allowed (initial env log cursor) node)
    (conn : ConnId) : (node.sessions conn).Stage env := by
  refine session_invariant (Session.Stage env) ?_ run
    (Session.stage_unborn env)
  intro source label move next before _ isMove steps stage
  exact stage.step ((traced_of_reaches before).not_deliver isMove) steps

theorem hushed_of_reaches
    (run : Reaches (step env) allowed (initial env log cursor) node)
    (conn : ConnId) : (node.sessions conn).Hushed := by
  refine session_invariant Session.Hushed ?_ run ?_
  · exact fun _ _ _ steps hushed => hushed.step steps
  · intro exited
    cases exited

end Reached

/-! ## The registry task and the session -/

structure Fits (task : TaskPc) (session : Session) : Prop where
  unborn : session.phase = .unborn → task = .unborn
  serving : session.phase = .serving → task.serves = true
  leaving :
    session.phase = .leaving → session.todo ≠ [.dropSenders] →
      task.serves = true
  returned :
    session.phase = .leaving → session.todo = [.dropSenders] →
      task.departs = true
  closed : session.phase = .closed → task = .gone

theorem fits_unborn (env : Environment) : Fits .unborn (Session.unborn env) := by
  constructor <;> simp [Session.unborn]

theorem fits_serving {task : TaskPc} {session : Session}
    (isServing : session.phase = .serving) (serves : task.serves = true) :
    Fits task session := by
  constructor <;> simp [isServing, serves]

theorem fits_leaving {task : TaskPc} {session : Session}
    (isLeaving : session.phase = .leaving)
    (notLast : session.todo ≠ [.dropSenders]) (serves : task.serves = true) :
    Fits task session := by
  constructor <;> simp [isLeaving, notLast, serves]

theorem Fits.congr {task : TaskPc} {session after : Session}
    (fits : Fits task session) (samePhase : after.phase = session.phase)
    (sameTodo : after.todo = session.todo) : Fits task after := by
  constructor
  · rw [samePhase]
    exact fits.unborn
  · rw [samePhase]
    exact fits.serving
  · rw [samePhase, sameTodo]
    exact fits.leaving
  · rw [samePhase, sameTodo]
    exact fits.returned
  · rw [samePhase]
    exact fits.closed

/-- A task that has registered belongs to a session that was accepted. -/
theorem Fits.phase_of_unborn {task : TaskPc} {session : Session}
    (fits : Fits task session) (isUnborn : task = .unborn) :
    session.phase = .unborn := by
  subst isUnborn
  cases phase : session.phase with
  | unborn => rfl
  | serving => cases fits.serving phase
  | leaving =>
      by_cases last : session.todo = [.dropSenders]
      · cases fits.returned phase last
      · cases fits.leaving phase last
  | closed => cases fits.closed phase

theorem Fits.reserve {task after : TaskPc} {session : Session}
    (fits : Fits task session) (served : task.serves = true)
    (serves : after.serves = true) : Fits after session := by
  constructor
  · intro isUnborn
    rw [fits.unborn isUnborn] at served
    cases served
  · exact fun _ => serves
  · exact fun _ _ => serves
  · intro isLeaving last
    have departed := fits.returned isLeaving last
    cases task <;> simp_all [TaskPc.serves, TaskPc.departs]
  · intro isClosed
    rw [fits.closed isClosed] at served
    cases served

/-- An access of the connection task itself. -/
theorem Fits.advance {sys after : RegSystem} {session : Session}
    (fits : Fits (sys.task conn) session)
    (moved : sys.step (.advance conn) = some after) :
    Fits (after.task conn) session := by
  rcases (RegSystem.steps_of_step moved).task_of_advance with
    ⟨served, serves⟩ | ⟨⟨pc, deregistering⟩, departs⟩
  · exact fits.reserve served serves
  · rw [deregistering] at fits
    constructor
    · intro isUnborn
      cases fits.unborn isUnborn
    · intro isServing
      cases fits.serving isServing
    · intro isLeaving notLast
      cases fits.leaving isLeaving notLast
    · exact fun _ _ => departs
    · intro isClosed
      cases fits.closed isClosed

/-- A session whose plan goes on stays what it was: the last statement is not
reached by popping an effect other than the `deregister` call. -/
theorem Fits.pop {task : TaskPc} {session after : Session} {effect : Effect}
    {rest : List Effect} (fits : Fits task session)
    (stage : session.Stage env) (todo : session.todo = effect :: rest)
    (notDeregister : effect ≠ .registryDeregister)
    (notLast : effect ≠ .dropSenders)
    (samePhase : after.phase = session.phase) (isTodo : after.todo = rest) :
    Fits task after := by
  cases stage with
  | unborn isUnborn noTodo _ => cases noTodo.symm.trans todo
  | greeting isServing _ _ | launching isServing _ _ _
  | serving isServing _ _ =>
      exact fits_serving (samePhase.trans isServing) (fits.serving isServing)
  | leaving cleanup isLeaving _ presence plan =>
      have serves : task.serves = true := by
        apply fits.leaving isLeaving
        rw [plan]
        cases cleanup <;> simp
      refine fits_leaving (samePhase.trans isLeaving) ?_ serves
      rw [todo] at plan
      cases cleanup with
      | nil =>
          cases plan
          exact absurd rfl notDeregister
      | cons first cleanup =>
          rw [isTodo, (List.cons.inj plan).2]
          cases cleanup <;> simp
  | returned _ _ plan =>
      cases plan.symm.trans todo
      exact absurd rfl notLast
  | closed _ _ noTodo => cases noTodo.symm.trans todo

/-- `inbound_loop` ends while the connection is served. -/
theorem Fits.leave {task : TaskPc} {session : Session}
    (fits : Fits task session) (isServing : session.phase = .serving) :
    Fits task (session.leave env) := by
  refine fits_leaving rfl ?_ (fits.serving isServing)
  show leaveEffects env session.ctx session.inbound ≠ _
  unfold leaveEffects
  intro isLast
  have atLeastTwo := congrArg List.length isLast
  simp at atLeastTwo

/-- A step of the session that makes no registry call. -/
private theorem Fits.onSession {label : NodeAction} {move : SessionAction}
    {after : Session} (fits : Fits (node.sys.task conn) (node.sessions conn))
    (stage : (node.sessions conn).Stage env)
    (isLocal : LocalMove node label conn move)
    (steps : Session.Steps env (node.sessions conn) move after) :
    Fits (node.sys.task conn) after := by
  cases steps with
  | accept ctx isUnborn => cases isLocal
  | frame frame idle | ping timestamp idle =>
      exact fits_serving idle.1 (fits.serving idle.1)
  | hangup idle => exact fits.leave idle.1
  | sendLive frame rest live accepted todo sent
  | sendPing timestamp rest live todo sent =>
      exact fits.pop stage todo (by simp) (by simp) rfl rfl
  | pingFailed timestamp rest live todo sent =>
      exact fits.leave (stage.serving_of_sendPing todo)
  | spawnReplay identifier lastSeq rest todo | spawnOutbound rest todo =>
      exact fits.pop stage todo (by simp) (by simp) rfl rfl
  | dropSenders rest todo =>
      cases isLocal with
      | effect _ succeeds effect later isTodo point notCall =>
          obtain ⟨rfl, -⟩ := List.cons.inj (todo.symm.trans isTodo)
          rw [point]
          constructor <;> simp [effectPoint]
  | external effect rest todo isExternal =>
      cases isLocal with
      | effect _ succeeds first later isTodo point notCall =>
          obtain ⟨rfl, -⟩ := List.cons.inj (todo.symm.trans isTodo)
          refine fits.pop stage todo ?_ ?_ rfl rfl
          · rintro rfl
            cases notCall
          · rintro rfl
            cases isExternal
  | _ => exact fits.congr rfl rfl

private theorem effect_of_external {session after : Session} {effect : Effect}
    {rest : List Effect} (todo : session.todo = effect :: rest)
    (isExternal : effect.isExternal = true)
    (stepped : session.step env .effect = some after) :
    after = { session with todo := rest } := by
  simp only [Session.step, todo] at stepped
  cases effect <;>
    first | exact (Option.some.inj stepped).symm | cases isExternal

/-- A registry call of the connection task. -/
private theorem Fits.call {effect : Effect} {rest : List Effect}
    {call : RegAction} {sys : RegSystem} {after : Session}
    (fits : Fits (node.sys.task conn) (node.sessions conn))
    (stage : (node.sessions conn).Stage env)
    (todo : (node.sessions conn).todo = effect :: rest)
    (isCall : registryCall conn effect = some call)
    (ready : node.sys.task conn = .ready)
    (accessed : node.sys.step call = some sys)
    (stepped : (node.sessions conn).step env .effect = some after) :
    Fits (sys.task conn) after := by
  have isExternal : effect.isExternal = true := by
    cases effect <;> first | rfl | cases isCall
  obtain rfl := effect_of_external todo isExternal stepped
  have served : (node.sys.task conn).serves = true := by
    rw [ready]
    rfl
  have access := RegSystem.steps_of_step accessed
  rcases registryCall_cases isCall with
    ⟨stream, rfl, rfl⟩ | ⟨stream, rfl, rfl⟩ | ⟨rfl, rfl⟩
  · have popped :
        Fits (node.sys.task conn)
          { node.sessions conn with todo := rest } :=
      fits.pop stage todo (by simp) (by simp) rfl rfl
    apply popped.reserve served
    cases access with
    | subscribeIgnored => exact served
    | subscribe => rw [RegSystem.move_task_self]; rfl
  · have popped :
        Fits (node.sys.task conn)
          { node.sessions conn with todo := rest } :=
      fits.pop stage todo (by simp) (by simp) rfl rfl
    apply popped.reserve served
    cases access with
    | unsubscribe =>
        rw [RegSystem.move_task_self]
        split <;> rfl
  · have departs : (sys.task conn).departs = true := by
      cases access with
      | deregister => exact RegSystem.departs_taskDeregister _ _ _
    cases stage with
    | leaving cleanup isLeaving _ presence plan =>
        rw [todo] at plan
        cases cleanup with
        | nil =>
            have isLast := (List.cons.inj plan).2
            constructor <;> simp [isLeaving, isLast, departs]
        | cons first cleanup =>
            obtain ⟨rfl, -⟩ := List.cons.inj plan
            cases presence .registryDeregister List.mem_cons_self
    | unborn _ noTodo _ => cases noTodo.symm.trans todo
    | greeting _ plan _ | launching _ plan _ _ => cases plan.symm.trans todo
    | serving _ _ service =>
        cases service .registryDeregister
          (by rw [todo]; exact List.mem_cons_self)
    | returned _ _ plan => cases plan.symm.trans todo
    | closed _ _ noTodo => cases noTodo.symm.trans todo

/-- The steps that others make on a session. -/
def isForeign : SessionAction → Bool
  | .deliver _ | .refuse | .forget => true
  | _ => false

/-- They leave the connection task and its plan alone. -/
theorem plan_of_foreign {session later : Session} {move : SessionAction}
    (steps : Session.Steps env session move later)
    (foreign : isForeign move = true) :
    later.phase = session.phase ∧ later.todo = session.todo := by
  cases steps <;> first | exact ⟨rfl, rfl⟩ | cases foreign

/-- The fan-out task makes an access, and with it a step of a session. -/
private theorem Fits.fan {call : RegAction} {sys : RegSystem}
    {target : ConnId} {move : SessionAction} {session : Session}
    (fits : Fits (node.sys.task conn) (node.sessions conn))
    (accessed : node.sys.step call = some sys) (byFan : call.actor = none)
    (stepped : (node.sessions target).step env move = some session)
    (foreign : isForeign move = true) :
    Fits (sys.task conn)
      (({ node with sys := sys }.setSession target session).sessions conn) := by
  rw [(RegSystem.steps_of_step accessed).task_of_ne_actor (by simp [byFan])]
  by_cases same : conn = target
  · subst same
    rw [setSession_sessions_self]
    obtain ⟨samePhase, sameTodo⟩ :=
      plan_of_foreign (Session.steps_of_step stepped) foreign
    exact fits.congr samePhase sameTodo
  · rw [setSession_sessions_of_ne _ same]
    exact fits

/-- A step of a node keeps the two together. -/
theorem Fits.step (fits : Fits (node.sys.task conn) (node.sessions conn))
    (stage : (node.sessions conn).Stage env)
    (steps : Steps env node action next) :
    Fits (next.sys.task conn) (next.sessions conn) := by
  -- the task of a connection that does not act stays where it is
  have others :
      ∀ {call : RegAction} {sys : RegSystem} {session : Session},
        node.sys.step call = some sys → call.actor ≠ some conn →
          session.phase = (node.sessions conn).phase →
            session.todo = (node.sessions conn).todo →
              Fits (sys.task conn) session := by
    intro call sys session accessed notActor samePhase sameTodo
    rw [(RegSystem.steps_of_step accessed).task_of_ne_actor notActor]
    exact fits.congr samePhase sameTodo
  cases steps with
  | accept target ctx sys session registered stepped =>
      by_cases same : conn = target
      · subst same
        have access := RegSystem.steps_of_step registered
        rw [setSession_sessions_self]
        cases Session.steps_of_step stepped with
        | accept _ isUnborn =>
            cases access with
            | register =>
                refine fits_serving rfl ?_
                show ((node.sys.move conn _ .insertingStreams).task
                  conn).serves = true
                rw [RegSystem.move_task_self]
                rfl
      · rw [setSession_sessions_of_ne _ same]
        exact others registered (by simpa [RegAction.actor] using Ne.symm same)
          rfl rfl
  | advance target sys accessed kept =>
      by_cases same : conn = target
      · subst same
        exact fits.advance accessed
      · exact others accessed (by simpa [RegAction.actor] using Ne.symm same)
          rfl rfl
  | advanceForget target sys session accessed present removed stepped =>
      by_cases same : conn = target
      · subst same
        rw [setSession_sessions_self]
        obtain rfl := Option.some.inj stepped
        exact (fits.advance accessed).congr rfl rfl
      · rw [setSession_sessions_of_ne _ same]
        exact others accessed (by simpa [RegAction.actor] using Ne.symm same)
          rfl rfl
  | onSession label target move session isLocal stepped =>
      by_cases same : conn = target
      · subst same
        rw [setSession_sessions_self]
        exact fits.onSession stage isLocal (Session.steps_of_step stepped)
      · rw [setSession_sessions_of_ne _ same]
        exact fits
  | call target succeeds effect rest call sys session todo isCall ready
      accessed stepped =>
      by_cases same : conn = target
      · subst same
        rw [setSession_sessions_self]
        exact fits.call stage todo isCall ready accessed stepped
      · rw [setSession_sessions_of_ne _ same]
        refine others accessed ?_ rfl rfl
        rcases registryCall_cases isCall with
          ⟨_, _, rfl⟩ | ⟨_, _, rfl⟩ | ⟨_, rfl⟩ <;>
          simpa [RegAction.actor] using Ne.symm same
  | published target identifier data rest session todo ready stepped =>
      by_cases same : conn = target
      · subst same
        rw [setSession_sessions_self]
        obtain rfl := effect_of_external todo rfl stepped
        exact fits.pop stage todo (by simp) (by simp) rfl rfl
      · rw [setSession_sessions_of_ne _ same]
        exact fits
  | fanNext message sys idle present accessed =>
      exact others accessed (by simp [RegAction.actor]) rfl rfl
  | delivered stream target todo evicted message sys session scanning current
      present stepped accessed
  | refused stream target todo evicted message sys session scanning current
      present noRoom stepped accessed =>
      exact fits.fan accessed rfl stepped rfl
  | absent stream target todo evicted message sys scanning current missing
      accessed
  | fanRelease sys accessed
  | fanEvict target pc rest sys evicting accessed kept =>
      exact others accessed (by simp [RegAction.actor]) rfl rfl
  | fanForget target pc rest sys session evicting accessed present removed
      stepped =>
      exact fits.fan accessed rfl stepped rfl
  | _ => exact fits

section Reached

variable {allowed : Node → NodeAction → Prop} {log : MessageLog}
variable {cursor : Nat}

theorem fits_of_reaches
    (run : Reaches (step env) allowed (initial env log cursor) node)
    (conn : ConnId) : Fits (node.sys.task conn) (node.sessions conn) := by
  induction run with
  | refl => exact fits_unborn env
  | tail before last ih =>
      obtain ⟨action, -, moved⟩ := last
      exact ih.step (stage_of_reaches before conn)
        (steps_of_step moved)

/-! ## The connections there are -/

/-- Only finitely many connections have been accepted. -/
theorem finite_of_reaches
    (run : Reaches (step env) allowed (initial env log cursor) node) :
    ∃ conns : Finset ConnId,
      ∀ conn, conn ∉ conns → node.sys.task conn = .unborn := by
  have kept :
      ∀ source action target,
        allowed source action → step env source action = some target →
          (∃ conns : Finset ConnId,
            ∀ conn, conn ∉ conns → source.sys.task conn = .unborn) →
          ∃ conns : Finset ConnId,
            ∀ conn, conn ∉ conns → target.sys.task conn = .unborn := by
    rintro source action target - moved ⟨conns, others⟩
    rcases (steps_of_step moved).sysMove.access with
      unchanged | ⟨call, accessed⟩
    · rw [unchanged]
      exact ⟨conns, others⟩
    · have access := RegSystem.steps_of_step accessed
      cases isActor : call.actor with
      | none =>
          refine ⟨conns, fun conn outside => ?_⟩
          rw [access.task_of_ne_actor (by simp [isActor])]
          exact others conn outside
      | some actor =>
          refine ⟨insert actor conns, fun conn outside => ?_⟩
          rw [Finset.mem_insert, not_or] at outside
          rw [access.task_of_ne_actor (by simp [isActor, Ne.symm outside.1])]
          exact others conn outside.2
  exact run.invariant kept ⟨∅, fun _ _ => rfl⟩

end Reached

end TurbocableServer.Gateway.Node
