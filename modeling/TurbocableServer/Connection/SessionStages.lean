import TurbocableServer.Connection.SessionQueues

/-!
# The life of a session

The stages of a connection task, from the welcome frame to the return of
`handle_socket`, with what is left of its plan in each of them.  A second
invariant says that an outbound task which has returned has dropped its
receivers.
-/

namespace TurbocableServer.Connection

open Foundations Protocol Pubsub

/-- The effects of a client frame or of a ping. -/
def Effect.isService : Effect → Bool
  | .spawnOutbound => false
  | .registryDeregister => false
  | .dropSenders => false
  | _ => true

theorem Effect.isService_of_isPresence {effect : Effect}
    (isPresence : effect.isPresence = true) : effect.isService = true := by
  cases effect <;> first | rfl | cases isPresence

namespace Session

variable {env : Environment} {session next : Session}
variable {action : SessionAction}

theorem isService_of_handled {frame : Option ClientFrame} {effect : Effect}
    (member : effect ∈
      (handleClientFrame env session.ctx session.inbound frame).2) :
    effect.isService = true := by
  by_cases isPresence : effect.isPresence = true
  · exact Effect.isService_of_isPresence isPresence
  · rcases (handled_handleClientFrame env session.ctx session.inbound
        frame).mem_cases member (by simpa using isPresence) with
      ⟨identifier, -, rfl | ⟨-, rfl | rfl⟩⟩ | ⟨identifier, -, rfl⟩ |
        ⟨identifier, data, rfl⟩
    · rfl
    · rfl
    · rcases confirmEffect_cases env session.inbound.lastSeq identifier with
        direct | ⟨since, -, replayed⟩
      · rw [direct]
        rfl
      · rw [replayed]
        rfl
    · rfl
    · rfl

/-! ## Stages -/

/-- Nothing has happened on the connection yet. -/
structure Unused (env : Environment) (session : Session) : Prop where
  unspawned : session.out.pc = .unspawned
  noFrames : session.frames = []
  noTasks : session.tasks = []
  noLive : session.out.live.buf = []
  capacity : session.out.live.capacity = env.liveCapacity

inductive Stage (env : Environment) (session : Session) : Prop
  | unborn :
      session.phase = .unborn → session.todo = [] → session.Unused env →
      Stage env session
  | greeting :
      session.phase = .serving →
      session.todo = [.sendLive .welcome, .spawnOutbound] →
      session.Unused env → Stage env session
  | launching :
      session.phase = .serving → session.todo = [.spawnOutbound] →
      session.out.pc = .unspawned → session.tasks = [] → Stage env session
  | serving :
      session.phase = .serving → session.out.pc ≠ .unspawned →
      (∀ effect, effect ∈ session.todo → effect.isService = true) →
      Stage env session
  | leaving (cleanup : List Effect) :
      session.phase = .leaving → session.out.pc ≠ .unspawned →
      (∀ effect, effect ∈ cleanup → effect.isPresence = true) →
      session.todo = cleanup ++ [.registryDeregister, .dropSenders] →
      Stage env session
  | returned :
      session.phase = .leaving → session.out.pc ≠ .unspawned →
      session.todo = [.dropSenders] → Stage env session
  | closed :
      session.phase = .closed → session.out.pc ≠ .unspawned →
      session.todo = [] → Stage env session

theorem unused_unborn (env : Environment) : (unborn env).Unused env :=
  ⟨rfl, rfl, rfl, rfl, rfl⟩

theorem stage_unborn (env : Environment) : (unborn env).Stage env :=
  .unborn rfl rfl (unused_unborn env)

/-- The plan of a task whose `inbound_loop` has ended. -/
theorem exists_cleanup (env : Environment) (ctx : ConnContext)
    (state : InboundState) :
    ∃ cleanup,
      (∀ effect, effect ∈ cleanup → effect.isPresence = true) ∧
        leaveEffects env ctx state =
          cleanup ++ [.registryDeregister, .dropSenders] := by
  cases isUser : presenceUser env ctx with
  | none => exact ⟨[], by simp, by simp [leaveEffects, isUser]⟩
  | some user =>
      refine ⟨(env.heartbeatOrder.list state.heartbeats).map
          (fun stream => .presenceDelete stream user),
        ?_, by simp [leaveEffects, isUser]⟩
      intro effect member
      obtain ⟨stream, -, rfl⟩ := List.mem_map.mp member
      rfl

theorem stage_leave (spawned : session.out.pc ≠ .unspawned) :
    (session.leave env).Stage env := by
  obtain ⟨cleanup, presence, plan⟩ :=
    exists_cleanup env session.ctx session.inbound
  exact .leaving cleanup rfl spawned presence plan

/-- The same plan on a connection whose outbound task is in the same state. -/
theorem Stage.congr (stage : session.Stage env)
    (samePhase : next.phase = session.phase)
    (sameTodo : next.todo = session.todo)
    (spawned : session.out.pc ≠ .unspawned → next.out.pc ≠ .unspawned)
    (unused : session.Unused env → next.Unused env)
    (launching : session.out.pc = .unspawned → session.tasks = [] →
      next.out.pc = .unspawned ∧ next.tasks = []) : next.Stage env := by
  cases stage with
  | unborn isUnborn noTodo isUnused =>
      exact .unborn (samePhase.trans isUnborn) (sameTodo.trans noTodo)
        (unused isUnused)
  | greeting serving todo isUnused =>
      exact .greeting (samePhase.trans serving) (sameTodo.trans todo)
        (unused isUnused)
  | launching serving todo unspawned noTasks =>
      obtain ⟨stillUnspawned, stillNoTasks⟩ := launching unspawned noTasks
      exact .launching (samePhase.trans serving) (sameTodo.trans todo)
        stillUnspawned stillNoTasks
  | serving serving running service =>
      exact .serving (samePhase.trans serving) (spawned running)
        (by rwa [sameTodo])
  | leaving cleanup isLeaving running presence todo =>
      exact .leaving cleanup (samePhase.trans isLeaving) (spawned running)
        presence (sameTodo.trans todo)
  | returned isLeaving running todo =>
      exact .returned (samePhase.trans isLeaving) (spawned running)
        (sameTodo.trans todo)
  | closed isClosed running noTodo =>
      exact .closed (samePhase.trans isClosed) (spawned running)
        (sameTodo.trans noTodo)

/-- The connection task is idle only while it serves. -/
theorem Stage.spawned_of_idle (stage : session.Stage env)
    (idle : session.Idle) : session.out.pc ≠ .unspawned := by
  obtain ⟨isServing, noTodo⟩ := idle
  cases stage with
  | unborn isUnborn _ _ => cases isUnborn.symm.trans isServing
  | greeting _ todo _ | launching _ todo _ _ => cases todo.symm.trans noTodo
  | serving _ running _ => exact running
  | leaving cleanup isLeaving _ _ _ | returned isLeaving _ _ =>
      cases isLeaving.symm.trans isServing
  | closed isClosed _ _ => cases isClosed.symm.trans isServing

/-- A task that has ended had started its outbound task. -/
theorem Stage.spawned_of_closed (stage : session.Stage env)
    (ended : session.phase = .closed) : session.out.pc ≠ .unspawned := by
  cases stage with
  | unborn isUnborn _ _ => cases isUnborn.symm.trans ended
  | greeting isServing _ _ | launching isServing _ _ _
  | serving isServing _ _ => cases isServing.symm.trans ended
  | leaving cleanup isLeaving _ _ _ | returned isLeaving _ _ =>
      cases isLeaving.symm.trans ended
  | closed _ running _ => exact running

/-- An effect of a frame or of a ping is performed while the task serves or
cleans up. -/
theorem Stage.after_service (stage : session.Stage env) {effect : Effect}
    {rest : List Effect} (todo : session.todo = effect :: rest)
    (isService : effect.isService = true)
    (notWelcome : session.out.pc ≠ .unspawned)
    (samePhase : next.phase = session.phase) (isTodo : next.todo = rest)
    (samePc : next.out.pc = session.out.pc) : next.Stage env := by
  have running : next.out.pc ≠ .unspawned := by
    rw [samePc]
    exact notWelcome
  cases stage with
  | unborn _ noTodo _ => cases noTodo.symm.trans todo
  | greeting _ _ unused => exact absurd unused.unspawned notWelcome
  | launching _ _ unspawned _ => exact absurd unspawned notWelcome
  | serving serving _ service =>
      refine .serving (samePhase.trans serving) running ?_
      intro later member
      apply service
      rw [todo]
      rw [isTodo] at member
      exact List.mem_cons_of_mem effect member
  | leaving cleanup isLeaving _ presence isPlan =>
      rw [todo] at isPlan
      cases cleanup with
      | nil =>
          cases isPlan
          cases isService
      | cons first cleanup =>
          obtain ⟨rfl, isRest⟩ := List.cons.inj isPlan
          exact .leaving cleanup (samePhase.trans isLeaving) running
            (fun later member =>
              presence later (List.mem_cons_of_mem _ member))
            (isTodo.trans isRest)
  | returned _ _ isPlan =>
      cases todo.symm.trans isPlan
      cases isService
  | closed _ _ noTodo => cases noTodo.symm.trans todo

theorem Stage.spawned_of_head (stage : session.Stage env) {effect : Effect}
    {rest : List Effect} (todo : session.todo = effect :: rest)
    (notWelcome : effect ≠ .sendLive .welcome)
    (notLaunch : effect ≠ .spawnOutbound) :
    session.out.pc ≠ .unspawned := by
  cases stage with
  | unborn _ noTodo _ => cases noTodo.symm.trans todo
  | greeting _ plan _ =>
      cases plan.symm.trans todo
      exact absurd rfl notWelcome
  | launching _ plan _ _ =>
      cases plan.symm.trans todo
      exact absurd rfl notLaunch
  | serving _ running _ | leaving _ _ running _ _ | returned _ running _
  | closed _ running _ => exact running

/-- A session whose outbound task runs keeps its stage when neither its phase
nor its plan changes. -/
theorem Stage.of_spawned (stage : session.Stage env)
    (running : session.out.pc ≠ .unspawned)
    (samePhase : next.phase = session.phase)
    (sameTodo : next.todo = session.todo)
    (stillRunning : next.out.pc ≠ .unspawned) : next.Stage env :=
  stage.congr samePhase sameTodo (fun _ => stillRunning)
    (fun unused => absurd unused.unspawned running)
    (fun unspawned _ => absurd unspawned running)

/-- A replay task runs only once the outbound task does. -/
theorem Stage.spawned_of_task (stage : session.Stage env) {index : Nat}
    {task : ReplayTask} (present : session.tasks[index]? = some task) :
    session.out.pc ≠ .unspawned := by
  have someTask : session.tasks ≠ [] := by
    intro noTasks
    rw [noTasks] at present
    cases present
  cases stage with
  | unborn _ _ unused | greeting _ _ unused =>
      exact absurd unused.noTasks someTask
  | launching _ _ _ noTasks => exact absurd noTasks someTask
  | serving _ running _ | leaving _ _ running _ _ | returned _ running _
  | closed _ running _ => exact running

/-- A ping is planned only while the task serves. -/
theorem Stage.serving_of_sendPing (stage : session.Stage env)
    {timestamp : Nat} {rest : List Effect}
    (todo : session.todo = .sendPing timestamp :: rest) :
    session.phase = .serving := by
  cases stage with
  | unborn _ noTodo _ => cases noTodo.symm.trans todo
  | greeting serving _ _ | launching serving _ _ _ | serving serving _ _ =>
      exact serving
  | leaving cleanup _ _ presence plan =>
      rw [todo] at plan
      cases cleanup with
      | nil => cases plan
      | cons first cleanup =>
          obtain ⟨rfl, -⟩ := List.cons.inj plan
          cases presence (.sendPing timestamp) List.mem_cons_self
  | returned _ _ plan => cases plan.symm.trans todo
  | closed _ _ noTodo => cases noTodo.symm.trans todo

private theorem Stage.after_sendLive (stage : session.Stage env)
    {frame : ServerMessage} {rest : List Effect} {live : Channel ServerMessage}
    (todo : session.todo = .sendLive frame :: rest) :
    ({ session.withLive live with todo := rest } : Session).Stage env := by
  by_cases unspawned : session.out.pc = .unspawned
  · cases stage with
    | greeting serving plan unused =>
        cases plan.symm.trans todo
        exact .launching serving rfl unspawned unused.noTasks
    | unborn _ noTodo _ => cases noTodo.symm.trans todo
    | launching _ plan _ _ => cases plan.symm.trans todo
    | serving _ running _ | leaving _ _ running _ _ | returned _ running _
    | closed _ running _ => exact absurd unspawned running
  · exact stage.after_service todo rfl unspawned rfl rfl rfl

private theorem Stage.after_spawnOutbound (stage : session.Stage env)
    {rest : List Effect} (todo : session.todo = .spawnOutbound :: rest) :
    ({ session with
        todo := rest
        out := { session.out with pc := .select } } : Session).Stage env := by
  cases stage with
  | launching serving plan _ _ =>
      cases plan.symm.trans todo
      refine .serving serving (by simp) ?_
      intro effect member
      cases member
  | unborn _ noTodo _ => cases noTodo.symm.trans todo
  | greeting _ plan _ => cases plan.symm.trans todo
  | serving _ _ service =>
      cases service .spawnOutbound (by rw [todo]; exact List.mem_cons_self)
  | leaving cleanup _ _ presence plan =>
      rw [todo] at plan
      cases cleanup with
      | nil => cases plan
      | cons first cleanup =>
          obtain ⟨rfl, -⟩ := List.cons.inj plan
          cases presence .spawnOutbound List.mem_cons_self
  | returned _ _ plan => cases plan.symm.trans todo
  | closed _ _ noTodo => cases noTodo.symm.trans todo

private theorem Stage.after_dropSenders (stage : session.Stage env)
    {rest : List Effect} (todo : session.todo = .dropSenders :: rest)
    {out : Outbound} (samePc : out.pc = session.out.pc) :
    ({ session with
        todo := rest, phase := .closed, out := out } : Session).Stage env := by
  cases stage with
  | returned _ running plan =>
      cases plan.symm.trans todo
      exact .closed rfl (by rwa [samePc]) rfl
  | unborn _ noTodo _ => cases noTodo.symm.trans todo
  | greeting _ plan _ | launching _ plan _ _ => cases plan.symm.trans todo
  | serving _ _ service =>
      cases service .dropSenders (by rw [todo]; exact List.mem_cons_self)
  | leaving cleanup _ _ presence plan =>
      rw [todo] at plan
      cases cleanup with
      | nil => cases plan
      | cons first cleanup =>
          obtain ⟨rfl, -⟩ := List.cons.inj plan
          cases presence .dropSenders List.mem_cons_self
  | closed _ _ noTodo => cases noTodo.symm.trans todo

private theorem Stage.after_deregister (stage : session.Stage env)
    {rest : List Effect} (todo : session.todo = .registryDeregister :: rest) :
    ({ session with todo := rest } : Session).Stage env := by
  cases stage with
  | leaving cleanup isLeaving running presence plan =>
      rw [todo] at plan
      cases cleanup with
      | nil => exact .returned isLeaving running (List.cons.inj plan).2
      | cons first cleanup =>
          obtain ⟨rfl, -⟩ := List.cons.inj plan
          cases presence .registryDeregister List.mem_cons_self
  | unborn _ noTodo _ => cases noTodo.symm.trans todo
  | greeting _ plan _ | launching _ plan _ _ => cases plan.symm.trans todo
  | serving _ _ service =>
      cases service .registryDeregister
        (by rw [todo]; exact List.mem_cons_self)
  | returned _ _ plan => cases plan.symm.trans todo
  | closed _ _ noTodo => cases noTodo.symm.trans todo

private theorem Stage.after_external (stage : session.Stage env)
    {effect : Effect} {rest : List Effect}
    (todo : session.todo = effect :: rest)
    (isExternal : effect.isExternal = true) :
    ({ session with todo := rest } : Session).Stage env := by
  by_cases isDeregister : effect = .registryDeregister
  · subst isDeregister
    exact stage.after_deregister todo
  · have isService : effect.isService = true := by
      cases effect <;> simp_all [Effect.isService, Effect.isExternal]
    have running : session.out.pc ≠ .unspawned := by
      apply stage.spawned_of_head todo
      · rintro rfl
        cases isExternal
      · rintro rfl
        cases isService
    exact stage.after_service todo isService running rfl rfl rfl

/-- The stage of a session after a step.  Before a client has sent a frame, the
fan-out loop delivers nothing to it. -/
theorem Stage.step (stage : session.Stage env)
    (delivers : session.frames = [] → ∀ frame, action ≠ .deliver frame)
    (steps : Steps env session action next) : next.Stage env := by
  cases steps with
  | accept ctx isUnborn =>
      cases stage with
      | unborn _ _ unused =>
          exact .greeting rfl rfl
            ⟨unused.unspawned, unused.noFrames, unused.noTasks, unused.noLive,
              unused.capacity⟩
      | greeting phase _ _ | launching phase _ _ _ | serving phase _ _
      | leaving _ phase _ _ _ | returned phase _ _ | closed phase _ _ =>
          cases isUnborn.symm.trans phase
  | frame frame idle =>
      exact .serving idle.1 (stage.spawned_of_idle idle)
        (fun effect member => isService_of_handled member)
  | ping timestamp idle =>
      refine .serving idle.1 (stage.spawned_of_idle idle) ?_
      intro effect member
      rw [List.mem_singleton.mp member]
      rfl
  | hangup idle => exact stage_leave (stage.spawned_of_idle idle)
  | sendLive frame rest live accepted todo sent =>
      exact stage.after_sendLive todo
  | sendPing timestamp rest live todo sent =>
      exact stage.after_service todo rfl
        (stage.spawned_of_head todo (by simp) (by simp)) rfl rfl rfl
  | pingFailed timestamp rest live todo sent =>
      exact stage_leave (stage.spawned_of_head todo (by simp) (by simp))
  | spawnReplay identifier lastSeq rest todo =>
      exact stage.after_service todo rfl
        (stage.spawned_of_head todo (by simp) (by simp)) rfl rfl rfl
  | spawnOutbound rest todo => exact stage.after_spawnOutbound todo
  | dropSenders rest todo => exact stage.after_dropSenders todo rfl
  | external effect rest todo isExternal =>
      exact stage.after_external todo isExternal
  | outbound ok shutdown out stepped =>
      obtain ⟨running, stillRunning⟩ := pc_ne_unspawned_of_step stepped
      exact stage.of_spawned running rfl rfl stillRunning
  | taskGo index stimulus task pc present moves
  | taskEnqueue index stimulus task frame sent gone replay accepted present
      moves offered
  | taskUrgent index stimulus task frame after urgent accepted present moves
      offered =>
      have running := stage.spawned_of_task present
      exact stage.of_spawned running rfl rfl (by simpa using running)
  | deliver frame live accepted =>
      exact stage.congr rfl rfl id
        (fun unused => absurd rfl (delivers unused.noFrames frame))
        (fun unspawned noTasks => ⟨unspawned, noTasks⟩)
  | refuse evict | forget =>
      exact stage.congr rfl rfl id
        (fun unused => ⟨unused.unspawned, unused.noFrames, unused.noTasks,
          unused.noLive, unused.capacity⟩)
        (fun unspawned noTasks => ⟨unspawned, noTasks⟩)

end Session

end TurbocableServer.Connection
