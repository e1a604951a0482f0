import TurbocableServer.Gateway.Lifecycle
import TurbocableServer.Gateway.SocketOrder

/-!
# A node after the shutdown signal

Once the shutdown is signalled, the tasks of a node come to an end in whatever
order they run: the inbound loops take their shutdown branch, the connection
tasks deregister, the outbound tasks drain their queues and return, the replay
tasks finish, and the fan-out loop catches up with the log.  Every step lowers a
rank, and as long as something is left to do, some task can make a step.
-/

namespace TurbocableServer.Gateway.Node

open Foundations Protocol Pubsub Connection

variable {env : Environment} {node next : Node} {action : NodeAction}
variable {conn : ConnId} {conns : Finset ConnId}

/-- Nothing new comes in.  No client is accepted or sends a frame, no ping is
due, nobody publishes, and no message leaves the stream or is handed out again;
the messages that JetStream hands a replay come in the order of their sequences.
Every write to a socket is taken or fails. -/
def Draining (node : Node) : NodeAction → Prop
  | .publish _ _ | .accept _ _ | .frame _ _ | .ping _ _ | .expire | .seek _
  | .shutdown => False
  | .replay conn index input =>
      ∀ task, (node.sessions conn).tasks[index]? = some task →
        Fresh task (node.stimulus input)
  | _ => True

/-! ## The rank of a node -/

/-- A rank of the sessions, added up. -/
def total (conns : Finset ConnId) (rank : Session → Nat) (node : Node) : Nat :=
  ∑ conn ∈ conns, rank (node.sessions conn)

def callsLeft (conns : Finset ConnId) (node : Node) : Nat :=
  ∑ conn ∈ conns, (node.sys.task conn).accessesLeft

/-- What is left to do, the parts that cause work for others first. -/
def workLeft (conns : Finset ConnId) (node : Node) :
    ℕ ×ₗ ℕ ×ₗ ℕ ×ₗ ℕ ×ₗ ℕ ×ₗ ℕ :=
  toLex (total conns Session.planLeft node,
    toLex (node.log.messages.length - node.cursor,
      toLex (callsLeft conns node,
        toLex (node.sys.fanLeft,
          toLex (total conns Session.replaysLeft node,
            total conns (fun session => session.out.stepsLeft) node)))))

theorem total_congr {rank : Session → Nat}
    (same : ∀ conn, rank (next.sessions conn) = rank (node.sessions conn)) :
    total conns rank next = total conns rank node :=
  Finset.sum_congr rfl (fun conn _ => same conn)

theorem total_setSession_lt {rank : Session → Nat} {base : Node}
    {session : Session} (sameSessions : base.sessions = node.sessions)
    (member : conn ∈ conns) (lower : rank session < rank (node.sessions conn)) :
    total conns rank (base.setSession conn session) <
      total conns rank node := by
  apply sum_lt_sum_of_one member
  · intro other different
    rw [setSession_sessions_of_ne base different, sameSessions]
  · rw [setSession_sessions_self]
    exact lower

theorem total_setSession_eq {rank : Session → Nat} {base : Node}
    {session : Session} (sameSessions : base.sessions = node.sessions)
    (same : rank session = rank (node.sessions conn)) :
    total conns rank (base.setSession conn session) =
      total conns rank node := by
  apply total_congr
  intro tested
  by_cases isConn : tested = conn
  · rw [isConn, setSession_sessions_self, same]
  · rw [setSession_sessions_of_ne base isConn, sameSessions]

/-- All connections there are. -/
def Within (conns : Finset ConnId) (node : Node) : Prop :=
  ∀ conn, conn ∉ conns → node.sys.task conn = .unborn

theorem Within.mem (within : node.Within conns)
    (born : node.sys.task conn ≠ .unborn) : conn ∈ conns := by
  by_contra outside
  exact born (within conn outside)

section Reached

variable {log : MessageLog} {cursor : Nat}

/-- Only a connection that was accepted has tasks. -/
theorem task_ne_unborn_of_spawned
    (run : Reaches (step env) (fun _ _ => True) (initial env log cursor) node)
    (spawned : (node.sessions conn).out.pc ≠ .unspawned) :
    node.sys.task conn ≠ .unborn := by
  intro isUnborn
  have phase := (fits_of_reaches run conn).phase_of_unborn isUnborn
  cases stage_of_reaches run conn with
  | unborn _ _ unused => exact spawned unused.unspawned
  | greeting serving _ _ | launching serving _ _ _ | serving serving _ _ =>
      cases phase.symm.trans serving
  | leaving _ leaving _ _ _ | returned leaving _ _ =>
      cases phase.symm.trans leaving
  | closed closed _ _ => cases phase.symm.trans closed

/-- A step of a session on its own. -/
private theorem workLeft_lt_onSession {move : SessionAction}
    {session : Session}
    (run : Reaches (step env) (fun _ _ => True) (initial env log cursor) node)
    (within : node.Within conns) (signalled : node.shutdown = true)
    (draining : Draining node action)
    (isLocal : LocalMove node action conn move)
    (stepped : (node.sessions conn).step env move = some session) :
    (node.setSession conn session).workLeft conns < node.workLeft conns := by
  have steps := Session.steps_of_step stepped
  have stage := stage_of_reaches run conn
  have samePlan :
      Session.isPlanStep move = false → Session.isDemand move = false →
        total conns Session.planLeft (node.setSession conn session) =
          total conns Session.planLeft node := by
    intro notPlan notDemand
    exact total_setSession_eq rfl (steps.planLeft_eq notPlan notDemand)
  cases isLocal with
  | frame _ frame ready => cases draining
  | ping _ timestamp ready => cases draining
  | hangup _ ready =>
      apply lex_lt_of_fst
      apply total_setSession_lt rfl (within.mem (by simp [ready]))
      exact steps.planLeft_lt stage rfl
  | effect _ succeeds effect rest todo point notCall =>
      have born : node.sys.task conn ≠ .unborn := by
        rw [point]
        cases effect <;> simp [effectPoint]
      apply lex_lt_of_fst
      apply total_setSession_lt rfl (within.mem born)
      exact steps.planLeft_lt stage rfl
  | outbound _ ok =>
      cases steps with
      | outbound _ _ out isStep =>
          have spawned := (Session.pc_ne_unspawned_of_step isStep).1
          rw [signalled] at isStep
          refine lex_lt_of_snd (samePlan rfl rfl) (lex_lt_of_snd rfl
            (lex_lt_of_snd rfl (lex_lt_of_snd rfl (lex_lt_of_snd ?_ ?_))))
          · exact total_setSession_eq rfl rfl
          · apply total_setSession_lt rfl
              (within.mem (task_ne_unborn_of_spawned run spawned))
            exact OutboundState.stepsLeft_lt_of_step isStep
  | replay _ index input =>
      have spawned : (node.sessions conn).out.pc ≠ .unspawned := by
        cases steps with
        | taskGo _ _ task pc present _ => exact stage.spawned_of_task present
        | taskEnqueue _ _ task _ _ _ _ _ present _ _
        | taskUrgent _ _ task _ _ _ _ present _ _ =>
            exact stage.spawned_of_task present
      refine lex_lt_of_snd (samePlan rfl rfl) (lex_lt_of_snd rfl
        (lex_lt_of_snd rfl (lex_lt_of_snd rfl (lex_lt_of_fst ?_))))
      apply total_setSession_lt rfl
        (within.mem (task_ne_unborn_of_spawned run spawned))
      exact Session.replaysLeft_lt_of_step stepped draining

/-- An access of a connection task. -/
private theorem workLeft_lt_advance {sys : RegSystem} {after : Node}
    (sound : node.sys.Sound) (within : node.Within conns)
    (accessed : node.sys.step (.advance conn) = some sys)
    (isSys : after.sys = sys) (sameLog : after.log = node.log)
    (sameCursor : after.cursor = node.cursor)
    (samePlan :
      total conns Session.planLeft after =
        total conns Session.planLeft node) :
    after.workLeft conns < node.workLeft conns := by
  obtain ⟨lower, others, -⟩ :=
    RegSystem.accessesLeft_lt_of_advance sound accessed
  have born : node.sys.task conn ≠ .unborn := by
    intro isUnborn
    rw [isUnborn] at lower
    exact Nat.not_lt_zero _ lower
  refine lex_lt_of_snd samePlan (lex_lt_of_snd ?_ (lex_lt_of_fst ?_))
  · rw [sameLog, sameCursor]
  · rw [callsLeft, callsLeft, isSys]
    apply sum_lt_sum_of_one (within.mem born)
    · intro other different
      rw [others other different]
    · exact lower

/-- An access of the fan-out task. -/
private theorem workLeft_lt_fan {sys : RegSystem} {after : Node}
    {call : RegAction} (accessed : node.sys.step call = some sys)
    (notActor : call.actor = none) (lower : sys.fanLeft < node.sys.fanLeft)
    (isSys : after.sys = sys) (sameLog : after.log = node.log)
    (sameCursor : after.cursor = node.cursor)
    (samePlan :
      total conns Session.planLeft after =
        total conns Session.planLeft node) :
    after.workLeft conns < node.workLeft conns := by
  refine lex_lt_of_snd samePlan
    (lex_lt_of_snd ?_ (lex_lt_of_snd ?_ (lex_lt_of_fst ?_)))
  · rw [sameLog, sameCursor]
  · rw [callsLeft, callsLeft, isSys]
    refine Finset.sum_congr rfl (fun tested _ => ?_)
    rw [(RegSystem.steps_of_step accessed).task_of_ne_actor
      (by simp [notActor])]
  · rw [isSys]
    exact lower

/-- Every step of a node that drains lowers what is left to do. -/
theorem workLeft_lt_of_steps
    (run : Reaches (step env) (fun _ _ => True) (initial env log cursor) node)
    (within : node.Within conns) (signalled : node.shutdown = true)
    (draining : Draining node action) (steps : Steps env node action next) :
    next.workLeft conns < node.workLeft conns := by
  have sound := (traced_of_reaches run).sound
  have quiet :
      ∀ {target : ConnId} {base : Node} {session : Session}
        {move : SessionAction},
        base.sessions = node.sessions →
          (node.sessions target).step env move = some session →
            Session.isPlanStep move = false →
              Session.isDemand move = false →
                total conns Session.planLeft
                    (base.setSession target session) =
                  total conns Session.planLeft node := by
    intro target base session move sameSessions stepped notPlan notDemand
    exact total_setSession_eq sameSessions
      ((Session.steps_of_step stepped).planLeft_eq notPlan notDemand)
  have shorter :
      ∀ {message : StoredMessage},
        node.log.messages[node.cursor]? = some message →
          node.log.messages.length - (node.cursor + 1) <
            node.log.messages.length - node.cursor := by
    intro message present
    have inLog := (List.getElem?_eq_some_iff.mp present).1
    omega
  cases steps with
  | publish subject payload
  | accept target ctx sys session registered stepped | expire present
  | seek position idle within | shutdown => cases draining
  | advance target sys accessed kept =>
      exact workLeft_lt_advance sound within accessed rfl rfl rfl rfl
  | advanceForget target sys session accessed present removed stepped =>
      exact workLeft_lt_advance sound within accessed rfl rfl rfl
        (quiet rfl stepped rfl rfl)
  | onSession label target move session isLocal stepped =>
      exact workLeft_lt_onSession run within signalled draining isLocal stepped
  | call target succeeds effect rest call sys session todo isCall ready accessed
      stepped
  | published target identifier data rest session todo ready stepped =>
      apply lex_lt_of_fst
      apply total_setSession_lt rfl (within.mem (by simp [ready]))
      exact (Session.steps_of_step stepped).planLeft_lt
        (stage_of_reaches run target) rfl
  | fanSkip message idle present | fanNext message sys idle present accessed =>
      exact lex_lt_of_snd rfl (lex_lt_of_fst (shorter present))
  | delivered stream target todo evicted message sys session scanning current
      present stepped accessed
  | refused stream target todo evicted message sys session scanning current
      present noRoom stepped accessed =>
      exact workLeft_lt_fan accessed rfl
        (RegSystem.fanLeft_lt_of_deliver accessed) rfl rfl rfl
        (quiet rfl stepped rfl rfl)
  | absent stream target todo evicted message sys scanning current missing
      accessed =>
      exact workLeft_lt_fan accessed rfl
        (RegSystem.fanLeft_lt_of_deliver accessed) rfl rfl rfl rfl
  | fanRelease sys accessed =>
      exact workLeft_lt_fan accessed rfl
        (RegSystem.fanLeft_lt_of_release accessed) rfl rfl rfl rfl
  | fanEvict target pc rest sys evicting accessed kept =>
      exact workLeft_lt_fan accessed rfl
        (RegSystem.fanLeft_lt_of_evict accessed) rfl rfl rfl rfl
  | fanForget target pc rest sys session evicting accessed present removed
      stepped =>
      exact workLeft_lt_fan accessed rfl
        (RegSystem.fanLeft_lt_of_evict accessed) rfl rfl rfl
        (quiet rfl stepped rfl rfl)

theorem shutdown_of_steps (steps : Steps env node action next)
    (signalled : node.shutdown = true) : next.shutdown = true := by
  cases steps <;> first | exact signalled | rfl

/-- Nobody is accepted. -/
theorem Within.step (within : node.Within conns)
    (draining : Draining node action) (steps : Steps env node action next) :
    next.Within conns := by
  intro conn outside
  have isUnborn := within conn outside
  have unmoved :
      ∀ {call : RegAction} {sys : RegSystem},
        node.sys.step call = some sys →
          (∀ entry, call ≠ .register conn entry) →
            sys.task conn = .unborn := by
    intro call sys accessed notRegister
    exact (RegSystem.steps_of_step accessed).task_of_unborn notRegister isUnborn
  cases steps with
  | accept target ctx sys session registered stepped => cases draining
  | advance target sys accessed kept => exact unmoved accessed (by simp)
  | advanceForget target sys session accessed present removed stepped =>
      exact unmoved accessed (by simp)
  | call target succeeds effect rest call sys session todo isCall ready
      accessed stepped =>
      apply unmoved accessed
      rcases registryCall_cases isCall with
        ⟨_, _, rfl⟩ | ⟨_, _, rfl⟩ | ⟨_, rfl⟩ <;> simp
  | fanNext message sys idle present accessed
  | delivered stream target todo evicted message sys session scanning current
      present stepped accessed
  | refused stream target todo evicted message sys session scanning current
      present noRoom stepped accessed
  | absent stream target todo evicted message sys scanning current missing
      accessed =>
      exact unmoved accessed (by simp)
  | fanRelease sys accessed => exact unmoved accessed (by simp)
  | fanEvict target pc rest sys evicting accessed kept
  | fanForget target pc rest sys session evicting accessed present removed
      stepped =>
      exact unmoved accessed (by simp)
  | _ => exact isUnborn

/-- A node that drains does not go on forever. -/
theorem acc_draining
    (run : Reaches (step env) (fun _ _ => True) (initial env log cursor) node)
    (signalled : node.shutdown = true) :
    Acc (Follows (step env) Draining) node := by
  obtain ⟨conns, within⟩ := finite_of_reaches run
  have lowers :
      ∀ source action target,
        Draining source action → step env source action = some target →
          (Reaches (step env) (fun _ _ => True) (initial env log cursor)
              source ∧ source.Within conns ∧ source.shutdown = true) →
          (Reaches (step env) (fun _ _ => True) (initial env log cursor)
              target ∧ target.Within conns ∧ target.shutdown = true) ∧
            target.workLeft conns < source.workLeft conns := by
    rintro source action target draining moved ⟨reached, inside, isSignalled⟩
    have steps := steps_of_step moved
    exact ⟨⟨reached.tail trivial moved, inside.step draining steps,
      shutdown_of_steps steps isSignalled⟩,
      workLeft_lt_of_steps reached inside isSignalled draining steps⟩
  exact acc_follows_of_rank lowers ⟨run, within, signalled⟩

/-! ## Somebody can go on -/

theorem exists_onSession {move : SessionAction}
    (enabled : ∃ session, (node.sessions conn).step env move = some session) :
    ∃ next, onSession env node conn move = some next := by
  obtain ⟨session, stepped⟩ := enabled
  exact ⟨node.setSession conn session, by rw [onSession, stepped]; rfl⟩

theorem exists_access {call : RegAction}
    (enabled : ∃ sys, node.sys.step call = some sys) :
    ∃ next, access env node conn call = some next := by
  obtain ⟨sys, accessed⟩ := enabled
  unfold access
  rw [accessed]
  show ∃ next,
    (if conn ∈ node.sys.reg.connections ∧ conn ∉ sys.reg.connections then
      onSession env { node with sys := sys } conn .forget
    else some { node with sys := sys }) = some next
  split
  · exact exists_onSession ⟨_, rfl⟩
  · exact ⟨_, rfl⟩

/-- The next delivery of a scan is never held up. -/
theorem exists_deliver {stream : String} {todo evicted : List ConnId}
    {message : StoredMessage}
    (scanning : node.sys.fan = .scanning stream (conn :: todo) evicted)
    (current : node.current = some message) :
    ∃ next, deliver env node = some next := by
  have served :
      ∀ accepted, ∃ sys, node.sys.step (.deliver accepted) = some sys := by
    intro accepted
    simp only [RegSystem.step, scanning]
    split
    · exact ⟨_, rfl⟩
    · exact ⟨_, rfl⟩
  obtain ⟨passed, isPassed⟩ := served true
  obtain ⟨refused, isRefused⟩ := served false
  unfold deliver
  rw [scanning, current]
  simp only [isPassed, isRefused, Option.map_some]
  split
  · split
    · exact ⟨_, rfl⟩
    · obtain ⟨signalled, isSignalled⟩ :
          ∃ next, onSession env node conn .refuse = some next := by
        apply exists_onSession
        simp only [Session.step]
        split
        · exact ⟨_, rfl⟩
        · exact ⟨_, rfl⟩
      rw [isSignalled]
      exact ⟨_, rfl⟩
  · exact ⟨_, rfl⟩

/-- The frame that an effect sends to the live queue. -/
def sentFrame : Effect → Option ServerMessage
  | .sendLive frame => some frame
  | .sendPing timestamp => some (.ping timestamp)
  | _ => none

/-- An effect is held up only by a full live queue. -/
theorem exists_session_effect {session : Session} {effect : Effect}
    {rest : List Effect} (todo : session.todo = effect :: rest)
    (sends : ∀ frame, sentFrame effect = some frame →
      ∃ sent, session.out.live.send frame = some sent) :
    ∃ after, session.step env .effect = some after := by
  simp only [Session.step, todo]
  cases effect with
  | sendLive frame =>
      obtain ⟨sent, isSent⟩ := sends frame rfl
      exact ⟨_, by rw [Session.performEffect, isSent]; rfl⟩
  | sendPing timestamp =>
      obtain ⟨sent, isSent⟩ := sends (.ping timestamp) rfl
      exact ⟨_, by rw [Session.performEffect, isSent]; rfl⟩
  | _ => exact ⟨_, rfl⟩

/-- While no fan-out is under way, a registry call begins at once. -/
theorem exists_call {effect : Effect} {call : RegAction}
    (isCall : registryCall conn effect = some call)
    (ready : node.sys.task conn = .ready) (idle : node.sys.fan = .idle) :
    ∃ sys, node.sys.step call = some sys := by
  rcases registryCall_cases isCall with
    ⟨stream, -, rfl⟩ | ⟨stream, -, rfl⟩ | ⟨-, rfl⟩
  · rw [RegSystem.step, if_pos ready]
    split
    · exact ⟨_, rfl⟩
    · split
      · exact ⟨_, rfl⟩
      · exact ⟨_, rfl⟩
  · have unlocked : node.sys.readLocked stream = false :=
      RegSystem.readLocked_of_not_scanning (by simp [idle]) stream
    exact ⟨_, by rw [RegSystem.step, if_pos ⟨ready, unlocked⟩]⟩
  · exact ⟨_, by rw [RegSystem.step, if_pos ready]⟩

theorem exists_effect {effect : Effect} {rest : List Effect}
    (todo : (node.sessions conn).todo = effect :: rest)
    (point : node.sys.task conn = effectPoint effect)
    (idle : node.sys.fan = .idle)
    (sends : ∀ frame, sentFrame effect = some frame →
      ∃ sent, (node.sessions conn).out.live.send frame = some sent) :
    ∃ next, node.step env (.effect conn true) = some next := by
  have enabled :
      ∃ after, (node.sessions conn).step env .effect = some after :=
    exists_session_effect todo sends
  simp only [step, todo, if_pos point]
  unfold performEffect
  split
  · exact exists_onSession enabled
  · split
    · rename_i call isCall
      have ready : node.sys.task conn = .ready := by
        rw [point]
        cases effect <;> first | rfl | cases isCall
      obtain ⟨sys, accessed⟩ := exists_call isCall ready idle
      rw [accessed]
      exact exists_onSession enabled
    · exact exists_onSession enabled

/-- A replay task can always be brought on, unless it waits for a queue. -/
theorem exists_replay {index : Nat} {task : ReplayTask}
    (present : (node.sessions conn).tasks[index]? = some task)
    (goesOn : ∀ confirmed, task.pc ≠ .ended confirmed)
    (gone : (node.sessions conn).out.ReceiversGone) :
    ∃ input, Draining node (.replay conn index input) ∧
      ∃ next, node.step env (.replay conn index input) = some next := by
  have moves :
      ∀ {input : ReplayInput} {pc : ReplayPc},
        taskMove env task (node.stimulus input) = some (.go pc) →
          ∃ next, node.step env (.replay conn index input) = some next := by
    intro input pc isMove
    apply exists_onSession
    simp only [Session.step, Session.stepTask, present, isMove]
    exact ⟨_, rfl⟩
  cases here : task.pc with
  | queued =>
      exact ⟨.permit false, fun _ _ => trivial,
        moves (by simp only [stimulus, taskMove, here]; rfl)⟩
  | checking =>
      exact ⟨.info (some ""), fun _ _ => trivial,
        moves (by simp only [stimulus, taskMove, here]; rfl)⟩
  | opening =>
      exact ⟨.opened (some ""), fun _ _ => trivial,
        moves (by simp only [stimulus, taskMove, here]; rfl)⟩
  | streaming stored cursor =>
      refine ⟨.fetched .ended, fun _ _ => trivial, ?_⟩
      have finishes :
          replayTurn env.decodePayload task.identifier cursor .ended =
            .finish (.ok ⟨cursor.count, false⟩) := by
        unfold replayTurn
        split <;> rfl
      exact moves (by simp only [stimulus, taskMove, here, finishes]; rfl)
  | answering answer =>
      refine ⟨.answer, fun _ _ => trivial, ?_⟩
      apply exists_onSession
      cases answer with
      | confirm =>
          simp [Session.step, Session.stepTask, present, stimulus, taskMove,
            here, Channel.send, gone.replay]
      | disconnect reason =>
          simp [Session.step, Session.stepTask, present, stimulus, taskMove,
            here, Channel.send, gone.urgent]
  | ended confirmed => exact absurd here (goesOn confirmed)

/-! ## Where the connection tasks cannot go on -/

/-- No fan-out is under way, and no connection task can go on. -/
structure Settled (env : Environment) (node : Node) : Prop where
  idle : node.sys.fan = .idle
  noAdvance : ∀ conn, ¬ ∃ next, node.step env (.advance conn) = some next
  noEffect : ∀ conn, ¬ ∃ next, node.step env (.effect conn true) = some next
  noHangup : ∀ conn, ¬ ∃ next, node.step env (.hangup conn) = some next

/-- The sends that the connection task makes next are not held up. -/
def SendsPass (session : Session) : Prop :=
  ∀ effect rest, session.todo = effect :: rest →
    ∀ frame, sentFrame effect = some frame →
      ∃ sent, session.out.live.send frame = some sent

theorem effectPoint_of_isService {effect : Effect}
    (isService : effect.isService = true) : effectPoint effect = .ready := by
  cases effect <;> first | rfl | cases isService

namespace Settled

theorem task_cases (settled : node.Settled env) (conn : ConnId) :
    node.sys.task conn = .unborn ∨ node.sys.task conn = .ready ∨
      node.sys.task conn = .gone := by
  have unlocked : ∀ stream, node.sys.readLocked stream = false :=
    RegSystem.readLocked_of_not_scanning (by simp [settled.idle])
  have quiet : ¬ node.sys.Calls conn := fun calls =>
    settled.noAdvance conn
      (exists_access (RegSystem.exists_advance calls unlocked))
  unfold RegSystem.Calls at quiet
  tauto

theorem ready (settled : node.Settled env)
    (serves : (node.sys.task conn).serves = true) :
    node.sys.task conn = .ready := by
  rcases settled.task_cases conn with isUnborn | isReady | isGone
  · rw [isUnborn] at serves
    cases serves
  · exact isReady
  · rw [isGone] at serves
    cases serves

theorem gone (settled : node.Settled env)
    (departs : (node.sys.task conn).departs = true) :
    node.sys.task conn = .gone := by
  rcases settled.task_cases conn with isUnborn | isReady | isGone
  · rw [isUnborn] at departs
    cases departs
  · rw [isReady] at departs
    cases departs
  · exact isGone

/-- Nothing is left of the plan of a connection task. -/
theorem no_effect (settled : node.Settled env)
    (pass : SendsPass (node.sessions conn)) {effect : Effect}
    {rest : List Effect} (todo : (node.sessions conn).todo = effect :: rest)
    (point : node.sys.task conn = effectPoint effect) : False :=
  settled.noEffect conn
    (exists_effect todo point settled.idle (pass effect rest todo))

theorem no_idle (settled : node.Settled env)
    (ready : node.sys.task conn = .ready)
    (sessionIdle : (node.sessions conn).Idle) : False := by
  apply settled.noHangup conn
  simp only [step, if_pos ready]
  apply exists_onSession
  exact ⟨_, by rw [Session.step, if_pos sessionIdle]⟩

/-- Every connection task has run to its end. -/
theorem unborn_or_closed (settled : node.Settled env)
    (run : Reaches (step env) (fun _ _ => True) (initial env log cursor) node)
    (pass : SendsPass (node.sessions conn)) :
    (node.sessions conn).phase = .unborn ∨
      (node.sessions conn).phase = .closed := by
  have fits := fits_of_reaches run conn
  cases stage_of_reaches run conn with
  | unborn isUnborn _ _ => exact Or.inl isUnborn
  | greeting serving todo _ | launching serving todo _ _ =>
      exact (settled.no_effect pass todo
        (settled.ready (fits.serving serving))).elim
  | serving serving _ service =>
      have ready := settled.ready (fits.serving serving)
      cases todo : (node.sessions conn).todo with
      | nil => exact (settled.no_idle ready ⟨serving, todo⟩).elim
      | cons effect rest =>
          have isService : effect.isService = true := by
            apply service
            rw [todo]
            exact List.mem_cons_self
          refine (settled.no_effect pass todo ?_).elim
          rw [ready, effectPoint_of_isService isService]
  | leaving cleanup leaving _ presence todo =>
      have ready : node.sys.task conn = .ready := by
        apply settled.ready
        apply fits.leaving leaving
        rw [todo]
        cases cleanup <;> simp
      cases cleanup with
      | nil => exact (settled.no_effect pass todo ready).elim
      | cons effect cleanup =>
          have isService := Effect.isService_of_isPresence
            (presence effect List.mem_cons_self)
          refine (settled.no_effect pass todo ?_).elim
          rw [ready, effectPoint_of_isService isService]
  | returned leaving _ todo =>
      exact (settled.no_effect pass todo
        (settled.gone (fits.returned leaving todo))).elim
  | closed closed _ _ => exact Or.inr closed

/-- Then the registry is empty, and so is the count that `run` polls. -/
theorem uncounted (settled : node.Settled env)
    (run : Reaches (step env) (fun _ _ => True) (initial env log cursor) node)
    (pass : ∀ conn, SendsPass (node.sessions conn)) :
    (∀ conn, conn ∉ node.sys.reg.connections) ∧ node.sys.reg.active = 0 := by
  have sound := (traced_of_reaches run).sound
  have unregistered : ∀ conn, conn ∉ node.sys.reg.connections := by
    intro conn registered
    have coherent := sound.coherent conn
    rcases settled.unborn_or_closed run (pass conn) with isUnborn | isClosed
    · have task := (fits_of_reaches run conn).unborn isUnborn
      exact (coherent.birthStages.1 task).1 registered
    · have task := (fits_of_reaches run conn).closed isClosed
      exact (coherent.detached.2.2 task).2 registered
  refine ⟨unregistered, ?_⟩
  have consistent := sound.consistent ⟨settled.idle, settled.task_cases⟩
  have noKeys : node.sys.reg.connections.keys = ∅ := by
    ext conn
    simp only [Finset.notMem_empty, iff_false]
    exact fun member => unregistered conn (Finmap.mem_keys.mp member)
  rw [consistent.active_eq, noKeys]
  rfl

end Settled

/-! ## Where no task can go on -/

structure AtRest (env : Environment) (node : Node) : Prop where
  final : Final (step env) Draining node
  signalled : node.shutdown = true

theorem send_of_receiverGone {queue : Channel ServerMessage}
    (gone : queue.receiverAlive = false) (frame : ServerMessage) :
    ∃ sent, queue.send frame = some sent := by
  exact ⟨(queue, false), by simp [Channel.send, gone]⟩

theorem send_of_hasRoom {queue : Channel ServerMessage}
    (room : queue.hasRoom = true) (frame : ServerMessage) :
    ∃ sent, queue.send frame = some sent := by
  unfold Channel.send
  rw [room]
  split
  · exact ⟨_, rfl⟩
  · exact ⟨_, rfl⟩

namespace AtRest

theorem not_enabled (atRest : node.AtRest env) (action : NodeAction)
    (draining : Draining node action) :
    ¬ ∃ next, node.step env action = some next := by
  rintro ⟨next, moved⟩
  rw [atRest.final action draining] at moved
  cases moved

theorem fan_idle (atRest : node.AtRest env) (traced : node.Traced env) :
    node.sys.fan = .idle := by
  cases here : node.sys.fan with
  | idle => rfl
  | scanning stream todo evicted =>
      obtain ⟨message, current, -⟩ := traced.scanned stream todo evicted here
      cases todo with
      | nil =>
          refine absurd ?_ (atRest.not_enabled .fanRelease trivial)
          simp [step, RegSystem.step, here]
      | cons conn todo =>
          exact absurd (exists_deliver here current)
            (atRest.not_enabled .fanDeliver trivial)
  | evicting target pc rest =>
      have unlocked : ∀ stream, node.sys.readLocked stream = false :=
        RegSystem.readLocked_of_not_scanning (by simp [here])
      cases locked : node.sys.connStreamsLocked target with
      | true =>
          -- The connection's own call holds the lock, and it can go on.
          have calls := RegSystem.calls_of_connStreamsLocked locked
          exact absurd (exists_access (RegSystem.exists_advance calls unlocked))
            (atRest.not_enabled (.advance target) trivial)
      | false =>
          refine absurd ?_ (atRest.not_enabled .fanEvict trivial)
          simp only [step, here]
          exact exists_access (RegSystem.exists_evict here locked)

theorem settled (atRest : node.AtRest env) (traced : node.Traced env) :
    node.Settled env where
  idle := atRest.fan_idle traced
  noAdvance := fun conn => atRest.not_enabled (.advance conn) trivial
  noEffect := fun conn => atRest.not_enabled (.effect conn true) trivial
  noHangup := fun conn => atRest.not_enabled (.hangup conn) trivial

theorem caughtUp (atRest : node.AtRest env) (idle : node.sys.fan = .idle) :
    node.log.messages.length ≤ node.cursor := by
  by_contra behind
  have inLog : node.cursor < node.log.messages.length := by omega
  refine absurd ?_ (atRest.not_enabled (.fanNext false) trivial)
  simp [step, takeNext, idle, List.getElem?_eq_getElem inLog]

theorem exited (atRest : node.AtRest env)
    (spawned : (node.sessions conn).out.pc ≠ .unspawned) :
    (node.sessions conn).out.pc = .exited := by
  by_contra running
  apply atRest.not_enabled (.outbound conn true) trivial
  apply exists_onSession
  obtain ⟨out, isStep⟩ :=
    OutboundState.exists_step_of_shutdown some true backpressureFrame spawned
      running
  exact ⟨{ node.sessions conn with out := out }, by
    rw [Session.step, atRest.signalled, isStep]
    rfl⟩

theorem receiversGone (atRest : node.AtRest env)
    (run : Reaches (step env) (fun _ _ => True) (initial env log cursor) node)
    (spawned : (node.sessions conn).out.pc ≠ .unspawned) :
    (node.sessions conn).out.ReceiversGone :=
  hushed_of_reaches run conn (atRest.exited spawned)

/-- A send that nobody receives fails at once, and the welcome frame finds an
empty queue. -/
theorem sendsPass (atRest : node.AtRest env)
    (run : Reaches (step env) (fun _ _ => True) (initial env log cursor) node)
    (conn : ConnId) : SendsPass (node.sessions conn) := by
  have ofSpawned :
      (node.sessions conn).out.pc ≠ .unspawned →
        SendsPass (node.sessions conn) :=
    fun spawned _ _ _ frame _ =>
      send_of_receiverGone (atRest.receiversGone run spawned).live frame
  cases stage_of_reaches run conn with
  | unborn _ noPlan _ =>
      intro effect rest todo
      rw [noPlan] at todo
      cases todo
  | greeting _ _ unused =>
      have room : (node.sessions conn).out.live.hasRoom = true := by
        rw [Channel.hasRoom, unused.noLive, unused.capacity]
        exact decide_eq_true env.liveCapacity_pos
      exact fun _ _ _ frame _ => send_of_hasRoom room frame
  | launching _ isPlan _ _ =>
      intro effect rest todo frame isSent
      rw [isPlan] at todo
      cases todo
      cases isSent
  | serving _ spawned _ | leaving _ _ spawned _ _ | returned _ spawned _
  | closed _ spawned _ => exact ofSpawned spawned

end AtRest

/-! ## The end -/

/-- All that is left of a connection: it was never accepted, or all its tasks
have come to an end. -/
def Finished (session : Session) : Prop :=
  session.phase = .unborn ∨
    session.phase = .closed ∧ session.out.pc = .exited ∧
      ∀ task, task ∈ session.tasks → ∃ confirmed, task.pc = .ended confirmed

theorem AtRest.finished (atRest : node.AtRest env)
    (run : Reaches (step env) (fun _ _ => True) (initial env log cursor) node)
    (conn : ConnId) : Finished (node.sessions conn) := by
  have settled := atRest.settled (traced_of_reaches run)
  rcases settled.unborn_or_closed run (atRest.sendsPass run conn) with
    isUnborn | isClosed
  · exact Or.inl isUnborn
  · have spawned : (node.sessions conn).out.pc ≠ .unspawned :=
      (stage_of_reaches run conn).spawned_of_closed isClosed
    refine Or.inr ⟨isClosed, atRest.exited spawned, ?_⟩
    intro task member
    by_contra goesOn
    push Not at goesOn
    obtain ⟨index, present⟩ := List.mem_iff_getElem?.mp member
    obtain ⟨input, draining, enabled⟩ :=
      exists_replay present goesOn (atRest.receiversGone run spawned)
    exact atRest.not_enabled _ draining enabled

/-- The state in which the drain loop of `run` finds no connection left. -/
structure Drained (node : Node) : Prop where
  uncounted : node.sys.reg.active = 0
  unregistered : ∀ conn, conn ∉ node.sys.reg.connections
  finished : ∀ conn, Finished (node.sessions conn)
  caughtUp : node.sys.fan = .idle ∧ node.log.messages.length ≤ node.cursor

theorem AtRest.drained (atRest : node.AtRest env)
    (run : Reaches (step env) (fun _ _ => True) (initial env log cursor)
      node) : node.Drained := by
  have settled := atRest.settled (traced_of_reaches run)
  obtain ⟨unregistered, uncounted⟩ :=
    settled.uncounted run (atRest.sendsPass run)
  exact ⟨uncounted, unregistered, atRest.finished run, settled.idle,
    atRest.caughtUp settled.idle⟩

/-- After the shutdown signal a node comes to an end in whatever order its tasks
run.  It does not go on forever, and where no task can go on, all tasks of all
connections have ended, the fan-out loop has caught up with the log, and the
connection count that `run` waits for is zero. -/
theorem shutdown_completes
    (run : Reaches (step env) (fun _ _ => True) (initial env log cursor) node)
    (signalled : node.shutdown = true) :
    Acc (Follows (step env) Draining) node ∧
      (∀ later, Reaches (step env) Draining node later →
        Final (step env) Draining later → later.Drained) ∧
      ∃ later, Reaches (step env) Draining node later ∧ later.Drained := by
  have ends := acc_draining run signalled
  have kept :
      ∀ source action target,
        Draining source action → step env source action = some target →
          source.shutdown = true → target.shutdown = true :=
    fun _ _ _ _ moved isSignalled =>
      shutdown_of_steps (steps_of_step moved) isSignalled
  have atEnd :
      ∀ later, Reaches (step env) Draining node later →
        Final (step env) Draining later → later.Drained := by
    intro later drain final
    have atRest : later.AtRest env :=
      ⟨final, drain.invariant kept signalled⟩
    exact atRest.drained (run.extend drain)
  refine ⟨ends, atEnd, ?_⟩
  obtain ⟨later, drain, final⟩ := exists_final_of_acc ends
  exact ⟨later, drain, atEnd later drain final⟩

end Reached

/-- The signal comes while a replay is reading and a live frame is queued. -/
def signalledNode : Node :=
  (newsRun (fun _ _ => True)
    (newsConnect ++ newsSubscribe ++ [newsPublish] ++ newsFanOut ++
      [.effect 1 true] ++ newsOpen 0 ++ [.shutdown])).get (by decide)

theorem shutdown_completes_signalledNode :
    signalledNode.shutdown = true ∧
      signalledNode.sys.reg.active = 1 ∧
      ∃ later, Reaches (step newsEnv) Draining signalledNode later ∧
        later.Drained := by
  have run :
      Reaches (step newsEnv) (fun _ _ => True) (initial newsEnv .empty 0)
        signalledNode :=
    reaches_execute_get _
  have signalled : signalledNode.shutdown = true := by decide
  exact ⟨signalled, by decide, (shutdown_completes run signalled).2.2⟩

end TurbocableServer.Gateway.Node
