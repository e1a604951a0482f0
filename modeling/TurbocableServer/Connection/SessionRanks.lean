import TurbocableServer.Connection.SessionStages
import TurbocableServer.Foundations.Progress

/-!
# How much a session has left to do

After the shutdown signal each task of a session has finitely much left to do:
the outbound task drains its queues and returns, a replay task is bounded by the
replay limit, and the connection task works off its plan, leaves and closes.
Each of the three is given a rank that its own steps lower.
-/

namespace TurbocableServer.Connection

open Foundations Protocol Pubsub

/-! ## The outbound task -/

namespace OutboundState

variable {β μ : Type} {toMsg : β → Option μ} {disconnectFrame : β}
variable {ok shutdown : Bool} {state next : OutboundState β μ}

/-- A bound on the steps of the outbound task after the shutdown signal. -/
def stepsLeft (state : OutboundState β μ) : Nat :=
  match state.pc with
  | .unspawned => 0
  | .select =>
      3 + state.evictOpen.toNat + state.urgentOpen.toNat +
        state.replay.buf.length + state.live.buf.length
  | .burst _ => 6 + state.replay.buf.length + state.live.buf.length
  | .drainReplay => 2 + state.replay.buf.length + state.live.buf.length
  | .drainLive => 1 + state.live.buf.length
  | .exited => 0

theorem stepsLeft_of_exited (exited : state.pc = .exited) :
    state.stepsLeft = 0 := by
  rw [stepsLeft, exited]

theorem stepsLeft_of_select (atSelect : state.pc = .select) :
    state.stepsLeft =
      3 + state.evictOpen.toNat + state.urgentOpen.toNat +
        state.replay.buf.length + state.live.buf.length := by
  rw [stepsLeft, atSelect]

theorem stepsLeft_select_le (atSelect : state.pc = .select) :
    state.stepsLeft ≤
      5 + state.replay.buf.length + state.live.buf.length := by
  have evict := Bool.toNat_le state.evictOpen
  have urgent := Bool.toNat_le state.urgentOpen
  rw [stepsLeft_of_select atSelect]
  omega

private theorem urgentBranch_lowers (atSelect : state.pc = .select)
    (moved : urgentBranch toMsg ok true state = some next) :
    next.stepsLeft < state.stepsLeft := by
  have positive := stepsLeft_of_select atSelect
  have drains : (goTo .drainReplay state).stepsLeft < state.stepsLeft := by
    show 2 + state.replay.buf.length + state.live.buf.length < _
    omega
  unfold urgentBranch at moved
  split at moved
  · rename_i isOpen
    split at moved
    · obtain rfl := Option.some.inj moved
      rw [stepsLeft_of_exited rfl]
      omega
    · obtain rfl := Option.some.inj moved
      simp [stepsLeft, atSelect, isOpen]
    · obtain rfl := Option.some.inj moved
      exact drains
  · obtain rfl := Option.some.inj moved
    exact drains

private theorem selectStep_lowers (atSelect : state.pc = .select)
    (moved : selectStep toMsg ok disconnectFrame true state = some next) :
    next.stepsLeft < state.stepsLeft := by
  have positive := stepsLeft_of_select atSelect
  unfold selectStep at moved
  split at moved
  · rename_i isOpen
    split at moved
    · obtain rfl := Option.some.inj moved
      rw [stepsLeft_of_exited rfl]
      omega
    · obtain rfl := Option.some.inj moved
      simp [stepsLeft, atSelect, isOpen]
    · exact urgentBranch_lowers atSelect moved
  · exact urgentBranch_lowers atSelect moved

private theorem burstStep_lowers {left : Nat}
    (inBurst : state.pc = .burst left) :
    (burstStep toMsg ok left state).stepsLeft < state.stepsLeft := by
  have before :
      state.stepsLeft =
        6 + state.replay.buf.length + state.live.buf.length := by
    rw [stepsLeft, inBurst]
  unfold burstStep
  split
  · have after :
        (goTo .select state).stepsLeft ≤
          5 + state.replay.buf.length + state.live.buf.length :=
      stepsLeft_select_le rfl
    omega
  · rename_i frame rest taken
    have took := (tookHead_of_tryRecv taken).buf
    rcases writeThen_cases toMsg ok { state with replay := rest } frame
        (goTo (burstPc (left - 1))) (fun failed => failed.hangUp ok) with
      written | ⟨-, lost⟩
    · rw [written, before, took]
      rcases burstPc_cases (left - 1) with atSelect | ⟨more, inMore⟩
      · refine Nat.lt_of_le_of_lt (stepsLeft_select_le atSelect) ?_
        simp only [goTo, List.length_cons]
        omega
      · simp only [stepsLeft, goTo, inMore, List.length_cons]
        omega
    · rw [lost, stepsLeft_of_exited rfl]
      omega

private theorem drainReplayStep_lowers (draining : state.pc = .drainReplay) :
    (drainReplayStep toMsg ok state).stepsLeft < state.stepsLeft := by
  have before :
      state.stepsLeft =
        2 + state.replay.buf.length + state.live.buf.length := by
    rw [stepsLeft, draining]
  have onward :
      ∀ rest : Channel β,
        (goTo .drainLive { state with replay := rest } :
          OutboundState β μ).stepsLeft < state.stepsLeft := by
    intro rest
    rw [before]
    show 1 + state.live.buf.length < _
    omega
  unfold drainReplayStep
  split
  · exact onward state.replay
  · rename_i frame rest taken
    have took := (tookHead_of_tryRecv taken).buf
    rcases writeThen_cases toMsg ok { state with replay := rest } frame id
        (goTo .drainLive) with written | ⟨-, lost⟩
    · rw [written, before, took, stepsLeft]
      simp [draining]
    · rw [lost]
      exact onward rest

private theorem drainLiveStep_lowers (draining : state.pc = .drainLive) :
    (drainLiveStep toMsg ok state).stepsLeft < state.stepsLeft := by
  have before : state.stepsLeft = 1 + state.live.buf.length := by
    rw [stepsLeft, draining]
  unfold drainLiveStep
  split
  · rw [stepsLeft_of_exited rfl]
    omega
  · rename_i frame rest taken
    have took := (tookHead_of_tryRecv taken).buf
    rcases writeThen_cases toMsg ok { state with live := rest } frame id
        (fun failed => (failed.emit ok .goingAway).exit) with
      written | ⟨-, lost⟩
    · rw [written, before, took, stepsLeft]
      simp [draining]
    · rw [lost, stepsLeft_of_exited rfl]
      omega

/-- After the shutdown signal every step of the outbound task brings it closer
to its end. -/
theorem stepsLeft_lt_of_step
    (moved : step toMsg ok disconnectFrame true state = some next) :
    next.stepsLeft < state.stepsLeft := by
  apply step_induction moved
  · exact fun atSelect selected => selectStep_lowers atSelect selected
  · exact fun _ inBurst => burstStep_lowers inBurst
  · exact fun draining => drainReplayStep_lowers draining
  · exact fun draining => drainLiveStep_lowers draining

/-- After the shutdown signal a running outbound task does not wait. -/
theorem exists_step_of_shutdown (toMsg : β → Option μ) (ok : Bool)
    (disconnectFrame : β) (spawned : state.pc ≠ .unspawned)
    (running : state.pc ≠ .exited) :
    ∃ next, step toMsg ok disconnectFrame true state = some next := by
  cases here : state.pc with
  | unspawned => exact absurd here spawned
  | exited => exact absurd here running
  | burst left | drainReplay | drainLive => exact ⟨_, by rw [step, here]⟩
  | select =>
      have urgentReady :
          ∃ next, urgentBranch toMsg ok true state = some next := by
        unfold urgentBranch
        split
        · split <;> exact ⟨_, rfl⟩
        · exact ⟨_, rfl⟩
      rw [step, here]
      show ∃ next, selectStep toMsg ok disconnectFrame true state = some next
      unfold selectStep
      split
      · split
        · exact ⟨_, rfl⟩
        · exact ⟨_, rfl⟩
        · exact urgentReady
      · exact urgentReady

/-- What is sent to the connection from now on reaches nobody. -/
structure ReceiversGone (state : OutboundState β μ) : Prop where
  live : state.live.receiverAlive = false
  replay : state.replay.receiverAlive = false
  urgent : state.urgent.receiverAlive = false

theorem receiversGone_exit (state : OutboundState β μ) :
    state.exit.ReceiversGone :=
  ⟨rfl, rfl, rfl⟩

private theorem receiversGone_writeThen {payload : β}
    {onward failed : OutboundState β μ → OutboundState β μ}
    (notExited : ∀ source : OutboundState β μ,
      source.pc = state.pc → (onward source).pc ≠ .exited)
    (gone : ∀ source : OutboundState β μ,
      source.pc = state.pc → (failed source).pc = .exited →
        (failed source).ReceiversGone)
    (exited : (writeThen toMsg ok state payload onward failed).pc = .exited) :
    (writeThen toMsg ok state payload onward failed).ReceiversGone := by
  rcases writeThen_cases toMsg ok state payload onward failed with
    written | ⟨-, lost⟩
  · rw [written] at exited
    exact absurd exited (notExited _ rfl)
  · rw [lost] at exited ⊢
    exact gone state rfl exited

private theorem receiversGone_replay {left : Nat} {payload : β}
    (exited :
      (writeThen toMsg ok state payload (goTo (burstPc left))
        (fun failed => failed.hangUp ok)).pc = .exited) :
    (writeThen toMsg ok state payload (goTo (burstPc left))
      (fun failed => failed.hangUp ok)).ReceiversGone := by
  apply receiversGone_writeThen _ _ exited
  · intro source _
    rcases burstPc_cases left with there | ⟨more, there⟩ <;>
      simp [goTo, there]
  · exact fun source _ _ => receiversGone_exit _

private theorem receiversGone_replayBranch (atSelect : state.pc = .select)
    (moved : replayBranch toMsg ok state = some next)
    (exited : next.pc = .exited) : next.ReceiversGone := by
  unfold replayBranch at moved
  split at moved
  · obtain rfl := Option.some.inj moved
    exact receiversGone_replay exited
  · obtain rfl := Option.some.inj moved
    cases atSelect.symm.trans exited
  · unfold liveBranch at moved
    split at moved
    · obtain rfl := Option.some.inj moved
      apply receiversGone_writeThen _ _ exited
      · intro source samePc
        simp [samePc, atSelect]
      · exact fun source _ _ => receiversGone_exit _
    · obtain rfl := Option.some.inj moved
      exact receiversGone_exit _
    · cases moved

private theorem receiversGone_urgentBranch (atSelect : state.pc = .select)
    (moved : urgentBranch toMsg ok shutdown state = some next)
    (exited : next.pc = .exited) : next.ReceiversGone := by
  have after :
      shutdownBranch toMsg ok shutdown state = some next →
        next.ReceiversGone := by
    intro moved
    unfold shutdownBranch at moved
    split at moved
    · obtain rfl := Option.some.inj moved
      cases exited
    · exact receiversGone_replayBranch atSelect moved exited
  unfold urgentBranch at moved
  split at moved
  · split at moved
    · obtain rfl := Option.some.inj moved
      exact receiversGone_exit _
    · obtain rfl := Option.some.inj moved
      cases atSelect.symm.trans exited
    · exact after moved
  · exact after moved

private theorem receiversGone_selectStep (atSelect : state.pc = .select)
    (moved : selectStep toMsg ok disconnectFrame shutdown state = some next)
    (exited : next.pc = .exited) : next.ReceiversGone := by
  unfold selectStep at moved
  split at moved
  · split at moved
    · obtain rfl := Option.some.inj moved
      exact receiversGone_exit _
    · obtain rfl := Option.some.inj moved
      cases atSelect.symm.trans exited
    · exact receiversGone_urgentBranch atSelect moved exited
  · exact receiversGone_urgentBranch atSelect moved exited

/-- The outbound task drops its receivers when it returns. -/
theorem receiversGone_of_step
    (moved : step toMsg ok disconnectFrame shutdown state = some next) :
    next.pc = .exited → next.ReceiversGone := by
  apply step_induction moved
  · exact fun atSelect selected =>
      receiversGone_selectStep atSelect selected
  · intro left inBurst
    unfold burstStep
    split
    · exact fun exited => by cases exited
    · exact receiversGone_replay
  · intro draining
    unfold drainReplayStep
    split
    · exact fun exited => by cases exited
    · apply receiversGone_writeThen
      · intro source samePc
        simp [samePc, draining]
      · exact fun source _ exited => by cases exited
  · intro draining
    unfold drainLiveStep
    split
    · exact fun _ => receiversGone_exit _
    · apply receiversGone_writeThen
      · intro source samePc
        simp [samePc, draining]
      · exact fun source _ _ => receiversGone_exit _

end OutboundState

/-! ## Replay tasks -/

/-- A bound on the steps of a replay task that fetches no message twice. -/
def ReplayPc.stepsLeft : ReplayPc → Nat
  | .queued => maxReplayMessages + 5
  | .checking => maxReplayMessages + 4
  | .opening => maxReplayMessages + 3
  | .streaming _ cursor => maxReplayMessages - cursor.count + 2
  | .answering _ => 1
  | .ended _ => 0

/-- The fetched message, if any, is newer than the last one. -/
def Fresh (task : ReplayTask) : ReplayStimulus → Prop
  | .fetched (.message (some seq) _) =>
      match task.pc with
      | .streaming _ cursor => cursor.prevSeq < seq
      | _ => True
  | _ => True

theorem stepsLeft_concludePc (result : Except ReplayError ReplayDelivery) :
    (concludePc result).stepsLeft ≤ 1 := by
  unfold concludePc
  split
  · exact Nat.zero_le 1
  · exact Nat.le_refl 1

/-- A frame is sent only below the replay limit. -/
theorem count_lt_of_enqueue {env : Environment} {task : ReplayTask}
    {stored seq : Nat} {cursor : ReplayCursor} {payload : ByteArray}
    {frame : ServerMessage} {sent gone : ReplayPc}
    (streaming : task.pc = .streaming stored cursor)
    (moved : taskMove env task (.fetched (.message (some seq) payload)) =
      some (.enqueue frame sent gone)) :
    cursor.count < maxReplayMessages := by
  simp only [taskMove, streaming] at moved
  split at moved
  · cases moved
  · rename_i turn next sends
    obtain ⟨-, -, -, below, -⟩ := replayTurn_eq_send sends
    exact below
  · cases moved

/-- Every step brings a replay task closer to its end. -/
theorem stepsLeft_lt_of_taskMove {env : Environment} {task : ReplayTask}
    {stimulus : ReplayStimulus} {move : TaskMove} {pc : ReplayPc}
    (moved : taskMove env task stimulus = some move)
    (fresh : Fresh task stimulus) (leads : move.LeadsTo pc) :
    pc.stepsLeft < task.pc.stepsLeft := by
  cases taskMoves_of_taskMove moved with
  | permit granted queued =>
      rw [show pc = _ from leads, queued]
      cases granted <;> simp [ReplayPc.stepsLeft]
  | infoFailed reason checking =>
      rw [show pc = _ from leads, checking]
      simp [ReplayPc.stepsLeft]
  | windowRefused info refused checking isRefused =>
      rw [show pc = _ from leads, checking]
      apply Nat.lt_of_le_of_lt (stepsLeft_concludePc _)
      simp [ReplayPc.stepsLeft]
  | windowOpen info checking isOpen =>
      rw [show pc = _ from leads, checking]
      simp [ReplayPc.stepsLeft]
  | openFailed reason stored opening | opened stored opening =>
      rw [show pc = _ from leads, opening]
      simp [ReplayPc.stepsLeft]
  | skipped stored cursor seq payload streaming older =>
      simp only [Fresh, streaming] at fresh
      omega
  | replayed stored cursor seq payload streaming newer =>
      have below := count_lt_of_enqueue streaming moved
      rw [streaming]
      rcases leads with rfl | rfl
      · simp only [ReplayPc.stepsLeft]
        omega
      · simp [ReplayPc.stepsLeft]
  | finished stored cursor event result streaming finishes =>
      rw [show pc = _ from leads, streaming]
      apply Nat.lt_of_le_of_lt (stepsLeft_concludePc _)
      simp [ReplayPc.stepsLeft]
  | confirmed answering =>
      rw [answering]
      rcases leads with rfl | rfl <;> simp [ReplayPc.stepsLeft]
  | disconnected reason answering =>
      rw [show pc = _ from leads, answering]
      simp [ReplayPc.stepsLeft]

namespace Session

variable {env : Environment} {session next : Session}
variable {action : SessionAction}

def replaysLeft (session : Session) : Nat :=
  (session.tasks.map (fun task => task.pc.stepsLeft)).sum

theorem replaysLeft_lt_of_step {index : Nat} {stimulus : ReplayStimulus}
    (moved : session.step env (.replay index stimulus) = some next)
    (fresh : ∀ task, session.tasks[index]? = some task → Fresh task stimulus) :
    next.replaysLeft < session.replaysLeft := by
  have lower :
      ∀ {task : ReplayTask} {move : TaskMove} {pc : ReplayPc},
        session.tasks[index]? = some task →
          taskMove env task stimulus = some move → move.LeadsTo pc →
            next.tasks = session.tasks.set index { task with pc := pc } →
              next.replaysLeft < session.replaysLeft := by
    intro task move pc present moves leads isSet
    rw [replaysLeft, isSet]
    apply sum_map_set_lt present
    exact stepsLeft_lt_of_taskMove moves (fresh task present) leads
  simp only [step, stepTask] at moved
  split at moved
  · cases moved
  · rename_i task present
    split at moved
    · cases moved
    · rename_i pc goes
      obtain rfl := Option.some.inj moved
      exact lower present goes rfl rfl
    · rename_i frame sent gone enqueues
      obtain ⟨⟨replay, accepted⟩, offered, rfl⟩ :=
        Option.map_eq_some_iff.mp moved
      refine lower present enqueues ?_ rfl
      cases accepted
      · exact Or.inr rfl
      · exact Or.inl rfl
    · rename_i frame after enqueues
      obtain ⟨⟨urgent, accepted⟩, offered, rfl⟩ :=
        Option.map_eq_some_iff.mp moved
      exact lower present enqueues rfl rfl

/-! ## The connection task -/

/-- What the connection task has left to do, with leaving and closing. -/
def planLeft (session : Session) : Nat :=
  match session.phase with
  | .unborn | .serving =>
      session.todo.length + session.inbound.heartbeats.length + 3
  | .leaving | .closed => session.todo.length

theorem length_leaveEffects_le (env : Environment) (ctx : ConnContext)
    (state : InboundState) :
    (leaveEffects env ctx state).length ≤ state.heartbeats.length + 2 := by
  have sameLength := (env.heartbeatOrder.perm state.heartbeats).length_eq
  unfold leaveEffects
  split
  · simp [sameLength]
  · simp

/-- The steps by which the connection task gets on with its plan. -/
def isPlanStep : SessionAction → Bool
  | .hangup => true
  | .effect => true
  | _ => false

/-- The steps that give the connection task something new to do. -/
def isDemand : SessionAction → Bool
  | .accept _ => true
  | .frame _ => true
  | .ping _ => true
  | _ => false

theorem Steps.planLeft_eq (steps : Steps env session action next)
    (notPlan : isPlanStep action = false) (notDemand : isDemand action = false) :
    next.planLeft = session.planLeft := by
  cases steps with
  | accept ctx unborn | frame frame idle | ping timestamp idle =>
      cases notDemand
  | hangup idle | sendLive | sendPing | pingFailed | spawnReplay
  | spawnOutbound | dropSenders | external => cases notPlan
  | _ => rfl

private theorem planLeft_leave (serving : session.phase = .serving) :
    (session.leave env).planLeft < session.planLeft := by
  have short := length_leaveEffects_le env session.ctx session.inbound
  have before :
      session.planLeft =
        session.todo.length + session.inbound.heartbeats.length + 3 := by
    rw [planLeft, serving]
  show (leaveEffects env session.ctx session.inbound).length < _
  omega

private theorem planLeft_pop {effect : Effect} {rest : List Effect}
    (todo : session.todo = effect :: rest)
    (samePhase : next.phase = session.phase)
    (sameInbound : next.inbound = session.inbound)
    (isTodo : next.todo = rest) : next.planLeft < session.planLeft := by
  rw [planLeft, planLeft, samePhase, sameInbound, isTodo, todo]
  split <;> simp

theorem Steps.planLeft_lt (stage : session.Stage env)
    (steps : Steps env session action next)
    (isPlan : isPlanStep action = true) :
    next.planLeft < session.planLeft := by
  cases steps with
  | hangup idle => exact planLeft_leave idle.1
  | sendLive frame rest live accepted todo sent
  | sendPing timestamp rest live todo sent =>
      exact planLeft_pop todo rfl rfl rfl
  | pingFailed timestamp rest live todo sent =>
      exact planLeft_leave (stage.serving_of_sendPing todo)
  | spawnReplay identifier lastSeq rest todo =>
      exact planLeft_pop todo rfl rfl rfl
  | spawnOutbound rest todo => exact planLeft_pop todo rfl rfl rfl
  | dropSenders rest todo =>
      show rest.length < session.planLeft
      rw [planLeft, todo]
      split <;> simp only [List.length_cons] <;> omega
  | external effect rest todo isExternal =>
      exact planLeft_pop todo rfl rfl rfl
  | _ => cases isPlan

/-! ## After the outbound task -/

theorem receiverAlive_of_sent {queue after : Channel ServerMessage}
    {frame : ServerMessage} {accepted : Bool}
    (offered : queue.send frame = some (after, accepted)) :
    after.receiverAlive = queue.receiverAlive := by
  cases accepted with
  | true =>
      rw [Channel.send_eq_true offered]
      rfl
  | false => rw [Channel.send_eq_false offered]

/-- When the outbound task has returned, nobody receives. -/
def Hushed (session : Session) : Prop :=
  session.out.pc = .exited → session.out.ReceiversGone

theorem receiversGone_releaseTask {pc : ReplayPc} {out : Outbound}
    (gone : out.ReceiversGone) : (releaseTask pc out).ReceiversGone := by
  cases pc <;> exact ⟨gone.live, gone.replay, gone.urgent⟩

theorem Hushed.step (hushed : session.Hushed)
    (steps : Steps env session action next) : next.Hushed := by
  intro exited
  cases steps with
  | outbound ok shutdown out stepped =>
      exact OutboundState.receiversGone_of_step stepped exited
  | spawnOutbound rest todo => cases exited
  | sendLive frame rest live accepted todo sent
  | sendPing timestamp rest live todo sent =>
      have gone := hushed exited
      exact ⟨(receiverAlive_of_sent sent).trans gone.live, gone.replay,
        gone.urgent⟩
  | spawnReplay identifier lastSeq rest todo | dropSenders rest todo =>
      have gone := hushed exited
      exact ⟨gone.live, gone.replay, gone.urgent⟩
  | taskGo index stimulus task pc present moves =>
      rw [setTask_out, releaseTask_pc] at exited
      exact receiversGone_releaseTask (hushed exited)
  | taskEnqueue index stimulus task frame sent gone replay accepted present
      moves offered =>
      rw [setTask_out, releaseTask_pc] at exited
      have wasGone := hushed exited
      exact receiversGone_releaseTask
        ⟨wasGone.live, (receiverAlive_of_sent offered).trans wasGone.replay,
          wasGone.urgent⟩
  | taskUrgent index stimulus task frame after urgent accepted present moves
      offered =>
      rw [setTask_out, releaseTask_pc] at exited
      have wasGone := hushed exited
      exact receiversGone_releaseTask
        ⟨wasGone.live, wasGone.replay,
          (receiverAlive_of_sent offered).trans wasGone.urgent⟩
  | deliver frame live accepted =>
      have gone := hushed exited
      rw [Channel.trySend_eq_some accepted]
      exact ⟨gone.live, gone.replay, gone.urgent⟩
  | refuse evict | forget =>
      have gone := hushed exited
      exact ⟨gone.live, gone.replay, gone.urgent⟩
  | _ => exact hushed exited

end Session

end TurbocableServer.Connection
