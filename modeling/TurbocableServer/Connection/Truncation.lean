import TurbocableServer.Connection.SessionDelivery

/-!
# Truncated replays

A replay that meets its cap sends a disconnect frame through the urgent queue,
which overtakes the frames still waiting in the replay queue.  The client gets
further with each connection exactly when the cap exceeds what the replay queue
can hold: then a frame of the replay has been written before the replay can
report the truncation.
-/

namespace TurbocableServer.Connection

open Foundations Protocol Pubsub Auth

/-- The frame of a truncated replay. -/
def truncatedFrame : ServerMessage :=
  .disconnect "replay_truncated" (some true)

/-- A catch-up frame of `stream` above a replay position. -/
def replaysAfter (stream : String) (floor : Nat) (frame : ServerMessage) :
    Bool :=
  match replayedSeq stream frame with
  | some seq => decide (floor < seq)
  | none => false

theorem replaysAfter_replayedFrame (decodePayload : ByteArray → Json)
    {stream : String} {floor seq : Nat} {payload : ByteArray}
    (newer : floor < seq) :
    replaysAfter stream floor
      (replayedFrame decodePayload stream seq payload) = true := by
  simp [replaysAfter, replayedFrame, replayedSeq, newer]

theorem exists_seq_of_replaysAfter {stream : String} {floor : Nat}
    {frame : ServerMessage} (replays : replaysAfter stream floor frame = true) :
    ∃ seq, replayedSeq stream frame = some seq ∧ floor < seq := by
  unfold replaysAfter at replays
  split at replays
  · rename_i seq isSeq
    exact ⟨seq, isSeq, of_decide_eq_true replays⟩
  · cases replays

theorem isDisconnect_of_replayedSeq {stream : String} {frame : ServerMessage}
    {seq : Nat} (isSeq : replayedSeq stream frame = some seq) :
    isDisconnect frame = false := by
  cases frame with
  | disconnect reason reconnect => cases isSeq
  | _ => rfl

/-! ## What a replay has queued -/

/-- A task has queued as many frames as it has counted, and reports a
truncation at the cap only. -/
structure Counts (sent : List ServerMessage) (task : ReplayTask) : Prop where
  streaming :
    ∀ stored cursor, task.pc = .streaming stored cursor →
      task.lastSeq ≤ cursor.prevSeq ∧
        cursor.count ≤
          sent.countP (replaysAfter task.identifier task.lastSeq)
  truncated :
    task.pc = .answering (.disconnect "replay_truncated") →
      maxReplayMessages ≤
        sent.countP (replaysAfter task.identifier task.lastSeq)

section

variable {env : Environment} {sent : List ServerMessage} {task : ReplayTask}

theorem Counts.append (counts : Counts sent task)
    (added : List ServerMessage) : Counts (sent ++ added) task where
  streaming := by
    intro stored cursor here
    obtain ⟨position, counted⟩ := counts.streaming stored cursor here
    rw [List.countP_append]
    exact ⟨position, Nat.le_add_right_of_le counted⟩
  truncated := by
    intro here
    rw [List.countP_append]
    exact Nat.le_add_right_of_le (counts.truncated here)

/-- Program points at which there is nothing to count. -/
theorem counts_of_pc {pc : ReplayPc}
    (notStreaming : ∀ stored cursor, pc ≠ .streaming stored cursor)
    (notTruncated : pc ≠ .answering (.disconnect "replay_truncated")) :
    Counts sent { task with pc := pc } where
  streaming := fun _ _ here => absurd here (notStreaming _ _)
  truncated := fun here => absurd here notTruncated

theorem concludePc_ne_streaming
    (result : Except ReplayError ReplayDelivery) (stored : Nat)
    (cursor : ReplayCursor) : concludePc result ≠ .streaming stored cursor := by
  unfold concludePc
  split <;> simp

/-- Only a replay that met its cap leads to the report. -/
theorem truncated_of_concludePc
    {result : Except ReplayError ReplayDelivery}
    (reports :
      concludePc result = .answering (.disconnect "replay_truncated")) :
    ∃ stream delivered limit,
      result = .error (.truncated stream delivered limit) := by
  unfold concludePc replayAnswer at reports
  rcases result with error | delivery
  · cases error with
    | truncated stream delivered limit =>
        exact ⟨stream, delivered, limit, rfl⟩
    | windowExceeded stream requested oldest | jetStream error =>
        simp at reports
  · by_cases gone : delivery.peerGone = true
    · simp [gone] at reports
    · simp [gone] at reports

theorem replayTurn_eq_truncated {decodePayload : ByteArray → Json}
    {streamName stream : String} {cursor : ReplayCursor} {event : FetchEvent}
    {delivered limit : Nat}
    (finishes : replayTurn decodePayload streamName cursor event =
      .finish (.error (.truncated stream delivered limit))) :
    maxReplayMessages ≤ cursor.count := by
  unfold replayTurn at finishes
  split at finishes
  · split at finishes
    · simp at finishes
    · split at finishes <;> simp at finishes
    · simp at finishes
    · simp at finishes
  · rename_i atCap
    exact Nat.le_of_not_lt atCap

theorem checkWindow_ne_truncated {streamName : String} {lastSeq : Nat}
    {info : StreamInfo} {stream : String} {delivered limit : Nat} :
    checkWindow streamName lastSeq info ≠
      .error (.truncated stream delivered limit) := by
  unfold checkWindow
  split
  · simp
  · split <;> simp

/-- A move that queues nothing. -/
theorem Counts.go {stimulus : ReplayStimulus} {pc : ReplayPc}
    (counts : Counts sent task)
    (moves : TaskMoves env task stimulus (.go pc)) :
    Counts sent { task with pc := pc } := by
  cases moves with
  | permit granted queued =>
      cases granted with
      | true | false => exact counts_of_pc (by simp) (by simp)
  | infoFailed reason checking => exact counts_of_pc (by simp) (by simp)
  | windowRefused info refused checking isRefused =>
      refine counts_of_pc (concludePc_ne_streaming _) ?_
      intro reports
      obtain ⟨stream, delivered, limit, isError⟩ :=
        truncated_of_concludePc reports
      obtain rfl := Except.error.inj isError
      exact checkWindow_ne_truncated isRefused
  | windowOpen info checking isOpen | openFailed reason stored opening =>
      exact counts_of_pc (by simp) (by simp)
  | opened stored opening =>
      constructor
      · intro stored' cursor here
        cases here
        exact ⟨Nat.le_refl _, Nat.zero_le _⟩
      · intro here
        cases here
  | skipped stored cursor seq payload streaming older =>
      constructor
      · intro stored' cursor' here
        cases here
        exact counts.streaming stored cursor streaming
      · intro here
        cases here
  | finished stored cursor event result streaming finishes =>
      constructor
      · intro stored' cursor' here
        exact absurd here (concludePc_ne_streaming _ _ _)
      · intro reports
        obtain ⟨stream, delivered, limit, rfl⟩ :=
          truncated_of_concludePc reports
        exact Nat.le_trans (replayTurn_eq_truncated finishes)
          (counts.streaming stored cursor streaming).2

/-- A move whose frame the queue takes. -/
theorem Counts.enqueue {stimulus : ReplayStimulus} {frame : ServerMessage}
    {onward gone : ReplayPc} (counts : Counts sent task)
    (moves : TaskMoves env task stimulus (.enqueue frame onward gone)) :
    Counts (sent ++ [frame]) { task with pc := onward } := by
  cases moves with
  | replayed stored cursor seq payload streaming newer =>
      obtain ⟨position, counted⟩ := counts.streaming stored cursor streaming
      have isCounted :
          replaysAfter task.identifier task.lastSeq
            (replayedFrame env.decodePayload task.identifier seq payload) =
              true :=
        replaysAfter_replayedFrame env.decodePayload
          (Nat.lt_of_le_of_lt position newer)
      constructor
      · intro stored' cursor' here
        cases here
        refine ⟨Nat.le_of_lt (Nat.lt_of_le_of_lt position newer), ?_⟩
        rw [List.countP_append, List.countP_singleton, if_pos isCounted]
        exact Nat.add_le_add_right counted 1
      · intro here
        cases here
  | confirmed answering => exact counts_of_pc (by simp) (by simp)

theorem TaskMoves.gone_eq {stimulus : ReplayStimulus} {frame : ServerMessage}
    {onward gone : ReplayPc}
    (moves : TaskMoves env task stimulus (.enqueue frame onward gone)) :
    gone = .ended false := by
  cases moves with
  | replayed => rfl
  | confirmed => rfl

theorem TaskMoves.after_eq {stimulus : ReplayStimulus}
    {frame : ServerMessage} {after : ReplayPc}
    (moves : TaskMoves env task stimulus (.enqueueUrgent frame after)) :
    after = .ended false := by
  cases moves with
  | disconnected reason answering => rfl

end

namespace Session

variable {env : Environment} {session next : Session}
variable {action : SessionAction}

def Counted (session : Session) : Prop :=
  ∀ task, task ∈ session.tasks → Counts session.out.replay.sent task

private theorem counted_set {sent : List ServerMessage}
    {tasks : List ReplayTask} {index : Nat} {moved : ReplayTask}
    (counted : ∀ task, task ∈ tasks → Counts sent task)
    (isCounted : Counts sent moved) :
    ∀ task, task ∈ tasks.set index moved → Counts sent task := by
  intro task member
  rcases List.mem_or_eq_of_mem_set member with kept | rfl
  · exact counted task kept
  · exact isCounted

theorem Counted.step (counted : session.Counted)
    (steps : Steps env session action next) : next.Counted := by
  cases steps with
  | outbound ok shutdown out stepped =>
      intro task member
      rw [(OutboundState.moves_of_step stepped).sent.1]
      exact counted task member
  | spawnReplay identifier lastSeq rest todo =>
      intro task member
      rcases List.mem_append.mp member with kept | isNew
      · exact counted task kept
      · rw [List.mem_singleton.mp isNew]
        exact @counts_of_pc _ ⟨identifier, lastSeq, .queued⟩ .queued
          (by simp) (by simp)
  | taskGo index stimulus task pc present moves =>
      have isCounted :=
        (counted task (List.mem_of_getElem? present)).go moves
      simpa [Counted] using counted_set counted isCounted
  | taskEnqueue index stimulus task frame onward gone replay accepted present
      moves offered =>
      have before := counted task (List.mem_of_getElem? present)
      cases accepted with
      | true =>
          have longer :
              ∀ task, task ∈ session.tasks →
                Counts (session.out.replay.sent ++ [frame]) task :=
            fun task member => (counted task member).append [frame]
          obtain rfl := Channel.send_eq_true offered
          simpa [Counted] using counted_set longer (before.enqueue moves)
      | false =>
          obtain rfl := Channel.send_eq_false offered
          obtain rfl := moves.gone_eq
          have isCounted :
              Counts session.out.replay.sent
                { task with pc := .ended false } :=
            counts_of_pc (by simp) (by simp)
          simpa [Counted] using counted_set counted isCounted
  | taskUrgent index stimulus task frame after urgent accepted present moves
      offered =>
      obtain rfl := moves.after_eq
      have isCounted :
          Counts session.out.replay.sent { task with pc := .ended false } :=
        counts_of_pc (by simp) (by simp)
      simpa [Counted] using counted_set counted isCounted
  | _ => exact counted

/-! ## What the replay queue can hold -/

structure WithinCapacity (env : Environment) (session : Session) : Prop where
  capacity : session.out.replay.capacity = env.replayCapacity
  bounded : session.out.replay.buf.length ≤ env.replayCapacity

theorem withinCapacity_unborn (env : Environment) :
    (unborn env).WithinCapacity env :=
  ⟨rfl, Nat.zero_le _⟩

theorem WithinCapacity.step (within : session.WithinCapacity env)
    (steps : Steps env session action next) : next.WithinCapacity env := by
  cases steps with
  | outbound ok shutdown out stepped =>
      have moves := OutboundState.moves_of_step stepped
      exact ⟨
        (OutboundState.untouched_replay_capacity.step stepped).trans
          within.capacity,
        Nat.le_trans moves.replay_buf.length_le within.bounded⟩
  | taskGo | taskUrgent =>
      exact ⟨by simpa using within.capacity, by simpa using within.bounded⟩
  | taskEnqueue index stimulus task frame onward gone replay accepted present
      moves offered =>
      cases accepted with
      | true =>
          have room := Channel.length_lt_of_send offered
          rw [within.capacity] at room
          obtain rfl := Channel.send_eq_true offered
          constructor
          · simpa [Channel.push] using within.capacity
          · simpa using Nat.succ_le_of_lt room
      | false =>
          obtain rfl := Channel.send_eq_false offered
          exact ⟨by simpa using within.capacity, by simpa using within.bounded⟩
  | _ => exact ⟨within.capacity, within.bounded⟩

/-- More frames were queued than the queue can hold, so one was taken. -/
theorem exists_taken_of_countP {chosen : ServerMessage → Bool}
    (within : session.WithinCapacity env)
    (many : env.replayCapacity < session.out.replay.sent.countP chosen) :
    ∃ frame, frame ∈ session.out.replay.received ∧ chosen frame = true := by
  have waiting : session.out.replay.buf.countP chosen ≤ env.replayCapacity :=
    Nat.le_trans List.countP_le_length within.bounded
  have total :
      session.out.replay.sent.countP chosen =
        session.out.replay.received.countP chosen +
          session.out.replay.buf.countP chosen :=
    List.countP_append
  have taken : 0 < session.out.replay.received.countP chosen := by omega
  exact List.countP_pos_iff.mp taken

/-! ## Progress -/

/-- Whenever a replay reports its truncation and the disconnect frame has been
written, a frame of the replay beyond the position of the client was written
before it. -/
def TruncationProgresses (env : Environment) : Prop :=
  ∀ (source reporting session : Session) (index : Nat) (task : ReplayTask)
    (before after : List (SocketFrame ServerMessage)),
    Reaches (step env) (WritesSucceed env) (unborn env) source →
    source.tasks[index]? = some task →
    task.pc = .answering (.disconnect "replay_truncated") →
    source.step env (.replay index .answer) = some reporting →
    Reaches (step env) (WritesSucceed env) reporting session →
    session.out.socket = before ++ .data truncatedFrame :: after →
      ∃ frame seq,
        .data frame ∈ before ∧
          replayedSeq task.identifier frame = some seq ∧ task.lastSeq < seq

section Runs

variable {start : Session}

theorem counted_of_reaches
    (run : Reaches (step env) (WritesSucceed env) (unborn env) session) :
    session.Counted :=
  run.invariant
    (fun _ _ _ _ moved counted => counted.step (steps_of_step moved))
    (fun _ member => by cases member)

theorem withinCapacity_of_reaches
    (run : Reaches (step env) (WritesSucceed env) (unborn env) session) :
    session.WithinCapacity env :=
  run.invariant
    (fun _ _ _ _ moved within => within.step (steps_of_step moved))
    (withinCapacity_unborn env)

theorem truncationProgresses_of_capacity
    (small : env.replayCapacity < maxReplayMessages) :
    TruncationProgresses env := by
  intro source reporting session index task before after toSource present
    reports reported toSession split
  have counts :=
    counted_of_reaches toSource task (List.mem_of_getElem? present)
  obtain ⟨frame, taken, isReplayed⟩ :=
    exists_taken_of_countP (withinCapacity_of_reaches toSource)
      (Nat.lt_of_lt_of_le small (counts.truncated reports))
  obtain ⟨seq, isSeq, newer⟩ := exists_seq_of_replaysAfter isReplayed
  obtain ⟨_, _, atSource⟩ := conserves_of_reaches toSource
  have guarded : WritesSucceed env source (.replay index .answer) := trivial
  have whole := (toSource.tail guarded reported).trans toSession
  obtain ⟨_, _, conserves⟩ := conserves_of_reaches whole
  have written : .data frame ∈ session.out.socket :=
    ((steps_of_step reported).socket.trans
      (socket_of_reaches toSession)).subset (atSource.mem_socket taken)
  exact ⟨frame, seq,
    conserves.mem_before_disconnect (disconnectsUrgent_of_reaches whole) rfl
      split (isDisconnect_of_replayedSeq isSeq) written,
    isSeq, newer⟩

/-- A disconnect frame in the urgent queue was reported by a replay task. -/
theorem exists_report_of_queued {reason : String}
    (run : Reaches (step env) (WritesSucceed env) (unborn env) session)
    (queued :
      .disconnect reason (some true) ∈ session.out.urgent.sent) :
    ∃ source reporting index task,
      Reaches (step env) (WritesSucceed env) (unborn env) source ∧
        source.tasks[index]? = some task ∧
        task.pc = .answering (.disconnect reason) ∧
        source.step env (.replay index .answer) = some reporting ∧
        Reaches (step env) (WritesSucceed env) reporting session := by
  induction run with
  | refl =>
      cases queued
  | @tail before after run last ih =>
      obtain ⟨label, succeeds, moved⟩ := last
      have earlier :
          .disconnect reason (some true) ∈ before.out.urgent.sent →
            ∃ source reporting index task,
              Reaches (step env) (WritesSucceed env) (unborn env) source ∧
                source.tasks[index]? = some task ∧
                task.pc = .answering (.disconnect reason) ∧
                source.step env (.replay index .answer) = some reporting ∧
                Reaches (step env) (WritesSucceed env) reporting after := by
        intro wasQueued
        obtain ⟨source, reporting, index, task, toSource, present, answering,
          reported, onward⟩ := ih wasQueued
        exact ⟨source, reporting, index, task, toSource, present, answering,
          reported, onward.tail succeeds moved⟩
      rcases (steps_of_step moved).urgent_sent with
        same | ⟨index, task, added, rfl, present, answering, extended⟩
      · exact earlier (same ▸ queued)
      · rw [extended] at queued
        rcases List.mem_append.mp queued with wasQueued | isAdded
        · exact earlier wasQueued
        · cases List.mem_singleton.mp isAdded
          exact ⟨before, after, index, task, run, present, answering, moved,
            Reaches.refl after⟩

/-- What `TruncationProgresses` speaks about: a disconnect frame of a truncated
replay on the socket goes back to the report of a replay task. -/
theorem exists_report_of_written
    (run : Reaches (step env) (WritesSucceed env) (unborn env) session)
    (written : .data truncatedFrame ∈ session.out.socket) :
    ∃ source reporting index task,
      Reaches (step env) (WritesSucceed env) (unborn env) source ∧
        source.tasks[index]? = some task ∧
        task.pc = .answering (.disconnect "replay_truncated") ∧
        source.step env (.replay index .answer) = some reporting ∧
        Reaches (step env) (WritesSucceed env) reporting session := by
  obtain ⟨body, ending, conserves⟩ := conserves_of_reaches run
  refine exists_report_of_queued run ?_
  exact conserves.urgent_of_disconnect (disconnectsUrgent_of_reaches run) rfl
    (by simp [backpressureFrame]) written

end Runs

/-! ## A queue that holds a whole replay -/

section Overtaken

variable (env : Environment)

/-- The frame of message `position + 1` of the backlog. -/
def backlogFrame (position : Nat) : ServerMessage :=
  replayedFrame env.decodePayload "feed" (position + 1) ByteArray.empty

/-- A client that asked for a log of one message more than the cap, at the
point `pc` of its replay task.  The first `count` messages are queued, and the
outbound task has not moved yet. -/
def farBehind (count : Nat) (pc : ReplayPc) : Session where
  ctx := ⟨false, ["*"], none⟩
  phase := .serving
  inbound := ⟨.active, true, some 0, []⟩
  todo := []
  tasks := [⟨"feed", 0, pc⟩]
  out :=
    { freshOutbound env with
      live := ⟨[], [.welcome], env.liveCapacity, 2, true⟩
      replay :=
        ⟨[], (List.range count).map (backlogFrame env), env.replayCapacity,
          2, true⟩
      urgent := Channel.new 1 2
      pc := .select }
  frames :=
    [.hello ⟨some 0, ["replay_v1"]⟩, .command (.subscribe "feed")]
  helloAt := 0

/-- The task has counted `count` messages. -/
def catchingUp (count : Nat) : Session :=
  farBehind env count (.streaming (maxReplayMessages + 1) ⟨count, count⟩)

variable {env}

private theorem quietRun (actions : List SessionAction) {source : Session}
    (noOutbound :
      actions.all (fun action =>
        match action with
        | .outbound _ _ => false
        | .deliver _ => false
        | _ => true) = true)
    (completed : actions.foldlM (step env) source = some session) :
    Reaches (step env) (WritesSucceed env) source session := by
  refine reaches_of_foldlM ?_ completed
  intro state action member
  have isQuiet := List.all_eq_true.mp noOutbound action member
  cases action with
  | outbound ok shutdown => cases isQuiet
  | deliver frame => cases isQuiet
  | _ => trivial

private theorem reaches_queued (nats : env.natsAvailable = true) :
    Reaches (step env) (WritesSucceed env) (unborn env)
      (farBehind env 0 .queued) := by
  refine quietRun
    [.accept ⟨false, ["*"], none⟩, .effect, .effect,
      .frame (some (.hello ⟨some 0, ["replay_v1"]⟩)),
      .frame (some (.command (.subscribe "feed"))), .effect, .effect]
    rfl ?_
  have allowed : isAllowed ["*"] "feed" = true := by decide
  simp [step, unborn, performEffect, freshOutbound, Channel.new, Channel.send,
    Channel.hasRoom, Channel.push, withLive, env.liveCapacity_pos, Idle,
    receive, handleClientFrame, HelloCommand.isReplayCapable, dispatchCommand,
    dispatchSubscribe, allowed, presenceUser, confirmEffect, nats, farBehind,
    Channel.cloneSender, InboundState.initial]

private theorem reaches_catchingUp_zero :
    Reaches (step env) (WritesSucceed env) (farBehind env 0 .queued)
      (catchingUp env 0) := by
  refine quietRun
    [.replay 0 (.permit true),
      .replay 0 (.info (.ok ⟨maxReplayMessages + 1, 1⟩)),
      .replay 0 (.opened (.ok ()) (maxReplayMessages + 1))]
    rfl ?_
  have window :
      checkWindow "feed" 0 ⟨maxReplayMessages + 1, 1⟩ = .ok () := by
    simp [checkWindow, requestedSeq, u64Max]
  simp [step, stepTask, farBehind, catchingUp, taskMove, window, setTask,
    releaseTask]

/-- With room in the queue, the task goes on while the outbound task sleeps. -/
private theorem catchingUp_step {count : Nat}
    (below : count < maxReplayMessages) (room : count < env.replayCapacity) :
    (catchingUp env count).step env
        (.replay 0 (.fetched (.message (some (count + 1)) ByteArray.empty))) =
      some (catchingUp env (count + 1)) := by
  have turn :
      replayTurn env.decodePayload "feed" ⟨count, count⟩
          (.message (some (count + 1)) ByteArray.empty) =
        .send (backlogFrame env count) ⟨count + 1, count + 1⟩ := by
    simp [replayTurn, below, backlogFrame]
  simp [step, stepTask, farBehind, catchingUp, taskMove, turn, setTask,
    releaseTask, Channel.send, Channel.hasRoom, room, Channel.push,
    List.range_succ]

private theorem reaches_catchingUp
    (large : maxReplayMessages ≤ env.replayCapacity) (count : Nat)
    (atMost : count ≤ maxReplayMessages) :
    Reaches (step env) (WritesSucceed env) (catchingUp env 0)
      (catchingUp env count) := by
  induction count with
  | zero =>
      exact Reaches.refl _
  | succ count ih =>
      have below : count < maxReplayMessages := atMost
      have before := ih (Nat.le_of_lt below)
      exact before.tail (by exact trivial)
        (catchingUp_step below (Nat.lt_of_lt_of_le below large))

/-- At the cap, the next message is the proof that the log goes on. -/
private theorem catchingUp_truncated :
    (catchingUp env maxReplayMessages).step env
        (.replay 0
          (.fetched
            (.message (some (maxReplayMessages + 1)) ByteArray.empty))) =
      some (farBehind env maxReplayMessages
        (.answering (.disconnect "replay_truncated"))) := by
  have turn :
      replayTurn env.decodePayload "feed"
          ⟨maxReplayMessages, maxReplayMessages⟩
          (.message (some (maxReplayMessages + 1)) ByteArray.empty) =
        .finish (.error
          (.truncated "feed" maxReplayMessages maxReplayMessages)) := by
    simp [replayTurn]
  simp [step, stepTask, farBehind, catchingUp, taskMove, turn, setTask,
    releaseTask, concludePc, replayAnswer]

/-- The disconnect frame passes the whole replay. -/
theorem not_truncationProgresses (nats : env.natsAvailable = true)
    (large : maxReplayMessages ≤ env.replayCapacity) :
    ¬ TruncationProgresses env := by
  intro progresses
  have toCap :=
    ((reaches_queued nats).trans reaches_catchingUp_zero).trans
      (reaches_catchingUp large maxReplayMessages (Nat.le_refl _))
  have toReport := toCap.tail (by exact trivial) catchingUp_truncated
  have reported :
      ∃ reporting session : Session,
        (farBehind env maxReplayMessages
            (.answering (.disconnect "replay_truncated"))).step env
              (.replay 0 .answer) = some reporting ∧
          reporting.step env (.outbound true false) = some session ∧
          session.out.socket = [.data truncatedFrame, .closing] :=
    ⟨_, _, rfl, rfl, rfl⟩
  obtain ⟨reporting, session, answered, written, socket⟩ := reported
  obtain ⟨frame, seq, member, -⟩ :=
    progresses _ reporting session 0 _ [] [.closing] toReport rfl rfl answered
      ((Reaches.refl reporting).tail (by exact rfl) written) socket
  cases member

end Overtaken

/-! ## Without a log -/

private theorem nats_of_spawnReplay {ctx : ConnContext}
    {lastSeq lastSeq' : Option Nat} {frame : Option ClientFrame}
    {effects : List Effect}
    (handled : Handled env ctx lastSeq frame lastSeq' effects)
    {identifier : String} {since : Nat}
    (member : .spawnReplay identifier since ∈ effects) :
    env.natsAvailable = true := by
  rcases handled.mem_cases member rfl with
    ⟨named, -, isReject | ⟨-, isSubscribe | isConfirm⟩⟩ |
      ⟨named, -, isUnsubscribe⟩ | ⟨named, data, isPublish⟩
  · cases isReject
  · cases isSubscribe
  · by_contra unavailable
    unfold confirmEffect at isConfirm
    split at isConfirm <;> simp [unavailable] at isConfirm
  · cases isUnsubscribe
  · cases isPublish

/-- No replay is planned or running. -/
structure Replayless (session : Session) : Prop where
  planned :
    ∀ identifier since, .spawnReplay identifier since ∉ session.todo
  running : session.tasks = []

theorem Replayless.step (unavailable : env.natsAvailable = false)
    (replayless : session.Replayless)
    (steps : Steps env session action next) : next.Replayless where
  planned := by
    intro identifier since member
    rcases steps.mem_todo member with before | ⟨frame, -, planned⟩ | routine
    · exact replayless.planned identifier since before
    · have available :=
        nats_of_spawnReplay
          (handled_handleClientFrame env session.ctx session.inbound frame)
          planned
      rw [unavailable] at available
      cases available
    · cases routine
  running := by
    rcases steps.tasks_cases with
      same | ⟨index, stimulus, task, move, pc, -, present, -⟩ |
        ⟨identifier, since, rest, -, todo, -⟩
    · exact same.trans replayless.running
    · rw [replayless.running] at present
      cases present
    · exact absurd (by simp [todo]) (replayless.planned identifier since)

theorem truncationProgresses_of_unavailable
    (unavailable : env.natsAvailable = false) : TruncationProgresses env := by
  intro source reporting session index task before after toSource present
  have replayless : source.Replayless :=
    toSource.invariant
      (fun _ _ _ _ moved replayless =>
        replayless.step unavailable (steps_of_step moved))
      ⟨by simp [unborn], rfl⟩
  rw [replayless.running] at present
  cases present

/-- A truncated replay takes the client further exactly when the replay queue
holds fewer frames than the cap; without JetStream nothing is replayed. -/
theorem truncationProgresses_iff (env : Environment) :
    TruncationProgresses env ↔
      env.replayCapacity < maxReplayMessages ∨ env.natsAvailable = false := by
  constructor
  · intro progresses
    by_contra neither
    obtain ⟨large, nats⟩ := not_or.mp neither
    exact not_truncationProgresses (by simpa using nats)
      (Nat.le_of_not_lt large) progresses
  · rintro (small | unavailable)
    · exact truncationProgresses_of_capacity small
    · exact truncationProgresses_of_unavailable unavailable

/-- A replay queue as long as the cap. -/
def longQueue : Environment where
  enforcement := .compat
  natsAvailable := true
  presenceAvailable := false
  liveCapacity := 4096
  replayCapacity := 10000
  fromStr := fun _ => none
  decodePayload := fun _ => .null

theorem longQueue_truncates_in_place : ¬ TruncationProgresses longQueue :=
  not_truncationProgresses rfl (Nat.le_refl _)

end Session

end TurbocableServer.Connection
