import TurbocableServer.Connection.OutboundMoves
import TurbocableServer.Connection.Session

/-!
# What a session step does to each part of the session

Frame lemmas for `Session.Steps`, one for each part: the frames handled, the
effects still to perform, and the two queues as whole histories.
-/

namespace TurbocableServer.Connection.Session

open Foundations Protocol Pubsub

variable {env : Environment} {session next : Session}
variable {action : SessionAction}

/-! ## Moving a replay task -/

section ReleaseTask

variable (pc : ReplayPc) (out : Outbound)

@[simp]
theorem releaseTask_live : (releaseTask pc out).live = out.live := by
  cases pc <;> rfl

@[simp]
theorem releaseTask_socket : (releaseTask pc out).socket = out.socket := by
  cases pc <;> rfl

@[simp]
theorem releaseTask_pc : (releaseTask pc out).pc = out.pc := by
  cases pc <;> rfl

@[simp]
theorem releaseTask_replay_received :
    (releaseTask pc out).replay.received = out.replay.received := by
  cases pc <;> rfl

@[simp]
theorem releaseTask_replay_buf :
    (releaseTask pc out).replay.buf = out.replay.buf := by
  cases pc <;> rfl

@[simp]
theorem releaseTask_replay_sent :
    (releaseTask pc out).replay.sent = out.replay.sent := by
  simp [Channel.sent]

@[simp]
theorem releaseTask_replay_capacity :
    (releaseTask pc out).replay.capacity = out.replay.capacity := by
  cases pc <;> rfl

@[simp]
theorem releaseTask_urgent_sent :
    (releaseTask pc out).urgent.sent = out.urgent.sent := by
  cases pc <;> rfl

end ReleaseTask

/-! ## Frames and context -/

theorem Steps.frames (steps : Steps env session action next) :
    next.frames = session.frames ∨
      ∃ frame, action = .frame frame ∧
        next.frames = session.frames ++ frame.toList := by
  cases steps with
  | frame frame idle => exact Or.inr ⟨frame, rfl, rfl⟩
  | _ => exact Or.inl rfl

theorem Steps.ctx (steps : Steps env session action next) :
    next.ctx = session.ctx ∨ session.phase = .unborn := by
  cases steps with
  | accept ctx unborn => exact Or.inr unborn
  | _ => exact Or.inl rfl

/-- A session is accepted once. -/
theorem Steps.phase (steps : Steps env session action next)
    (unborn : next.phase = .unborn) : session.phase = .unborn := by
  cases steps with
  | accept ctx isUnborn => exact isUnborn
  | hangup idle | pingFailed | dropSenders => cases unborn
  | _ => exact unborn

/-- Only `accept` starts to serve a connection. -/
theorem Steps.serving (steps : Steps env session action next)
    (serving : next.phase = .serving) :
    session.phase = .serving ∨ ∃ ctx, action = .accept ctx := by
  cases steps with
  | accept ctx isUnborn => exact Or.inr ⟨ctx, rfl⟩
  | hangup idle | pingFailed | dropSenders => cases serving
  | _ => exact Or.inl serving

/-! ## Effects still to perform -/

/-- What the connection task plans without being asked by a frame. -/
def IsRoutine : Effect → Prop
  | .sendLive frame => frame = .welcome
  | .sendPing _ => True
  | .presenceDelete _ _ => True
  | .spawnOutbound => True
  | .registryDeregister => True
  | .dropSenders => True
  | _ => False

theorem isRoutine_of_mem_leaveEffects {ctx : ConnContext}
    {state : InboundState} {effect : Effect}
    (member : effect ∈ leaveEffects env ctx state) : IsRoutine effect := by
  rcases mem_leaveEffects member with ⟨identifier, user, rfl⟩ | rfl | rfl <;>
    trivial

/-- The effects to perform stay, or the first one is performed, or they are
planned anew. -/
theorem Steps.todo_cases (steps : Steps env session action next) :
    next.todo = session.todo ∨
      (∃ effect, session.todo = effect :: next.todo) ∨
      (∃ frame, action = .frame frame ∧
        next.todo =
          (handleClientFrame env session.ctx session.inbound frame).2) ∨
      ∀ effect, effect ∈ next.todo → IsRoutine effect := by
  cases steps with
  | accept ctx unborn =>
      refine Or.inr (Or.inr (Or.inr ?_))
      intro effect member
      simp only [List.mem_cons, List.not_mem_nil, or_false] at member
      rcases member with rfl | rfl
      · rfl
      · trivial
  | frame frame idle => exact Or.inr (Or.inr (Or.inl ⟨frame, rfl, rfl⟩))
  | ping timestamp idle =>
      refine Or.inr (Or.inr (Or.inr ?_))
      intro effect member
      rw [List.mem_singleton.mp member]
      trivial
  | hangup idle | pingFailed =>
      exact Or.inr (Or.inr (Or.inr
        (fun _ => isRoutine_of_mem_leaveEffects)))
  | sendLive frame rest live accepted todo sent =>
      exact Or.inr (Or.inl ⟨_, todo⟩)
  | sendPing timestamp rest live todo sent => exact Or.inr (Or.inl ⟨_, todo⟩)
  | spawnReplay identifier lastSeq rest todo =>
      exact Or.inr (Or.inl ⟨_, todo⟩)
  | spawnOutbound rest todo | dropSenders rest todo
  | external effect rest todo isExternal => exact Or.inr (Or.inl ⟨_, todo⟩)
  | _ => exact Or.inl rfl

/-- An effect to perform was planned earlier, comes from the frame just
handled, or is routine. -/
theorem Steps.mem_todo {effect : Effect}
    (steps : Steps env session action next) (member : effect ∈ next.todo) :
    effect ∈ session.todo ∨
      (∃ frame, action = .frame frame ∧
        effect ∈ (handleClientFrame env session.ctx session.inbound frame).2) ∨
      IsRoutine effect := by
  rcases steps.todo_cases with
    same | ⟨performed, popped⟩ | ⟨frame, isFrame, planned⟩ | routine
  · exact Or.inl (same ▸ member)
  · rw [popped]
    exact Or.inl (List.mem_cons_of_mem _ member)
  · exact Or.inr (Or.inl ⟨frame, isFrame, planned ▸ member⟩)
  · exact Or.inr (Or.inr (routine effect member))

/-! ## Replay tasks -/

theorem Steps.tasks_cases (steps : Steps env session action next) :
    next.tasks = session.tasks ∨
      (∃ index stimulus task move pc,
        action = .replay index stimulus ∧
          session.tasks[index]? = some task ∧
          TaskMoves env task stimulus move ∧ move.LeadsTo pc ∧
          next.tasks = session.tasks.set index { task with pc := pc }) ∨
      ∃ identifier since rest,
        action = .effect ∧
          session.todo = .spawnReplay identifier since :: rest ∧
          next.tasks = session.tasks ++ [⟨identifier, since, .queued⟩] := by
  cases steps with
  | spawnReplay identifier since rest todo =>
      exact Or.inr (Or.inr ⟨identifier, since, rest, rfl, todo, rfl⟩)
  | taskGo index stimulus task pc present moves =>
      exact Or.inr (Or.inl ⟨index, stimulus, task, _, pc, rfl, present, moves,
        rfl, rfl⟩)
  | taskEnqueue index stimulus task frame sent gone replay accepted present
      moves offered =>
      refine Or.inr (Or.inl ⟨index, stimulus, task, _, _, rfl, present, moves,
        ?_, rfl⟩)
      cases accepted
      · exact Or.inr rfl
      · exact Or.inl rfl
  | taskUrgent index stimulus task frame after urgent accepted present moves
      offered =>
      exact Or.inr (Or.inl ⟨index, stimulus, task, _, after, rfl, present,
        moves, rfl, rfl⟩)
  | _ => exact Or.inl rfl

/-- A task of a session was there before, has moved, or has just been
started. -/
theorem Steps.mem_tasks {task : ReplayTask}
    (steps : Steps env session action next) (member : task ∈ next.tasks) :
    task ∈ session.tasks ∨
      (∃ before stimulus move,
        before ∈ session.tasks ∧ TaskMoves env before stimulus move ∧
          task.identifier = before.identifier ∧
          task.lastSeq = before.lastSeq) ∨
      ∃ rest, session.todo = .spawnReplay task.identifier task.lastSeq :: rest ∧
        task.pc = .queued := by
  rcases steps.tasks_cases with
    same | ⟨index, stimulus, before, move, pc, -, present, moves, -, isSet⟩ |
      ⟨identifier, since, rest, -, todo, extended⟩
  · exact Or.inl (same ▸ member)
  · rw [isSet] at member
    rcases List.mem_or_eq_of_mem_set member with kept | isMoved
    · exact Or.inl kept
    · rw [isMoved]
      exact Or.inr (Or.inl ⟨before, stimulus, move,
        List.mem_of_getElem? present, moves, rfl, rfl⟩)
  · rw [extended] at member
    rcases List.mem_append.mp member with kept | isNew
    · exact Or.inl kept
    · rw [List.mem_singleton.mp isNew]
      exact Or.inr (Or.inr ⟨rest, todo, rfl⟩)

/-! ## The socket -/

/-- Only the outbound task writes to the socket, and it is started once its
effect is performed. -/
theorem Steps.socket_cases (steps : Steps env session action next) :
    (∃ ok shutdown,
        action = .outbound ok shutdown ∧
          session.out.step some ok backpressureFrame shutdown =
            some next.out) ∨
      next.out.socket = session.out.socket ∧
        (next.out.pc = session.out.pc ∨
          next.out.pc = .select ∧
            ∃ rest, session.todo = .spawnOutbound :: rest) := by
  cases steps with
  | outbound ok shutdown out stepped =>
      exact Or.inl ⟨ok, shutdown, rfl, stepped⟩
  | spawnOutbound rest todo =>
      exact Or.inr ⟨rfl, Or.inr ⟨rfl, rest, todo⟩⟩
  | taskGo | taskEnqueue | taskUrgent =>
      exact Or.inr ⟨by simp, Or.inl (by simp)⟩
  | _ => exact Or.inr ⟨rfl, Or.inl rfl⟩

theorem Steps.socket (steps : Steps env session action next) :
    session.out.socket <+: next.out.socket := by
  rcases steps.socket_cases with ⟨ok, shutdown, -, stepped⟩ | ⟨same, -⟩
  · exact (OutboundState.moves_of_step stepped).socket
  · exact same ▸ List.prefix_rfl

/-- Only the outbound task takes frames from the queues. -/
theorem Steps.received (steps : Steps env session action next)
    (notOutbound : ∀ ok shutdown, action ≠ .outbound ok shutdown) :
    next.out.live.received = session.out.live.received ∧
      next.out.replay.received = session.out.replay.received := by
  have sent :
      ∀ {queue after : Channel ServerMessage} {frame : ServerMessage}
        {accepted : Bool},
        queue.send frame = some (after, accepted) →
          after.received = queue.received := by
    intro queue after frame accepted offered
    cases accepted with
    | true => rw [Channel.send_eq_true offered, Channel.received_push]
    | false => rw [Channel.send_eq_false offered]
  cases steps with
  | outbound ok shutdown out stepped => exact absurd rfl (notOutbound _ _)
  | sendLive frame rest live accepted todo offered =>
      exact ⟨sent offered, rfl⟩
  | sendPing timestamp rest live todo offered => exact ⟨sent offered, rfl⟩
  | deliver frame live accepted =>
      exact ⟨by rw [Channel.trySend_eq_some accepted]; rfl, rfl⟩
  | taskGo => simp
  | taskEnqueue index stimulus task frame sentPc gone replay accepted present
      moves offered =>
      simp [sent offered]
  | taskUrgent => simp
  | _ => exact ⟨rfl, rfl⟩

/-! ## The queues -/

/-- The live queue receives what the fan-out delivers and what the connection
task sends. -/
theorem Steps.live_sent (steps : Steps env session action next) :
    next.out.live.sent = session.out.live.sent ∨
      ∃ frame,
        next.out.live.sent = session.out.live.sent ++ [frame] ∧
          (action = .deliver frame ∨
            action = .effect ∧
              ((∃ rest, session.todo = .sendLive frame :: rest) ∨
                ∃ timestamp, frame = .ping timestamp)) := by
  cases steps with
  | sendLive frame rest live accepted todo sent =>
      cases accepted with
      | true =>
          refine Or.inr ⟨frame, ?_, Or.inr ⟨rfl, Or.inl ⟨rest, todo⟩⟩⟩
          rw [Channel.send_eq_true sent]
          exact Channel.sent_push _ _
      | false =>
          left
          rw [Channel.send_eq_false sent]
          rfl
  | sendPing timestamp rest live todo sent =>
      refine Or.inr
        ⟨.ping timestamp, ?_, Or.inr ⟨rfl, Or.inr ⟨timestamp, rfl⟩⟩⟩
      rw [Channel.send_eq_true sent]
      exact Channel.sent_push _ _
  | deliver frame live accepted =>
      refine Or.inr ⟨frame, ?_, Or.inl rfl⟩
      rw [Channel.trySend_eq_some accepted]
      exact Channel.sent_push _ _
  | outbound ok shutdown out stepped =>
      exact Or.inl (OutboundState.moves_of_step stepped).sent.2
  | taskGo => simp
  | taskEnqueue => simp
  | taskUrgent => simp
  | _ => exact Or.inl rfl

/-- The replay queue receives what the replay tasks enqueue. -/
theorem Steps.replay_sent (steps : Steps env session action next) :
    next.out.replay.sent = session.out.replay.sent ∨
      ∃ index stimulus task frame sent gone,
        action = .replay index stimulus ∧
          session.tasks[index]? = some task ∧
          TaskMoves env task stimulus (.enqueue frame sent gone) ∧
          next.tasks = session.tasks.set index { task with pc := sent } ∧
          next.out.replay.sent = session.out.replay.sent ++ [frame] := by
  cases steps with
  | taskEnqueue index stimulus task frame sent gone replay accepted present
      enqueues offered =>
      cases accepted with
      | true =>
          refine Or.inr ⟨index, stimulus, task, frame, sent, gone, rfl,
            present, enqueues, by simp, ?_⟩
          rw [Channel.send_eq_true offered]
          simp
      | false =>
          left
          rw [Channel.send_eq_false offered]
          simp
  | outbound ok shutdown out stepped =>
      exact Or.inl (OutboundState.moves_of_step stepped).sent.1
  | taskGo => simp
  | taskUrgent => simp
  | _ => exact Or.inl rfl

/-- The urgent queue receives the disconnect frames of the replay tasks. -/
theorem Steps.urgent_sent (steps : Steps env session action next) :
    next.out.urgent.sent = session.out.urgent.sent ∨
      ∃ index task reason,
        action = .replay index .answer ∧
          session.tasks[index]? = some task ∧
          task.pc = .answering (.disconnect reason) ∧
          next.out.urgent.sent =
            session.out.urgent.sent ++ [.disconnect reason (some true)] := by
  cases steps with
  | taskUrgent index stimulus task frame after urgent accepted present moves
      offered =>
      cases accepted with
      | true =>
          cases moves with
          | disconnected reason answering =>
              refine Or.inr ⟨index, task, reason, rfl, present, answering, ?_⟩
              rw [Channel.send_eq_true offered]
              simp
      | false =>
          left
          rw [Channel.send_eq_false offered]
          simp
  | outbound ok shutdown out stepped =>
      exact Or.inl (OutboundState.step_urgent_sent stepped)
  | taskGo => simp
  | taskEnqueue => simp
  | _ => exact Or.inl rfl

/-- A frame ever queued live was queued before, delivered by the fan-out, or
sent by the connection task. -/
theorem Steps.mem_live_sent {frame : ServerMessage}
    (steps : Steps env session action next)
    (member : frame ∈ next.out.live.sent) :
    frame ∈ session.out.live.sent ∨ action = .deliver frame ∨
      .sendLive frame ∈ session.todo ∨ ∃ timestamp, frame = .ping timestamp := by
  rcases steps.live_sent with same | ⟨added, extended, origin⟩
  · exact Or.inl (same ▸ member)
  · rw [extended] at member
    rcases List.mem_append.mp member with before | isLast
    · exact Or.inl before
    · rw [List.mem_singleton.mp isLast]
      rcases origin with delivered | ⟨-, ⟨rest, todo⟩ | isPing⟩
      · exact Or.inr (Or.inl delivered)
      · exact Or.inr (Or.inr (Or.inl (by simp [todo])))
      · exact Or.inr (Or.inr (Or.inr isPing))

/-- A frame ever queued for replay was queued before, replays a message, or
confirms a subscription. -/
theorem Steps.mem_replay_sent {frame : ServerMessage}
    (steps : Steps env session action next)
    (member : frame ∈ next.out.replay.sent) :
    frame ∈ session.out.replay.sent ∨
      (∃ identifier, frame = .confirmSubscription identifier) ∨
        ∃ identifier seq payload,
          frame = replayedFrame env.decodePayload identifier seq payload := by
  rcases steps.replay_sent with
    same | ⟨index, stimulus, task, added, sent, gone, -, -, moves, -,
      extended⟩
  · exact Or.inl (same ▸ member)
  · rw [extended] at member
    rcases List.mem_append.mp member with before | isLast
    · exact Or.inl before
    · rw [List.mem_singleton.mp isLast]
      right
      cases moves with
      | replayed => exact Or.inr ⟨_, _, _, rfl⟩
      | confirmed => exact Or.inl ⟨_, rfl⟩

/-- A frame ever queued as urgent was queued before or disconnects. -/
theorem Steps.mem_urgent_sent {frame : ServerMessage}
    (steps : Steps env session action next)
    (member : frame ∈ next.out.urgent.sent) :
    frame ∈ session.out.urgent.sent ∨
      ∃ reason, frame = .disconnect reason (some true) := by
  rcases steps.urgent_sent with
    same | ⟨index, task, reason, -, -, -, extended⟩
  · exact Or.inl (same ▸ member)
  · rw [extended] at member
    rcases List.mem_append.mp member with before | isLast
    · exact Or.inl before
    · exact Or.inr ⟨reason, List.mem_singleton.mp isLast⟩

/-- A frame waiting in the replay queue was waiting before, or a replay task
has just queued it. -/
theorem Steps.mem_replay_buf {frame : ServerMessage}
    (steps : Steps env session action next)
    (member : frame ∈ next.out.replay.buf) :
    frame ∈ session.out.replay.buf ∨
      ∃ task stimulus sent gone,
        task ∈ session.tasks ∧
          TaskMoves env task stimulus (.enqueue frame sent gone) := by
  cases steps with
  | outbound ok shutdown out stepped =>
      left
      cases OutboundState.moves_of_step stepped with
      | control _ _ _ _ _ _ sameReplay _ _ => exact sameReplay.buf ▸ member
      | replayWritten taken _ _ _ _ _ _ _ took _ _
      | replayLost taken _ took _ _ =>
          rw [took.buf]
          exact List.mem_cons_of_mem taken member
      | liveWritten taken _ _ sameReplay _ _
      | liveLost taken _ sameReplay _ _ | terminal last _ sameReplay _ _ _ =>
          exact sameReplay.buf ▸ member
  | taskEnqueue index stimulus task added sent gone replay accepted present
      moves offered =>
      simp only [setTask_out, releaseTask_replay_buf] at member
      cases accepted with
      | true =>
          rw [Channel.send_eq_true offered, Channel.buf_push] at member
          rcases List.mem_append.mp member with before | isLast
          · exact Or.inl before
          · rw [List.mem_singleton.mp isLast]
            exact Or.inr ⟨task, stimulus, sent, gone,
              List.mem_of_getElem? present, moves⟩
      | false =>
          rw [Channel.send_eq_false offered] at member
          exact Or.inl member
  | taskGo | taskUrgent => exact Or.inl (by simpa using member)
  | _ => exact Or.inl member

end TurbocableServer.Connection.Session
