import TurbocableServer.Connection.SessionOrigins

/-!
# What the queues of a session carry

The live queue carries no catch-up frames, the replay queue no live ones, and
the urgent queue no message frames at all.
-/

namespace TurbocableServer.Connection

open Foundations Protocol Pubsub

/-! ## Frames on the socket -/

/-- A property of messages, for what is written to the socket. -/
def onData (holds : ServerMessage → Bool) : SocketFrame ServerMessage → Bool
  | .data message => holds message
  | _ => false

/-- The sequence of a catch-up frame of `stream`. -/
def replayedSeq (stream : String) : ServerMessage → Option Nat
  | .message identifier _ (some true) seq =>
      if identifier = stream then seq else none
  | _ => none

theorem isReplayedOf_of_replayedSeq {stream : String}
    {frame : ServerMessage} {seq : Nat}
    (isSeq : replayedSeq stream frame = some seq) :
    isReplayedOf stream frame = true := by
  unfold replayedSeq at isSeq
  split at isSeq
  · split at isSeq
    · rename_i identifier _ _ same
      simp [isReplayedOf, same]
    · cases isSeq
  · cases isSeq

theorem identifierField_of_isLiveOf {stream : String}
    {frame : ServerMessage} (live : isLiveOf stream frame = true) :
    identifierField frame = some stream := by
  unfold isLiveOf at live
  split at live
  · rw [identifierField, eq_of_beq live]
  · cases live

namespace Session

variable {env : Environment} {session next : Session}
variable {action : SessionAction}

/-! ## Before the outbound task runs -/

/-- The outbound task is started once, and nothing is written before. -/
structure Launched (session : Session) : Prop where
  unborn :
    session.phase = .unborn →
      session.out.pc = .unspawned ∧ session.todo = []
  planned :
    .spawnOutbound ∈ session.todo →
      session.out.pc = .unspawned ∧
        (session.todo = [.sendLive .welcome, .spawnOutbound] ∨
          session.todo = [.spawnOutbound])
  silent : session.out.pc = .unspawned → session.out.socket = []

theorem launched_unborn (env : Environment) : (unborn env).Launched where
  unborn := fun _ => ⟨rfl, rfl⟩
  planned := by simp [unborn]
  silent := fun _ => rfl

/-- A step of the outbound task needs the task, and leaves it there. -/
theorem pc_ne_unspawned_of_step {out : Outbound} {ok shutdown : Bool}
    (stepped : session.out.step some ok backpressureFrame shutdown =
      some out) :
    session.out.pc ≠ .unspawned ∧ out.pc ≠ .unspawned := by
  constructor
  · intro unspawned
    simp [OutboundState.step, unspawned] at stepped
  · cases OutboundState.moves_of_step stepped with
    | control _ _ _ target _ _ _ _ _ =>
        rcases target with isPc | isPc | isPc <;> simp [isPc]
    | replayWritten _ _ _ _ notUnspawned _ _ _ _ _ _ => exact notUnspawned
    | replayLost _ target _ _ _ =>
        rcases target with isPc | isPc <;> simp [isPc]
    | liveWritten _ source same _ _ _ =>
        rcases source with ⟨isPc, -⟩ | isPc <;> simp [same, isPc]
    | liveLost _ exited _ _ _ => simp [exited]
    | terminal _ exited _ _ _ _ => simp [exited]

private theorem unborn_step (launched : session.Launched)
    (steps : Steps env session action next) (unborn : next.phase = .unborn) :
    next.out.pc = .unspawned ∧ next.todo = [] := by
  obtain ⟨unspawned, noTodo⟩ := launched.unborn (steps.phase unborn)
  have busy :
      ∀ {effect : Effect} {rest : List Effect},
        session.todo ≠ effect :: rest := by
    simp [noTodo]
  have notIdle : ¬ session.Idle := by
    rintro ⟨serving, -⟩
    rw [steps.phase unborn] at serving
    cases serving
  cases steps with
  | accept ctx _ => cases unborn
  | frame frame idle | ping timestamp idle | hangup idle =>
      exact absurd idle notIdle
  | sendLive frame rest live accepted todo sent
  | sendPing timestamp rest live todo sent
  | pingFailed timestamp rest live todo sent
  | spawnReplay identifier lastSeq rest todo | spawnOutbound rest todo
  | dropSenders rest todo | external effect rest todo isExternal =>
      exact absurd todo busy
  | outbound ok shutdown out stepped =>
      exact absurd unspawned (pc_ne_unspawned_of_step stepped).1
  | taskGo | taskEnqueue | taskUrgent =>
      exact ⟨by simpa using unspawned, by simpa using noTodo⟩
  | _ => exact ⟨unspawned, noTodo⟩

private theorem planned_launch_step (launched : session.Launched)
    (steps : Steps env session action next)
    (member : .spawnOutbound ∈ next.todo) :
    next.out.pc = .unspawned ∧
      (next.todo = [.sendLive .welcome, .spawnOutbound] ∨
        next.todo = [.spawnOutbound]) := by
  -- Only the welcome frame is ever queued in front of the start.
  have popped :
      ∀ {effect : Effect} {rest : List Effect},
        session.todo = effect :: rest → .spawnOutbound ∈ rest →
          effect = .sendLive .welcome ∧ rest = [.spawnOutbound] ∧
            session.out.pc = .unspawned := by
    intro effect rest todo inRest
    obtain ⟨unspawned, shape⟩ :=
      launched.planned (todo ▸ List.mem_cons_of_mem effect inRest)
    rw [todo] at shape
    rcases shape with whole | last
    · cases whole
      exact ⟨rfl, rfl, unspawned⟩
    · cases last
      cases inRest
  have notLeaving :
      .spawnOutbound ∉ leaveEffects env session.ctx session.inbound := by
    intro leaving
    rcases mem_leaveEffects leaving with ⟨_, _, same⟩ | same | same <;>
      cases same
  cases steps with
  | accept ctx unborn => exact ⟨(launched.unborn unborn).1, Or.inl rfl⟩
  | frame frame idle =>
      rcases (handled_handleClientFrame env session.ctx session.inbound
          frame).mem_cases member rfl with
        ⟨identifier, -, isReject | ⟨-, isSubscribe | isConfirm⟩⟩ |
          ⟨identifier, -, isUnsubscribe⟩ | ⟨identifier, data, isPublish⟩
      · cases isReject
      · cases isSubscribe
      · rcases confirmEffect_cases env session.inbound.lastSeq identifier with
          direct | ⟨since, -, replayed⟩
        · simp [direct] at isConfirm
        · simp [replayed] at isConfirm
      · cases isUnsubscribe
      · cases isPublish
  | ping timestamp idle => simp at member
  | hangup idle | pingFailed timestamp rest live todo sent =>
      exact absurd member notLeaving
  | sendLive frame rest live accepted todo sent =>
      obtain ⟨-, isRest, unspawned⟩ := popped todo member
      exact ⟨unspawned, Or.inr isRest⟩
  | sendPing timestamp rest live todo sent => cases (popped todo member).1
  | spawnReplay identifier lastSeq rest todo =>
      cases (popped todo member).1
  | spawnOutbound rest todo => cases (popped todo member).1
  | dropSenders rest todo => cases (popped todo member).1
  | external effect rest todo isExternal =>
      rw [(popped todo member).1] at isExternal
      cases isExternal
  | outbound ok shutdown out stepped =>
      exact absurd (launched.planned member).1
        (pc_ne_unspawned_of_step stepped).1
  | taskGo | taskEnqueue | taskUrgent =>
      simpa using launched.planned (by simpa using member)
  | _ => exact launched.planned member

theorem Launched.step (launched : session.Launched)
    (steps : Steps env session action next) : next.Launched where
  unborn := unborn_step launched steps
  planned := planned_launch_step launched steps
  silent := by
    intro unspawned
    rcases steps.socket_cases with
      ⟨ok, shutdown, -, stepped⟩ | ⟨sameSocket, same | ⟨isSelect, -⟩⟩
    · exact absurd unspawned (pc_ne_unspawned_of_step stepped).2
    · rw [sameSocket]
      exact launched.silent (same ▸ unspawned)
    · rw [isSelect] at unspawned
      cases unspawned

/-! ## Queues -/

/-- The frames each queue carries. -/
structure Separated (env : Environment) (session : Session) : Prop where
  live :
    ∀ frame, frame ∈ session.out.live.sent →
      identifierField frame = none ∨
        ∃ message, frame = liveFrame env.decodePayload message
  replay :
    ∀ frame, frame ∈ session.out.replay.sent →
      (∃ identifier, frame = .confirmSubscription identifier) ∨
        ∃ identifier seq payload,
          frame = replayedFrame env.decodePayload identifier seq payload
  urgent :
    ∀ frame, frame ∈ session.out.urgent.sent →
      ∃ reason reconnect, frame = .disconnect reason reconnect

theorem separated_unborn (env : Environment) :
    (unborn env).Separated env := by
  constructor <;>
    simp [unborn, freshOutbound, Channel.new, Channel.sent]

/-- The fan-out loop delivers live frames. -/
def DeliversLive (env : Environment) (action : SessionAction) : Prop :=
  ∀ frame, action = .deliver frame →
    ∃ message, frame = liveFrame env.decodePayload message

theorem isReplayedOf_eq_false {frame : ServerMessage}
    (noMessage : identifierField frame = none) (stream : String) :
    isReplayedOf stream frame = false := by
  cases frame <;> first | rfl | cases noMessage

theorem isLiveOf_eq_false {frame : ServerMessage}
    (noMessage : identifierField frame = none) (stream : String) :
    isLiveOf stream frame = false := by
  cases frame <;> first | rfl | cases noMessage

theorem Separated.isReplayedOf_live (separated : session.Separated env)
    {frame : ServerMessage} (member : frame ∈ session.out.live.sent)
    (stream : String) : isReplayedOf stream frame = false := by
  rcases separated.live frame member with noMessage | ⟨message, rfl⟩
  · exact isReplayedOf_eq_false noMessage stream
  · rfl

theorem Separated.isLiveOf_replay (separated : session.Separated env)
    {frame : ServerMessage} (member : frame ∈ session.out.replay.sent)
    (stream : String) : isLiveOf stream frame = false := by
  rcases separated.replay frame member with
    ⟨identifier, rfl⟩ | ⟨identifier, seq, payload, rfl⟩ <;> rfl

private theorem live_step (separated : session.Separated env)
    (traced : session.Traced env) (delivers : DeliversLive env action)
    (steps : Steps env session action next)
    {frame : ServerMessage} (member : frame ∈ next.out.live.sent) :
    identifierField frame = none ∨
      ∃ message, frame = liveFrame env.decodePayload message := by
  rcases steps.mem_live_sent member with
    before | delivered | planned | ⟨timestamp, rfl⟩
  · exact separated.live frame before
  · exact Or.inr (delivers frame delivered)
  · exact Or.inl (traced.answered frame planned)
  · exact Or.inl rfl

private theorem replay_step (separated : session.Separated env)
    (steps : Steps env session action next)
    {frame : ServerMessage} (member : frame ∈ next.out.replay.sent) :
    (∃ identifier, frame = .confirmSubscription identifier) ∨
      ∃ identifier seq payload,
        frame = replayedFrame env.decodePayload identifier seq payload := by
  rcases steps.mem_replay_sent member with before | queued
  · exact separated.replay frame before
  · exact queued

private theorem urgent_step (separated : session.Separated env)
    (steps : Steps env session action next)
    {frame : ServerMessage} (member : frame ∈ next.out.urgent.sent) :
    ∃ reason reconnect, frame = .disconnect reason reconnect := by
  rcases steps.mem_urgent_sent member with before | ⟨reason, isDisconnect⟩
  · exact separated.urgent frame before
  · exact ⟨reason, _, isDisconnect⟩

theorem Separated.step (separated : session.Separated env)
    (traced : session.Traced env) (delivers : DeliversLive env action)
    (steps : Steps env session action next) : next.Separated env where
  live := fun _ => live_step separated traced delivers steps
  replay := fun _ => replay_step separated steps
  urgent := fun _ => urgent_step separated steps

/-- What closes the socket is a disconnect frame. -/
theorem disconnect_of_terminal (separated : session.Separated env)
    {message : ServerMessage}
    (source :
      ∃ frame, some frame = some message ∧
        (frame = backpressureFrame ∨ frame ∈ session.out.urgent.buf)) :
    ∃ reason reconnect, message = .disconnect reason reconnect := by
  obtain ⟨frame, same, isBackpressure | urgent⟩ := source
  · rw [← Option.some.inj same, isBackpressure]
    exact ⟨_, _, rfl⟩
  · rw [← Option.some.inj same]
    exact separated.urgent frame (List.mem_append_right _ urgent)

theorem identifierField_terminal (separated : session.Separated env)
    {message : ServerMessage}
    (source :
      ∃ frame, some frame = some message ∧
        (frame = backpressureFrame ∨ frame ∈ session.out.urgent.buf)) :
    identifierField message = none := by
  obtain ⟨reason, reconnect, rfl⟩ := disconnect_of_terminal separated source
  rfl

/-! ## All of it -/

/-- What holds of the sessions of every node. -/
structure Regular (env : Environment) (session : Session) : Prop where
  traced : session.Traced env
  launched : session.Launched
  separated : session.Separated env

theorem regular_unborn (env : Environment) : (unborn env).Regular env :=
  ⟨traced_unborn env, launched_unborn env, separated_unborn env⟩

theorem Regular.step (regular : session.Regular env)
    (subscribed : session.DeliversSubscribed env action)
    (live : DeliversLive env action)
    (steps : Steps env session action next) : next.Regular env :=
  ⟨regular.traced.step subscribed steps, regular.launched.step steps,
    regular.separated.step regular.traced live steps⟩

end Session

end TurbocableServer.Connection
