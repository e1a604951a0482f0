import TurbocableServer.Connection.OutboundDelivery
import TurbocableServer.Connection.SessionQueues
import TurbocableServer.Foundations.Reachability

/-!
# Delivery in a session

The conservation of frames, carried over from the outbound task to whole
sessions on a socket that accepts every write.  Disconnect frames travel on the
urgent queue only, so what precedes one on the socket is what was taken from
the live and the replay queue.
-/

namespace TurbocableServer.Connection

open Foundations Protocol Pubsub

def isDisconnect : ServerMessage → Bool
  | .disconnect _ _ => true
  | _ => false

namespace Session

variable {env : Environment} {session next : Session}
variable {action : SessionAction}

/-- Every write succeeds, and the fan-out loop delivers live frames. -/
def WritesSucceed (env : Environment) (_session : Session) :
    SessionAction → Prop
  | .outbound ok _ => ok = true
  | .deliver frame => ∃ message, frame = liveFrame env.decodePayload message
  | _ => True

/-! ## Disconnect frames -/

structure DisconnectsUrgent (session : Session) : Prop where
  planned :
    ∀ frame, .sendLive frame ∈ session.todo → isDisconnect frame = false
  live : ∀ frame, frame ∈ session.out.live.sent → isDisconnect frame = false
  replay :
    ∀ frame, frame ∈ session.out.replay.sent → isDisconnect frame = false
  urgent :
    ∀ frame, frame ∈ session.out.urgent.sent → isDisconnect frame = true

theorem disconnectsUrgent_unborn (env : Environment) :
    (unborn env).DisconnectsUrgent := by
  constructor <;>
    simp [unborn, freshOutbound, Channel.new, Channel.sent]

private theorem disconnects_planned_step (disconnects : session.DisconnectsUrgent)
    (steps : Steps env session action next) {frame : ServerMessage}
    (member : .sendLive frame ∈ next.todo) : isDisconnect frame = false := by
  rcases steps.mem_todo member with before | ⟨asked, -, fromFrame⟩ | routine
  · exact disconnects.planned frame before
  · obtain ⟨identifier, -, rfl | rfl⟩ :=
      (handled_handleClientFrame env session.ctx session.inbound
        asked).subscribe_of_sendLive fromFrame
    · rfl
    · rfl
  · have isWelcome : frame = .welcome := routine
    rw [isWelcome]
    rfl

private theorem disconnects_live_step (disconnects : session.DisconnectsUrgent)
    (succeeds : WritesSucceed env session action)
    (steps : Steps env session action next) {frame : ServerMessage}
    (member : frame ∈ next.out.live.sent) : isDisconnect frame = false := by
  rcases steps.mem_live_sent member with
    before | rfl | planned | ⟨timestamp, rfl⟩
  · exact disconnects.live frame before
  · obtain ⟨message, rfl⟩ := succeeds
    rfl
  · exact disconnects.planned frame planned
  · rfl

private theorem disconnects_replay_step (disconnects : session.DisconnectsUrgent)
    (steps : Steps env session action next) {frame : ServerMessage}
    (member : frame ∈ next.out.replay.sent) : isDisconnect frame = false := by
  rcases steps.mem_replay_sent member with
    before | ⟨identifier, rfl⟩ | ⟨identifier, seq, payload, rfl⟩
  · exact disconnects.replay frame before
  · rfl
  · rfl

private theorem disconnects_urgent_step (disconnects : session.DisconnectsUrgent)
    (steps : Steps env session action next) {frame : ServerMessage}
    (member : frame ∈ next.out.urgent.sent) : isDisconnect frame = true := by
  rcases steps.mem_urgent_sent member with before | ⟨reason, rfl⟩
  · exact disconnects.urgent frame before
  · rfl

theorem DisconnectsUrgent.step (disconnects : session.DisconnectsUrgent)
    (succeeds : WritesSucceed env session action)
    (steps : Steps env session action next) : next.DisconnectsUrgent where
  planned := fun _ => disconnects_planned_step disconnects steps
  live := fun _ => disconnects_live_step disconnects succeeds steps
  replay := fun _ => disconnects_replay_step disconnects steps
  urgent := fun _ => disconnects_urgent_step disconnects steps

/-! ## Conservation -/

/-- The socket of a session, split into the frames of the two queues and the
ending. -/
def Conserves (session : Session)
    (body ending : List (SocketFrame ServerMessage)) : Prop :=
  OutboundState.Conserved some backpressureFrame session.out body ending

theorem conserves_unborn (env : Environment) : (unborn env).Conserves [] [] where
  socket := rfl
  merged := .nil
  running := fun _ => rfl
  ended := by
    intro exited
    cases exited

theorem Conserves.step {body ending : List (SocketFrame ServerMessage)}
    (conserves : session.Conserves body ending)
    (launched : session.Launched) (succeeds : WritesSucceed env session action)
    (steps : Steps env session action next) :
    ∃ body ending, next.Conserves body ending := by
  by_cases isOutbound : ∃ ok shutdown, action = .outbound ok shutdown
  · obtain ⟨ok, shutdown, rfl⟩ := isOutbound
    obtain rfl : ok = true := succeeds
    cases steps with
    | outbound _ _ out stepped =>
        exact OutboundState.Conserved.step conserves stepped
  · have notOutbound : ∀ ok shutdown, action ≠ .outbound ok shutdown :=
      fun ok shutdown isAction => isOutbound ⟨ok, shutdown, isAction⟩
    obtain ⟨sameLive, sameReplay⟩ := steps.received notOutbound
    have urgent :
        ∀ frame, frame ∈ session.out.urgent.sent →
          frame ∈ next.out.urgent.sent := by
      intro frame member
      rcases steps.urgent_sent with
        same | ⟨index, task, reason, -, -, -, extended⟩
      · exact same ▸ member
      · rw [extended]
        exact List.mem_append_left _ member
    rcases steps.socket_cases with
      ⟨ok, shutdown, isAction, -⟩ | ⟨sameSocket, pc⟩
    · exact absurd isAction (notOutbound ok shutdown)
    · refine ⟨body, ending,
        OutboundState.Conserved.of_same conserves sameSocket sameLive
          sameReplay ?_ urgent⟩
      rcases pc with same | ⟨isSelect, rest, todo⟩
      · rw [same]
      · rw [isSelect, (launched.planned (by simp [todo])).1]
        simp

section Runs

variable {start : Session}

theorem launched_of_reaches
    (run : Reaches (step env) (WritesSucceed env) start session)
    (launched : start.Launched) : session.Launched :=
  run.invariant
    (fun _ _ _ _ moved launched => launched.step (steps_of_step moved))
    launched

theorem disconnectsUrgent_of_reaches
    (run : Reaches (step env) (WritesSucceed env) (unborn env) session) :
    session.DisconnectsUrgent :=
  run.invariant
    (fun _ _ _ succeeds moved disconnects =>
      disconnects.step succeeds (steps_of_step moved))
    (disconnectsUrgent_unborn env)

theorem conserves_of_reaches
    (run : Reaches (step env) (WritesSucceed env) (unborn env) session) :
    ∃ body ending, session.Conserves body ending := by
  induction run with
  | refl =>
      exact ⟨[], [], conserves_unborn env⟩
  | tail before last ih =>
      obtain ⟨label, succeeds, moved⟩ := last
      obtain ⟨body, ending, conserves⟩ := ih
      exact conserves.step (launched_of_reaches before (launched_unborn env))
        succeeds (steps_of_step moved)

theorem socket_of_reaches
    (run : Reaches (step env) (WritesSucceed env) start session) :
    start.out.socket <+: session.out.socket := by
  induction run with
  | refl =>
      exact List.prefix_rfl
  | tail before last ih =>
      obtain ⟨label, -, moved⟩ := last
      exact ih.trans (steps_of_step moved).socket

end Runs

/-! ## What precedes a disconnect frame -/

theorem shown_some (frames : List ServerMessage) :
    OutboundState.shown some frames =
      frames.map SocketFrame.data :=
  OutboundState.shown_eq_map (fun _ _ => rfl)

/-- A frame taken from the replay queue is on the socket. -/
theorem Conserves.mem_socket {body ending : List (SocketFrame ServerMessage)}
    (conserves : session.Conserves body ending) {frame : ServerMessage}
    (taken : frame ∈ session.out.replay.received) :
    .data frame ∈ session.out.socket := by
  have inBody : .data frame ∈ body := by
    rw [conserves.merged.mem_iff, shown_some, shown_some]
    exact Or.inr (List.mem_map_of_mem taken)
  rw [conserves.socket]
  exact List.mem_append_left _ inBody

section

variable {body ending : List (SocketFrame ServerMessage)}

/-- The frames of the two queues are no disconnect frames. -/
theorem Conserves.isDisconnect_of_mem_body
    (conserves : session.Conserves body ending)
    (disconnects : session.DisconnectsUrgent) {message : ServerMessage}
    (member : .data message ∈ body) : isDisconnect message = false := by
  rw [conserves.merged.mem_iff, shown_some, shown_some] at member
  rcases member with fromLive | fromReplay
  · exact disconnects.live message
      (List.mem_append_left _ (by simpa using fromLive))
  · exact disconnects.replay message
      (List.mem_append_left _ (by simpa using fromReplay))

theorem Conserves.mem_ending (conserves : session.Conserves body ending)
    {message : ServerMessage} (member : .data message ∈ ending) :
    message = backpressureFrame ∨ message ∈ session.out.urgent.sent := by
  by_cases exited : session.out.pc = .exited
  · cases conserves.ended exited with
    | goingAway => simp at member
    | closing => simp at member
    | disconnect closing source =>
        obtain rfl : message = closing := by
          simpa [OutboundState.onSocket] using member
        exact source
  · rw [conserves.running exited] at member
    cases member

theorem Conserves.isDisconnect_of_mem_ending
    (conserves : session.Conserves body ending)
    (disconnects : session.DisconnectsUrgent) {message : ServerMessage}
    (member : .data message ∈ ending) : isDisconnect message = true := by
  rcases conserves.mem_ending member with rfl | urgent
  · rfl
  · exact disconnects.urgent message urgent

/-- A disconnect frame on the socket is the one of an eviction or comes from
the urgent queue. -/
theorem Conserves.urgent_of_disconnect
    (conserves : session.Conserves body ending)
    (disconnects : session.DisconnectsUrgent) {message : ServerMessage}
    (isDisconnect : isDisconnect message = true)
    (notEviction : message ≠ backpressureFrame)
    (written : .data message ∈ session.out.socket) :
    message ∈ session.out.urgent.sent := by
  rw [conserves.socket] at written
  rcases List.mem_append.mp written with inBody | inEnding
  · have other := conserves.isDisconnect_of_mem_body disconnects inBody
    rw [isDisconnect] at other
    cases other
  · exact (conserves.mem_ending inEnding).resolve_left notEviction

/-- A disconnect frame comes after all the others. -/
theorem Conserves.mem_before_disconnect
    {before after : List (SocketFrame ServerMessage)}
    (conserves : session.Conserves body ending)
    (disconnects : session.DisconnectsUrgent)
    {last frame : ServerMessage} (isLast : isDisconnect last = true)
    (split : session.out.socket = before ++ .data last :: after)
    (other : isDisconnect frame = false)
    (written : .data frame ∈ session.out.socket) :
    .data frame ∈ before := by
  have frameInBody : .data frame ∈ body := by
    rw [conserves.socket] at written
    rcases List.mem_append.mp written with here | there
    · exact here
    · have isDisconnect :=
        conserves.isDisconnect_of_mem_ending disconnects there
      rw [other] at isDisconnect
      cases isDisconnect
  -- The disconnect frame is not part of the body, so the body ends before it.
  have cut : before ++ .data last :: after = body ++ ending :=
    split.symm.trans conserves.socket
  rcases List.append_eq_append_iff.mp cut with
    ⟨more, isBody, isRest⟩ | ⟨more, isBefore, -⟩
  · cases more with
    | nil =>
        rw [List.append_nil] at isBody
        exact isBody ▸ frameInBody
    | cons first rest =>
        obtain ⟨rfl, -⟩ := List.cons.inj isRest
        have notDisconnect :=
          conserves.isDisconnect_of_mem_body disconnects
            (by simp [isBody] : .data last ∈ body)
        rw [isLast] at notDisconnect
        cases notDisconnect
  · rw [isBefore]
    exact List.mem_append_left _ frameInBody

end

end Session

end TurbocableServer.Connection
