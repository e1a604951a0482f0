import TurbocableServer.Connection.SessionQueues

/-!
# What reaches the socket

The outbound task writes the frames of each queue in the order of the queue and
leaves none out, until a write fails and it takes no more frames from the
queue.
-/

namespace TurbocableServer.Connection

open Foundations Protocol Pubsub

/-- The chosen messages among the frames on a socket. -/
def writtenOf (chosen : ServerMessage → Bool)
    (socket : List (SocketFrame ServerMessage)) : List ServerMessage :=
  socket.filterMap (fun frame =>
    match frame with
    | .data message => if chosen message then some message else none
    | _ => none)

section

variable {chosen : ServerMessage → Bool}
variable {socket socket' : List (SocketFrame ServerMessage)}

@[simp]
theorem writtenOf_append :
    writtenOf chosen (socket ++ socket') =
      writtenOf chosen socket ++ writtenOf chosen socket' :=
  List.filterMap_append ..

theorem writtenOf_data (message : ServerMessage) :
    writtenOf chosen [.data message] = [message].filter chosen := by
  by_cases isChosen : chosen message = true <;> simp [writtenOf, isChosen]

theorem writtenOf_eq_nil
    (none : ∀ message, .data message ∈ socket → chosen message = false) :
    writtenOf chosen socket = [] := by
  rw [writtenOf, List.filterMap_eq_nil_iff]
  intro frame member
  cases frame with
  | data message => simp [none message member]
  | goingAway => rfl
  | closing => rfl

theorem mem_writtenOf_iff {message : ServerMessage} :
    message ∈ writtenOf chosen socket ↔
      .data message ∈ socket ∧ chosen message = true := by
  rw [writtenOf, List.mem_filterMap]
  constructor
  · rintro ⟨frame, member, selected⟩
    cases frame with
    | data content =>
        by_cases isChosen : chosen content = true
        · obtain rfl : content = message := by simpa [isChosen] using selected
          exact ⟨member, isChosen⟩
        · simp [isChosen] at selected
    | goingAway => cases selected
    | closing => cases selected
  · rintro ⟨member, isChosen⟩
    exact ⟨.data message, member, by simp [isChosen]⟩

end

/-- The chosen frames of those taken from a queue have been written in order,
all of them unless some are lost. -/
structure Forwarded (chosen : ServerMessage → Bool)
    (taken : List ServerMessage)
    (socket : List (SocketFrame ServerMessage)) (lost : Prop) : Prop where
  isPrefix : writtenOf chosen socket <+: taken.filter chosen
  complete : ¬ lost → writtenOf chosen socket = taken.filter chosen

namespace Forwarded

variable {chosen : ServerMessage → Bool} {taken taken' : List ServerMessage}
variable {socket socket' : List (SocketFrame ServerMessage)}
variable {lost lost' : Prop} {frame : ServerMessage}

/-- Frames that are not chosen do not matter. -/
theorem others (forwarded : Forwarded chosen taken socket lost)
    {others : List (SocketFrame ServerMessage)}
    (sameTaken : taken' = taken) (extended : socket' = socket ++ others)
    (none : ∀ message, .data message ∈ others → chosen message = false)
    (stays : lost → lost') : Forwarded chosen taken' socket' lost' := by
  have sameWritten : writtenOf chosen socket' = writtenOf chosen socket := by
    rw [extended, writtenOf_append, writtenOf_eq_nil none, List.append_nil]
  constructor
  · rw [sameWritten, sameTaken]
    exact forwarded.isPrefix
  · intro kept
    rw [sameWritten, sameTaken]
    exact forwarded.complete (fun gone => kept (stays gone))

theorem same (forwarded : Forwarded chosen taken socket lost)
    (sameTaken : taken' = taken) (sameSocket : socket' = socket)
    (stays : lost → lost') : Forwarded chosen taken' socket' lost' :=
  forwarded.others sameTaken
    (sameSocket.trans (List.append_nil socket).symm) (by simp) stays

theorem written (forwarded : Forwarded chosen taken socket lost)
    (kept : ¬ lost) (took : taken' = taken ++ [frame])
    (extended : socket' = socket ++ [.data frame]) :
    Forwarded chosen taken' socket' lost' := by
  have whole : writtenOf chosen socket' = taken'.filter chosen := by
    rw [extended, took, writtenOf_append, writtenOf_data,
      forwarded.complete kept, List.filter_append]
  exact ⟨whole ▸ List.prefix_rfl, fun _ => whole⟩

theorem dropped (forwarded : Forwarded chosen taken socket lost)
    (took : taken' = taken ++ [frame]) (sameSocket : socket' = socket)
    (gone : lost') : Forwarded chosen taken' socket' lost' := by
  refine ⟨?_, fun kept => absurd gone kept⟩
  rw [sameSocket, took, List.filter_append]
  exact forwarded.isPrefix.trans (List.prefix_append _ _)

/-- What was written in between comes from what was taken in between. -/
theorem since {more : List ServerMessage}
    {new : List (SocketFrame ServerMessage)}
    (earlier : Forwarded chosen taken socket lost)
    (later : Forwarded chosen (taken ++ more) (socket ++ new) lost')
    (nothingNew : lost → new = []) :
    writtenOf chosen new <+: more.filter chosen := by
  by_cases gone : lost
  · rw [nothingNew gone]
    exact List.nil_prefix
  · have whole := later.isPrefix
    rw [writtenOf_append, List.filter_append, earlier.complete gone] at whole
    exact (List.prefix_append_right_inj _).mp whole

end Forwarded

namespace Session

variable {env : Environment} {session next : Session}
variable {action : SessionAction} {chosen : ServerMessage → Bool}

/-- The live queue is forwarded until the outbound task has ended. -/
def ForwardsLive (chosen : ServerMessage → Bool) (session : Session) :
    Prop :=
  Forwarded chosen session.out.live.received session.out.socket
    (session.out.pc = .exited)

/-- The replay queue is forwarded until the outbound task has ended or drains
the live queue. -/
def ForwardsReplay (chosen : ServerMessage → Bool) (session : Session) :
    Prop :=
  Forwarded chosen session.out.replay.received session.out.socket
    (session.out.pc = .exited ∨ session.out.pc = .drainLive)

theorem forwardsLive_unborn (env : Environment) :
    (unborn env).ForwardsLive chosen :=
  ⟨List.prefix_rfl, fun _ => rfl⟩

theorem forwardsReplay_unborn (env : Environment) :
    (unborn env).ForwardsReplay chosen :=
  ⟨List.prefix_rfl, fun _ => rfl⟩

theorem pc_ne_exited_of_step {out : Outbound} {ok shutdown : Bool}
    (stepped : session.out.step some ok backpressureFrame shutdown =
      some out) : session.out.pc ≠ .exited := by
  intro exited
  simp [OutboundState.step, exited] at stepped

/-- Apart from the outbound task, nothing moves frames to the socket; the task
is started once. -/
private theorem quiet_cases (launched : session.Launched)
    (steps : Steps env session action next)
    (notOutbound : ∀ ok shutdown, action ≠ .outbound ok shutdown) :
    next.out.socket = session.out.socket ∧
      (next.out.pc = session.out.pc ∨ session.out.pc = .unspawned) := by
  rcases steps.socket_cases with
    ⟨ok, shutdown, isOutbound, -⟩ | ⟨sameSocket, same | ⟨-, rest, todo⟩⟩
  · exact absurd isOutbound (notOutbound ok shutdown)
  · exact ⟨sameSocket, Or.inl same⟩
  · exact ⟨sameSocket, Or.inr (launched.planned (by simp [todo])).1⟩

/-- A later state of a session, as far as the socket and the live queue are
concerned. -/
structure Precedes (session later : Session) : Prop where
  socket : session.out.socket <+: later.out.socket
  received : session.out.live.received <+: later.out.live.received
  exited :
    session.out.pc = .exited →
      later.out.pc = .exited ∧ later.out.socket = session.out.socket

theorem Precedes.refl (session : Session) : session.Precedes session :=
  ⟨List.prefix_rfl, List.prefix_rfl, fun exited => ⟨exited, rfl⟩⟩

theorem Precedes.trans {first : Session} (before : first.Precedes session)
    (after : session.Precedes next) : first.Precedes next := by
  refine ⟨before.socket.trans after.socket,
    before.received.trans after.received, ?_⟩
  intro exited
  obtain ⟨stillExited, sameSocket⟩ := before.exited exited
  obtain ⟨isExited, same⟩ := after.exited stillExited
  exact ⟨isExited, same.trans sameSocket⟩

/-- What a step adds to the socket. -/
inductive Wrote (session next : Session) : Prop
  | nothing :
      next.out.socket = session.out.socket → Wrote session next
  | replay (frame : ServerMessage) :
      frame ∈ session.out.replay.sent →
      next.out.socket = session.out.socket ++ [.data frame] →
      Wrote session next
  | live (frame : ServerMessage) :
      frame ∈ session.out.live.sent →
      next.out.socket = session.out.socket ++ [.data frame] →
      Wrote session next
  | terminal (last : List (SocketFrame ServerMessage)) :
      (∀ message, .data message ∈ last →
        ∃ reason reconnect, message = .disconnect reason reconnect) →
      next.out.socket = session.out.socket ++ last →
      Wrote session next

theorem Steps.wrote (separated : session.Separated env)
    (steps : Steps env session action next) : Wrote session next := by
  rcases steps.socket_cases with ⟨ok, shutdown, -, stepped⟩ | ⟨same, -⟩
  · cases OutboundState.moves_of_step stepped with
    | control _ _ _ _ _ _ _ _ same => exact .nothing same
    | replayWritten frame _ _ _ _ _ _ _ took _ written =>
        exact .replay frame (List.mem_append_right _ (by simp [took.buf]))
          written
    | replayLost _ _ _ _ same => exact .nothing same
    | liveWritten frame _ _ _ took written =>
        exact .live frame (List.mem_append_right _ (by simp [took.buf]))
          written
    | liveLost _ _ _ _ same => exact .nothing same
    | terminal last _ _ _ origin written =>
        exact .terminal last
          (fun message member =>
            disconnect_of_terminal separated (origin message member))
          written
  · exact .nothing same

theorem ForwardsLive.step (forwards : session.ForwardsLive chosen)
    (launched : session.Launched) (separated : session.Separated env)
    (noReplay :
      ∀ frame, frame ∈ session.out.replay.sent → chosen frame = false)
    (noDisconnect :
      ∀ reason reconnect, chosen (.disconnect reason reconnect) = false)
    (steps : Steps env session action next) : next.ForwardsLive chosen := by
  by_cases isOutbound : ∃ ok shutdown, action = .outbound ok shutdown
  · obtain ⟨ok, shutdown, rfl⟩ := isOutbound
    cases steps with
    | outbound _ _ out stepped =>
        have notExited := pc_ne_exited_of_step stepped
        cases OutboundState.moves_of_step stepped with
        | control _ _ _ _ _ _ _ sameLive sameSocket =>
            exact Forwarded.same forwards sameLive.received sameSocket
              (fun exited => absurd exited notExited)
        | replayWritten frame _ _ _ _ _ _ _ took sameLive written =>
            refine Forwarded.others forwards sameLive.received written ?_
              (fun exited => absurd exited notExited)
            intro message member
            obtain rfl : message = frame := by
              simpa [OutboundState.onSocket] using member
            exact noReplay message
              (List.mem_append_right _ (by simp [took.buf]))
        | replayLost frame _ _ sameLive sameSocket =>
            exact Forwarded.same forwards sameLive.received sameSocket
              (fun exited => absurd exited notExited)
        | liveWritten frame _ _ _ took written =>
            exact Forwarded.written forwards notExited took.received written
        | liveLost frame exited _ took sameSocket =>
            exact Forwarded.dropped forwards took.received sameSocket exited
        | terminal last exited _ sameLive origin written =>
            refine Forwarded.others forwards sameLive.received written ?_
              (fun _ => exited)
            intro message member
            obtain ⟨reason, reconnect, rfl⟩ :=
              disconnect_of_terminal separated (origin message member)
            exact noDisconnect reason reconnect
  · have notOutbound : ∀ ok shutdown, action ≠ .outbound ok shutdown :=
      fun ok shutdown isAction => isOutbound ⟨ok, shutdown, isAction⟩
    obtain ⟨sameSocket, pc⟩ := quiet_cases launched steps notOutbound
    refine Forwarded.same forwards (steps.received notOutbound).1 sameSocket ?_
    rintro exited
    rcases pc with same | unspawned
    · exact same.trans exited
    · cases exited.symm.trans unspawned

theorem ForwardsReplay.step (forwards : session.ForwardsReplay chosen)
    (launched : session.Launched) (separated : session.Separated env)
    (noLive :
      ∀ frame, frame ∈ session.out.live.sent → chosen frame = false)
    (noDisconnect :
      ∀ reason reconnect, chosen (.disconnect reason reconnect) = false)
    (steps : Steps env session action next) :
    next.ForwardsReplay chosen := by
  by_cases isOutbound : ∃ ok shutdown, action = .outbound ok shutdown
  · obtain ⟨ok, shutdown, rfl⟩ := isOutbound
    cases steps with
    | outbound _ _ out stepped =>
        have notExited := pc_ne_exited_of_step stepped
        cases OutboundState.moves_of_step stepped with
        | control _ notDraining _ _ _ _ sameReplay _ sameSocket =>
            refine Forwarded.same forwards sameReplay.received sameSocket ?_
            rintro (exited | draining)
            · exact absurd exited notExited
            · exact absurd draining notDraining
        | replayWritten frame _ notDraining _ _ _ _ _ took _ written =>
            refine Forwarded.written forwards ?_ took.received written
            rintro (exited | draining)
            · exact notExited exited
            · exact notDraining draining
        | replayLost frame target took _ sameSocket =>
            exact Forwarded.dropped forwards took.received sameSocket target
        | liveWritten frame _ samePc sameReplay took written =>
            refine Forwarded.others forwards sameReplay.received written ?_
              (by rw [samePc]; exact id)
            intro message member
            obtain rfl : message = frame := by
              simpa [OutboundState.onSocket] using member
            exact noLive message
              (List.mem_append_right _ (by simp [took.buf]))
        | liveLost frame exited sameReplay _ sameSocket =>
            exact Forwarded.same forwards sameReplay.received sameSocket
              (fun _ => Or.inl exited)
        | terminal last exited sameReplay _ origin written =>
            refine Forwarded.others forwards sameReplay.received written ?_
              (fun _ => Or.inl exited)
            intro message member
            obtain ⟨reason, reconnect, rfl⟩ :=
              disconnect_of_terminal separated (origin message member)
            exact noDisconnect reason reconnect
  · have notOutbound : ∀ ok shutdown, action ≠ .outbound ok shutdown :=
      fun ok shutdown isAction => isOutbound ⟨ok, shutdown, isAction⟩
    obtain ⟨sameSocket, pc⟩ := quiet_cases launched steps notOutbound
    refine Forwarded.same forwards (steps.received notOutbound).2 sameSocket ?_
    rcases pc with same | unspawned
    · rw [same]
      exact id
    · rw [unspawned]
      rintro (exited | draining)
      · cases exited
      · cases draining

end Session

end TurbocableServer.Connection
