import TurbocableServer.Connection.SessionFacts

/-!
# Where the frames of a session come from

Whatever a session plans with the registry, and every message frame in its live
queue, goes back to a Subscribe of the client that the token allowed.
-/

namespace TurbocableServer.Connection.Session

open Foundations Protocol Pubsub Auth

variable {env : Environment} {session next : Session}
variable {action : SessionAction}

/-- The client subscribed to `stream` by an identifier its token allows. -/
def Subscribed (env : Environment) (session : Session) (stream : String) :
    Prop :=
  ∃ identifier,
    .command (.subscribe identifier) ∈ session.frames ∧
      isAllowed session.ctx.allowedStreams identifier = true ∧
      env.streamKey identifier = stream

theorem Subscribed.of_steps {stream : String}
    (subscribed : session.Subscribed env stream)
    (fresh : session.phase = .unborn → session.frames = [])
    (steps : Steps env session action next) :
    next.Subscribed env stream := by
  obtain ⟨identifier, asked, allowed, isKey⟩ := subscribed
  refine ⟨identifier, ?_, ?_, isKey⟩
  · rcases steps.frames with same | ⟨frame, -, extended⟩
    · rw [same]
      exact asked
    · rw [extended]
      exact List.mem_append_left _ asked
  · rcases steps.ctx with same | unborn
    · rw [same]
      exact allowed
    · rw [fresh unborn] at asked
      cases asked

/-- The effects of a frame that make the client a subscriber. -/
theorem subscribed_receive {frame : Option ClientFrame} {stream : String}
    (member : .registrySubscribe stream ∈
      (handleClientFrame env session.ctx session.inbound frame).2) :
    (session.receive env frame).Subscribed env stream := by
  obtain ⟨identifier, rfl, allowed, isKey⟩ :=
    (handled_handleClientFrame env session.ctx session.inbound
      frame).allowed_of_registrySubscribe member
  exact ⟨identifier,
    List.mem_append_right _ (List.mem_singleton_self _), allowed, isKey⟩

structure Traced (env : Environment) (session : Session) : Prop where
  fresh : session.phase = .unborn → session.frames = []
  planned :
    ∀ stream, .registrySubscribe stream ∈ session.todo →
      session.Subscribed env stream
  answered :
    ∀ frame, .sendLive frame ∈ session.todo → identifierField frame = none
  enqueued :
    ∀ frame stream, frame ∈ session.out.live.sent →
      identifierField frame = some stream → session.Subscribed env stream

theorem traced_unborn (env : Environment) : (unborn env).Traced env where
  fresh := fun _ => rfl
  planned := by simp [unborn]
  answered := by simp [unborn]
  enqueued := by simp [unborn, freshOutbound, Channel.new, Channel.sent]

/-- The fan-out loop delivers only streams the client asked for. -/
def DeliversSubscribed (env : Environment) (session : Session)
    (action : SessionAction) : Prop :=
  ∀ frame stream, action = .deliver frame →
    identifierField frame = some stream → session.Subscribed env stream

private theorem fresh_step (traced : session.Traced env)
    (steps : Steps env session action next)
    (unborn : next.phase = .unborn) : next.frames = [] := by
  have wasUnborn := steps.phase unborn
  rcases steps.frames with same | ⟨frame, isFrame, -⟩
  · rw [same]
    exact traced.fresh wasUnborn
  · subst isFrame
    cases steps with
    | frame _ idle =>
        rw [idle.1] at wasUnborn
        cases wasUnborn

private theorem planned_step (traced : session.Traced env)
    (steps : Steps env session action next) {stream : String}
    (member : .registrySubscribe stream ∈ next.todo) :
    next.Subscribed env stream := by
  rcases steps.mem_todo member with before | ⟨frame, rfl, fromFrame⟩ | routine
  · exact (traced.planned stream before).of_steps traced.fresh steps
  · cases steps with
    | frame _ idle => exact subscribed_receive fromFrame
  · cases routine

private theorem answered_step (traced : session.Traced env)
    (steps : Steps env session action next) {frame : ServerMessage}
    (member : .sendLive frame ∈ next.todo) :
    identifierField frame = none := by
  rcases steps.mem_todo member with before | ⟨asked, -, fromFrame⟩ | routine
  · exact traced.answered frame before
  · exact
      (handled_handleClientFrame env session.ctx session.inbound
        asked).identifierField_of_sendLive fromFrame
  · have isWelcome : frame = .welcome := routine
    rw [isWelcome]
    rfl

private theorem enqueued_step (traced : session.Traced env)
    (delivers : session.DeliversSubscribed env action)
    (steps : Steps env session action next)
    {frame : ServerMessage} {stream : String}
    (member : frame ∈ next.out.live.sent)
    (ofStream : identifierField frame = some stream) :
    next.Subscribed env stream := by
  rcases steps.mem_live_sent member with
    before | delivered | planned | ⟨timestamp, rfl⟩
  · exact (traced.enqueued frame stream before ofStream).of_steps
      traced.fresh steps
  · exact (delivers frame stream delivered ofStream).of_steps
      traced.fresh steps
  · have answer := traced.answered frame planned
    rw [answer] at ofStream
    cases ofStream
  · cases ofStream

/-- The session itself queues no message frame. -/
theorem Traced.live_sent (traced : session.Traced env)
    (steps : Steps env session action next)
    (notDeliver : ∀ frame, action ≠ .deliver frame) :
    ∃ added,
      next.out.live.sent = session.out.live.sent ++ added ∧
        ∀ frame, frame ∈ added → identifierField frame = none := by
  rcases steps.live_sent with same | ⟨frame, extended, origin⟩
  · exact ⟨[], by rw [same, List.append_nil], by simp⟩
  · refine ⟨[frame], extended, fun added member => ?_⟩
    rw [List.mem_singleton.mp member]
    rcases origin with delivered | ⟨-, ⟨rest, todo⟩ | ⟨timestamp, rfl⟩⟩
    · exact absurd delivered (notDeliver frame)
    · exact traced.answered frame (by simp [todo])
    · rfl

theorem Traced.step (traced : session.Traced env)
    (delivers : session.DeliversSubscribed env action)
    (steps : Steps env session action next) : next.Traced env where
  fresh := fresh_step traced steps
  planned := fun _ => planned_step traced steps
  answered := fun _ => answered_step traced steps
  enqueued := fun _ _ => enqueued_step traced delivers steps

end TurbocableServer.Connection.Session
