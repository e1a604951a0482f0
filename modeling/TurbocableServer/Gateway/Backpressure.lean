import TurbocableServer.Connection.SocketWrites
import TurbocableServer.Gateway.LiveFeed
import TurbocableServer.Gateway.LogPosition
import TurbocableServer.Gateway.SocketOrder

/-!
# Backpressure

While a connection stays subscribed to a stream, the live frames of the stream
on its socket are those the queue held when the subscription began and then
those of the messages fanned out since, in order and without a hole.  Once its
queue has refused a message, no message of any stream is enqueued to it again.
-/

namespace TurbocableServer.Gateway.Node

open Foundations Protocol Pubsub Connection

variable {env : Environment} {node next start begun : Node}
variable {action : NodeAction} {conn : ConnId} {stream : String}
variable {allowed : Node → NodeAction → Prop} {log : MessageLog} {cursor : Nat}

/-! ## Runs -/

theorem scanNodup_of_reaches
    (run : Reaches (step env) allowed (initial env log cursor) node) :
    node.sys.ScanNodup := by
  induction run with
  | refl =>
      intro scanned todo evicted scanning
      cases scanning
  | tail before last ih =>
      obtain ⟨label, -, moved⟩ := last
      rcases (steps_of_step moved).sysMove.access with
        unchanged | ⟨call, accessed⟩
      · rw [unchanged]
        exact ih
      · exact ih.step (traced_of_reaches before).sound
          (RegSystem.steps_of_step accessed)

theorem forwardsLive_of_reaches
    (run : Reaches (step env) allowed (initial env log cursor) node)
    (conn : ConnId) (stream : String) :
    (node.sessions conn).ForwardsLive (isLiveOf stream) := by
  refine session_invariant (Session.ForwardsLive (isLiveOf stream)) ?_ run
    (Session.forwardsLive_unborn env)
  intro source label move next before _ isMove steps forwards
  have regular := regular_of_reaches before conn
  exact forwards.step regular.launched regular.separated
    (fun _ member => regular.separated.isLiveOf_replay member stream)
    (fun _ _ => rfl) steps

theorem push_of_step (pushing : start.sys.task conn = .pushing stream)
    (begins : start.step env (.advance conn) = some begun) :
    start.sys.readLocked stream = false ∧
      begun.sys = start.sys.move conn
        (start.sys.reg.pushSubscriber stream conn) (.recording stream) := by
  apply RegSystem.push_of_advance pushing
  cases steps_of_step begins with
  | advance _ sys accessed _ => exact accessed
  | advanceForget _ sys session accessed _ _ _ => exact accessed
  | onSession _ _ _ _ isLocal _ => cases isLocal

/-- The push of `subscribe` makes the connection follow the stream. -/
theorem inStep_of_pushed (traced : start.Traced env)
    (pushing : start.sys.task conn = .pushing stream)
    (unlocked : start.sys.readLocked stream = false)
    (isNext : begun.sys = start.sys.move conn
      (start.sys.reg.pushSubscriber stream conn) (.recording stream)) :
    InStep env conn stream begun [] [] := by
  have coherent := traced.sound.coherent conn
  obtain ⟨held, isHeld, -⟩ := (coherent.guardHeld stream).1 (Or.inl pushing)
  have registered : conn ∈ start.sys.reg.connections :=
    coherent.keysAgree.1 (by simp [isHeld])
  refine ⟨?_, fun _ => rfl, ?_⟩
  · rw [isNext]
    exact ⟨registered,
      (Registry.mem_subscribers_pushSubscriber ..).mpr (Or.inl ⟨rfl, rfl⟩)⟩
  · rintro ⟨todo, evicted, scanning, -⟩
    rw [isNext] at scanning
    exact absurd scanning (RegSystem.fan_ne_scanning unlocked todo evicted)

theorem inStep_of_push (traced : start.Traced env)
    (pushing : start.sys.task conn = .pushing stream)
    (begins : start.step env (.advance conn) = some begun) :
    InStep env conn stream begun [] [] := by
  obtain ⟨unlocked, isNext⟩ := push_of_step pushing begins
  exact inStep_of_pushed traced pushing unlocked isNext

/-- A subscription follows the stream from where it begins. -/
theorem InStep.following (inStep : InStep env conn stream begun [] []) :
    Following env conn stream begun begun :=
  ⟨[], [], (List.append_nil _).symm, (List.append_nil _).symm, Or.inl inStep⟩

/-- What is written was enqueued. -/
theorem written_prefix_liveSent
    (run : Reaches (step env) allowed (initial env log cursor) node)
    (conn : ConnId) (stream : String) :
    writtenOf (isLiveOf stream) (node.sessions conn).out.socket <+:
      liveOf stream (node.liveSent conn) := by
  rw [liveSent, Channel.sent, liveOf_append]
  exact (forwardsLive_of_reaches run conn stream).isPrefix.trans
    (List.prefix_append _ _)

end TurbocableServer.Gateway.Node
