import TurbocableServer.Connection.ReplayMoves
import TurbocableServer.Gateway.Lifecycle
import TurbocableServer.Gateway.SocketOrder

/-!
# A connection whose outbound task has returned

The outbound task returns when the client is evicted, when it is closed
urgently, at a shutdown, or when a write fails.  The connection task does not
learn of it: it goes on reading frames and performing commands, while everything
that it and the replay tasks send is refused.  It notices with its next ping.
-/

namespace TurbocableServer.Connection.Session

open Foundations Protocol

variable {env : Environment} {base session next : Session}
variable {action : SessionAction}

/-- Nothing has been written or queued since `base`, and nobody receives. -/
structure CutOff (base session : Session) : Prop where
  exited : session.out.pc = .exited
  gone : session.out.ReceiversGone
  socket : session.out.socket = base.out.socket
  live : session.out.live.sent = base.out.live.sent
  replay : session.out.replay.sent = base.out.replay.sent
  urgent : session.out.urgent.sent = base.out.urgent.sent

/-- A send that nobody receives leaves the queue as it is. -/
theorem eq_of_send_of_gone {queue after : Channel ServerMessage}
    {frame : ServerMessage} {accepted : Bool}
    (gone : queue.receiverAlive = false)
    (offered : queue.send frame = some (after, accepted)) :
    accepted = false ∧ after = queue := by
  have refused : accepted = false :=
    (receiverAlive_of_send offered).symm.trans gone
  subst refused
  exact ⟨rfl, Channel.send_eq_false offered⟩

/-- A replay task that returns only drops its senders. -/
theorem CutOff.setTask (cutOff : CutOff base session) (index : Nat)
    (task : ReplayTask) (pc : ReplayPc) :
    CutOff base (session.setTask index task pc) := by
  have gone := cutOff.gone
  cases pc <;>
    exact ⟨cutOff.exited, ⟨gone.live, gone.replay, gone.urgent⟩,
      cutOff.socket, cutOff.live, cutOff.replay, cutOff.urgent⟩

theorem CutOff.step (cutOff : CutOff base session)
    (stage : session.Stage env) (steps : Steps env session action next) :
    CutOff base next := by
  obtain ⟨exited, gone, socket, live, replay, urgent⟩ := cutOff
  cases steps with
  | sendLive frame rest queue accepted todo sent
  | sendPing timestamp rest queue todo sent =>
      obtain ⟨-, rfl⟩ := eq_of_send_of_gone gone.live sent
      exact ⟨exited, gone, socket, live, replay, urgent⟩
  | spawnOutbound rest todo =>
      -- The outbound task is started once.
      cases stage with
      | unborn _ noTodo _ => cases noTodo.symm.trans todo
      | greeting _ plan _ => cases plan.symm.trans todo
      | launching _ _ unspawned _ => cases unspawned.symm.trans exited
      | serving _ _ service =>
          have isService := service .spawnOutbound (by simp [todo])
          cases isService
      | leaving cleanup _ _ presence plan =>
          cases cleanup with
          | nil => cases plan.symm.trans todo
          | cons first cleanup =>
              obtain ⟨rfl, -⟩ := List.cons.inj (plan.symm.trans todo)
              cases presence .spawnOutbound List.mem_cons_self
      | returned _ _ plan => cases plan.symm.trans todo
      | closed _ _ noTodo => cases noTodo.symm.trans todo
  | outbound ok shutdown out stepped =>
      rw [OutboundState.step, exited] at stepped
      cases stepped
  | taskGo index stimulus task pc present moves =>
      exact CutOff.setTask ⟨exited, gone, socket, live, replay, urgent⟩ ..
  | taskEnqueue index stimulus task frame sent peerGone queue accepted present
      moves offered =>
      obtain ⟨-, rfl⟩ := eq_of_send_of_gone gone.replay offered
      exact CutOff.setTask ⟨exited, gone, socket, live, replay, urgent⟩ ..
  | taskUrgent index stimulus task frame after queue accepted present moves
      offered =>
      obtain ⟨-, rfl⟩ := eq_of_send_of_gone gone.urgent offered
      exact CutOff.setTask ⟨exited, gone, socket, live, replay, urgent⟩ ..
  | deliver frame queue accepted =>
      have refuses : session.out.live.accepts = false := by
        simp [Channel.accepts, gone.live]
      rw [Channel.trySend_of_refuses refuses] at accepted
      cases accepted
  | _ =>
      exact ⟨exited, ⟨gone.live, gone.replay, gone.urgent⟩, socket, live,
        replay, urgent⟩

/-- The ping fails, and the connection task leaves its loop. -/
theorem leaving_of_ping {timestamp : Nat} {rest : List Effect}
    (gone : session.out.ReceiversGone)
    (todo : session.todo = .sendPing timestamp :: rest)
    (steps : Steps env session .effect next) : next.phase = .leaving := by
  cases steps with
  | sendPing _ _ queue _ sent =>
      obtain ⟨accepted, -⟩ := eq_of_send_of_gone gone.live sent
      cases accepted
  | pingFailed => rfl
  | sendLive _ _ _ _ other _ | spawnReplay _ _ _ other
  | spawnOutbound _ other | dropSenders _ other => cases other.symm.trans todo
  | external effect _ other isExternal =>
      obtain ⟨rfl, -⟩ := List.cons.inj (other.symm.trans todo)
      cases isExternal

end TurbocableServer.Connection.Session

namespace TurbocableServer.Gateway.Node

open Foundations Protocol Pubsub Connection

variable {env : Environment} {node later : Node} {conn : ConnId}
variable {log : MessageLog} {cursor : Nat}

/-- A connection whose outbound task has returned is cut off for good: whatever
its client and the rest of the node do, nothing more is written to its socket or
put into its queues.  Its task ends with the first ping that it sends. -/
theorem cut_off_for_good
    (run : Reaches (step env) (fun _ _ => True) (initial env log cursor) node)
    (exited : (node.sessions conn).out.pc = .exited)
    (continues : Reaches (step env) (fun _ _ => True) node later) :
    Session.CutOff (node.sessions conn) (later.sessions conn) ∧
      ∀ timestamp rest succeeds next,
        (later.sessions conn).todo = .sendPing timestamp :: rest →
          later.step env (.effect conn succeeds) = some next →
            (next.sessions conn).phase = .leaving := by
  have initially :
      Session.CutOff (node.sessions conn) (node.sessions conn) :=
    ⟨exited, hushed_of_reaches run conn exited, rfl, rfl, rfl, rfl⟩
  have cutOff :
      Session.CutOff (node.sessions conn) (later.sessions conn) := by
    refine session_invariant (Session.CutOff (node.sessions conn)) ?_ continues
      initially
    intro source label move next reached _ _ steps here
    exact here.step (stage_of_reaches (run.trans reached) conn) steps
  refine ⟨cutOff, ?_⟩
  intro timestamp rest succeeds next todo moved
  simp only [step, todo] at moved
  split at moved
  · obtain ⟨session, stepped, rfl⟩ := Option.map_eq_some_iff.mp moved
    rw [setSession_sessions_self]
    exact Session.leaving_of_ping cutOff.gone todo
      (Session.steps_of_step stepped)
  · cases moved

/-- The client goes away while a live frame is queued: the write fails, and the
outbound task returns. -/
def goneNode : Node :=
  (newsRun (fun _ _ => True)
    (newsConnect ++ newsSubscribe ++ [newsPublish] ++ newsFanOut ++
      [.effect 1 true, .outbound 1 false])).get (by decide)

/-- A ping is due, and another message has come. -/
def goneLater : Node :=
  (execute (step newsEnv) (fun _ _ => True) goneNode
    ([newsPublish] ++ newsFanOut ++ [.ping 1 30])).get (by decide)

theorem cut_off_for_good_goneNode :
    (goneNode.sessions 1).phase = .serving ∧
      Session.CutOff (goneNode.sessions 1) (goneLater.sessions 1) ∧
      ∀ timestamp rest succeeds next,
        (goneLater.sessions 1).todo = .sendPing timestamp :: rest →
          goneLater.step newsEnv (.effect 1 succeeds) = some next →
            (next.sessions 1).phase = .leaving := by
  have run :
      Reaches (step newsEnv) (fun _ _ => True) (initial newsEnv .empty 0)
        goneNode :=
    reaches_execute_get _
  have continues :
      Reaches (step newsEnv) (fun _ _ => True) goneNode goneLater :=
    reaches_execute_get _
  exact ⟨by decide, cut_off_for_good run (by decide) continues⟩

end TurbocableServer.Gateway.Node
