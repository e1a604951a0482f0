import TurbocableServer.Connection.CatchUp
import TurbocableServer.Connection.ReplayOrder
import TurbocableServer.Gateway.Origins

/-!
# The order of frames on a socket

On the socket of a connection that subscribes once to a stream, every catch-up
frame of the stream precedes every live one, provided that the live branch of
the outbound loop holds back the stream until its replay is over.  The loop does
not: its preference for the replay queue is of no use before the replay task has
queued its first frame.

The catch-up frames of a stream are written in increasing sequence between two
hellos, provided that replays of the stream do not overlap.  They may, since
every Subscribe starts one.
-/

namespace TurbocableServer.Gateway.Node

open Foundations Protocol Pubsub Connection

/-- The outcome of the write when the outbound task of `conn` moves. -/
def outboundOf (conn : ConnId) : NodeAction → Option Bool
  | .outbound target ok => if target = conn then some ok else none
  | _ => none

/-- The outbound task of `conn` writes a live frame of `stream` from its live
branch only when no replay of `stream` is left. -/
def HoldsBackLive (conn : ConnId) (stream : String) (node : Node)
    (action : NodeAction) : Prop :=
  ∀ ok, outboundOf conn action = some ok →
    (node.sessions conn).LiveAfterReplay stream ok node.shutdown

instance (conn : ConnId) (stream : String) (node : Node)
    (action : NodeAction) :
    Decidable (HoldsBackLive conn stream node action) :=
  inferInstanceAs (Decidable (∀ _ : Bool, _ → _))

theorem SessionMove.outbound_iff {env : Environment} {node : Node}
    {conn : ConnId} {action : NodeAction} {ok shutdown : Bool}
    (isMove : SessionMove env node conn action (.outbound ok shutdown)) :
    action = .outbound conn ok ∧ shutdown = node.shutdown := by
  cases isMove with
  | onSession _ _ isLocal =>
      cases isLocal
      exact ⟨rfl, rfl⟩

variable {env : Environment} {log : MessageLog} {cursor : Nat} {node : Node}

/-- Where live frames are held back during a replay, catch-up frames come
first. -/
theorem catchUp_precedes_live {conn : ConnId} {stream : String}
    (plain : env.streamKey stream = stream)
    (run : Reaches (step env) (HoldsBackLive conn stream)
      (initial env log cursor) node)
    (once : (node.sessions conn).SubscribedOnce env stream) :
    CatchUpFirst stream (node.sessions conn).out.socket := by
  suffices caught : (node.sessions conn).CaughtUp env stream from caught.order
  refine session_invariant
    (fun session =>
      session.SubscribedOnce env stream → session.CaughtUp env stream)
    ?_ run (fun _ => Session.caughtUp_unborn env stream) once
  intro source label move next before holdsBack isMove steps caught onceNext
  refine (caught (onceNext.of_steps steps)).step
    (regular_of_reaches before conn) plain onceNext ?_ steps
  rintro ok shutdown rfl
  obtain ⟨rfl, rfl⟩ := isMove.outbound_iff
  exact holdsBack ok (by simp [outboundOf])

/-- The connection task of `conn` starts replays of `stream` in order. -/
def StartsReplaysInOrder (conn : ConnId) (stream : String) (node : Node)
    (action : NodeAction) : Prop :=
  effectOf conn action = true → (node.sessions conn).StartsInOrder stream

instance (conn : ConnId) (stream : String) (node : Node)
    (action : NodeAction) :
    Decidable (StartsReplaysInOrder conn stream node action) :=
  inferInstanceAs (Decidable (_ → _))

/-- Where replays start in order, the catch-up frames written since the latest
hello have increasing sequences. -/
theorem replayed_in_order {conn : ConnId} {stream : String}
    (run : Reaches (step env) (StartsReplaysInOrder conn stream)
      (initial env log cursor) node) :
    ((node.sessions conn).replayedSince stream).Pairwise (· < ·) := by
  suffices inOrder : (node.sessions conn).ReplaysInOrder stream from
    (List.pairwise_append.mp inOrder.increasing).1
  refine session_invariant
    (fun session => session.ReplaysInOrder stream)
    ?_ run (Session.replaysInOrder_unborn env stream)
  intro source label move next before starts isMove steps inOrder
  refine inOrder.step (regular_of_reaches before conn) ?_ steps
  rintro rfl
  exact starts isMove.effectOf_eq_true

/-! ## Runs -/

/-- A node with small queues and no JSON identifiers. -/
def newsEnv : Environment :=
  Environment.fourSlots

def newsRun (allowed : Node → NodeAction → Prop)
    [∀ node action, Decidable (allowed node action)]
    (actions : List NodeAction) : Option Node :=
  execute (step newsEnv) allowed (initial newsEnv .empty 0) actions

/-- A client that has seen nothing yet connects. -/
def newsConnect : List NodeAction :=
  [.accept 1 ⟨false, ["*"], none⟩, .advance 1, .advance 1,
    .effect 1 true, .effect 1 true,
    .frame 1 (some (.hello ⟨some 0, ["replay_v1"]⟩))]

/-- It subscribes, up to the push to the list of subscribers. -/
def newsAsk : List NodeAction :=
  [.frame 1 (some (.command (.subscribe "news"))), .effect 1 true]

/-- It subscribes, up to the point where the replay task is to be started. -/
def newsSubscribe : List NodeAction :=
  newsAsk ++ [.advance 1, .advance 1]

def newsPublish : NodeAction :=
  .publish (subjectOf "news") ByteArray.empty

def newsFanOut : List NodeAction :=
  [.fanNext true, .fanDeliver, .fanRelease]

/-- The replay task with the given index comes to its first message. -/
def newsOpen (index : Nat) : List NodeAction :=
  [.replay 1 index (.permit true), .replay 1 index (.info none),
    .replay 1 index (.opened none)]

def newsFetch (index seq : Nat) : NodeAction :=
  .replay 1 index (.fetched (.message (some seq) ByteArray.empty))

def newsConfirm : List NodeAction :=
  [.replay 1 0 (.fetched .ended), .replay 1 0 .answer]

def newsWrite (count : Nat) : List NodeAction :=
  List.replicate count (.outbound 1 true)

/-- The outbound task waits until the replay is over, so that the welcome
frame, the catch-up frame, the confirmation and the live frame are written in
this order. -/
def heldBackNode : Node :=
  (newsRun (HoldsBackLive 1 "news")
    (newsConnect ++ newsSubscribe ++ [newsPublish] ++ newsFanOut ++
      [.effect 1 true] ++ newsOpen 0 ++ [newsFetch 0 1] ++ newsConfirm ++
      newsWrite 5)).get (by decide)

theorem catchUp_precedes_live_heldBack :
    (heldBackNode.sessions 1).out.socket.any
        (onData (isLiveOf "news")) = true ∧
      (heldBackNode.sessions 1).out.socket.any
        (onData (isReplayedOf "news")) = true ∧
      CatchUpFirst "news" (heldBackNode.sessions 1).out.socket := by
  refine ⟨by decide, by decide, ?_⟩
  exact catchUp_precedes_live rfl (reaches_execute_get _) (by decide)

/-- The live branch runs before the replay task is started. -/
def eagerNode : Node :=
  (newsRun (fun _ _ => True)
    (newsConnect ++ newsSubscribe ++ [newsPublish] ++ newsFanOut ++
      newsWrite 2 ++ [.effect 1 true] ++ newsOpen 0 ++ [newsFetch 0 1] ++
      newsWrite 1)).get (by decide)

theorem live_precedes_catchUp :
    Reaches (step newsEnv) (fun _ _ => True) (initial newsEnv .empty 0)
        eagerNode ∧
      (eagerNode.sessions 1).SubscribedOnce newsEnv "news" ∧
      ¬ CatchUpFirst "news" (eagerNode.sessions 1).out.socket :=
  ⟨reaches_execute_get _, by decide, by decide⟩

/-- One replay of two messages. -/
def singleReplayNode : Node :=
  (newsRun (StartsReplaysInOrder 1 "news")
    (newsConnect ++ [newsPublish, newsPublish] ++ newsSubscribe ++
      [.effect 1 true] ++ newsOpen 0 ++ [newsFetch 0 1, newsFetch 0 2] ++
      newsWrite 3)).get (by decide)

theorem replayed_in_order_singleReplay :
    (singleReplayNode.sessions 1).replayedSince "news" = [1, 2] ∧
      ((singleReplayNode.sessions 1).replayedSince "news").Pairwise
        (· < ·) :=
  ⟨by decide, replayed_in_order (reaches_execute_get _)⟩

/-- The client subscribes twice, and the second replay repeats the first. -/
def doubleReplayNode : Node :=
  (newsRun (fun _ _ => True)
    (newsConnect ++ [newsPublish, newsPublish] ++ newsSubscribe ++
      [.effect 1 true, .frame 1 (some (.command (.subscribe "news"))),
        .effect 1 true, .effect 1 true] ++
      newsOpen 0 ++ newsOpen 1 ++
      [newsFetch 0 1, newsFetch 0 2, newsFetch 1 1] ++
      newsWrite 4)).get (by decide)

theorem replayed_out_of_order :
    Reaches (step newsEnv) (fun _ _ => True) (initial newsEnv .empty 0)
        doubleReplayNode ∧
      (doubleReplayNode.sessions 1).replayedSince "news" = [1, 2, 1] ∧
      ¬ ((doubleReplayNode.sessions 1).replayedSince "news").Pairwise
        (· < ·) :=
  ⟨reaches_execute_get _, by decide, by decide⟩

end TurbocableServer.Gateway.Node
