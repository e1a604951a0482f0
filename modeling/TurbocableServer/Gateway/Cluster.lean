import TurbocableServer.Gateway.LiveShare

/-!
# Several nodes on one log

The gateway nodes of a cluster consume one JetStream stream: what a client of
one node publishes, the fan-out loops and the replays of all nodes see, and what
has left the stream is gone for all of them.  Nodes share nothing else.  A node
may crash and come back, with its consumer at some place of the log and without
its connections.

As long as no consumer hands out a message again, all live frames of a stream,
on whichever node, follow one order.
-/

namespace TurbocableServer.Gateway

open Foundations Protocol Pubsub Connection

/-- The nodes of a cluster, which all see the log and what is left of it. -/
@[ext]
structure Cluster (ι : Type) where
  nodes : ι → Node
  log : MessageLog
  expired : Nat
  shared : ∀ i, (nodes i).log = log
  sharedExpired : ∀ i, (nodes i).expired = expired

/-- A node takes a step, or is started anew with its consumer at the given
place. -/
inductive ClusterAction where
  | node (action : NodeAction)
  | restart (cursor : Nat)

namespace Cluster

variable {ι : Type}

def initial (env : Environment) (log : MessageLog) (cursors : ι → Nat) :
    Cluster ι where
  nodes := fun i => .initial env log (cursors i)
  log := log
  expired := 0
  shared := fun _ => rfl
  sharedExpired := fun _ => rfl

section

variable [DecidableEq ι]

/-- Node `i` has become `next`, and the others see its log. -/
def replace (cluster : Cluster ι) (i : ι) (next : Node) : Cluster ι where
  nodes := fun j =>
    if j = i then
      next
    else
      { cluster.nodes j with log := next.log, expired := next.expired }
  log := next.log
  expired := next.expired
  shared := by
    intro j
    by_cases isNext : j = i
    · rw [if_pos isNext]
    · rw [if_neg isNext]
  sharedExpired := by
    intro j
    by_cases isNext : j = i
    · rw [if_pos isNext]
    · rw [if_neg isNext]

/-- A node that starts on the log of the cluster. -/
def fresh (env : Environment) (cluster : Cluster ι) (cursor : Nat) : Node :=
  { Node.initial env cluster.log cursor with expired := cluster.expired }

def step (env : Environment) (cluster : Cluster ι) :
    ι × ClusterAction → Option (Cluster ι)
  | (i, .node action) =>
      ((cluster.nodes i).step env action).map (cluster.replace i)
  | (i, .restart cursor) =>
      if cursor ≤ cluster.log.messages.length then
        some (cluster.replace i (cluster.fresh env cursor))
      else
        none

variable {env : Environment} {cluster next : Cluster ι}

@[simp]
theorem replace_nodes_self (cluster : Cluster ι) (i : ι) (node : Node) :
    (cluster.replace i node).nodes i = node :=
  if_pos rfl

theorem replace_nodes_of_ne (cluster : Cluster ι) {i j : ι} (node : Node)
    (different : j ≠ i) :
    (cluster.replace i node).nodes j =
      { cluster.nodes j with log := node.log, expired := node.expired } :=
  if_neg different

/-- A node that sees the same stream leaves the other nodes alone. -/
theorem replace_nodes_of_same (cluster : Cluster ι) {i j : ι} {node : Node}
    (different : j ≠ i) (sameLog : node.log = cluster.log)
    (sameExpired : node.expired = cluster.expired) :
    (cluster.replace i node).nodes j = cluster.nodes j := by
  rw [replace_nodes_of_ne cluster node different, sameLog, sameExpired,
    ← cluster.shared j, ← cluster.sharedExpired j]

theorem replace_same (cluster : Cluster ι) (i : ι) :
    cluster.replace i (cluster.nodes i) = cluster := by
  apply Cluster.ext
  · funext j
    by_cases isNext : j = i
    · rw [isNext, replace_nodes_self]
    · exact replace_nodes_of_same cluster isNext (cluster.shared i)
        (cluster.sharedExpired i)
  · exact cluster.shared i
  · exact cluster.sharedExpired i

/-- A restart leaves the log and the other nodes alone. -/
theorem restart_eq_some {i : ι} {cursor : Nat}
    (moved : cluster.step env (i, .restart cursor) = some next) :
    cursor ≤ cluster.log.messages.length ∧ next.log = cluster.log ∧
      next.nodes i = cluster.fresh env cursor ∧
      ∀ j, j ≠ i → next.nodes j = cluster.nodes j := by
  simp only [step] at moved
  split at moved
  · rename_i within
    obtain rfl := Option.some.inj moved
    refine ⟨within, rfl, replace_nodes_self .., ?_⟩
    intro j different
    exact replace_nodes_of_same cluster different rfl rfl
  · cases moved

/-- What others do to the stream. -/
def Outside : NodeAction → Prop
  | .publish _ _ | .expire => True
  | _ => False

/-- For another node, a step is one of somebody else on the stream. -/
theorem replace_step {i j : ι} {action : NodeAction} {node : Node}
    (different : j ≠ i)
    (moved : (cluster.nodes i).step env action = some node) :
    (cluster.replace i node).nodes j = cluster.nodes j ∨
      ∃ label, Outside label ∧
        (cluster.nodes j).step env label =
          some ((cluster.replace i node).nodes j) := by
  have sameLog : (cluster.nodes i).log = (cluster.nodes j).log := by
    rw [cluster.shared, cluster.shared]
  have sameExpired :
      (cluster.nodes i).expired = (cluster.nodes j).expired := by
    rw [cluster.sharedExpired, cluster.sharedExpired]
  rcases (Node.steps_of_step moved).stream_cases with
    ⟨isLog, isExpired⟩ | ⟨subject, payload, isPublish, isExpired⟩ |
      ⟨present, isLog, isExpired⟩
  · left
    exact replace_nodes_of_same cluster different
      (isLog.trans (cluster.shared i))
      (isExpired.trans (cluster.sharedExpired i))
  · right
    refine ⟨.publish subject payload, trivial, ?_⟩
    rw [replace_nodes_of_ne cluster node different, isPublish, isExpired,
      sameLog, sameExpired]
    rfl
  · right
    refine ⟨.expire, trivial, ?_⟩
    rw [sameLog, sameExpired] at present
    rw [replace_nodes_of_ne cluster node different, isLog, isExpired, sameLog,
      sameExpired]
    simp only [Node.step, if_pos present]

end

/-! ## Every node by itself -/

/-- The node has come this far since it was started. -/
def Runs (env : Environment) (allowed : Node → NodeAction → Prop)
    (node : Node) : Prop :=
  ∃ log cursor, cursor ≤ log.messages.length ∧
    Reaches (Node.step env) allowed (.initial env log cursor) node

/-- The guard says nothing about what others do to the stream. -/
def AdmitsOutside (allowed : Node → NodeAction → Prop) : Prop :=
  ∀ node action, Outside action → allowed node action

theorem admitsOutside_handsOutOnce : AdmitsOutside Node.HandsOutOnce := by
  intro node action isOutside
  cases action with
  | publish subject payload => trivial
  | expire => trivial
  | _ => cases isOutside

variable {allowed : Node → NodeAction → Prop}

theorem runs_initial {env : Environment} {log : MessageLog} {cursor : Nat}
    (within : cursor ≤ log.messages.length) :
    Runs env allowed (.initial env log cursor) :=
  ⟨log, cursor, within, Reaches.refl _⟩

theorem Runs.step {env : Environment} {node after : Node}
    {action : NodeAction} (runs : Runs env allowed node)
    (permitted : allowed node action)
    (moved : node.step env action = some after) : Runs env allowed after := by
  obtain ⟨log, cursor, within, run⟩ := runs
  exact ⟨log, cursor, within, run.tail permitted moved⟩

/-- A node can start on a stream that has lost messages. -/
theorem runs_expired {env : Environment} {log : MessageLog} {cursor : Nat}
    (admits : AdmitsOutside allowed) (within : cursor ≤ log.messages.length)
    (expired : Nat) (some : expired ≤ log.messages.length) :
    Runs env allowed
      { Node.initial env log cursor with expired := expired } := by
  induction expired with
  | zero => exact runs_initial within
  | succ count ih =>
      apply (ih (Nat.le_of_succ_le some)).step
        (admits _ .expire trivial)
      exact if_pos some

theorem Runs.expired_le {env : Environment} {node : Node}
    (runs : Runs env allowed node) :
    node.expired ≤ node.log.messages.length := by
  obtain ⟨log, cursor, -, run⟩ := runs
  have kept :
      ∀ source label target, allowed source label →
        Node.step env source label = some target →
          source.expired ≤ source.log.messages.length →
            target.expired ≤ target.log.messages.length := by
    intro source label target _ moved bounded
    have longer :=
      (Node.steps_of_step moved).logMove.log_grows.length_le
    rcases (Node.steps_of_step moved).stream_cases with
      ⟨-, isExpired⟩ | ⟨_, _, -, isExpired⟩ | ⟨present, -, isExpired⟩ <;>
      omega
  exact run.invariant kept (Nat.zero_le _)

/-- No consumer of the cluster hands out a message again while its node
runs. -/
def HandsOutOnce (cluster : Cluster ι) : ι × ClusterAction → Prop
  | (i, .node action) => (cluster.nodes i).HandsOutOnce action
  | (_, .restart _) => True

instance (cluster : Cluster ι) :
    ∀ label, Decidable (cluster.HandsOutOnce label)
  | (i, .node action) =>
      inferInstanceAs (Decidable ((cluster.nodes i).HandsOutOnce action))
  | (_, .restart _) => inferInstanceAs (Decidable True)

section

variable [DecidableEq ι] {env : Environment} {cluster next : Cluster ι}
variable {permits : Cluster ι → ι × ClusterAction → Prop}

theorem runs_replace (admits : AdmitsOutside allowed) {i : ι}
    {action : NodeAction} {node : Node}
    (runs : ∀ j, Runs env allowed (cluster.nodes j))
    (permitted : allowed (cluster.nodes i) action)
    (moved : (cluster.nodes i).step env action = some node) (j : ι) :
    Runs env allowed ((cluster.replace i node).nodes j) := by
  by_cases isNext : j = i
  · rw [isNext, replace_nodes_self]
    exact (runs i).step permitted moved
  · rcases replace_step isNext moved with same | ⟨label, isOutside, stepped⟩
    · rw [same]
      exact runs j
    · exact (runs j).step (admits _ label isOutside) stepped

theorem runs_restart (admits : AdmitsOutside allowed) {i : ι} {cursor : Nat}
    (runs : ∀ j, Runs env allowed (cluster.nodes j))
    (moved : cluster.step env (i, .restart cursor) = some next) (j : ι) :
    Runs env allowed (next.nodes j) := by
  obtain ⟨within, -, isFresh, others⟩ := restart_eq_some moved
  by_cases isNext : j = i
  · have bounded := (runs i).expired_le
    rw [cluster.shared, cluster.sharedExpired] at bounded
    rw [isNext, isFresh]
    exact runs_expired admits within cluster.expired bounded
  · rw [others j isNext]
    exact runs j

theorem runs_of_reaches {log : MessageLog} {cursors : ι → Nat}
    (within : ∀ i, cursors i ≤ log.messages.length)
    (run : Reaches (step env) HandsOutOnce (initial env log cursors)
      cluster) :
    ∀ i, Runs env Node.HandsOutOnce (cluster.nodes i) := by
  have kept :
      ∀ (source : Cluster ι) label target, HandsOutOnce source label →
        step env source label = some target →
          (∀ i, Runs env Node.HandsOutOnce (source.nodes i)) →
            ∀ i, Runs env Node.HandsOutOnce (target.nodes i) := by
    rintro source ⟨i, action⟩ target once moved runs
    cases action with
    | node action =>
        obtain ⟨node, stepped, rfl⟩ := Option.map_eq_some_iff.mp moved
        exact runs_replace admitsOutside_handsOutOnce runs once stepped
    | restart cursor =>
        exact runs_restart admitsOutside_handsOutOnce runs moved
  exact run.invariant kept (fun i => runs_initial (within i))

theorem log_grows {label : ι × ClusterAction}
    (moved : cluster.step env label = some next) :
    cluster.log.messages <+: next.log.messages := by
  obtain ⟨i, action⟩ := label
  cases action with
  | node action =>
      obtain ⟨node, stepped, rfl⟩ := Option.map_eq_some_iff.mp moved
      rw [← cluster.shared i]
      exact (Node.steps_of_step stepped).logMove.log_grows
  | restart cursor =>
      rw [(restart_eq_some moved).2.1]

theorem log_grows_of_reaches
    (run : Reaches (step env) permits cluster next) :
    cluster.log.messages <+: next.log.messages := by
  have kept :
      ∀ source label target, permits source label →
        step env source label = some target →
          cluster.log.messages <+: source.log.messages →
            cluster.log.messages <+: target.log.messages :=
    fun _ _ _ _ moved grown => grown.trans (log_grows moved)
  exact run.invariant kept List.prefix_rfl

/-- As long as no consumer hands out a message again, the live frames of a
stream on all sockets of the cluster follow one order, in which every message
occurs once.  The order is that of the log, and as time goes on it is only
extended. -/
theorem live_total_order {log : MessageLog} {cursors : ι → Nat}
    (within : ∀ i, cursors i ≤ log.messages.length)
    (run : Reaches (step env) HandsOutOnce (initial env log cursors) cluster)
    (later : Reaches (step env) HandsOutOnce cluster next)
    (stream : String) :
    (Node.feedOf env stream cluster.log.messages).Nodup ∧
      (∀ i conn,
        (writtenOf (isLiveOf stream)
          ((cluster.nodes i).sessions conn).out.socket).Sublist
          (Node.feedOf env stream cluster.log.messages)) ∧
      Node.feedOf env stream cluster.log.messages <+:
        Node.feedOf env stream next.log.messages := by
  refine ⟨Node.nodup_feedOf env stream cluster.log, ?_, ?_⟩
  · intro i conn
    obtain ⟨started, cursor, -, reached⟩ := runs_of_reaches within run i
    rw [← cluster.shared i]
    exact Node.written_sublist_log reached conn stream
  · obtain ⟨added, extended⟩ := log_grows_of_reaches later
    rw [← extended, Node.feedOf_append]
    exact List.prefix_append _ _

end

/-- A client of each of two nodes follows the stream. -/
def pairFollowing : List (Bool × ClusterAction) :=
  (Node.newsConnect ++ Node.newsSubscribe).flatMap
    (fun action => [(false, .node action), (true, .node action)])

/-- Two messages are published.  One node fans out both of them.  The other one
is handed the second only, because the first has left the stream. -/
def pairCluster : Cluster Bool :=
  (execute (step Node.newsEnv) HandsOutOnce
    (initial Node.newsEnv .empty (fun _ => 0))
    (pairFollowing ++
      [(false, .node Node.newsPublish), (true, .node Node.newsPublish)] ++
      (Node.newsFanOut ++ Node.newsFanOut ++ Node.newsWrite 3).map
        (fun action => (false, .node action)) ++
      (.expire :: .seek 1 :: Node.newsFanOut ++ Node.newsWrite 2).map
        (fun action => (true, .node action)))).get
    (by decide)

theorem live_total_order_pair :
    (∀ i conn,
        (writtenOf (isLiveOf "news")
          ((pairCluster.nodes i).sessions conn).out.socket).Sublist
          (Node.feedOf Node.newsEnv "news" pairCluster.log.messages)) ∧
      (writtenOf (isLiveOf "news")
        ((pairCluster.nodes false).sessions 1).out.socket).length = 2 ∧
      (writtenOf (isLiveOf "news")
        ((pairCluster.nodes true).sessions 1).out.socket).length = 1 := by
  have run :
      Reaches (step Node.newsEnv) HandsOutOnce
        (initial Node.newsEnv .empty (fun _ : Bool => 0)) pairCluster :=
    reaches_execute_get _
  have ordered :=
    live_total_order (fun _ => Nat.le_refl 0) run (Reaches.refl pairCluster)
      "news"
  exact ⟨ordered.2.1, by decide, by decide⟩

end Cluster

end TurbocableServer.Gateway
