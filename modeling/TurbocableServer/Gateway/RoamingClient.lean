import TurbocableServer.Gateway.Cluster
import TurbocableServer.Gateway.ResumingClient

/-!
# A client that resumes on any node

A client follows one stream over successive connections, each to some node of a
cluster, while nodes crash and come back.  The nodes share the log only, so a
node knows nothing of the client but the position it sends.  If on each of its
connections no live frame of the stream is written before the confirmation, it
misses nothing.
-/

namespace TurbocableServer.Gateway

open Foundations Protocol Pubsub Connection

/-- A cluster and a client that has turned to the node `home`. -/
structure Roaming (ι : Type) where
  cluster : Cluster ι
  home : ι
  client : ResumingClient

/-- A move of the node of the client or of the client on its connection there,
a move of another node, a crash, or a change of the node. -/
inductive RoamingAction (ι : Type) where
  | here (action : ResumptionAction)
  | elsewhere (i : ι) (action : NodeAction)
  | restart (i : ι) (cursor : Nat)
  | roam (i : ι)

/-- The client without its connection. -/
def ResumingClient.hangUp (client : ResumingClient) : ResumingClient :=
  { client with link := none }

namespace Roaming

variable {ι : Type}

/-- The client has received everything up to `position`. -/
def initial (env : Environment) (log : MessageLog) (cursors : ι → Nat)
    (home : ι) (position : Nat) : Roaming ι where
  cluster := .initial env log cursors
  home := home
  client := ⟨none, [], position⟩

/-- The client and its node. -/
def view (state : Roaming ι) : Resumption :=
  ⟨state.cluster.nodes state.home, state.client⟩

variable [DecidableEq ι]

def step (env : Environment) (stream : String) (state : Roaming ι) :
    RoamingAction ι → Option (Roaming ι)
  | .here action =>
      (state.view.step env stream action).map (fun next =>
        { state with
          cluster := state.cluster.replace state.home next.node
          client := next.client })
  | .elsewhere i action =>
      if i = state.home then
        none
      else
        (state.cluster.step env (i, .node action)).map
          (fun cluster => { state with cluster := cluster })
  | .restart i cursor =>
      (state.cluster.step env (i, .restart cursor)).map (fun cluster =>
        { state with
          cluster := cluster
          client :=
            if i = state.home then state.client.hangUp else state.client })
  | .roam i => some { state with home := i, client := state.client.hangUp }

/-- The conditions on the connection the client uses: the fan-out loop of its
node is handed every message once and in order, drops nothing, the replay of the
client is answered without error from everything that was stored, and the
confirmation is written before live frames of the stream. -/
def Steady (env : Environment) (stream : String) (state : Roaming ι) :
    RoamingAction ι → Prop
  | .here action =>
      Resumption.Reliable stream state.view action ∧
        Resumption.ConfirmsFirst env stream state.view action
  | _ => True

instance (env : Environment) (stream : String) (state : Roaming ι) :
    ∀ action, Decidable (Steady env stream state action)
  | .here action =>
      inferInstanceAs (Decidable (
        Resumption.Reliable stream state.view action ∧
          Resumption.ConfirmsFirst env stream state.view action))
  | .elsewhere _ _ => inferInstanceAs (Decidable True)
  | .restart _ _ => inferInstanceAs (Decidable True)
  | .roam _ => inferInstanceAs (Decidable True)

/-! ## Changes of the node -/

section

variable {env : Environment} {stream : String} {position : Nat}
variable {state next : Roaming ι}

/-- What a client has received does not depend on the node, only on the log. -/
theorem sound_hangUp {node other : Node} {client : ResumingClient}
    (sound : Resumption.Sound env stream position ⟨node, client⟩)
    (sameLog : other.log = node.log) :
    Resumption.Sound env stream position ⟨other, client.hangUp⟩ where
  complete := by
    rw [Resumption.Complete, sameLog]
    exact sound.complete
  reached := by
    rw [sameLog]
    exact sound.reached
  linked := by
    intro link isLinked
    cases isLinked

/-- A step of the client and its node is at most one step of the node. -/
theorem node_step {before after : Resumption} {action : ResumptionAction}
    (moved : before.step env stream action = some after) :
    after.node = before.node ∨
      ∃ label, before.node.step env label = some after.node := by
  cases Resumption.steps_of_step moved with
  | node label node notOwn stepped => exact Or.inr ⟨label, stepped⟩
  | connect conn ctx node stepped => exact Or.inr ⟨_, stepped⟩
  | hello capabilities conn read node isLinked stepped =>
      exact Or.inr ⟨_, stepped⟩
  | subscribe conn read node isLinked stepped => exact Or.inr ⟨_, stepped⟩
  | receive link frame isLinked present => exact Or.inl rfl

/-- What others do to the stream does not disturb the client. -/
theorem sound_outside {resumption : Resumption}
    (sound : resumption.Sound env stream position)
    (available : env.natsAvailable = true)
    (runs : Cluster.Runs env (fun _ _ => True) resumption.node)
    {label : NodeAction} {node : Node} (isOutside : Cluster.Outside label)
    (moved : resumption.node.step env label = some node) :
    Resumption.Sound env stream position ⟨node, resumption.client⟩ := by
  obtain ⟨log, cursor, within, run⟩ := runs
  have silent :
      Resumption.ownFrame resumption.client label = false ∧
        Resumption.Reliable stream resumption (.node label) ∧
        ∀ conn, (node.sessions conn).out.socket =
          (resumption.node.sessions conn).out.socket := by
    cases label with
    | publish subject payload =>
        obtain rfl := Option.some.inj moved
        exact ⟨rfl, ⟨rfl, rfl, fun _ _ => rfl⟩, fun _ => rfl⟩
    | expire =>
        cases Node.steps_of_step moved with
        | expire present =>
            exact ⟨rfl, ⟨rfl, rfl, fun _ _ => rfl⟩, fun _ => rfl⟩
        | onSession _ _ _ _ isLocal _ => cases isLocal
    | _ => cases isOutside
  obtain ⟨notOwn, reliable, sameSocket⟩ := silent
  have stepped :
      resumption.step env stream (.node label) =
        some ⟨node, resumption.client⟩ := by
    simp only [Resumption.step, notOwn, moved]
    rfl
  have ordered :
      Resumption.ConfirmsFirst env stream resumption (.node label) := by
    intro link isLinked
    exact Node.liveAfterConfirm_of_same moved (sameSocket link.conn)
  exact sound.step available within run reliable ordered stepped

/-- The client misses nothing so far, and every node has come this far since
it was started. -/
structure Sound (env : Environment) (stream : String) (position : Nat)
    (state : Roaming ι) : Prop where
  runs : ∀ i, Cluster.Runs env (fun _ _ => True) (state.cluster.nodes i)
  atHome : state.view.Sound env stream position

theorem Sound.here (sound : state.Sound env stream position)
    (available : env.natsAvailable = true) {action : ResumptionAction}
    {after : Resumption}
    (reliable : Resumption.Reliable stream state.view action)
    (ordered : Resumption.ConfirmsFirst env stream state.view action)
    (moved : state.view.step env stream action = some after) :
    Sound env stream position
      { state with
        cluster := state.cluster.replace state.home after.node
        client := after.client } := by
  obtain ⟨log, cursor, within, run⟩ := sound.runs state.home
  refine ⟨?_, ?_⟩
  · intro i
    rcases node_step moved with same | ⟨label, stepped⟩
    · rw [same, view, Cluster.replace_same]
      exact sound.runs i
    · exact Cluster.runs_replace (fun _ _ _ => trivial) sound.runs trivial
        stepped i
  · rw [view, Cluster.replace_nodes_self]
    exact sound.atHome.step available within run reliable ordered moved

theorem Sound.elsewhere (sound : state.Sound env stream position)
    (available : env.natsAvailable = true) {i : ι} {label : NodeAction}
    {node : Node} (isOther : i ≠ state.home)
    (moved : (state.cluster.nodes i).step env label = some node) :
    Sound env stream position
      { state with cluster := state.cluster.replace i node } := by
  refine ⟨Cluster.runs_replace (fun _ _ _ => trivial) sound.runs trivial
    moved, ?_⟩
  rcases Cluster.replace_step isOther.symm moved with
    same | ⟨label, isOutside, stepped⟩
  · rw [view, same]
    exact sound.atHome
  · exact sound_outside sound.atHome available (sound.runs state.home)
      isOutside stepped

theorem Sound.restart (sound : state.Sound env stream position)
    {i : ι} {cursor : Nat} {cluster : Cluster ι}
    (moved : state.cluster.step env (i, .restart cursor) = some cluster) :
    Sound env stream position
      { state with
        cluster := cluster
        client :=
          if i = state.home then state.client.hangUp else state.client } := by
  refine ⟨Cluster.runs_restart (fun _ _ _ => trivial) sound.runs moved, ?_⟩
  obtain ⟨-, sameLog, -, others⟩ := Cluster.restart_eq_some moved
  by_cases isHome : i = state.home
  · rw [view, if_pos isHome]
    apply sound_hangUp sound.atHome
    rw [cluster.shared, sameLog, state.cluster.shared]
  · rw [view, if_neg isHome, others _ (Ne.symm isHome)]
    exact sound.atHome

theorem Sound.step (sound : state.Sound env stream position)
    (available : env.natsAvailable = true) {action : RoamingAction ι}
    (steady : Steady env stream state action)
    (moved : state.step env stream action = some next) :
    next.Sound env stream position := by
  cases action with
  | here action =>
      obtain ⟨after, stepped, rfl⟩ := Option.map_eq_some_iff.mp moved
      exact sound.here available steady.1 steady.2 stepped
  | elsewhere i label =>
      simp only [Roaming.step] at moved
      split at moved
      · cases moved
      · rename_i isOther
        obtain ⟨cluster, clusterMoved, rfl⟩ := Option.map_eq_some_iff.mp moved
        obtain ⟨node, stepped, rfl⟩ :=
          Option.map_eq_some_iff.mp clusterMoved
        exact sound.elsewhere available isOther stepped
  | restart i cursor =>
      obtain ⟨cluster, restarted, rfl⟩ := Option.map_eq_some_iff.mp moved
      exact sound.restart restarted
  | roam i =>
      obtain rfl := Option.some.inj moved
      refine ⟨sound.runs, sound_hangUp sound.atHome ?_⟩
      rw [state.cluster.shared, state.cluster.shared]

/-- If no live frame is written before the confirmation on any of its
connections, a client that moves between the nodes of a cluster, and lives
through crashes of them, has at any time received everything up to its highest
sequence. -/
theorem roaming_client_loses_nothing {log : MessageLog} {cursors : ι → Nat}
    {home : ι} (available : env.natsAvailable = true)
    (within : ∀ i, cursors i ≤ log.messages.length)
    (run : Reaches (Roaming.step env stream) (Steady env stream)
      (initial env log cursors home position) state) :
    CompleteTo state.cluster.log stream position state.client.top
      state.client.received := by
  have sound : state.Sound env stream position := by
    refine run.invariant (fun _ _ _ steady moved sound =>
      Sound.step sound available steady moved) ?_
    refine ⟨fun i => Cluster.runs_initial (within i), ?_, ?_, ?_⟩
    · intro message _ _ newer inBound
      exact absurd newer (Nat.not_lt_of_le inBound)
    · exact Or.inl (Nat.le_refl position)
    · intro link isLinked
      cases isLinked
  rw [← state.cluster.shared state.home]
  exact sound.atHome.complete

end

/-- The client receives the first message on one node.  The node crashes, a
second message is published, and the client resumes on the other node. -/
def movedClient : Roaming Bool :=
  (execute (step Node.newsEnv "news") (Steady Node.newsEnv "news")
    (initial Node.newsEnv .empty (fun _ => 0) false 0)
    ([.here (.node Node.newsPublish), .here (.node (.fanNext true))] ++
      (Resumption.newsLink 1 ++ Resumption.newsReplay 1 [1] ++
        Resumption.newsRead 1 4 3).map .here ++
      [.restart false 1, .elsewhere true Node.newsPublish, .roam true] ++
      (Resumption.newsLink 1 ++ Resumption.newsReplay 1 [2] ++
        Resumption.newsRead 1 4 3).map .here)).get
    (by decide)

theorem roaming_client_loses_nothing_moved :
    movedClient.client.received = [1, 2] ∧
      CompleteTo movedClient.cluster.log "news" 0 movedClient.client.top
        movedClient.client.received :=
  ⟨by decide,
    roaming_client_loses_nothing rfl (fun _ => Nat.le_refl 0)
      (reaches_execute_get _)⟩

end Roaming

end TurbocableServer.Gateway
