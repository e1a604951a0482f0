import TurbocableServer.Gateway.Drain

/-!
# The drain loop of `run`

On SIGTERM `run` stops accepting connections, signals the shutdown and then
polls the connection count of the registry, until it is zero or a deadline has
passed.  The loop ends whatever the connections do.  The count does not say
that the clients have been told, though: `handle_socket` deregisters before it
waits for its outbound task, so the loop may be left while every frame, the
close frame included, is still to be written.
-/

namespace TurbocableServer.Gateway

open Foundations Protocol Pubsub Connection

/-- `DRAIN_TIMEOUT_SECS`, in milliseconds. -/
def drainTimeout : Nat := 30 * 1000

/-- `DRAIN_POLL_INTERVAL`, in milliseconds. -/
def drainPollInterval : Nat := 100

/-- Where `run` stands. -/
inductive RunPc where
  | serving
  | signalled
  | polling
  | comparing
  | sleeping (wakeAt : Nat)
  | flushing (forced : Bool)
  | complete (forced : Bool)
  deriving DecidableEq, Repr

/-- The process: its node, and `run` with the clock it reads.  `signalledAt` and
`polls` record when the shutdown was signalled and how often the count was
read. -/
structure Server where
  node : Node
  pc : RunPc
  now : Nat
  deadline : Nat
  signalledAt : Nat
  polls : Nat

inductive ServerAction where
  | node (action : NodeAction)
  | elapse (duration : Nat)
  | signal
  | arm
  | poll
  | compare
  | wake
  | flush

namespace Server

def initial (env : Environment) (log : MessageLog) (cursor : Nat) :
    Server where
  node := Node.initial env log cursor
  pc := .serving
  now := 0
  deadline := 0
  signalledAt := 0
  polls := 0

/-- `run` has returned, and the tasks of the process are gone. -/
def returned (server : Server) : Bool :=
  match server.pc with
  | .complete _ => true
  | _ => false

def step (env : Environment) (server : Server) :
    ServerAction → Option Server
  -- Only `run` signals the shutdown.
  | .node .shutdown => none
  -- A connection that was upgraded before the signal may be registered after it.
  | .node action =>
      if server.returned then
        none
      else
        (server.node.step env action).map
          (fun node => { server with node := node })
  | .elapse duration => some { server with now := server.now + duration }
  | .signal =>
      if server.pc = .serving then
        (server.node.step env .shutdown).map (fun node =>
          { server with
            node := node
            pc := .signalled
            signalledAt := server.now })
      else
        none
  | .arm =>
      if server.pc = .signalled then
        some { server with
          pc := .polling
          deadline := server.now + drainTimeout }
      else
        none
  | .poll =>
      if server.pc = .polling then
        some { server with
          pc :=
            if server.node.sys.reg.active = 0 then .flushing false
            else .comparing
          polls := server.polls + 1 }
      else
        none
  | .compare =>
      if server.pc = .comparing then
        some { server with
          pc :=
            if server.deadline ≤ server.now then .flushing true
            else .sleeping (server.now + drainPollInterval) }
      else
        none
  | .wake =>
      match server.pc with
      | .sleeping wakeAt =>
          if wakeAt ≤ server.now then
            some { server with pc := .polling }
          else
            none
      | _ => none
  | .flush =>
      -- A flush that fails is only logged.
      match server.pc with
      | .flushing forced => some { server with pc := .complete forced }
      | _ => none

variable {env : Environment} {server next : Server} {action : ServerAction}
variable {log : MessageLog} {cursor : Nat}

/-! ## Inversion -/

/-- The moves of the process. -/
inductive Moves (env : Environment) (server : Server) :
    ServerAction → Server → Prop
  | node (action : NodeAction) (node : Node) :
      server.returned = false → action ≠ .shutdown →
      server.node.step env action = some node →
      Moves env server (.node action) { server with node := node }
  | elapse (duration : Nat) :
      Moves env server (.elapse duration)
        { server with now := server.now + duration }
  | signal (node : Node) :
      server.pc = .serving → server.node.step env .shutdown = some node →
      Moves env server .signal
        { server with
          node := node
          pc := .signalled
          signalledAt := server.now }
  | arm :
      server.pc = .signalled →
      Moves env server .arm
        { server with
          pc := .polling
          deadline := server.now + drainTimeout }
  | cleared :
      server.pc = .polling → server.node.sys.reg.active = 0 →
      Moves env server .poll
        { server with pc := .flushing false, polls := server.polls + 1 }
  | busy :
      server.pc = .polling → server.node.sys.reg.active ≠ 0 →
      Moves env server .poll
        { server with pc := .comparing, polls := server.polls + 1 }
  | forced :
      server.pc = .comparing → server.deadline ≤ server.now →
      Moves env server .compare { server with pc := .flushing true }
  | sleep :
      server.pc = .comparing → server.now < server.deadline →
      Moves env server .compare
        { server with pc := .sleeping (server.now + drainPollInterval) }
  | wake (wakeAt : Nat) :
      server.pc = .sleeping wakeAt → wakeAt ≤ server.now →
      Moves env server .wake { server with pc := .polling }
  | flush (forced : Bool) :
      server.pc = .flushing forced →
      Moves env server .flush { server with pc := .complete forced }

theorem step_node {action : NodeAction} (notShutdown : action ≠ .shutdown) :
    server.step env (.node action) =
      if server.returned then none
      else (server.node.step env action).map
        (fun node => { server with node := node }) := by
  cases action <;> first | rfl | exact absurd rfl notShutdown

theorem moves_of_step (moved : server.step env action = some next) :
    Moves env server action next := by
  cases action with
  | node action =>
      by_cases isShutdown : action = .shutdown
      · subst isShutdown
        cases moved
      · rw [step_node isShutdown] at moved
        split at moved
        · cases moved
        · rename_i running
          obtain ⟨node, stepped, rfl⟩ := Option.map_eq_some_iff.mp moved
          exact .node action node (Bool.eq_false_iff.mpr running) isShutdown
            stepped
  | elapse duration =>
      obtain rfl := Option.some.inj moved
      exact .elapse duration
  | signal =>
      simp only [step] at moved
      split at moved
      · rename_i here
        obtain ⟨node, stepped, rfl⟩ := Option.map_eq_some_iff.mp moved
        exact .signal node here stepped
      · cases moved
  | arm =>
      simp only [step] at moved
      split at moved
      · rename_i here
        obtain rfl := Option.some.inj moved
        exact .arm here
      · cases moved
  | poll =>
      simp only [step] at moved
      split at moved
      · rename_i here
        obtain rfl := Option.some.inj moved
        by_cases empty : server.node.sys.reg.active = 0
        · rw [if_pos empty]
          exact .cleared here empty
        · rw [if_neg empty]
          exact .busy here empty
      · cases moved
  | compare =>
      simp only [step] at moved
      split at moved
      · rename_i here
        obtain rfl := Option.some.inj moved
        by_cases late : server.deadline ≤ server.now
        · rw [if_pos late]
          exact .forced here late
        · rw [if_neg late]
          exact .sleep here (Nat.lt_of_not_le late)
      · cases moved
  | wake =>
      simp only [step] at moved
      split at moved
      · rename_i wakeAt here
        split at moved
        · rename_i due
          obtain rfl := Option.some.inj moved
          exact .wake wakeAt here due
        · cases moved
      · cases moved
  | flush =>
      simp only [step] at moved
      split at moved
      · rename_i forced here
        obtain rfl := Option.some.inj moved
        exact .flush forced here
      · cases moved

/-- What the process does is a run of its node. -/
theorem node_reaches
    (run : Reaches (step env) (fun _ _ => True) (initial env log cursor)
      server) :
    Reaches (Node.step env) (fun _ _ => True) (Node.initial env log cursor)
      server.node := by
  have kept :
      ∀ source action target,
        True → step env source action = some target →
          Reaches (Node.step env) (fun _ _ => True)
            (Node.initial env log cursor) source.node →
          Reaches (Node.step env) (fun _ _ => True)
            (Node.initial env log cursor) target.node := by
    intro source action target _ moved reached
    cases moves_of_step moved with
    | node action node running notShutdown stepped =>
        exact reached.tail trivial stepped
    | signal node here stepped => exact reached.tail trivial stepped
    | _ => exact reached
  exact run.invariant kept (Reaches.refl _)

/-! ## The loop ends -/

/-- The number of times that the loop can sleep before the deadline. -/
def maxSleeps : Nat := drainTimeout / drainPollInterval

def Armed (server : Server) : Prop :=
  server.signalledAt + drainTimeout ≤ server.deadline

/-- What is known once the loop has been left. -/
def Left (server : Server) (forced : Bool) : Prop :=
  server.Armed ∧ server.polls ≤ maxSleeps + 1 ∧
    (forced = true → server.deadline ≤ server.now)

/-- Every pass of the loop but the last takes a poll interval. -/
def Paced (server : Server) : Prop :=
  match server.pc with
  | .serving => server.polls = 0
  | .signalled => server.polls = 0 ∧ server.signalledAt ≤ server.now
  | .polling =>
      server.Armed ∧ server.polls ≤ maxSleeps ∧
        server.deadline + drainPollInterval * server.polls ≤
          server.now + drainTimeout
  | .comparing =>
      server.Armed ∧ 1 ≤ server.polls ∧ server.polls ≤ maxSleeps + 1 ∧
        server.deadline + drainPollInterval * server.polls ≤
          server.now + drainTimeout + drainPollInterval
  | .sleeping wakeAt =>
      server.Armed ∧ server.polls ≤ maxSleeps ∧
        server.deadline + drainPollInterval * server.polls ≤
          wakeAt + drainTimeout ∧
        wakeAt ≤ server.now + drainPollInterval
  | .flushing forced => server.Left forced
  | .complete forced => server.Left forced

theorem Left.elapse {forced : Bool} (left : server.Left forced)
    (duration : Nat) :
    { server with now := server.now + duration : Server }.Left forced :=
  ⟨left.1, left.2.1, fun isForced =>
    Nat.le_add_right_of_le (left.2.2 isForced)⟩

theorem Paced.elapse (paced : server.Paced) (duration : Nat) :
    { server with now := server.now + duration : Server }.Paced := by
  unfold Paced at paced ⊢
  cases here : server.pc with
  | flushing forced | complete forced =>
      simp only [here] at paced ⊢
      exact paced.elapse duration
  | _ =>
      simp only [here, Armed] at paced ⊢
      omega

theorem Paced.step (paced : server.Paced)
    (moves : Moves env server action next) : next.Paced := by
  cases moves with
  | node action node running notShutdown stepped => exact paced
  | elapse duration => exact paced.elapse duration
  | signal node here stepped =>
      simp only [Paced, here] at paced
      exact ⟨paced, Nat.le_refl _⟩
  | arm here =>
      simp only [Paced, here] at paced
      simp only [Paced, Armed, paced.1]
      omega
  | cleared here empty =>
      simp only [Paced, here] at paced
      exact ⟨paced.1, Nat.succ_le_succ paced.2.1, fun isForced => by
        cases isForced⟩
  | busy here present =>
      simp only [Paced, Armed, here] at paced
      simp only [Paced, Armed, Nat.mul_add]
      omega
  | forced here late =>
      simp only [Paced, here] at paced
      exact ⟨paced.1, paced.2.2.1, fun _ => late⟩
  | sleep here early =>
      -- The clock has not reached the deadline, so a pass is left.
      simp only [Paced, Armed, here] at paced
      simp only [Paced, Armed, maxSleeps, drainTimeout, drainPollInterval] at *
      omega
  | wake wakeAt here due =>
      simp only [Paced, Armed, here] at paced
      simp only [Paced, Armed]
      omega
  | flush forced here =>
      simp only [Paced, here] at paced
      exact paced

theorem paced_of_reaches
    (run : Reaches (step env) (fun _ _ => True) (initial env log cursor)
      server) : server.Paced :=
  run.invariant
    (fun _ _ _ _ moved paced => paced.step (moves_of_step moved)) rfl

theorem Paced.polls_le (paced : server.Paced) :
    server.polls ≤ maxSleeps + 1 := by
  unfold Paced at paced
  cases here : server.pc with
  | flushing forced | complete forced =>
      simp only [here] at paced
      exact paced.2.1
  | _ =>
      simp only [here] at paced
      omega

/-- The steps that `run` makes itself. -/
def Own (_ : Server) : ServerAction → Prop
  | .arm | .poll | .compare | .wake | .flush => True
  | _ => False

/-- The steps of the tasks of the node, and the clock. -/
def Others (_ : Server) : ServerAction → Prop
  | .node _ | .elapse _ => True
  | _ => False

/-- A bound on the steps that `run` still makes. -/
def stepsLeft (server : Server) : Nat :=
  match server.pc with
  | .serving => 0
  | .signalled => 3 * (maxSleeps + 1 - server.polls) + 3
  | .polling => 3 * (maxSleeps + 1 - server.polls) + 2
  | .comparing => 3 * (maxSleeps + 1 - server.polls) + 4
  | .sleeping _ => 3 * (maxSleeps + 1 - server.polls) + 3
  | .flushing _ => 1
  | .complete _ => 0

theorem stepsLeft_lt_of_own (paced : server.Paced)
    (own : Own server action) (moves : Moves env server action next) :
    next.stepsLeft < server.stepsLeft := by
  cases moves with
  | node | elapse | signal => cases own
  | arm here | cleared here empty =>
      simp only [stepsLeft, here]
      omega
  | busy here present =>
      simp only [Paced, here] at paced
      simp only [stepsLeft, here]
      omega
  | forced here late | sleep here early | wake wakeAt here due
  | flush forced here =>
      simp only [stepsLeft, here]
      omega

theorem stepsLeft_of_others (others : Others server action)
    (moves : Moves env server action next) :
    next.stepsLeft = server.stepsLeft := by
  cases moves with
  | node => rfl
  | elapse => rfl
  | _ => cases others

theorem acc_own (paced : server.Paced) :
    Acc (FollowsAmid (step env) Own Others) server := by
  have keeps :
      ∀ source action target,
        Others source action → step env source action = some target →
          source.Paced →
            target.Paced ∧ target.stepsLeft ≤ source.stepsLeft := by
    intro source action target others moved isPaced
    have moves := moves_of_step moved
    exact ⟨isPaced.step moves, (stepsLeft_of_others others moves).le⟩
  have lowers :
      ∀ source action target,
        Own source action → step env source action = some target →
          source.Paced →
            target.Paced ∧ target.stepsLeft < source.stepsLeft := by
    intro source action target own moved isPaced
    have moves := moves_of_step moved
    exact ⟨isPaced.step moves, stepsLeft_lt_of_own isPaced own moves⟩
  exact acc_followsAmid_of_rank keeps lowers paced

/-- `run` never waits for a connection: it goes on, or its sleep has less than a
poll interval left. -/
theorem exists_own (paced : server.Paced) (begun : server.pc ≠ .serving)
    (notReturned : server.returned = false) :
    (∃ next, Follows (step env) Own next server) ∨
      ∃ wakeAt, server.pc = .sleeping wakeAt ∧ server.now < wakeAt ∧
        wakeAt ≤ server.now + drainPollInterval := by
  cases here : server.pc with
  | serving => exact absurd here begun
  | signalled => exact Or.inl ⟨_, .arm, trivial, by rw [step, if_pos here]⟩
  | polling => exact Or.inl ⟨_, .poll, trivial, by rw [step, if_pos here]⟩
  | comparing => exact Or.inl ⟨_, .compare, trivial, by rw [step, if_pos here]⟩
  | sleeping wakeAt =>
      by_cases due : wakeAt ≤ server.now
      · exact Or.inl ⟨{ server with pc := .polling }, .wake, trivial, by
          simp only [step, here, if_pos due]⟩
      · simp only [Paced, here] at paced
        exact Or.inr ⟨wakeAt, rfl, by omega, paced.2.2.2⟩
  | flushing forced =>
      exact Or.inl ⟨{ server with pc := .complete forced }, .flush, trivial, by
        simp only [step, here]⟩
  | complete forced =>
      rw [returned, here] at notReturned
      cases notReturned

/-! ## How the loop is left -/

/-- With a count of zero, the registry holds only connections that are still
being registered. -/
theorem registering_of_uncounted {sys : RegSystem} (sound : sys.Sound)
    (empty : sys.reg.active = 0) {conn : ConnId}
    (registered : conn ∈ sys.reg.connections) :
    sys.task conn = .insertingStreams ∨ sys.task conn = .countingUp := by
  obtain ⟨members, active, member_iff⟩ := sound.counted
  have noMember : members = ∅ := by
    rw [empty] at active
    exact Finset.card_eq_zero.mp (by omega)
  by_contra settled
  push Not at settled
  have counted : (sys.view conn).Counted :=
    Or.inl ⟨registered, settled.1, settled.2⟩
  have member := (member_iff conn).mpr counted
  rw [noMember] at member
  exact Finset.notMem_empty conn member

/-- The drain loop ends whatever the connections do: only finitely many steps
of `run` follow, and it never waits for anything but its sleep.  The count is
read at most 301 times.  The loop is cut short no earlier than 30 seconds after
the signal; if it is left because of the count, the registry holds no connection
but those that are still being registered. -/
theorem drain_loop_ends
    (run : Reaches (step env) (fun _ _ => True) (initial env log cursor)
      server)
    (begun : server.pc ≠ .serving) :
    Acc (FollowsAmid (step env) Own Others) server ∧
      (server.returned = true ∨
        (∃ next, Follows (step env) Own next server) ∨
        ∃ wakeAt, server.pc = .sleeping wakeAt ∧ server.now < wakeAt ∧
          wakeAt ≤ server.now + 100) ∧
      server.polls ≤ 301 ∧
      (server.pc = .flushing true ∨ server.pc = .complete true →
        server.signalledAt + 30000 ≤ server.now) ∧
      ∀ next, server.step env .poll = some next →
        next.pc = .flushing false →
          ∀ conn, conn ∈ server.node.sys.reg.connections →
            server.node.sys.task conn = .insertingStreams ∨
              server.node.sys.task conn = .countingUp := by
  have paced := paced_of_reaches run
  refine ⟨acc_own paced, ?_, paced.polls_le, ?_, ?_⟩
  · cases isReturned : server.returned with
    | true => exact Or.inl rfl
    | false => exact Or.inr (exists_own paced begun isReturned)
  · have leftForced :
        server.Left true → server.signalledAt + 30000 ≤ server.now :=
      fun left => left.1.trans (left.2.2 rfl)
    rintro (here | here)
    · simp only [Paced, here] at paced
      exact leftForced paced
    · simp only [Paced, here] at paced
      exact leftForced paced
  · intro next moved isClean conn registered
    have sound := (Node.traced_of_reaches (node_reaches run)).sound
    cases moves_of_step moved with
    | cleared here empty =>
        exact registering_of_uncounted sound empty registered
    | busy here present => cases isClean

/-- No client but `1` is accepted. -/
def onlyFirst : ServerAction → Bool
  | .node (.accept conn _) => conn == 1
  | _ => true

def OnlyFirst (_ : Server) (action : ServerAction) : Prop :=
  onlyFirst action = true

instance (server : Server) (action : ServerAction) :
    Decidable (OnlyFirst server action) :=
  inferInstanceAs (Decidable (onlyFirst action = true))

/-- The client has subscribed, and a live frame waits in its queue when the
signal comes. -/
def newsDrain : Server :=
  (execute (step Node.newsEnv) OnlyFirst (initial Node.newsEnv .empty 0)
    (List.map .node
        (Node.newsConnect ++ Node.newsSubscribe ++ [Node.newsPublish] ++
          Node.newsFanOut ++ [.effect 1 true]) ++
      [.elapse 500, .signal, .arm])).get (by decide)

theorem newsDrain_reached :
    Reaches (step Node.newsEnv) OnlyFirst (initial Node.newsEnv .empty 0)
      newsDrain :=
  reaches_execute_get _

theorem drain_loop_ends_newsDrain :
    newsDrain.pc ≠ .serving ∧
      Acc (FollowsAmid (step Node.newsEnv) Own Others) newsDrain ∧
      (newsDrain.returned = true ∨
        (∃ next, Follows (step Node.newsEnv) Own next newsDrain) ∨
        ∃ wakeAt, newsDrain.pc = .sleeping wakeAt ∧ newsDrain.now < wakeAt ∧
          wakeAt ≤ newsDrain.now + 100) ∧
      newsDrain.polls ≤ 301 ∧
      (newsDrain.pc = .flushing true ∨ newsDrain.pc = .complete true →
        newsDrain.signalledAt + 30000 ≤ newsDrain.now) ∧
      ∀ next, newsDrain.step Node.newsEnv .poll = some next →
        next.pc = .flushing false →
          ∀ conn, conn ∈ newsDrain.node.sys.reg.connections →
            newsDrain.node.sys.task conn = .insertingStreams ∨
              newsDrain.node.sys.task conn = .countingUp := by
  have begun : newsDrain.pc ≠ .serving := by decide
  have run :
      Reaches (step Node.newsEnv) (fun _ _ => True)
        (initial Node.newsEnv .empty 0) newsDrain :=
    newsDrain_reached.weaken (fun _ _ _ => trivial)
  exact ⟨begun, drain_loop_ends run begun⟩

/-! ## A clean exit before the writes -/

/-- Every connection task waits in its `select!` or has left it. -/
def Waiting (node : Node) : Prop :=
  ∀ conn, (node.sessions conn).phase = .serving →
    (node.sessions conn).todo = []

/-- The steps of the connection tasks on their way out. -/
def Leaving (_ : Node) : NodeAction → Prop
  | .advance _ | .hangup _ | .effect _ true => True
  | _ => False

/-- What holds on the way out: no fan-out has begun, no connection task has
taken up anything new, and no socket has been written to. -/
structure Departing (base node : Node) : Prop where
  idle : node.sys.fan = .idle
  waiting : Waiting node
  sockets :
    ∀ conn,
      (node.sessions conn).out.socket = (base.sessions conn).out.socket

theorem draining_of_leaving {node : Node} {action : NodeAction}
    (leaving : Leaving node action) : Node.Draining node action := by
  cases action <;> trivial

section

variable {node after base : Node} {label : NodeAction} {conn : ConnId}

theorem fan_of_leaving (leaving : Leaving node label)
    (steps : Node.Steps env node label after) :
    after.sys.fan = node.sys.fan := by
  have ofActor :
      ∀ {call : RegAction} {actor : ConnId} {sys : RegSystem},
        node.sys.step call = some sys → call.actor = some actor →
          sys.fan = node.sys.fan :=
    fun accessed isActor =>
      (RegSystem.steps_of_step accessed).fan_of_actor isActor
  cases steps with
  | advance conn sys accessed kept => exact ofActor accessed rfl
  | advanceForget conn sys session accessed present removed stepped =>
      exact ofActor accessed rfl
  | call conn succeeds effect rest call sys session todo isCall ready accessed
      stepped =>
      have isActor : call.actor = some conn := by
        rcases Node.registryCall_cases isCall with
          ⟨stream, -, rfl⟩ | ⟨stream, -, rfl⟩ | ⟨-, rfl⟩ <;> rfl
      exact ofActor accessed isActor
  | onSession | published => rfl
  | _ => cases leaving

/-- On the way out a session hangs up, goes on with its plan or loses its
registry entry. -/
theorem move_of_leaving {move : SessionAction} (leaving : Leaving node label)
    (isMove : Node.SessionMove env node conn label move) :
    move = .hangup ∨ move = .effect ∨ move = .forget := by
  cases isMove with
  | onSession _ _ isLocal =>
      cases isLocal with
      | hangup => exact Or.inl rfl
      | effect => exact Or.inr (Or.inl rfl)
      | _ => cases leaving
  | call | published => exact Or.inr (Or.inl rfl)
  | forgetOwn => exact Or.inr (Or.inr rfl)
  | _ => cases leaving

theorem session_of_leaving {session later : Session} {move : SessionAction}
    (isMove : move = .hangup ∨ move = .effect ∨ move = .forget)
    (steps : Session.Steps env session move later)
    (waiting : session.phase = .serving → session.todo = []) :
    later.out.socket = session.out.socket ∧
      (later.phase = .serving → later.todo = []) := by
  refine ⟨?_, ?_⟩
  · rcases steps.socket_cases with ⟨ok, shutdown, rfl, -⟩ | ⟨same, -⟩
    · simp at isMove
    · exact same
  · rcases isMove with rfl | rfl | rfl
    · cases steps
      intro serving
      cases serving
    · -- A plan is left only to a task that has ended its loop.
      have noPlan :
          ∀ {effect : Effect} {rest : List Effect},
            session.todo = effect :: rest → session.phase ≠ .serving := by
        intro effect rest todo serving
        cases todo.symm.trans (waiting serving)
      cases steps with
      | pingFailed timestamp rest live todo failed | dropSenders rest todo =>
          intro serving
          cases serving
      | sendLive frame rest live accepted todo sent
      | sendPing timestamp rest live todo sent
      | spawnReplay identifier lastSeq rest todo | spawnOutbound rest todo
      | external effect rest todo isExternal =>
          exact fun serving => absurd serving (noPlan todo)
    · cases steps
      exact waiting

theorem Departing.step (departing : Departing base node)
    (leaving : Leaving node label)
    (moved : node.step env label = some after) : Departing base after := by
  have steps := Node.steps_of_step moved
  have kept :
      ∀ conn,
        (after.sessions conn).out.socket = (node.sessions conn).out.socket ∧
          ((after.sessions conn).phase = .serving →
            (after.sessions conn).todo = []) := by
    intro conn
    rcases steps.session_cases conn with same | ⟨move, isMove, stepped⟩
    · rw [same]
      exact ⟨rfl, departing.waiting conn⟩
    · exact session_of_leaving (move_of_leaving leaving isMove)
        (Session.steps_of_step stepped) (departing.waiting conn)
  refine ⟨?_, fun conn => (kept conn).2, fun conn => ?_⟩
  · rw [fan_of_leaving leaving steps]
    exact departing.idle
  · rw [(kept conn).1]
    exact departing.sockets conn

theorem sentFrame_of_isPresence {effect : Effect}
    (isPresence : effect.isPresence = true) : Node.sentFrame effect = none := by
  cases effect <;> first | rfl | cases isPresence

/-- A task that only leaves sends nothing. -/
theorem sendsPass_of_waiting
    (run : Reaches (Node.step env) (fun _ _ => True)
      (Node.initial env log cursor) node)
    (waiting : Waiting node) (conn : ConnId) :
    Node.SendsPass (node.sessions conn) := by
  have ofServing :
      (node.sessions conn).phase = .serving →
        Node.SendsPass (node.sessions conn) := by
    intro serving effect rest todo
    cases todo.symm.trans (waiting conn serving)
  intro effect rest todo frame isSent
  cases Node.stage_of_reaches run conn with
  | unborn _ noPlan _ | closed _ _ noPlan => cases noPlan.symm.trans todo
  | greeting serving _ _ => exact ofServing serving effect rest todo frame isSent
  | launching serving _ _ _ =>
      exact ofServing serving effect rest todo frame isSent
  | serving serving _ _ => exact ofServing serving effect rest todo frame isSent
  | returned _ _ plan =>
      cases plan.symm.trans todo
      cases isSent
  | leaving cleanup _ _ presence plan =>
      have isPlan := plan.symm.trans todo
      cases cleanup with
      | nil =>
          cases isPlan
          cases isSent
      | cons first cleanup =>
          obtain ⟨rfl, -⟩ := List.cons.inj isPlan
          have noFrame :=
            sentFrame_of_isPresence (presence first List.mem_cons_self)
          cases noFrame.symm.trans isSent

/-- The connection tasks can all leave before any outbound task writes. -/
theorem exists_departed
    (run : Reaches (Node.step env) (fun _ _ => True)
      (Node.initial env log cursor) node)
    (signalled : node.shutdown = true) (idle : node.sys.fan = .idle)
    (waiting : Waiting node) :
    ∃ later, Reaches (Node.step env) Leaving node later ∧
      later.sys.reg.active = 0 ∧
      ∀ conn,
        (later.sessions conn).out.socket =
          (node.sessions conn).out.socket := by
  have ends : Acc (Follows (Node.step env) Leaving) node := by
    refine Subrelation.accessible ?_ (Node.acc_draining run signalled)
    rintro target source ⟨action, leaving, moved⟩
    exact ⟨action, draining_of_leaving leaving, moved⟩
  obtain ⟨later, departure, final⟩ := exists_final_of_acc ends
  have departing : Departing node later :=
    departure.invariant
      (fun _ _ _ leaving moved departing => departing.step leaving moved)
      ⟨idle, waiting, fun _ => rfl⟩
  have stuck :
      ∀ action, Leaving later action →
        ¬ ∃ next, later.step env action = some next := by
    rintro action leaving ⟨next, moved⟩
    cases (final action leaving).symm.trans moved
  have settled : later.Settled env :=
    ⟨departing.idle, fun conn => stuck (.advance conn) trivial,
      fun conn => stuck (.effect conn true) trivial,
      fun conn => stuck (.hangup conn) trivial⟩
  have reached := run.extend departure
  have uncounted :=
    settled.uncounted reached (sendsPass_of_waiting reached departing.waiting)
  exact ⟨later, departure, uncounted.2, departing.sockets⟩

end

/-- Steps in which no outbound task moves and no time passes. -/
def Unwritten (_ : Server) : ServerAction → Prop
  | .node (.outbound _ _) | .elapse _ => False
  | _ => True

theorem reaches_of_leaving {node later : Node}
    (departure : Reaches (Node.step env) Leaving node later)
    (isNode : server.node = node) (running : server.returned = false) :
    Reaches (step env) Unwritten server { server with node := later } := by
  induction departure with
  | refl =>
      subst isNode
      exact Reaches.refl server
  | @tail middle target _ last ih =>
      obtain ⟨action, leaving, moved⟩ := last
      have notShutdown : action ≠ .shutdown := by
        rintro rfl
        cases leaving
      have guard :
          Unwritten { server with node := middle } (.node action) := by
        cases action <;> trivial
      have stays :
          ({ server with node := middle } : Server).returned = false := running
      apply ih.tail guard
      rw [step_node notShutdown, stays]
      simp [moved]

theorem shutdown_of_begun
    (run : Reaches (step env) (fun _ _ => True) (initial env log cursor)
      server) :
    server.pc ≠ .serving → server.node.shutdown = true := by
  have kept :
      ∀ source action target,
        True → step env source action = some target →
          (source.pc ≠ .serving → source.node.shutdown = true) →
            target.pc ≠ .serving → target.node.shutdown = true := by
    intro source action target _ moved signalled
    cases moves_of_step moved with
    | node action node running notShutdown stepped =>
        exact fun begun => Node.shutdown_of_steps (Node.steps_of_step stepped)
          (signalled begun)
    | signal node here stepped =>
        obtain rfl := Option.some.inj stepped
        exact fun _ => rfl
    | elapse duration => exact signalled
    | arm here | cleared here empty | busy here present | forced here late
    | sleep here early | wake wakeAt here due | flush forced here =>
        exact fun _ => signalled (by simp [here])
  exact run.invariant kept (fun begun => absurd rfl begun)

/-- A clean exit does not mean that the clients have been told.  Whenever the
count is about to be read, with every connection task in its `select!` and no
fan-out under way, `run` may find no connection left and return at once, with
nothing written to any socket since. -/
theorem clean_exit_before_writes
    (run : Reaches (step env) (fun _ _ => True) (initial env log cursor)
      server)
    (polling : server.pc = .polling)
    (idle : server.node.sys.fan = .idle) (waiting : Waiting server.node) :
    ∃ later, Reaches (step env) Unwritten server later ∧
      later.pc = .complete false ∧ later.now = server.now ∧
      ∀ conn,
        (later.node.sessions conn).out.socket =
          (server.node.sessions conn).out.socket := by
  have signalled : server.node.shutdown = true :=
    shutdown_of_begun run (by simp [polling])
  obtain ⟨node, departure, empty, sockets⟩ :=
    exists_departed (node_reaches run) signalled idle waiting
  have running : server.returned = false := by
    rw [returned, polling]
  have drained := reaches_of_leaving departure rfl running
  have polled :
      step env { server with node := node } .poll =
        some { server with
          node := node, pc := .flushing false, polls := server.polls + 1 } := by
    simp only [step, if_pos polling, if_pos empty]
  have flushed :
      step env { server with
          node := node, pc := .flushing false, polls := server.polls + 1 }
          .flush =
        some { server with
          node := node, pc := .complete false, polls := server.polls + 1 } :=
    rfl
  have exits :
      Reaches (step env) Unwritten server
        { server with
          node := node, pc := .complete false, polls := server.polls + 1 } := by
    apply Reaches.tail _ (show Unwritten _ .flush from trivial) flushed
    exact Reaches.tail drained (show Unwritten _ .poll from trivial) polled
  exact ⟨_, exits, rfl, rfl, sockets⟩

theorem not_serving_of_onlyFirst
    (run : Reaches (step env) OnlyFirst (initial env log cursor) server)
    {conn : ConnId} (different : conn ≠ 1) :
    (server.node.sessions conn).phase ≠ .serving := by
  have kept :
      ∀ source action target,
        OnlyFirst source action → step env source action = some target →
          (source.node.sessions conn).phase ≠ .serving →
            (target.node.sessions conn).phase ≠ .serving := by
    intro source action target isFirst moved notServing
    cases moves_of_step moved with
    | node action node running notShutdown stepped =>
        rcases (Node.steps_of_step stepped).session_cases conn with
          same | ⟨move, isMove, sessionMoved⟩
        · show (node.sessions conn).phase ≠ .serving
          rw [same]
          exact notServing
        · intro serving
          rcases (Session.steps_of_step sessionMoved).serving serving with
            already | ⟨ctx, rfl⟩
          · exact notServing already
          · cases isMove with
            | accept => exact different (beq_iff_eq.mp isFirst)
            | onSession _ _ isLocal => cases isLocal
    | signal node here stepped =>
        obtain rfl := Option.some.inj stepped
        exact notServing
    | _ => exact notServing
  exact run.invariant kept (by simp [initial, Node.initial, Session.unborn])

theorem clean_exit_before_writes_newsDrain :
    (newsDrain.node.sessions 1).out.pc = .select ∧
      (newsDrain.node.sessions 1).out.live.buf ≠ [] ∧
      ∃ later, Reaches (step Node.newsEnv) Unwritten newsDrain later ∧
        later.pc = .complete false ∧ later.now = newsDrain.now ∧
        ∀ conn,
          (later.node.sessions conn).out.socket =
            (newsDrain.node.sessions conn).out.socket := by
  have run :
      Reaches (step Node.newsEnv) (fun _ _ => True)
        (initial Node.newsEnv .empty 0) newsDrain :=
    newsDrain_reached.weaken (fun _ _ _ => trivial)
  have waiting : Waiting newsDrain.node := by
    intro conn serving
    by_cases first : conn = 1
    · subst first
      decide
    · exact absurd serving (not_serving_of_onlyFirst newsDrain_reached first)
  exact ⟨by decide, by decide,
    clean_exit_before_writes run (by decide) (by decide) waiting⟩

end Server

end TurbocableServer.Gateway
