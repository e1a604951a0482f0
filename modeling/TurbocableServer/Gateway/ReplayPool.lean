import TurbocableServer.Connection.ReplayMoves
import TurbocableServer.Foundations.Semaphore
import TurbocableServer.Gateway.NodeRuns

/-!
# The replay tasks of a node

A replay task of `dispatch_command` first acquires a permit of
`replay_semaphore`, which all connections of the node share, and keeps it until
it returns.  Around the call of `replay_since` it keeps the metrics of replays:
the gauge of those in flight and one counter for each way they end.

A node with its semaphore and these metrics takes the steps of the node.  Only
the permits are not up to the environment any more.
-/

namespace TurbocableServer.Gateway

open Foundations Protocol Pubsub Connection

/-! ## The tasks of a node -/

/-- A replay task: its connection, and its place among the tasks of it. -/
abbrev ReplayKey := ConnId × Nat

/-- The replay task that an action moves. -/
def replayKey : NodeAction → Option ReplayKey
  | .replay conn index _ => some (conn, index)
  | _ => none

namespace Node

variable {env : Environment} {node next : Node} {action : NodeAction}

def taskAt (node : Node) (key : ReplayKey) : Option ReplayTask :=
  (node.sessions key.1).tasks[key.2]?

/-- The task is at a point that passes the test. -/
def TaskAt (node : Node) (test : ReplayPc → Bool) (key : ReplayKey) : Prop :=
  ∃ task, node.taskAt key = some task ∧ test task.pc = true

/-- Other actions start tasks and move none. -/
theorem taskAt_of_not_replay (moved : node.step env action = some next)
    (notReplay : replayKey action = none) (key : ReplayKey) :
    next.taskAt key = node.taskAt key ∨
      node.taskAt key = none ∧
        ∃ identifier since,
          next.taskAt key = some ⟨identifier, since, .queued⟩ := by
  rcases (steps_of_step moved).session_cases key.1 with
    same | ⟨move, isMove, stepped⟩
  · left
    rw [taskAt, same, taskAt]
  · have steps := Session.steps_of_step stepped
    rcases steps.tasks_cases with
      same | ⟨index, stimulus, task, taskMove, pc, rfl, -⟩ |
        ⟨identifier, since, rest, -, -, extended⟩
    · left
      rw [taskAt, same, taskAt]
    · cases isMove with
      | onSession _ _ isLocal =>
          cases isLocal
          cases notReplay
    · rw [taskAt, extended, taskAt]
      by_cases isNew : key.2 = (node.sessions key.1).tasks.length
      · right
        rw [isNew]
        simp
      · left
        rw [List.getElem?_append]
        split
        · rfl
        · rename_i above
          have noTask : (node.sessions key.1).tasks.length ≤ key.2 :=
            Nat.not_lt.mp above
          have noNew :
              [({ identifier := identifier, lastSeq := since, pc := .queued } :
                ReplayTask)].length ≤
                key.2 - (node.sessions key.1).tasks.length := by
            rw [List.length_singleton]
            omega
          rw [List.getElem?_eq_none noNew, List.getElem?_eq_none noTask]

theorem taskAt_iff_of_not_replay {test : ReplayPc → Bool}
    (queuedFails : test .queued = false)
    (moved : node.step env action = some next)
    (notReplay : replayKey action = none) (key : ReplayKey) :
    next.TaskAt test key ↔ node.TaskAt test key := by
  rcases taskAt_of_not_replay moved notReplay key with
    same | ⟨absent, identifier, since, isNew⟩
  · rw [TaskAt, same, TaskAt]
  · constructor
    · rintro ⟨task, present, passes⟩
      rw [isNew] at present
      rw [← Option.some.inj present, queuedFails] at passes
      cases passes
    · rintro ⟨task, present, -⟩
      rw [absent] at present
      cases present

theorem TaskAt.quiet {test : ReplayPc → Bool} {key : ReplayKey}
    (atPoint : node.TaskAt test key)
    (moved : node.step env action = some next)
    (notReplay : replayKey action = none) : next.TaskAt test key := by
  obtain ⟨task, present, passes⟩ := atPoint
  rcases taskAt_of_not_replay moved notReplay key with same | ⟨absent, -⟩
  · exact ⟨task, same.trans present, passes⟩
  · rw [absent] at present
    cases present

/-- A step of a replay task moves this task only. -/
theorem replayMove_of_step {conn : ConnId} {index : Nat} {input : ReplayInput}
    (moved : node.step env (.replay conn index input) = some next) :
    (∃ task pc, node.taskAt (conn, index) = some task ∧
      next.taskAt (conn, index) = some { task with pc := pc } ∧
      ReplayMove task (node.stimulus input)
        (replayResult env task
          (node.sessions conn).out.replay.receiverAlive
          (node.stimulus input)) pc) ∧
      ∀ other, other ≠ (conn, index) →
        next.taskAt other = node.taskAt other := by
  obtain ⟨session, stepped, rfl⟩ := Option.map_eq_some_iff.mp moved
  obtain ⟨task, pc, present, isSet, move⟩ := Session.replayMove_of_step stepped
  have inRange : index < (node.sessions conn).tasks.length :=
    (List.getElem?_eq_some_iff.mp present).1
  constructor
  · refine ⟨task, pc, present, ?_, move⟩
    simp [taskAt, isSet, inRange]
  · rintro ⟨other, place⟩ different
    by_cases sameConn : other = conn
    · subst sameConn
      have apart : index ≠ place := by
        intro same
        exact different (by rw [same])
      simp [taskAt, isSet, apart]
    · rw [taskAt, setSession_sessions_of_ne _ sameConn, taskAt]

end Node

/-! ## The pool -/

/-- The metrics of replays in `metrics.rs`. -/
structure ReplayMetrics where
  inFlight : Int
  success : Nat
  failure : Nat
  truncated : Nat
  windowExceeded : Nat
  abortedPeerGone : Nat
  deriving DecidableEq, Repr

namespace ReplayMetrics

def zero : ReplayMetrics := ⟨0, 0, 0, 0, 0, 0⟩

/-- `replay_in_flight.inc()`. -/
def begin (metrics : ReplayMetrics) : ReplayMetrics :=
  { metrics with inFlight := metrics.inFlight + 1 }

/-- `replay_in_flight.dec()`, and the counter of the result. -/
def record (metrics : ReplayMetrics)
    (result : Except ReplayError ReplayDelivery) : ReplayMetrics :=
  let returned := { metrics with inFlight := metrics.inFlight - 1 }
  match result with
  | .ok delivery =>
      if delivery.peerGone then
        { returned with abortedPeerGone := returned.abortedPeerGone + 1 }
      else
        { returned with success := returned.success + 1 }
  | .error (.windowExceeded _ _ _) =>
      { returned with windowExceeded := returned.windowExceeded + 1 }
  | .error (.truncated _ _ _) =>
      { returned with truncated := returned.truncated + 1 }
  | .error (.jetStream _) => { returned with failure := returned.failure + 1 }

/-- The replays that have come to an end, one way or another. -/
def finished (metrics : ReplayMetrics) : Nat :=
  metrics.success + metrics.failure + metrics.truncated +
    metrics.windowExceeded + metrics.abortedPeerGone

@[simp]
theorem record_inFlight (metrics : ReplayMetrics)
    (result : Except ReplayError ReplayDelivery) :
    (metrics.record result).inFlight = metrics.inFlight - 1 := by
  unfold record
  rcases result with (_ | _ | _) | delivery
  · rfl
  · rfl
  · rfl
  · dsimp only
    split <;> rfl

@[simp]
theorem record_finished (metrics : ReplayMetrics)
    (result : Except ReplayError ReplayDelivery) :
    (metrics.record result).finished = metrics.finished + 1 := by
  unfold record
  rcases result with (_ | _ | _) | delivery
  · simp only [finished]
    omega
  · simp only [finished]
    omega
  · simp only [finished]
    omega
  · dsimp only
    split
    · simp only [finished]
      omega
    · simp only [finished]
      omega

end ReplayMetrics

/-- A node with the semaphore and the metrics of its replays.  `granted` records
the tasks that were given a permit, in this order; nothing reads it. -/
structure ReplayPool where
  node : Node
  semaphore : Semaphore ReplayKey
  metrics : ReplayMetrics
  granted : List ReplayKey

/-- A task asks for a permit when `acquire_owned` is first polled, and runs on
when it is polled after the grant.  Which waiter is served next is up to the
environment. -/
inductive PoolAction where
  | node (action : NodeAction)
  | request (key : ReplayKey)
  | grant (key : ReplayKey)

namespace ReplayPool

/-- `max_replay_concurrency` permits. -/
def initial (env : Environment) (log : MessageLog) (cursor permits : Nat) :
    ReplayPool where
  node := .initial env log cursor
  semaphore := .new permits
  metrics := .zero
  granted := []

/-- What `replay_since` returns when the task of `key` gets `input`. -/
def resultOf (env : Environment) (node : Node) (key : ReplayKey)
    (input : ReplayInput) : Option (Except ReplayError ReplayDelivery) :=
  (node.taskAt key).bind (fun task =>
    replayResult env task (node.sessions key.1).out.replay.receiverAlive
      (node.stimulus input))

def hasEnded (node : Node) (key : ReplayKey) : Bool :=
  (node.taskAt key).any (fun task => task.pc.isEnded)

/-- The pool after a step of a task that has a permit.  The permit is dropped
when the task returns. -/
def afterReplay (env : Environment) (pool : ReplayPool) (key : ReplayKey)
    (input : ReplayInput) (node : Node) : ReplayPool where
  node := node
  semaphore :=
    if hasEnded node key then pool.semaphore.release key else pool.semaphore
  metrics :=
    match resultOf env pool.node key input with
    | some result => pool.metrics.record result
    | none => pool.metrics
  granted := pool.granted

def step (env : Environment) (pool : ReplayPool) :
    PoolAction → Option ReplayPool
  | .node (.replay conn index (.permit granted)) =>
      -- nobody closes the semaphore, so `acquire_owned` does not fail
      if granted = true ∧ (conn, index) ∈ pool.semaphore.holders then
        (pool.node.step env (.replay conn index (.permit true))).map
          (fun node =>
            { pool with node := node, metrics := pool.metrics.begin })
      else
        none
  | .node (.replay conn index input) =>
      (pool.node.step env (.replay conn index input)).map
        (pool.afterReplay env (conn, index) input)
  | .node action =>
      (pool.node.step env action).map
        (fun node => { pool with node := node })
  | .request key =>
      match pool.node.taskAt key with
      | none => none
      | some task =>
          if task.pc = .queued then
            some { pool with semaphore := pool.semaphore.request key }
          else
            none
  | .grant key =>
      (pool.semaphore.grant key).map (fun semaphore =>
        { pool with
          semaphore := semaphore
          granted := pool.granted ++ [key] })

/-! ## Inversion -/

/-- A step of one task. -/
structure Moved (node : Node) (key : ReplayKey) (task : ReplayTask)
    (pc : ReplayPc) (next : Node) : Prop where
  before : node.taskAt key = some task
  after : next.taskAt key = some { task with pc := pc }
  others : ∀ other, other ≠ key → next.taskAt other = node.taskAt other

inductive Steps (env : Environment) (pool : ReplayPool) :
    PoolAction → ReplayPool → Prop
  | quiet (action : NodeAction) (node : Node) :
      replayKey action = none → pool.node.step env action = some node →
      Steps env pool (.node action) { pool with node := node }
  | began (key : ReplayKey) (task : ReplayTask) (node : Node) :
      key ∈ pool.semaphore.holders → task.pc = .queued →
      Moved pool.node key task .checking node →
      pool.node.step env (.replay key.1 key.2 (.permit true)) = some node →
      Steps env pool (.node (.replay key.1 key.2 (.permit true)))
        { pool with node := node, metrics := pool.metrics.begin }
  | going (key : ReplayKey) (input : ReplayInput) (task : ReplayTask)
      (pc : ReplayPc) (node : Node) :
      task.pc.inReplay = true → pc.inReplay = true →
      Moved pool.node key task pc node →
      pool.node.step env (.replay key.1 key.2 input) = some node →
      Steps env pool (.node (.replay key.1 key.2 input))
        { pool with node := node }
  | returned (key : ReplayKey) (input : ReplayInput) (task : ReplayTask)
      (result : Except ReplayError ReplayDelivery) (node : Node) :
      task.pc.inReplay = true →
      Moved pool.node key task (concludePc result) node →
      pool.node.step env (.replay key.1 key.2 input) = some node →
      Steps env pool (.node (.replay key.1 key.2 input))
        { pool with
          node := node
          semaphore :=
            if (concludePc result).isEnded then
              pool.semaphore.release key
            else
              pool.semaphore
          metrics := pool.metrics.record result }
  | answered (key : ReplayKey) (task : ReplayTask) (answer : ReplayAnswer)
      (confirmed : Bool) (node : Node) :
      task.pc = .answering answer →
      Moved pool.node key task (.ended confirmed) node →
      pool.node.step env (.replay key.1 key.2 .answer) = some node →
      Steps env pool (.node (.replay key.1 key.2 .answer))
        { pool with node := node, semaphore := pool.semaphore.release key }
  | requested (key : ReplayKey) (task : ReplayTask) :
      pool.node.taskAt key = some task → task.pc = .queued →
      Steps env pool (.request key)
        { pool with semaphore := pool.semaphore.request key }
  | granted (key : ReplayKey) (semaphore : Semaphore ReplayKey) :
      pool.semaphore.grant key = some semaphore →
      Steps env pool (.grant key)
        { pool with
          semaphore := semaphore
          granted := pool.granted ++ [key] }

section

variable {env : Environment} {pool next : ReplayPool}

theorem step_of_not_replay {action : NodeAction}
    (notReplay : replayKey action = none) :
    pool.step env (.node action) =
      (pool.node.step env action).map
        (fun node => { pool with node := node }) := by
  cases action with
  | replay conn index input => cases notReplay
  | _ => rfl

private theorem steps_of_afterReplay {conn : ConnId} {index : Nat}
    {input : ReplayInput} {node : Node}
    (notPermit : ∀ granted, input ≠ .permit granted)
    (moved : pool.node.step env (.replay conn index input) = some node) :
    Steps env pool (.node (.replay conn index input))
      (pool.afterReplay env (conn, index) input node) := by
  obtain ⟨⟨task, pc, before, after, move⟩, others⟩ :=
    Node.replayMove_of_step moved
  have isMoved : Moved pool.node (conn, index) task pc node :=
    ⟨before, after, others⟩
  have result :
      resultOf env pool.node (conn, index) input =
        replayResult env task
          (pool.node.sessions conn).out.replay.receiverAlive
          (pool.node.stimulus input) := by
    rw [resultOf, before]
    rfl
  have ended : hasEnded node (conn, index) = pc.isEnded := by
    rw [hasEnded, after]
    rfl
  unfold afterReplay
  rw [result, ended]
  generalize replayResult env task _ _ = outcome at move
  generalize isStimulus : pool.node.stimulus input = stimulus at move
  cases move with
  | permit granted queued =>
      cases input with
      | permit given => exact absurd rfl (notPermit given)
      | info failure | opened failure => cases failure <;> cases isStimulus
      | fetched event => cases isStimulus
      | answer => cases isStimulus
  | going _ _ _ inReplay stays =>
      rw [ReplayPc.isEnded_of_inReplay stays]
      exact .going (conn, index) input task pc node inReplay stays isMoved
        moved
  | returned _ result _ inReplay =>
      exact .returned (conn, index) input task result node inReplay isMoved
        moved
  | answered answer confirmed answering =>
      have isAnswer : input = .answer := by
        cases input with
        | answer => rfl
        | permit given => cases isStimulus
        | info failure | opened failure => cases failure <;> cases isStimulus
        | fetched event => cases isStimulus
      rw [isAnswer] at moved ⊢
      exact .answered (conn, index) task answer confirmed node answering
        isMoved moved

theorem steps_of_step {action : PoolAction}
    (moved : pool.step env action = some next) :
    Steps env pool action next := by
  cases action with
  | node action =>
      cases action with
      | replay conn index input =>
          cases input with
          | permit granted =>
              simp only [step] at moved
              split at moved
              · rename_i given
                rw [given.1]
                obtain ⟨node, stepped, rfl⟩ := Option.map_eq_some_iff.mp moved
                obtain ⟨⟨task, pc, before, after, move⟩, others⟩ :=
                  Node.replayMove_of_step stepped
                have runs : task.pc = .queued ∧ pc = .checking := by
                  generalize replayResult env task _ _ = outcome at move
                  cases move with
                  | permit _ queued => exact ⟨queued, rfl⟩
                  | going _ _ notPermit | returned _ _ notPermit =>
                      exact absurd rfl (notPermit true)
                obtain ⟨queued, rfl⟩ := runs
                exact .began (conn, index) task node given.2 queued
                  ⟨before, after, others⟩ stepped
              · cases moved
          | _ =>
              obtain ⟨node, stepped, rfl⟩ := Option.map_eq_some_iff.mp moved
              exact steps_of_afterReplay (by simp) stepped
      | _ =>
          rw [step_of_not_replay rfl] at moved
          obtain ⟨node, stepped, rfl⟩ := Option.map_eq_some_iff.mp moved
          exact .quiet _ node rfl stepped
  | request key =>
      simp only [step] at moved
      split at moved
      · cases moved
      · rename_i task present
        split at moved
        · rename_i queued
          obtain rfl := Option.some.inj moved
          exact .requested key task present queued
        · cases moved
  | grant key =>
      obtain ⟨semaphore, given, rfl⟩ := Option.map_eq_some_iff.mp moved
      exact .granted key semaphore given

/-- A step of the pool is a step of the node, or leaves it alone. -/
theorem Steps.node_step {action : PoolAction}
    (steps : Steps env pool action next) :
    next.node = pool.node ∨
      ∃ label, action = .node label ∧
        pool.node.step env label = some next.node := by
  cases steps with
  | quiet label node notReplay stepped => exact Or.inr ⟨label, rfl, stepped⟩
  | began key task node holds queued isMoved stepped
  | going key input task pc node replays goesOn isMoved stepped
  | returned key input task result node replays isMoved stepped
  | answered key task answer confirmed node answering isMoved stepped =>
      exact Or.inr ⟨_, rfl, stepped⟩
  | requested key task present queued => exact Or.inl rfl
  | granted key semaphore isGrant => exact Or.inl rfl

end

end ReplayPool

end TurbocableServer.Gateway
