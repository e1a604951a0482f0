import Mathlib.Data.Set.Card
import TurbocableServer.Gateway.ReplayPool
import TurbocableServer.Gateway.SocketOrder

/-!
# Permits and metrics of replays

At most `max_replay_concurrency` replay tasks of a node work at a time, whichever
of those that wait are served first.  The metrics count exactly the tasks inside
`replay_since` and those that came out of it.

A task that cannot enqueue its answer keeps its permit, so clients that do not
read can hold up the replays of all others.
-/

namespace TurbocableServer.Gateway.ReplayPool

open Foundations Protocol Pubsub Connection

/-! ## Tasks at a point -/

section

variable {env : Environment} {node next : Node} {key other : ReplayKey}
variable {task : ReplayTask} {pc : ReplayPc} {test : ReplayPc → Bool}

theorem Moved.taskAt_self (moved : Moved node key task pc next) :
    next.TaskAt test key ↔ test pc = true := by
  constructor
  · rintro ⟨found, present, passes⟩
    rw [moved.after] at present
    rw [← Option.some.inj present] at passes
    exact passes
  · intro passes
    exact ⟨_, moved.after, passes⟩

theorem Moved.taskAt_before (moved : Moved node key task pc next) :
    node.TaskAt test key ↔ test task.pc = true := by
  constructor
  · rintro ⟨found, present, passes⟩
    rw [moved.before] at present
    rw [Option.some.inj present]
    exact passes
  · intro passes
    exact ⟨task, moved.before, passes⟩

theorem Moved.taskAt_other (moved : Moved node key task pc next)
    (different : other ≠ key) :
    next.TaskAt test other ↔ node.TaskAt test other := by
  rw [Node.TaskAt, moved.others other different, Node.TaskAt]

/-- `keys` are the tasks at a point that passes the test. -/
def Lists (test : ReplayPc → Bool) (node : Node) (keys : List ReplayKey) :
    Prop :=
  keys.Nodup ∧ ∀ key, key ∈ keys ↔ node.TaskAt test key

variable {keys : List ReplayKey}

theorem Lists.kept (lists : Lists test node keys)
    (moved : Moved node key task pc next) (same : test task.pc = test pc) :
    Lists test next keys := by
  refine ⟨lists.1, ?_⟩
  intro other
  rw [lists.2 other]
  by_cases isKey : other = key
  · rw [isKey, moved.taskAt_before, moved.taskAt_self, same]
  · exact (moved.taskAt_other isKey).symm

theorem Lists.added (lists : Lists test node keys)
    (moved : Moved node key task pc next) (fails : test task.pc = false)
    (passes : test pc = true) : Lists test next (key :: keys) := by
  constructor
  · rw [List.nodup_cons]
    refine ⟨?_, lists.1⟩
    rw [lists.2 key, moved.taskAt_before, fails]
    exact Bool.false_ne_true
  · intro other
    rw [List.mem_cons, lists.2 other]
    by_cases isKey : other = key
    · rw [isKey, moved.taskAt_self]
      simp [passes]
    · rw [moved.taskAt_other isKey]
      simp [isKey]

theorem Lists.removed (lists : Lists test node keys)
    (moved : Moved node key task pc next) (passes : test task.pc = true)
    (fails : test pc = false) :
    ∃ rest, Lists test next rest ∧ keys.length = rest.length + 1 := by
  have member : key ∈ keys := by
    rw [lists.2 key, moved.taskAt_before]
    exact passes
  refine ⟨keys.erase key, ⟨lists.1.erase key, ?_⟩, ?_⟩
  · intro other
    rw [lists.1.mem_erase_iff, lists.2 other]
    by_cases isKey : other = key
    · rw [isKey, moved.taskAt_self]
      simp [fails]
    · rw [moved.taskAt_other isKey]
      simp [isKey]
  · have positive : 0 < keys.length := List.length_pos_of_mem member
    rw [List.length_erase_of_mem member]
    omega

theorem Lists.quiet {action : NodeAction} (lists : Lists test node keys)
    (queuedFails : test .queued = false)
    (moved : node.step env action = some next)
    (notReplay : replayKey action = none) : Lists test next keys :=
  ⟨lists.1, fun key =>
    (lists.2 key).trans
      (Node.taskAt_iff_of_not_replay queuedFails moved notReplay key).symm⟩

theorem Lists.encard_eq (lists : Lists test node keys) :
    {key | node.TaskAt test key}.encard = keys.length := by
  have isSet : {key | node.TaskAt test key} = (keys.toFinset : Set _) := by
    ext key
    rw [List.coe_toFinset]
    exact (lists.2 key).symm
  rw [isSet, Set.encard_coe_eq_coe_finsetCard,
    List.toFinset_card_of_nodup lists.1]

end

/-! ## Permits -/

/-- Whoever has a permit has not returned, whoever works has a permit, and
whoever waits for one has not begun. -/
structure Placed (pool : ReplayPool) : Prop where
  holder :
    ∀ key ∈ pool.semaphore.holders,
      pool.node.TaskAt (fun pc => !pc.isEnded) key
  permitted :
    ∀ key, pool.node.TaskAt ReplayPc.holdsPermit key →
      key ∈ pool.semaphore.holders
  waiter :
    ∀ key ∈ pool.semaphore.waiters, pool.node.TaskAt ReplayPc.isQueued key

section

variable {env : Environment} {pool next : ReplayPool} {action : PoolAction}
variable {node : Node} {key : ReplayKey} {task : ReplayTask} {pc : ReplayPc}

theorem placed_initial (env : Environment) (log : MessageLog)
    (cursor permits : Nat) : (initial env log cursor permits).Placed where
  holder := by simp [initial, Semaphore.new]
  permitted := by
    rintro key ⟨task, present, -⟩
    simp [initial, Node.taskAt, Node.initial, Session.unborn] at present
  waiter := by simp [initial, Semaphore.new]

/-- A step of a holder that does not return. -/
theorem Placed.stays (placed : pool.Placed)
    (holds : key ∈ pool.semaphore.holders)
    (moved : Moved pool.node key task pc node)
    (goesOn : pc.isEnded = false) (metrics : ReplayMetrics) :
    ({ pool with node := node, metrics := metrics } : ReplayPool).Placed where
  holder := by
    intro other isHolder
    by_cases isKey : other = key
    · rw [isKey, moved.taskAt_self, goesOn]
      rfl
    · exact (moved.taskAt_other isKey).mpr (placed.holder other isHolder)
  permitted := by
    intro other works
    by_cases isKey : other = key
    · rw [isKey]
      exact holds
    · exact placed.permitted other ((moved.taskAt_other isKey).mp works)
  waiter := by
    intro other waits
    have isOther : other ≠ key := by
      rintro rfl
      exact Semaphore.not_mem_holders_of_mem_waiters waits holds
    exact (moved.taskAt_other isOther).mpr (placed.waiter other waits)

/-- A holder returns, and its permit is dropped. -/
theorem Placed.ends (placed : pool.Placed)
    (holds : key ∈ pool.semaphore.holders)
    (moved : Moved pool.node key task pc node)
    (ends : pc.isEnded = true) (metrics : ReplayMetrics) :
    ({ pool with
        node := node
        semaphore := pool.semaphore.release key
        metrics := metrics } : ReplayPool).Placed where
  holder := by
    intro other isHolder
    obtain ⟨isOther, isHolder⟩ := Semaphore.mem_holders_release.mp isHolder
    exact (moved.taskAt_other isOther).mpr (placed.holder other isHolder)
  permitted := by
    intro other works
    have isOther : other ≠ key := by
      rintro rfl
      have permitted := moved.taskAt_self.mp works
      cases pc with
      | ended confirmed => cases permitted
      | _ => cases ends
    exact Semaphore.mem_holders_release.mpr
      ⟨isOther,
        placed.permitted other ((moved.taskAt_other isOther).mp works)⟩
  waiter := by
    intro other (waits : other ∈ pool.semaphore.waiters)
    have isOther : other ≠ key := by
      rintro rfl
      exact Semaphore.not_mem_holders_of_mem_waiters waits holds
    exact (moved.taskAt_other isOther).mpr (placed.waiter other waits)

theorem Placed.quiet (placed : pool.Placed) {label : NodeAction}
    (notReplay : replayKey label = none)
    (moved : pool.node.step env label = some node) :
    ({ pool with node := node } : ReplayPool).Placed where
  holder := by
    intro other isHolder
    exact (placed.holder other isHolder).quiet moved notReplay
  permitted := by
    intro other works
    exact placed.permitted other
      ((Node.taskAt_iff_of_not_replay rfl moved notReplay other).mp works)
  waiter := by
    intro other waits
    exact (placed.waiter other waits).quiet moved notReplay

theorem Placed.requested (placed : pool.Placed)
    (present : pool.node.taskAt key = some task)
    (queued : task.pc = .queued) :
    ({ pool with semaphore := pool.semaphore.request key } :
      ReplayPool).Placed := by
  have isQueued : pool.node.TaskAt ReplayPc.isQueued key :=
    ⟨task, present, by rw [queued]; rfl⟩
  refine { holder := ?_, permitted := ?_, waiter := ?_ }
  · rw [Semaphore.request_holders]
    exact placed.holder
  · rw [Semaphore.request_holders]
    exact placed.permitted
  · intro other waits
    rcases Semaphore.waiters_request pool.semaphore key with same | extended
    · rw [same] at waits
      exact placed.waiter other waits
    · rw [extended] at waits
      rcases List.mem_append.mp waits with before | isLast
      · exact placed.waiter other before
      · rw [List.mem_singleton.mp isLast]
        exact isQueued

theorem Placed.given (placed : pool.Placed)
    {semaphore : Semaphore ReplayKey}
    (isGrant : pool.semaphore.grant key = some semaphore) :
    ({ pool with
        semaphore := semaphore
        granted := pool.granted ++ [key] } : ReplayPool).Placed := by
  obtain ⟨waits, -, holders, -⟩ := Semaphore.grant_eq_some isGrant
  have mem_holders :
      ∀ other, other ∈ semaphore.holders ↔
        other ∈ pool.semaphore.holders ∨ other = key := by
    intro other
    rw [holders, List.mem_append, List.mem_singleton]
  refine { holder := ?_, permitted := ?_, waiter := ?_ }
  · intro other isHolder
    rcases (mem_holders other).mp isHolder with before | isKey
    · exact placed.holder other before
    · obtain ⟨task, present, queued⟩ := placed.waiter key waits
      rw [isKey]
      refine ⟨task, present, ?_⟩
      cases atPoint : task.pc with
      | ended confirmed =>
          rw [atPoint] at queued
          cases queued
      | _ => rfl
  · intro other works
    exact (mem_holders other).mpr (Or.inl (placed.permitted other works))
  · intro other stillWaits
    exact placed.waiter other
      (Semaphore.mem_waiters_of_grant isGrant stillWaits)

theorem Placed.step (placed : pool.Placed)
    (moved : pool.step env action = some next) : next.Placed := by
  have works :
      ∀ {key : ReplayKey} {task : ReplayTask} {pc : ReplayPc} {node : Node},
        Moved pool.node key task pc node → task.pc.holdsPermit = true →
          key ∈ pool.semaphore.holders := by
    intro key task pc node isMoved works
    exact placed.permitted key (isMoved.taskAt_before.mpr works)
  have inReplay :
      ∀ {pc : ReplayPc}, pc.inReplay = true → pc.holdsPermit = true := by
    intro pc replays
    cases pc <;> first | rfl | cases replays
  cases steps_of_step moved with
  | quiet label node notReplay stepped =>
      exact placed.quiet notReplay stepped
  | began key task node holds queued isMoved =>
      exact placed.stays holds isMoved rfl _
  | going key input task pc node replays goesOn isMoved =>
      exact placed.stays (works isMoved (inReplay replays)) isMoved
        (ReplayPc.isEnded_of_inReplay goesOn) pool.metrics
  | returned key input task result node replays isMoved =>
      have holds := works isMoved (inReplay replays)
      cases ended : (concludePc result).isEnded with
      | true => exact placed.ends holds isMoved ended _
      | false => exact placed.stays holds isMoved ended _
  | answered key task answer confirmed node answering isMoved =>
      have holds := works isMoved (by rw [answering]; rfl)
      exact placed.ends holds isMoved rfl pool.metrics
  | requested key task present queued => exact placed.requested present queued
  | granted key semaphore isGrant => exact placed.given isGrant

theorem permits_step (moved : pool.step env action = some next) :
    next.semaphore.permits = pool.semaphore.permits := by
  cases steps_of_step moved with
  | returned key input task result node replays isMoved =>
      dsimp only
      split <;> rfl
  | requested key task present queued => exact Semaphore.request_permits
  | granted key semaphore isGrant =>
      exact (Semaphore.grant_eq_some isGrant).2.2.2
  | _ => rfl

end

/-! ## Metrics -/

/-- The gauge counts the tasks in `replay_since`, and the other metrics the
tasks that have come out of it. -/
structure Metered (pool : ReplayPool) : Prop where
  inFlight :
    ∃ keys, Lists ReplayPc.inReplay pool.node keys ∧
      pool.metrics.inFlight = keys.length
  finished :
    ∃ keys, Lists ReplayPc.hasReturned pool.node keys ∧
      pool.metrics.finished = keys.length

section

variable {env : Environment} {pool next : ReplayPool} {action : PoolAction}

theorem metered_initial (env : Environment) (log : MessageLog)
    (cursor permits : Nat) : (initial env log cursor permits).Metered := by
  have none_at :
      ∀ test, Lists test (initial env log cursor permits).node [] := by
    intro test
    refine ⟨List.nodup_nil, ?_⟩
    intro key
    simp [Node.TaskAt, Node.taskAt, initial, Node.initial, Session.unborn]
  exact ⟨⟨[], none_at _, rfl⟩, ⟨[], none_at _, rfl⟩⟩

theorem hasReturned_concludePc
    (result : Except ReplayError ReplayDelivery) :
    (concludePc result).hasReturned = true := by
  unfold concludePc
  split <;> rfl

theorem inReplay_of_hasReturned {pc : ReplayPc}
    (returned : pc.hasReturned = true) : pc.inReplay = false := by
  cases pc <;> first | rfl | cases returned

theorem hasReturned_of_inReplay {pc : ReplayPc}
    (replays : pc.inReplay = true) : pc.hasReturned = false := by
  cases pc <;> first | rfl | cases replays

theorem Metered.step (metered : pool.Metered)
    (moved : pool.step env action = some next) : next.Metered := by
  obtain ⟨⟨flying, listsFlying, inFlight⟩, ⟨back, listsBack, finished⟩⟩ :=
    metered
  cases steps_of_step moved with
  | quiet label node notReplay stepped =>
      exact ⟨⟨flying, listsFlying.quiet rfl stepped notReplay, inFlight⟩,
        ⟨back, listsBack.quiet rfl stepped notReplay, finished⟩⟩
  | began key task node holds queued isMoved =>
      constructor
      · refine ⟨key :: flying,
          listsFlying.added isMoved (by rw [queued]; rfl) rfl, ?_⟩
        simp only [ReplayMetrics.begin, List.length_cons, inFlight]
        omega
      · exact ⟨back, listsBack.kept isMoved (by rw [queued]; rfl), finished⟩
  | going key input task pc node replays goesOn isMoved =>
      constructor
      · exact ⟨flying, listsFlying.kept isMoved (replays.trans goesOn.symm),
          inFlight⟩
      · refine ⟨back, listsBack.kept isMoved ?_, finished⟩
        rw [hasReturned_of_inReplay replays, hasReturned_of_inReplay goesOn]
  | returned key input task result node replays isMoved =>
      have returned := hasReturned_concludePc result
      constructor
      · obtain ⟨rest, listsRest, shorter⟩ :=
          listsFlying.removed isMoved replays
            (inReplay_of_hasReturned returned)
        refine ⟨rest, listsRest, ?_⟩
        simp only [ReplayMetrics.record_inFlight, inFlight, shorter]
        omega
      · refine ⟨key :: back,
          listsBack.added isMoved (hasReturned_of_inReplay replays) returned,
          ?_⟩
        simp only [ReplayMetrics.record_finished, finished, List.length_cons]
  | answered key task answer confirmed node answering isMoved =>
      constructor
      · exact ⟨flying, listsFlying.kept isMoved (by rw [answering]; rfl),
          inFlight⟩
      · exact ⟨back, listsBack.kept isMoved (by rw [answering]; rfl),
          finished⟩
  | requested key task present queued | granted key semaphore isGrant =>
      exact ⟨⟨flying, listsFlying, inFlight⟩, ⟨back, listsBack, finished⟩⟩

end

/-! ## A node with one permit -/

/-- The replay queues have one slot. -/
def oneSlotEnv : Environment :=
  { Node.newsEnv with replayCapacity := 1, replayCapacity_pos := Nat.one_pos }

/-- A client resumes the stream, and its replay task asks for a permit. -/
def resumes (conn : ConnId) : List PoolAction :=
  List.map .node
      [.accept conn ⟨false, ["*"], none⟩, .advance conn, .advance conn,
        .effect conn true, .effect conn true,
        .frame conn (some (.hello ⟨some 0, ["replay_v1"]⟩)),
        .frame conn (some (.command (.subscribe "news"))),
        .effect conn true, .advance conn, .advance conn, .effect conn true] ++
    [.request (conn, 0)]

/-- The one message of the log is replayed and fills the queue. -/
def fillsQueue : List PoolAction :=
  .grant (1, 0) ::
    List.map .node
      (Node.newsOpen 0 ++
        [Node.newsFetch 0 1, .replay 1 0 (.fetched .ended)])

/-- The first client does not read, and the second one waits for a permit. -/
def stalledPool : ReplayPool :=
  (execute (step oneSlotEnv) (fun _ _ => True) (initial oneSlotEnv .empty 0 1)
    (.node Node.newsPublish :: resumes 1 ++ fillsQueue ++ resumes 2)).get
    (by decide)

theorem stalledPool_reached :
    Reaches (step oneSlotEnv) (fun _ _ => True)
      (initial oneSlotEnv .empty 0 1) stalledPool :=
  reaches_execute_get _

/-- The first client reads, and the second one gets the permit. -/
def servedPool : ReplayPool :=
  (execute (step oneSlotEnv) (fun _ _ => True) stalledPool
    [.node (.outbound 1 true), .node (.replay 1 0 .answer), .grant (2, 0),
      .node (.replay 2 0 (.permit true))]).get
    (by decide)

theorem servedPool_reached :
    Reaches (step oneSlotEnv) (fun _ _ => True) stalledPool servedPool :=
  reaches_execute_get _

/-! ## Runs -/

section

variable {env : Environment} {log : MessageLog} {cursor permits : Nat}
variable {pool later : ReplayPool}
variable {allowed : ReplayPool → PoolAction → Prop}

theorem placed_of_reaches
    (run : Reaches (step env) allowed (initial env log cursor permits) pool) :
    pool.Placed :=
  run.invariant (fun _ _ _ _ moved placed => placed.step moved)
    (placed_initial env log cursor permits)

theorem metered_of_reaches
    (run : Reaches (step env) allowed (initial env log cursor permits) pool) :
    pool.Metered :=
  run.invariant (fun _ _ _ _ moved metered => metered.step moved)
    (metered_initial env log cursor permits)

theorem permits_of_reaches (run : Reaches (step env) allowed pool later) :
    later.semaphore.permits = pool.semaphore.permits := by
  have kept :
      ∀ source action target, allowed source action →
        step env source action = some target →
          source.semaphore.permits = pool.semaphore.permits →
            target.semaphore.permits = pool.semaphore.permits :=
    fun _ _ _ _ moved same => (permits_step moved).trans same
  exact run.invariant kept rfl

/-- The tasks that work are holders of permits. -/
theorem Placed.encard_le (placed : pool.Placed) :
    {key | pool.node.TaskAt ReplayPc.holdsPermit key}.encard ≤
      pool.semaphore.permits := by
  have covered :
      {key | pool.node.TaskAt ReplayPc.holdsPermit key} ⊆
        (pool.semaphore.holders.toFinset : Set ReplayKey) := by
    intro key works
    rw [List.coe_toFinset]
    exact placed.permitted key works
  have count : pool.semaphore.holders.toFinset.card ≤ pool.semaphore.permits :=
    Nat.le_trans (List.toFinset_card_le _) pool.semaphore.fits
  calc
    _ ≤ (pool.semaphore.holders.toFinset : Set ReplayKey).encard :=
        Set.encard_le_encard covered
    _ = pool.semaphore.holders.toFinset.card :=
        Set.encard_coe_eq_coe_finsetCard _
    _ ≤ pool.semaphore.permits := Nat.cast_le.mpr count

theorem holdsPermit_of_inReplay {pc : ReplayPc}
    (replays : pc.inReplay = true) : pc.holdsPermit = true := by
  cases pc <;> first | rfl | cases replays

/-- In every state of a run, at most `max_replay_concurrency` replay tasks of
all connections together have a permit.  The gauge of replays in flight is the
number of tasks inside `replay_since`, and the five counters together are the
number of tasks that have come out of it. -/
theorem replays_within_permits
    (run : Reaches (step env) allowed (initial env log cursor permits) pool) :
    {key | pool.node.TaskAt ReplayPc.holdsPermit key}.encard ≤ permits ∧
      (∃ flying : Nat,
        {key | pool.node.TaskAt ReplayPc.inReplay key}.encard = flying ∧
          pool.metrics.inFlight = flying ∧ flying ≤ permits) ∧
      {key | pool.node.TaskAt ReplayPc.hasReturned key}.encard =
        (pool.metrics.success + pool.metrics.failure +
          pool.metrics.truncated + pool.metrics.windowExceeded +
          pool.metrics.abortedPeerGone : Nat) := by
  have within := (placed_of_reaches run).encard_le
  rw [permits_of_reaches run] at within
  have metered := metered_of_reaches run
  refine ⟨within, ?_, ?_⟩
  · obtain ⟨flying, lists, inFlight⟩ := metered.inFlight
    refine ⟨flying.length, lists.encard_eq, inFlight, ?_⟩
    have covered :
        {key | pool.node.TaskAt ReplayPc.inReplay key} ⊆
          {key | pool.node.TaskAt ReplayPc.holdsPermit key} := by
      rintro key ⟨task, present, replays⟩
      exact ⟨task, present, holdsPermit_of_inReplay replays⟩
    have fewer := (Set.encard_le_encard covered).trans within
    rw [lists.encard_eq] at fewer
    exact Nat.cast_le.mp fewer
  · obtain ⟨back, lists, finished⟩ := metered.finished
    rw [lists.encard_eq, ← finished]
    rfl

/-- One replay is over and one is in flight. -/
theorem replays_within_permits_served :
    servedPool.metrics = ⟨1, 1, 0, 0, 0, 0⟩ ∧
      {key | servedPool.node.TaskAt ReplayPc.holdsPermit key}.encard ≤
        (1 : Nat) ∧
      {key | servedPool.node.TaskAt ReplayPc.hasReturned key}.encard =
        (1 : Nat) := by
  have counted :=
    replays_within_permits (stalledPool_reached.trans servedPool_reached)
  exact ⟨by decide, counted.1, counted.2.2⟩

end

/-! ## Clients that do not read -/

/-- The task waits to enqueue the confirmation on a full queue. -/
def Stalled (node : Node) (key : ReplayKey) : Prop :=
  (∃ task, node.taskAt key = some task ∧ task.pc = .answering .confirm) ∧
    Blocks (node.sessions key.1).out.replay

/-- The connection whose outbound task moves. -/
def writesTo : PoolAction → Option ConnId
  | .node (.outbound conn _) => some conn
  | _ => none

/-- No socket of the given tasks takes a frame. -/
def NobodyReads (keys : List ReplayKey) (_pool : ReplayPool)
    (action : PoolAction) : Prop :=
  ∀ conn ∈ writesTo action, conn ∉ keys.map Prod.fst

instance (keys : List ReplayKey) (pool : ReplayPool) (action : PoolAction) :
    Decidable (NobodyReads keys pool action) :=
  inferInstanceAs
    (Decidable (∀ conn ∈ writesTo action, conn ∉ keys.map Prod.fst))

section

variable {env : Environment} {pool next later : ReplayPool}
variable {action : PoolAction} {keys : List ReplayKey} {key : ReplayKey}

theorem Stalled.step_node {node after : Node} {label : NodeAction}
    (stalled : Stalled node key)
    (notOutbound : ∀ ok, label ≠ .outbound key.1 ok)
    (moved : node.step env label = some after) : Stalled after key := by
  obtain ⟨⟨task, present, answering⟩, blocks⟩ := stalled
  have steps := Node.steps_of_step moved
  constructor
  · -- the queue is full, so that the task itself does not move
    have notMoved : replayKey label ≠ some key := by
      intro isKey
      cases label with
      | replay conn index input =>
          obtain rfl := Option.some.inj isKey
          obtain ⟨session, stepped, -⟩ := Option.map_eq_some_iff.mp moved
          exact Session.not_steps_of_blocks present answering blocks
            (Session.steps_of_step stepped)
      | _ => cases isKey
    refine ⟨task, ?_, answering⟩
    cases kind : replayKey label with
    | none =>
        rcases Node.taskAt_of_not_replay moved kind key with same | ⟨absent, -⟩
        · rw [same, present]
        · rw [absent] at present
          cases present
    | some other =>
        cases label with
        | replay conn index input =>
            have isOther : key ≠ (conn, index) := by
              intro same
              exact notMoved (by rw [same]; rfl)
            rw [(Node.replayMove_of_step moved).2 key isOther, present]
        | _ => cases kind
  · rcases steps.session_cases key.1 with same | ⟨move, isMove, stepped⟩
    · rw [same]
      exact blocks
    · refine (Session.steps_of_step stepped).replay_blocks ?_ blocks
      rintro ok shutdown rfl
      cases isMove with
      | onSession _ _ isLocal =>
          cases isLocal
          exact notOutbound ok rfl

/-- All permits are held up. -/
structure HeldUp (keys : List ReplayKey) (pool : ReplayPool) : Prop where
  holders : pool.semaphore.holders = keys
  exhausted : pool.semaphore.permits = keys.length
  stalled : ∀ key ∈ keys, Stalled pool.node key

theorem HeldUp.stalled_step (heldUp : pool.HeldUp keys)
    (silent : NobodyReads keys pool action)
    (moved : pool.step env action = some next) :
    ∀ key ∈ keys, Stalled next.node key := by
  intro key member
  rcases (steps_of_step moved).node_step with same | ⟨label, rfl, stepped⟩
  · rw [same]
    exact heldUp.stalled key member
  · refine (heldUp.stalled key member).step_node ?_ stepped
    rintro ok rfl
    exact silent key.1 rfl (List.mem_map_of_mem member)

theorem HeldUp.step (heldUp : pool.HeldUp keys) (placed : pool.Placed)
    (silent : NobodyReads keys pool action)
    (moved : pool.step env action = some next) :
    next.HeldUp keys ∧ next.granted = pool.granted ∧
      pool.semaphore.waiters <+: next.semaphore.waiters := by
  have stalled := heldUp.stalled_step silent moved
  have unmoved :
      ∀ {key : ReplayKey} {task : ReplayTask} {pc : ReplayPc},
        Moved pool.node key task pc next.node →
          key ∈ pool.semaphore.holders →
            task.pc = .answering .confirm ∧ pc = .answering .confirm := by
    intro key task pc isMoved holds
    rw [heldUp.holders] at holds
    obtain ⟨⟨before, present, answering⟩, -⟩ := heldUp.stalled key holds
    obtain ⟨⟨after, nextPresent, stillAnswering⟩, -⟩ := stalled key holds
    rw [isMoved.before] at present
    rw [isMoved.after] at nextPresent
    rw [← Option.some.inj present] at answering
    rw [← Option.some.inj nextPresent] at stillAnswering
    exact ⟨answering, stillAnswering⟩
  have works :
      ∀ {key : ReplayKey} {task : ReplayTask} {pc : ReplayPc},
        Moved pool.node key task pc next.node →
          task.pc.holdsPermit = true → key ∈ pool.semaphore.holders :=
    fun isMoved working =>
      placed.permitted _ (isMoved.taskAt_before.mpr working)
  cases steps_of_step moved with
  | quiet label node notReplay stepped =>
      exact ⟨⟨heldUp.holders, heldUp.exhausted, stalled⟩, rfl,
        List.prefix_rfl⟩
  | began key task node holds queued isMoved stepped =>
      rw [(unmoved isMoved holds).1] at queued
      cases queued
  | going key input task pc node replays goesOn isMoved stepped
  | returned key input task result node replays isMoved stepped =>
      have holds := works isMoved (holdsPermit_of_inReplay replays)
      rw [(unmoved isMoved holds).1] at replays
      cases replays
  | answered key task answer confirmed node answering isMoved stepped =>
      have holds := works isMoved (by rw [answering]; rfl)
      cases (unmoved isMoved holds).2
  | requested key task present queued =>
      refine ⟨⟨?_, ?_, stalled⟩, rfl, ?_⟩
      · rw [Semaphore.request_holders, heldUp.holders]
      · rw [Semaphore.request_permits, heldUp.exhausted]
      · rcases Semaphore.waiters_request pool.semaphore key with
          same | extended
        · rw [same]
        · rw [extended]
          exact List.prefix_append _ _
  | granted key semaphore isGrant =>
      -- there is no permit left
      obtain ⟨-, -, holders, permits⟩ := Semaphore.grant_eq_some isGrant
      have fits := semaphore.fits
      rw [holders, permits, heldUp.exhausted, heldUp.holders,
        List.length_append, List.length_singleton] at fits
      omega

/-- When every permit belongs to a task that waits to enqueue its confirmation
on a full queue, and the sockets of these clients take nothing, no other replay
task of the node makes any progress: no further permit is granted, and whoever
waits keeps waiting. -/
theorem stalled_clients_hold_up_pool {log : MessageLog} {cursor permits : Nat}
    (before : Reaches (ReplayPool.step env) (fun _ _ => True)
      (initial env log cursor permits) pool)
    (exhausted : pool.semaphore.holders.length = permits)
    (stalled : ∀ key ∈ pool.semaphore.holders, Stalled pool.node key)
    (run : Reaches (ReplayPool.step env)
      (NobodyReads pool.semaphore.holders) pool later) :
    later.granted = pool.granted ∧
      pool.semaphore.waiters <+: later.semaphore.waiters ∧
      ∀ key, later.node.TaskAt ReplayPc.holdsPermit key →
        key ∈ pool.semaphore.holders := by
  have heldUp : pool.HeldUp pool.semaphore.holders := by
    refine ⟨rfl, ?_, stalled⟩
    rw [permits_of_reaches before, exhausted]
    rfl
  have kept :
      ∀ source action target,
        NobodyReads pool.semaphore.holders source action →
          ReplayPool.step env source action = some target →
            (source.Placed ∧ source.HeldUp pool.semaphore.holders ∧
              source.granted = pool.granted ∧
              pool.semaphore.waiters <+: source.semaphore.waiters) →
            target.Placed ∧ target.HeldUp pool.semaphore.holders ∧
              target.granted = pool.granted ∧
              pool.semaphore.waiters <+: target.semaphore.waiters := by
    rintro source action target silent moved ⟨placed, held, same, waiting⟩
    obtain ⟨heldNext, sameNext, waitingNext⟩ := held.step placed silent moved
    exact ⟨placed.step moved, heldNext, sameNext.trans same,
      waiting.trans waitingNext⟩
  obtain ⟨placed, held, same, waiting⟩ :=
    run.invariant kept
      ⟨placed_of_reaches before, heldUp, rfl, List.prefix_rfl⟩
  refine ⟨same, waiting, ?_⟩
  intro key working
  rw [← held.holders]
  exact placed.permitted key working

/-- A third client comes, and nobody reads. -/
def stillStalledPool : ReplayPool :=
  (execute (ReplayPool.step oneSlotEnv) (NobodyReads [(1, 0)]) stalledPool
    (resumes 3)).get (by decide)

theorem stalled_clients_hold_up_pool_one :
    stillStalledPool.granted = stalledPool.granted ∧
      [(2, 0)] <+: stillStalledPool.semaphore.waiters ∧
      ∀ key, stillStalledPool.node.TaskAt ReplayPc.holdsPermit key →
        key ∈ [((1, 0) : ReplayKey)] := by
  have run :
      Reaches (ReplayPool.step oneSlotEnv) (NobodyReads [(1, 0)]) stalledPool
        stillStalledPool :=
    reaches_execute_get _
  have stalled : Stalled stalledPool.node (1, 0) :=
    ⟨⟨⟨"news", 0, .answering .confirm⟩, by decide, rfl⟩, by decide, by decide⟩
  exact stalled_clients_hold_up_pool stalledPool_reached (by decide)
    (by
      intro key member
      rw [List.mem_singleton.mp member]
      exact stalled)
    run

end

end TurbocableServer.Gateway.ReplayPool
