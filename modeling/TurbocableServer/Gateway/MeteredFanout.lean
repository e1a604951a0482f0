import TurbocableServer.Fanout.ConfiguredLimiter
import TurbocableServer.Gateway.LiveShare

/-!
# The rate-limited fan-out

A node whose fan-out loop asks the limiter of the configuration, as
`process_nats_message` does: a message of an exhausted stream is dropped before
the fan-out and counted.  The clock runs between the steps, and between the two
readings of it within a check.
-/

namespace TurbocableServer.Gateway

open Foundations Protocol Pubsub Connection Fanout

/-! ## Messages taken by the fan-out loop -/

namespace Node

variable {env : Environment} {node next : Node} {action : NodeAction}

/-- Only the fan-out loop fans out a message. -/
theorem fanned_of_not_fanNext (moved : node.step env action = some next)
    (notNext : ∀ allow, action ≠ .fanNext allow) :
    next.fanned = node.fanned := by
  cases steps_of_step moved with
  | fanNext message sys idle present accessed =>
      exact absurd rfl (notNext true)
  | _ => rfl

/-- Its place in the log is moved by the loop and by the durable consumer. -/
theorem cursor_of_not_fanNext (moved : node.step env action = some next)
    (notNext : ∀ allow, action ≠ .fanNext allow)
    (noSeek : seeks action = false) : next.cursor = node.cursor := by
  cases steps_of_step moved with
  | fanSkip message idle present => exact absurd rfl (notNext false)
  | fanNext message sys idle present accessed =>
      exact absurd rfl (notNext true)
  | seek position idle within => cases noSeek
  | _ => rfl

/-- The message at the place of the loop is passed, and fanned out if it is
allowed. -/
theorem fanNext_of_step {allow : Bool} {message : StoredMessage}
    (moved : node.step env (.fanNext allow) = some next)
    (present : node.log.messages[node.cursor]? = some message) :
    next.log = node.log ∧ next.cursor = node.cursor + 1 ∧
      next.fanned = node.fanned ++ (if allow then [message] else []) := by
  cases steps_of_step moved with
  | fanSkip found idle isFound => exact ⟨rfl, rfl, (List.append_nil _).symm⟩
  | fanNext found sys idle isFound accessed =>
      obtain rfl := Option.some.inj (present.symm.trans isFound)
      exact ⟨rfl, rfl, rfl⟩
  | onSession _ _ _ _ isLocal _ => cases isLocal

end Node

end TurbocableServer.Gateway

namespace TurbocableServer.Fanout.StreamRateLimiter

open Foundations.TokenBucket

/-! ## Runs of the limiter -/

variable {limiter : StreamRateLimiter} {calls : List CheckCall}
variable {call : CheckCall}

theorem after_append :
    limiter.after (calls ++ [call]) = ((limiter.after calls).check call).2 := by
  rw [after, List.foldl_append]
  rfl

theorem trace_append :
    limiter.trace (calls ++ [call]) =
      limiter.trace calls ++ [((limiter.after calls).check call).1] := by
  induction calls generalizing limiter with
  | nil => rfl
  | cons first later ih =>
      rw [List.cons_append, trace, ih, trace]
      rfl

/-- The answers on one stream are those of a token bucket of its own. -/
theorem greedy_arrivals {stream : String} {rps burst : ℚ}
    (stored : limiter.limits stream = (rps, burst))
    (rpsPositive : 0 < rps) (burstPositive : 1 ≤ burst)
    (fresh : limiter.buckets.lookup stream = none)
    (sorted : calls.Pairwise (fun early late => early.now ≤ late.now)) :
    Greedy rps burst (limiter.arrivals stream calls) := by
  have metered : MeteredFrom rps burst [] (limiter.arrivals stream calls) := by
    rw [arrivals, trace_filter calls ⟨rfl, rfl⟩]
    refine meteredFrom_trace _ limiter [] stored rpsPositive fresh ?_
      (by simp) (sorted.filter _)
    intro call member
    exact of_decide_eq_true (List.mem_filter.mp member).2
  exact metered.metered.greedy burstPositive

end TurbocableServer.Fanout.StreamRateLimiter

namespace TurbocableServer.Gateway

open Foundations Protocol Pubsub Connection Fanout

/-! ## The node with its limiter -/

/-- A node, its limiter and the clock.  `rateLimited` is
`stream_rate_limited_total` and `tokensAvailable` is `stream_tokens_available`,
by stream.  `taken` records the messages handed to the loop and `answers` the
answers of the limiter; nothing reads them. -/
structure MeteredNode where
  node : Node
  limiter : Option StreamRateLimiter
  clock : ℚ
  rateLimited : String → Nat
  tokensAvailable : String → Option Int
  taken : List StoredMessage
  answers : List Checked

inductive MeteredAction where
  | node (action : NodeAction)
  | next (pause : ℚ)
  | wait (elapsed : ℚ)

/-- The action is one of the fan-out loop taking a message. -/
def isFanNext : NodeAction → Bool
  | .fanNext _ => true
  | _ => false

namespace MeteredNode

/-- The durable consumer hands out a message again, or passes one over. -/
def seeks : MeteredAction → Bool
  | .node action => Node.seeks action
  | _ => false

def initial (env : Environment) (log : MessageLog) (cursor : Nat)
    (limiter : Option StreamRateLimiter) (clock : ℚ) : MeteredNode where
  node := .initial env log cursor
  limiter := limiter
  clock := clock
  rateLimited := fun _ => 0
  tokensAvailable := fun _ => none
  taken := []
  answers := []

/-- The state after an answer of the limiter, with its metrics. -/
def answered (state : MeteredNode) (pause : ℚ) (message : StoredMessage)
    (answer : Checked) (after : StreamRateLimiter) (node : Node) :
    MeteredNode where
  node := node
  limiter := some after
  clock := state.clock + pause
  rateLimited :=
    if answer.allowed then
      state.rateLimited
    else
      Function.update state.rateLimited message.stream
        (state.rateLimited message.stream + 1)
  tokensAvailable :=
    -- `i64::MAX` stands for a stream without a limit
    if answer.tokens = 2 ^ 63 - 1 then
      state.tokensAvailable
    else
      Function.update state.tokensAvailable message.stream
        (some answer.tokens)
  taken := state.taken ++ [message]
  answers := state.answers ++ [answer]

/-- `process_nats_message`, up to the fan-out. -/
def processNatsMessage (env : Environment) (state : MeteredNode) (pause : ℚ)
    (message : StoredMessage) : Option MeteredNode :=
  match state.limiter with
  | none =>
      (state.node.step env (.fanNext true)).map (fun node =>
        { state with
          node := node
          clock := state.clock + pause
          taken := state.taken ++ [message] })
  | some limiter =>
      let checked :=
        limiter.check ⟨message.stream, state.clock, state.clock + pause⟩
      (state.node.step env (.fanNext checked.1.allowed)).map
        (state.answered pause message checked.1 checked.2)

def step (env : Environment) (state : MeteredNode) :
    MeteredAction → Option MeteredNode
  | .node action =>
      if isFanNext action then
        none
      else
        (state.node.step env action).map
          (fun node => { state with node := node })
  | .next pause =>
      if pause < 0 then
        none
      else
        state.node.log.messages[state.node.cursor]?.bind
          (processNatsMessage env state pause)
  | .wait elapsed =>
      if elapsed < 0 then
        none
      else
        some { state with clock := state.clock + elapsed }

/-! ## Inversion -/

/-- What is known of a message that the loop has passed. -/
structure Passes (env : Environment) (state : MeteredNode) (pause : ℚ)
    (message : StoredMessage) (allow : Bool) (next : MeteredNode) : Prop where
  nonnegative : 0 ≤ pause
  present : state.node.log.messages[state.node.cursor]? = some message
  moved : state.node.step env (.fanNext allow) = some next.node
  clock : next.clock = state.clock + pause
  taken : next.taken = state.taken ++ [message]
  rateLimited :
    ∀ stream, next.rateLimited stream =
      state.rateLimited stream +
        (if allow = false ∧ message.stream = stream then 1 else 0)

inductive Steps (env : Environment) (state : MeteredNode) :
    MeteredAction → MeteredNode → Prop
  | quiet (action : NodeAction) (node : Node) :
      (∀ allow, action ≠ .fanNext allow) →
      state.node.step env action = some node →
      Steps env state (.node action) { state with node := node }
  | waited (elapsed : ℚ) :
      0 ≤ elapsed →
      Steps env state (.wait elapsed)
        { state with clock := state.clock + elapsed }
  | unlimited (pause : ℚ) (message : StoredMessage) (next : MeteredNode) :
      Passes env state pause message true next →
      state.limiter = none → next.limiter = none →
      next.answers = state.answers →
      Steps env state (.next pause) next
  | checked (pause : ℚ) (message : StoredMessage)
      (limiter : StreamRateLimiter) (call : CheckCall) (next : MeteredNode) :
      call = ⟨message.stream, state.clock, state.clock + pause⟩ →
      Passes env state pause message (limiter.check call).1.allowed next →
      state.limiter = some limiter →
      next.limiter = some (limiter.check call).2 →
      next.answers = state.answers ++ [(limiter.check call).1] →
      Steps env state (.next pause) next

section

variable {env : Environment} {state next : MeteredNode}

theorem answered_rateLimited {pause : ℚ} {message : StoredMessage}
    {answer : Checked} {after : StreamRateLimiter} {node : Node}
    (stream : String) :
    (state.answered pause message answer after node).rateLimited stream =
      state.rateLimited stream +
        (if answer.allowed = false ∧ message.stream = stream then 1 else 0) := by
  unfold answered
  dsimp only
  split
  · rename_i allowed
    simp [allowed]
  · rename_i dropped
    rw [Bool.not_eq_true] at dropped
    by_cases here : message.stream = stream
    · rw [← here, Function.update_self, if_pos ⟨dropped, rfl⟩]
    · rw [Function.update_of_ne (Ne.symm here), if_neg (by simp [here]),
        Nat.add_zero]

private theorem steps_of_process {pause : ℚ} {message : StoredMessage}
    (nonnegative : 0 ≤ pause)
    (present : state.node.log.messages[state.node.cursor]? = some message)
    (moved : processNatsMessage env state pause message = some next) :
    Steps env state (.next pause) next := by
  unfold processNatsMessage at moved
  split at moved
  · rename_i noLimiter
    obtain ⟨node, stepped, rfl⟩ := Option.map_eq_some_iff.mp moved
    refine .unlimited pause message _ ?_ noLimiter noLimiter rfl
    exact
      { nonnegative := nonnegative
        present := present
        moved := stepped
        clock := rfl
        taken := rfl
        rateLimited := by simp }
  · rename_i limiter isLimiter
    obtain ⟨node, stepped, rfl⟩ := Option.map_eq_some_iff.mp moved
    refine .checked pause message limiter _ _ rfl ?_ isLimiter rfl rfl
    exact
      { nonnegative := nonnegative
        present := present
        moved := stepped
        clock := rfl
        taken := rfl
        rateLimited := answered_rateLimited }

theorem steps_of_step {action : MeteredAction}
    (moved : state.step env action = some next) :
    Steps env state action next := by
  cases action with
  | node action =>
      simp only [step] at moved
      split at moved
      · cases moved
      · rename_i notNext
        obtain ⟨node, stepped, rfl⟩ := Option.map_eq_some_iff.mp moved
        refine .quiet action node ?_ stepped
        rintro allow rfl
        exact notNext rfl
  | next pause =>
      simp only [step] at moved
      split at moved
      · cases moved
      · rename_i notNegative
        obtain ⟨message, present, processed⟩ :=
          Option.bind_eq_some_iff.mp moved
        exact steps_of_process (not_lt.mp notNegative) present processed
  | wait elapsed =>
      simp only [step] at moved
      split at moved
      · cases moved
      · rename_i notNegative
        obtain rfl := Option.some.inj moved
        exact .waited elapsed (not_lt.mp notNegative)

/-- A run of the metered node is a run of the node. -/
theorem node_step {action : MeteredAction}
    (moved : state.step env action = some next) :
    next.node = state.node ∨
      ∃ label, state.node.step env label = some next.node := by
  cases steps_of_step moved with
  | quiet label node notNext stepped => exact Or.inr ⟨label, stepped⟩
  | waited elapsed nonnegative => exact Or.inl rfl
  | unlimited pause message _ passes => exact Or.inr ⟨_, passes.moved⟩
  | checked pause message limiter call _ isCall passes =>
      exact Or.inr ⟨_, passes.moved⟩

end

/-! ## What has happened since a moment -/

/-- The answer lets a message of the stream pass. -/
def passesOn (stream : String) (answer : Checked) : Bool :=
  answer.call.stream = stream && answer.allowed

/-- Since `begun` the loop has been given `passed`, has fanned out `fanned` of
it, and has got the answers `answers`. -/
structure Since (begun state : MeteredNode)
    (passed fanned : List StoredMessage) (answers : List Checked) : Prop where
  isPassed : state.taken = begun.taken ++ passed
  isFanned : state.node.fanned = begun.node.fanned ++ fanned
  isAnswered : state.answers = begun.answers ++ answers
  sublist : fanned.Sublist passed
  later : begun.clock ≤ state.clock
  within :
    ∀ answer ∈ answers,
      begun.clock ≤ answer.call.now ∧ answer.call.now ≤ state.clock
  limited :
    ∀ stream,
      passed.countP (·.stream = stream) + begun.rateLimited stream =
        fanned.countP (·.stream = stream) + state.rateLimited stream
  /-- Without a limiter everything is fanned out. -/
  unlimited : state.limiter = none → fanned = passed
  /-- With a limiter it is asked about every message. -/
  asked :
    state.limiter.isSome →
      ∀ stream, fanned.countP (·.stream = stream) =
        answers.countP (passesOn stream)

section

variable {env : Environment} {begun state next : MeteredNode}
variable {passed fanned : List StoredMessage} {answers : List Checked}

theorem since_refl (state : MeteredNode) : Since state state [] [] [] where
  isPassed := (List.append_nil _).symm
  isFanned := (List.append_nil _).symm
  isAnswered := (List.append_nil _).symm
  sublist := List.Sublist.refl _
  later := le_rfl
  within := by simp
  limited := fun _ => rfl
  unlimited := fun _ => rfl
  asked := fun _ _ => rfl

private theorem Since.quiet (since : Since begun state passed fanned answers)
    {action : NodeAction} {node : Node}
    (notNext : ∀ allow, action ≠ .fanNext allow)
    (moved : state.node.step env action = some node) :
    Since begun { state with node := node } passed fanned answers := by
  have sameFanned := Node.fanned_of_not_fanNext moved notNext
  exact { since with isFanned := sameFanned.trans since.isFanned }

/-- A message is passed, and fanned out if it is allowed. -/
private theorem Since.passes (since : Since begun state passed fanned answers)
    {pause : ℚ} {message : StoredMessage} {allow : Bool}
    (passes : Passes env state pause message allow next) :
    next.taken = begun.taken ++ (passed ++ [message]) ∧
      next.node.fanned =
        begun.node.fanned ++ (fanned ++ if allow then [message] else []) ∧
      (fanned ++ if allow then [message] else []).Sublist
        (passed ++ [message]) ∧
      begun.clock ≤ next.clock ∧ state.clock ≤ next.clock ∧
      ∀ stream,
        (passed ++ [message]).countP (·.stream = stream) +
            begun.rateLimited stream =
          (fanned ++ if allow then [message] else []).countP
              (·.stream = stream) +
            next.rateLimited stream := by
  obtain ⟨-, -, extended⟩ :=
    Node.fanNext_of_step passes.moved passes.present
  have later : state.clock ≤ next.clock := by
    rw [passes.clock]
    exact le_add_of_nonneg_right passes.nonnegative
  refine ⟨?_, ?_, ?_, since.later.trans later, later, ?_⟩
  · rw [passes.taken, since.isPassed, List.append_assoc]
  · rw [extended, since.isFanned, List.append_assoc]
  · apply since.sublist.append
    cases allow
    · exact List.nil_sublist _
    · exact List.Sublist.refl _
  · intro stream
    have before := since.limited stream
    rw [passes.rateLimited, List.countP_append, List.countP_append]
    cases allow
    · by_cases here : message.stream = stream
      · simp only [here, and_self, if_true, List.countP_singleton,
          decide_true, Bool.false_eq_true, if_false, List.countP_nil]
        omega
      · simp only [here, and_false, if_false, List.countP_singleton,
          decide_false, Bool.false_eq_true, List.countP_nil]
        omega
    · simp only [Bool.true_eq_false, false_and, if_false, if_true]
      omega

theorem Since.step (since : Since begun state passed fanned answers)
    {action : MeteredAction}
    (moved : state.step env action = some next) :
    ∃ passed fanned answers, Since begun next passed fanned answers := by
  cases steps_of_step moved with
  | quiet label node notNext stepped =>
      exact ⟨passed, fanned, answers, since.quiet notNext stepped⟩
  | waited elapsed nonnegative =>
      have later : state.clock ≤ state.clock + elapsed :=
        le_add_of_nonneg_right nonnegative
      refine ⟨passed, fanned, answers,
        { since with later := since.later.trans later, within := ?_ }⟩
      intro answer member
      exact (since.within answer member).imp_right
        (fun before => before.trans later)
  | unlimited pause message _ passes noLimiter stillNone sameAnswers =>
      obtain ⟨isPassed, isFanned, sublist, later, ticks, limited⟩ :=
        since.passes passes
      exact ⟨_, _, answers,
        { isPassed := isPassed
          isFanned := isFanned
          isAnswered := sameAnswers.trans since.isAnswered
          sublist := sublist
          later := later
          within := by
            intro answer member
            exact (since.within answer member).imp_right
              (fun before => before.trans ticks)
          limited := limited
          unlimited := by
            intro _
            rw [since.unlimited noLimiter]
            rfl
          asked := by
            intro hasLimiter
            rw [stillNone] at hasLimiter
            cases hasLimiter }⟩
  | checked pause message limiter call _ isCall passes isLimiter isNext
      isAnswer =>
      obtain ⟨isPassed, isFanned, sublist, later, ticks, limited⟩ :=
        since.passes passes
      refine ⟨_, _, answers ++ [(limiter.check call).1],
        { isPassed := isPassed
          isFanned := isFanned
          isAnswered := ?_
          sublist := sublist
          later := later
          within := ?_
          limited := limited
          unlimited := ?_
          asked := ?_ }⟩
      · rw [isAnswer, since.isAnswered, List.append_assoc]
      · intro answer member
        rcases List.mem_append.mp member with before | isLast
        · exact (since.within answer before).imp_right
            (fun earlier => earlier.trans ticks)
        · rw [List.mem_singleton.mp isLast, StreamRateLimiter.check_call,
            isCall, ← passes.clock]
          exact ⟨later, le_rfl⟩
      · intro noLimiter
        rw [isNext] at noLimiter
        cases noLimiter
      · intro _ stream
        have before := since.asked (by rw [isLimiter]; rfl) stream
        have asksFor : (limiter.check call).1.call.stream = message.stream := by
          rw [StreamRateLimiter.check_call, isCall]
        rw [List.countP_append, List.countP_append, before,
          List.countP_singleton, passesOn, asksFor]
        cases (limiter.check call).1.allowed
        · simp
        · simp [List.countP_singleton]

end

/-! ## The place in the log -/

section

variable {env : Environment} {state next : MeteredNode}

/-- In a step without a seek, the loop is given what it passes in the log. -/
theorem taken_step (onLog : state.node.OnLog) {action : MeteredAction}
    (noSeek : seeks action = false)
    (moved : state.step env action = some next) :
    ∃ taken,
      next.taken = state.taken ++ taken ∧
        next.node.log.messages.take next.node.cursor =
          state.node.log.messages.take state.node.cursor ++ taken := by
  have passed {pause : ℚ} {message : StoredMessage} {allow : Bool}
      (passes : Passes env state pause message allow next) :
      next.node.log.messages.take next.node.cursor =
        state.node.log.messages.take state.node.cursor ++ [message] := by
    obtain ⟨sameLog, advanced, -⟩ :=
      Node.fanNext_of_step passes.moved passes.present
    rw [sameLog, advanced, Node.take_succ_eq passes.present]
  cases steps_of_step moved with
  | quiet label node notNext stepped =>
      have sameCursor := Node.cursor_of_not_fanNext stepped notNext noSeek
      obtain ⟨added, grown⟩ := (Node.steps_of_step stepped).logMove.log_grows
      refine ⟨[], (List.append_nil _).symm, ?_⟩
      dsimp only
      rw [sameCursor, ← grown, List.take_append_of_le_length onLog.within,
        List.append_nil]
  | waited elapsed nonnegative =>
      exact ⟨[], (List.append_nil _).symm, (List.append_nil _).symm⟩
  | unlimited pause message _ passes
  | checked pause message limiter call _ isCall passes =>
      exact ⟨[message], passes.taken, passed passes⟩

end

/-! ## The answers of the limiter -/

section

variable {env : Environment} {state next : MeteredNode}
variable {start : StreamRateLimiter}

/-- The answers are those of the first limiter, to calls at non-decreasing
times. -/
def Answers (start : StreamRateLimiter) (state : MeteredNode) : Prop :=
  ∃ calls,
    state.limiter = some (start.after calls) ∧
      state.answers = start.trace calls ∧
      calls.Pairwise (fun early late => early.now ≤ late.now) ∧
      ∀ call ∈ calls, call.now ≤ state.clock

theorem Answers.step (answers : state.Answers start) {action : MeteredAction}
    (moved : state.step env action = some next) : next.Answers start := by
  obtain ⟨calls, isLimiter, isTrace, sorted, within⟩ := answers
  cases steps_of_step moved with
  | quiet label node notNext stepped =>
      exact ⟨calls, isLimiter, isTrace, sorted, within⟩
  | waited elapsed nonnegative =>
      refine ⟨calls, isLimiter, isTrace, sorted, ?_⟩
      intro call member
      exact (within call member).trans (le_add_of_nonneg_right nonnegative)
  | unlimited pause message _ passes noLimiter =>
      rw [isLimiter] at noLimiter
      cases noLimiter
  | checked pause message limiter call _ isCall passes isCurrent isNext
      isAnswer =>
      obtain rfl := Option.some.inj (isLimiter.symm.trans isCurrent)
      have asked : call.now = next.clock := by
        rw [isCall, passes.clock]
      have later : state.clock ≤ next.clock := by
        rw [passes.clock]
        exact le_add_of_nonneg_right passes.nonnegative
      refine ⟨calls ++ [call], ?_, ?_, ?_, ?_⟩
      · rw [isNext, StreamRateLimiter.after_append]
      · rw [isAnswer, isTrace, StreamRateLimiter.trace_append]
      · rw [List.pairwise_append]
        refine ⟨sorted, List.pairwise_singleton _ _, ?_⟩
        intro early member late isLast
        rw [List.mem_singleton.mp isLast, asked]
        exact (within early member).trans later
      · intro other member
        rcases List.mem_append.mp member with before | isLast
        · exact (within other before).trans later
        · rw [List.mem_singleton.mp isLast, asked]

/-- The answers after a moment fall into the window that it opens. -/
theorem countP_le_passedIn (stream : String) {calls : List CheckCall}
    {before answers : List Checked} {first last : ℚ}
    (isTrace : before ++ answers = start.trace calls)
    (within :
      ∀ answer ∈ answers,
        first ≤ answer.call.now ∧ answer.call.now ≤ last) :
    answers.countP (passesOn stream) ≤
      TokenBucket.passedIn first (last - first)
        (start.arrivals stream calls) := by
  have counted :
      ∀ answer ∈ answers, passesOn stream answer = true →
        (TokenBucket.passesIn first (last - first) ∘
              StreamRateLimiter.arrivalOf) answer = true ∧
          decide (answer.call.stream = stream) = true := by
    intro answer member passes
    rw [passesOn, Bool.and_eq_true] at passes
    refine ⟨TokenBucket.passesIn_iff.mpr ⟨passes.2, ?_⟩, passes.1⟩
    rw [TokenBucket.InWindow, add_sub_cancel]
    exact within answer member
  rw [TokenBucket.passedIn, StreamRateLimiter.arrivals, List.countP_map,
    ← isTrace, List.filter_append, List.countP_append, List.countP_filter,
    List.countP_filter]
  apply Nat.le_trans _ (Nat.le_add_left _ _)
  apply List.countP_mono_left
  intro answer member passes
  rw [Bool.and_eq_true]
  exact counted answer member passes

end

/-! ## Runs -/

section

variable {env : Environment} {log : MessageLog} {cursor : Nat} {clock : ℚ}
variable {limiter : Option StreamRateLimiter}
variable {start : StreamRateLimiter} {begun state later : MeteredNode}
variable {allowed : MeteredNode → MeteredAction → Prop}

/-- A run of the metered node is a run of the node. -/
theorem node_reaches (run : Reaches (step env) allowed begun state) :
    Reaches (Node.step env) (fun _ _ => True) begun.node state.node := by
  induction run with
  | refl =>
      exact Reaches.refl _
  | tail before last ih =>
      obtain ⟨label, -, moved⟩ := last
      rcases node_step moved with same | ⟨action, stepped⟩
      · rw [same]
        exact ih
      · exact ih.tail trivial stepped

theorem since_of_reaches (run : Reaches (step env) allowed begun later) :
    ∃ passed fanned answers, Since begun later passed fanned answers := by
  induction run with
  | refl =>
      exact ⟨[], [], [], since_refl begun⟩
  | tail earlier last ih =>
      obtain ⟨label, -, moved⟩ := last
      obtain ⟨passed, fanned, answers, since⟩ := ih
      exact since.step moved

/-- A consumer that hands out each message once, in the order of the log, has
handed out the part of the log between the two places of the loop. -/
theorem taken_of_reaches (within : cursor ≤ log.messages.length)
    (before : Reaches (step env) (fun _ _ => True)
      (initial env log cursor limiter clock) begun)
    (run : Reaches (step env) allowed begun later)
    (inOrder :
      ∀ source action, allowed source action → seeks action = false) :
    ∃ passed,
      later.taken = begun.taken ++ passed ∧
        later.node.log.messages.take later.node.cursor =
          begun.node.log.messages.take begun.node.cursor ++ passed := by
  induction run with
  | refl =>
      exact ⟨[], (List.append_nil _).symm, (List.append_nil _).symm⟩
  | tail earlier last ih =>
      obtain ⟨label, isAllowed, moved⟩ := last
      obtain ⟨passed, isTaken, isPassed⟩ := ih
      have onLog :=
        Node.onLog_of_reaches within (node_reaches (before.extend earlier))
      have noSeek := inOrder _ _ isAllowed
      obtain ⟨taken, isNext, isRead⟩ := taken_step onLog noSeek moved
      refine ⟨passed ++ taken, ?_, ?_⟩
      · rw [isNext, isTaken, List.append_assoc]
      · rw [isRead, isPassed, List.append_assoc]

theorem answers_of_reaches
    (run : Reaches (step env) allowed
      (initial env log cursor (some start) clock) state) :
    state.Answers start := by
  have kept :
      ∀ source action target, allowed source action →
        step env source action = some target →
          source.Answers start → target.Answers start :=
    fun _ _ _ _ moved answers => answers.step moved
  exact run.invariant kept ⟨[], rfl, rfl, List.Pairwise.nil, by simp⟩

theorem length_feedOf (env : Environment) (stream : String)
    (messages : List StoredMessage) :
    (Node.feedOf env stream messages).length =
      messages.countP (·.stream = stream) := by
  rw [Node.feedOf, List.length_map, List.countP_eq_length_filter]

/-- A limiter of the configuration has no buckets yet, and stores no negative
rate and room for a message at least. -/
theorem limits_of_buildRateLimiter {cfg : RateLimitConfig}
    (built : buildRateLimiter cfg = some start) (stream : String) :
    start.buckets.lookup stream = none ∧ 1 ≤ (start.limits stream).2 := by
  unfold buildRateLimiter at built
  dsimp only at built
  split at built
  · cases built
  · obtain rfl := Option.some.inj built
    exact ⟨rfl, (StreamRateLimiter.limits_new _ _ _ stream).2⟩

/-- The configured rate of a stream bounds what every client gets of it.
Between two moments of a run, the live frames of the stream that are enqueued
to a connection are at most the burst and the rate times the seconds between
them, and one more if a fan-out was under way at the first moment. -/
theorem live_rate_is_bounded {cfg : RateLimitConfig} {stream : String}
    (built : buildRateLimiter cfg = some start)
    (limited : 0 < (start.limits stream).1)
    (before : Reaches (step env) (fun _ _ => True)
      (initial env log cursor (buildRateLimiter cfg) clock) begun)
    (run : Reaches (step env) allowed begun later) (conn : ConnId) :
    ∃ frames,
      later.node.liveSent conn = begun.node.liveSent conn ++ frames ∧
        ((Node.liveOf stream frames).length : ℚ) ≤
          (start.limits stream).2 +
            (start.limits stream).1 * (later.clock - begun.clock) +
            (Node.scannedFrame env begun.node).length := by
  rw [built] at before
  obtain ⟨fresh, burstPositive⟩ := limits_of_buildRateLimiter built stream
  obtain ⟨passed, fanned, answers, since⟩ := since_of_reaches run
  obtain ⟨calls, isLimiter, isTrace, sorted, -⟩ :=
    answers_of_reaches (before.extend run)
  obtain ⟨frames, messages, isSent, isFanned, sublist⟩ :=
    Node.live_sublist_of_reaches (node_reaches before) (node_reaches run) conn
      stream
  refine ⟨frames, isSent, ?_⟩
  -- the messages fanned out are those the limiter has let pass
  obtain rfl : messages = fanned :=
    List.append_cancel_left (isFanned.symm.trans since.isFanned)
  have asked := since.asked (by rw [isLimiter]; rfl) stream
  have fewer :
      (Node.liveOf stream frames).length ≤
        (Node.scannedFrame env begun.node).length +
          answers.countP (passesOn stream) := by
    rw [← asked, ← length_feedOf env, ← List.length_append]
    exact sublist.length_le
  have inWindow :=
    countP_le_passedIn stream (since.isAnswered.symm.trans isTrace)
      since.within
  have greedy :=
    StreamRateLimiter.greedy_arrivals rfl limited burstPositive fresh sorted
  have bound :
      (TokenBucket.passedIn begun.clock (later.clock - begun.clock)
          (start.arrivals stream calls) : ℚ) ≤
        (start.limits stream).2 +
          (start.limits stream).1 * (later.clock - begun.clock) :=
    greedy.passedIn_le limited.le (zero_le_one.trans burstPositive)
      (sub_nonneg.mpr since.later)
  have total :
      ((Node.liveOf stream frames).length : ℚ) ≤
        (Node.scannedFrame env begun.node).length +
          TokenBucket.passedIn begun.clock (later.clock - begun.clock)
            (start.arrivals stream calls) := by
    exact_mod_cast Nat.le_trans fewer (Nat.add_le_add_left inWindow _)
  linarith

/-- Two messages a second, one at a time. -/
def steadyConfig : RateLimitConfig :=
  ⟨2, 1, ""⟩

/-- A client follows a stream, and two messages are published. -/
def steadyBegun : MeteredNode :=
  (execute (step Node.newsEnv) (fun _ _ => True)
    (initial Node.newsEnv .empty 0 (buildRateLimiter steadyConfig) 0)
    (List.map .node
      (Node.newsConnect ++ Node.newsSubscribe ++
        [Node.newsPublish, Node.newsPublish]))).get
    (by decide +kernel)

/-- The first one is delivered, and the second one comes too early. -/
def steadyLater : MeteredNode :=
  (execute (step Node.newsEnv) (fun _ action => seeks action = false)
    steadyBegun
    [.next 0, .node .fanDeliver, .node .fanRelease, .next (1 / 4)]).get
    (by decide +kernel)

theorem steadyBegun_reached :
    Reaches (step Node.newsEnv) (fun _ _ => True)
      (initial Node.newsEnv .empty 0 (buildRateLimiter steadyConfig) 0)
      steadyBegun :=
  reaches_execute_get _

theorem steadyLater_reached :
    Reaches (step Node.newsEnv) (fun _ action => seeks action = false)
      steadyBegun steadyLater :=
  reaches_execute_get _

theorem live_rate_is_bounded_steady :
    ∃ frames,
      steadyLater.node.liveSent 1 = steadyBegun.node.liveSent 1 ++ frames ∧
        ((Node.liveOf "news" frames).length : ℚ) ≤ 1 + 2 * (1 / 4) := by
  have built : buildRateLimiter steadyConfig = some (limiterOf 2 1 ∅) := rfl
  have limits : (limiterOf 2 1 ∅).limits "news" = (2, 1) := by
    decide +kernel
  have elapsed : steadyLater.clock - steadyBegun.clock = 1 / 4 := by
    decide +kernel
  have idle : Node.scannedFrame Node.newsEnv steadyBegun.node = [] := by
    decide +kernel
  have bounded :=
    live_rate_is_bounded built (by rw [limits]; norm_num) steadyBegun_reached
      steadyLater_reached 1
  rw [limits, elapsed, idle, List.length_nil, Nat.cast_zero, add_zero]
    at bounded
  exact bounded

/-- No message is lost without being counted.  Of the messages of a stream that
are handed to the fan-out loop, those it does not fan out are the ones that
`stream_rate_limited_total` counts for the stream, and without a limiter there
are none.  Handed out once and in order, they are the messages that the loop
passes in the log. -/
theorem rate_limited_is_exact (within : cursor ≤ log.messages.length)
    (before : Reaches (step env) (fun _ _ => True)
      (initial env log cursor limiter clock) begun)
    (run : Reaches (step env) allowed begun later) :
    ∃ passed fanned,
      later.taken = begun.taken ++ passed ∧
        ((∀ source action, allowed source action → seeks action = false) →
          later.node.log.messages.take later.node.cursor =
            begun.node.log.messages.take begun.node.cursor ++ passed) ∧
        later.node.fanned = begun.node.fanned ++ fanned ∧
        fanned.Sublist passed ∧
        (∀ stream,
          passed.countP (·.stream = stream) + begun.rateLimited stream =
            fanned.countP (·.stream = stream) + later.rateLimited stream) ∧
        (later.limiter = none → fanned = passed) := by
  obtain ⟨passed, fanned, answers, since⟩ := since_of_reaches run
  refine ⟨passed, fanned, since.isPassed, ?_, since.isFanned, since.sublist,
    since.limited, since.unlimited⟩
  intro inOrder
  obtain ⟨read, isTaken, isRead⟩ :=
    taken_of_reaches within before run inOrder
  obtain rfl : read = passed :=
    List.append_cancel_left (isTaken.symm.trans since.isPassed)
  exact isRead

theorem rate_limited_is_exact_steady :
    steadyLater.rateLimited "news" = 1 ∧
      ∃ passed fanned,
        steadyLater.taken = steadyBegun.taken ++ passed ∧
          steadyLater.node.log.messages.take steadyLater.node.cursor =
            steadyBegun.node.log.messages.take steadyBegun.node.cursor ++
              passed ∧
          steadyLater.node.fanned = steadyBegun.node.fanned ++ fanned ∧
          passed.countP (·.stream = "news") +
              steadyBegun.rateLimited "news" =
            fanned.countP (·.stream = "news") +
              steadyLater.rateLimited "news" := by
  refine ⟨by decide +kernel, ?_⟩
  obtain ⟨passed, fanned, isTaken, isPassed, isFanned, -, exact, -⟩ :=
    rate_limited_is_exact (Nat.le_refl 0) steadyBegun_reached
      steadyLater_reached
  have inOrder :
      ∀ (_ : MeteredNode) (action : MeteredAction),
        seeks action = false → seeks action = false :=
    fun _ _ noSeek => noSeek
  exact ⟨passed, fanned, isTaken, isPassed inOrder, isFanned, exact "news"⟩

end

end MeteredNode

end TurbocableServer.Gateway
