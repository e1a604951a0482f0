import TurbocableServer.Gateway.HandOver
import TurbocableServer.Gateway.MeteredFanout
import TurbocableServer.Pubsub.FanoutOrder

/-!
# A node and its durable consumer

The path of a message through a node: JetStream hands it out to the stream of
the fan-out loop, `process_nats_message` takes it, and a task acknowledges it
once that has returned.  It is the durable consumer that puts the fan-out of the
node to a place of the log, so what JetStream may do decides which runs the node
has.
-/

namespace TurbocableServer.Gateway

open Foundations Protocol Pubsub Connection Fanout

/-- A node with the loop and the consumer that feed it.  While it is `busy`, the
loop is in `process_nats_message` with the first message of its stream. -/
structure FedNode where
  metered : MeteredNode
  loop : FanoutLoop
  busy : Bool

inductive FedAction where
  | node (action : MeteredAction)
  | consumer (action : LoopAction)
  | begin (pause : ℚ)
  | finish

/-- The action takes a message of the log, or goes to another place of it. -/
def takesMessage : MeteredAction → Bool
  | .next _ => true
  | action => MeteredNode.seeks action

/-- What JetStream, the network and the ack tasks do beside the loop.  The loop
does not look at its stream while it processes a message. -/
def runsBeside (busy : Bool) : LoopAction → Bool
  | .connect _ | .handOut _ | .redeliver _ _ | .wake | .ack _ _ => true
  | .breakOff => !busy
  | .publish _ _ | .process | .restart _ => false

/-- JetStream hands out a message again. -/
def redelivers : FedAction → Bool
  | .consumer (.redeliver _ _) => true
  | _ => false

namespace FedNode

/-- The node starts where its consumer stands. -/
def initial (env : Environment) (loop : FanoutLoop)
    (limiter : Option StreamRateLimiter) (clock : ℚ) : FedNode where
  metered := .initial env loop.log loop.consumer.passed limiter clock
  loop := loop
  busy := false

section

variable (env : Environment) (state : FedNode)

/-- `process_nats_message` begins with the message at `position`. -/
def takeMessage (pause : ℚ) (position : Nat) : Option FedNode :=
  ((state.metered.step env (.node (.seek position))).bind
    (fun sought => sought.step env (.next pause))).map
      (fun metered => { state with metered := metered, busy := true })

def step : FedAction → Option FedNode
  | .node action =>
      if takesMessage action then
        none
      else
        (state.metered.step env action).map (fun metered =>
          { state with
            metered := metered
            loop := { state.loop with log := metered.node.log } })
  | .consumer action =>
      if runsBeside state.busy action then
        (state.loop.step action).map (fun loop => { state with loop := loop })
      else
        none
  | .begin pause =>
      if state.busy = false ∧ state.loop.pc = .consuming then
        state.loop.inbox.head?.bind (takeMessage env state pause)
      else
        none
  | .finish =>
      -- the ack task is spawned once the message has been processed
      if state.busy = true ∧ state.metered.node.sys.fan = .idle then
        (state.loop.step .process).map
          (fun loop => { state with loop := loop, busy := false })
      else
        none

end

/-! ## Inversion -/

inductive Steps (env : Environment) (state : FedNode) :
    FedAction → FedNode → Prop
  | node (action : MeteredAction) (metered : MeteredNode) :
      takesMessage action = false →
      state.metered.step env action = some metered →
      Steps env state (.node action)
        { state with
          metered := metered
          loop := { state.loop with log := metered.node.log } }
  | consumer (action : LoopAction) (loop : FanoutLoop) :
      runsBeside state.busy action = true →
      state.loop.step action = some loop →
      Steps env state (.consumer action) { state with loop := loop }
  | begin (pause : ℚ) (position : Nat) (rest : List Nat)
      (sought metered : MeteredNode) :
      state.busy = false → state.loop.pc = .consuming →
      state.loop.inbox = position :: rest →
      state.metered.step env (.node (.seek position)) = some sought →
      sought.step env (.next pause) = some metered →
      Steps env state (.begin pause)
        { state with metered := metered, busy := true }
  | finish (loop : FanoutLoop) :
      state.busy = true → state.metered.node.sys.fan = .idle →
      state.loop.step .process = some loop →
      Steps env state .finish { state with loop := loop, busy := false }

variable {env : Environment} {state next : FedNode} {action : FedAction}

theorem steps_of_step (moved : state.step env action = some next) :
    Steps env state action next := by
  cases action with
  | node action =>
      simp only [step] at moved
      split at moved
      · cases moved
      · rename_i quiet
        obtain ⟨metered, stepped, rfl⟩ := Option.map_eq_some_iff.mp moved
        exact .node action metered (Bool.eq_false_of_not_eq_true quiet) stepped
  | consumer action =>
      simp only [step] at moved
      split at moved
      · rename_i beside
        obtain ⟨loop, stepped, rfl⟩ := Option.map_eq_some_iff.mp moved
        exact .consumer action loop beside stepped
      · cases moved
  | begin pause =>
      simp only [step] at moved
      split at moved
      · rename_i ready
        obtain ⟨position, isHead, taken⟩ := Option.bind_eq_some_iff.mp moved
        obtain ⟨rest, isInbox⟩ := List.head?_eq_some_iff.mp isHead
        obtain ⟨metered, stepped, rfl⟩ := Option.map_eq_some_iff.mp taken
        obtain ⟨sought, isSought, isNext⟩ :=
          Option.bind_eq_some_iff.mp stepped
        exact .begin pause position rest sought metered ready.1 ready.2 isInbox
          isSought isNext
      · cases moved
  | finish =>
      simp only [step] at moved
      split at moved
      · rename_i ready
        obtain ⟨loop, stepped, rfl⟩ := Option.map_eq_some_iff.mp moved
        exact .finish loop ready.1 ready.2 stepped
      · cases moved

/-- What the two moves at the beginning of `process_nats_message` do. -/
theorem taken_of_begin {metered sought after : MeteredNode} {position : Nat}
    {pause : ℚ}
    (isSought : metered.step env (.node (.seek position)) = some sought)
    (isNext : sought.step env (.next pause) = some after) :
    after.node.log = metered.node.log ∧
      ∃ message, metered.node.log.messages[position]? = some message ∧
        after.taken = metered.taken ++ [message] := by
  cases MeteredNode.steps_of_step isSought with
  | quiet _ node notNext stepped =>
      have passed {message : StoredMessage} {allow : Bool}
          (passes : MeteredNode.Passes env { metered with node := node } pause
            message allow after) :
          after.node.log = metered.node.log ∧
            ∃ message, metered.node.log.messages[position]? = some message ∧
              after.taken = metered.taken ++ [message] := by
        have sameLog := (Node.fanNext_of_step passes.moved passes.present).1
        have present := passes.present
        cases Node.steps_of_step stepped with
        | seek _ idle within =>
            exact ⟨sameLog, message, present, passes.taken⟩
        | onSession _ _ _ _ isLocal _ => cases isLocal
      cases MeteredNode.steps_of_step isNext with
      | unlimited _ message _ passes => exact passed passes
      | checked _ message limiter call _ isCall passes => exact passed passes

/-- A step of the node between two messages. -/
theorem quiet_of_node {metered after : MeteredNode} {label : MeteredAction}
    (quiet : takesMessage label = false)
    (moved : metered.step env label = some after) :
    after.taken = metered.taken ∧
      (after.node = metered.node ∨
        ∃ move, (∀ allow, move ≠ .fanNext allow) ∧
          metered.node.step env move = some after.node) := by
  cases MeteredNode.steps_of_step moved with
  | quiet move node notNext stepped =>
      exact ⟨rfl, Or.inr ⟨move, notNext, stepped⟩⟩
  | waited elapsed nonnegative => exact ⟨rfl, Or.inl rfl⟩
  | unlimited pause message _ passes => cases quiet
  | checked pause message limiter call _ isCall passes => cases quiet

/-! ## The messages of the node are those of its loop -/

/-- The place of the message that is being processed. -/
def inHand (state : FedNode) : List Nat :=
  if state.busy then state.loop.inbox.head?.toList else []

/-- The messages at the given places of the log. -/
def Stored (log : MessageLog) (positions : List Nat)
    (messages : List StoredMessage) : Prop :=
  positions.map (fun position => log.messages[position]?) =
    messages.map some

theorem Stored.grows {log longer : MessageLog} {positions : List Nat}
    {messages : List StoredMessage} (stored : Stored log positions messages)
    (grown : log.messages <+: longer.messages) :
    Stored longer positions messages := by
  unfold Stored
  rw [← stored]
  apply List.map_congr_left
  intro position member
  have isStored := List.mem_map_of_mem member (f := (log.messages[·]?))
  rw [stored] at isStored
  obtain ⟨message, -, isMessage⟩ := List.mem_map.mp isStored
  obtain ⟨added, extended⟩ := grown
  have within := (List.getElem?_eq_some_iff.mp isMessage.symm).1
  rw [← extended, List.getElem?_append_left within]

theorem Stored.append {log : MessageLog} {positions : List Nat}
    {messages : List StoredMessage} (stored : Stored log positions messages)
    {position : Nat} {message : StoredMessage}
    (present : log.messages[position]? = some message) :
    Stored log (positions ++ [position]) (messages ++ [message]) := by
  unfold Stored at stored ⊢
  rw [List.map_append, List.map_append, stored, List.map_singleton,
    List.map_singleton, present]

/-- The node is handed the messages at the places that its loop processes, in
the same order, since the loop stood at `begun`. -/
structure Fed (begun : FanoutLoop) (state : FedNode) : Prop where
  sameLog : state.metered.node.log = state.loop.log
  working :
    state.busy = true →
      state.loop.pc = .consuming ∧
        ∃ position rest, state.loop.inbox = position :: rest
  scanning :
    ∀ stream todo evicted,
      state.metered.node.sys.fan = .scanning stream todo evicted →
        state.busy = true
  exists_positions :
    ∃ positions,
      state.loop.processed = begun.processed ++ positions ∧
        Stored state.loop.log (positions ++ state.inHand) state.metered.taken

variable {begun : FanoutLoop}

theorem fed_initial (env : Environment) (begun : FanoutLoop)
    (limiter : Option StreamRateLimiter) (clock : ℚ) :
    (initial env begun limiter clock).Fed begun where
  sameLog := rfl
  working := by
    intro isBusy
    cases isBusy
  scanning := by
    intro stream todo evicted scans
    cases scans
  exists_positions := ⟨[], (List.append_nil _).symm, rfl⟩

/-- Beside the loop nothing is processed, and the message in hand stays the
first one of the stream. -/
theorem beside_of_step {loop after : FanoutLoop} {label : LoopAction}
    {busy : Bool} (beside : runsBeside busy label = true)
    (working :
      busy = true →
        loop.pc = .consuming ∧ ∃ position rest, loop.inbox = position :: rest)
    (moved : loop.step label = some after) :
    after.log = loop.log ∧ after.processed = loop.processed ∧
      (busy = true →
        after.pc = .consuming ∧
          ∃ position rest later,
            loop.inbox = position :: rest ∧
              after.inbox = position :: later) := by
  have received (arrives : Bool) (position : Nat) (source : FanoutLoop)
      (samePc : source.pc = loop.pc) (sameInbox : source.inbox = loop.inbox)
      (isBusy : busy = true) :
      (source.receive arrives position).pc = .consuming ∧
        ∃ first rest later,
          loop.inbox = first :: rest ∧
            (source.receive arrives position).inbox = first :: later := by
    obtain ⟨consuming, first, rest, isInbox⟩ := working isBusy
    unfold FanoutLoop.receive
    split
    · refine ⟨samePc.trans consuming, first, rest, rest ++ [position],
        isInbox, ?_⟩
      rw [sameInbox, isInbox]
      rfl
    · exact ⟨samePc.trans consuming, first, rest, rest, isInbox,
        sameInbox.trans isInbox⟩
  have kept (isBusy : busy = true) :
      loop.pc = .consuming ∧
        ∃ first rest later,
          loop.inbox = first :: rest ∧ loop.inbox = first :: later := by
    obtain ⟨consuming, first, rest, isInbox⟩ := working isBusy
    exact ⟨consuming, first, rest, rest, isInbox, isInbox⟩
  have idle (isPc : loop.pc ≠ .consuming) : ¬ busy = true :=
    fun isBusy => isPc (working isBusy).1
  cases FanoutLoop.steps_of_step moved with
  | connected connecting | notConnected connecting =>
      exact ⟨rfl, rfl, fun isBusy =>
        absurd isBusy (idle (by simp [connecting]))⟩
  | handOut arrives room stored =>
      exact ⟨by simp, by simp, received arrives _ _ rfl rfl⟩
  | redeliver position arrives unacked =>
      exact ⟨by simp, by simp, received arrives position loop rfl rfl⟩
  | breakOff consuming =>
      refine ⟨rfl, rfl, fun isBusy => ?_⟩
      rw [isBusy] at beside
      cases beside
  | wake sleeping =>
      exact ⟨rfl, rfl, fun isBusy =>
        absurd isBusy (idle (by simp [sleeping]))⟩
  | acknowledged index position present => exact ⟨rfl, rfl, kept⟩
  | ackFailed index position present => exact ⟨rfl, rfl, kept⟩
  | publish subject payload | process position rest consuming isInbox
  | restart | renamed => cases beside

theorem Fed.step (fed : state.Fed begun) (steps : Steps env state action next) :
    next.Fed begun := by
  obtain ⟨positions, isProcessed, stored⟩ := fed.exists_positions
  cases steps with
  | node label metered quiet moved =>
      obtain ⟨sameTaken, isMove⟩ := quiet_of_node quiet moved
      have grown :
          state.loop.log.messages <+: metered.node.log.messages := by
        rw [← fed.sameLog]
        rcases isMove with same | ⟨move, notNext, stepped⟩
        · rw [same]
        · exact (Node.steps_of_step stepped).logMove.log_grows
      refine ⟨rfl, fed.working, ?_, positions, isProcessed, ?_⟩
      · intro stream todo evicted scans
        rcases isMove with same | ⟨move, notNext, stepped⟩
        · rw [same] at scans
          exact fed.scanning stream todo evicted scans
        · have sameFanned := Node.fanned_of_not_fanNext stepped notNext
          rcases (Node.steps_of_step stepped).scanning scans with
            ⟨before, refused, was, -, -⟩ | ⟨message, -, -, -, -, -, extended⟩
          · exact fed.scanning stream before refused was
          · rw [sameFanned] at extended
            simp at extended
      · rw [sameTaken]
        exact stored.grows grown
  | consumer label loop beside moved =>
      obtain ⟨sameLog, sameProcessed, keeps⟩ :=
        beside_of_step beside fed.working moved
      have sameHand : ({ state with loop := loop } : FedNode).inHand =
          state.inHand := by
        unfold inHand
        dsimp only
        split
        · rename_i isBusy
          obtain ⟨-, position, rest, later, isInbox, isNext⟩ := keeps isBusy
          rw [isInbox, isNext]
          rfl
        · rfl
      refine ⟨fed.sameLog.trans sameLog.symm, ?_, fed.scanning, positions,
        sameProcessed.trans isProcessed, ?_⟩
      · intro isBusy
        obtain ⟨consuming, position, rest, later, -, isNext⟩ := keeps isBusy
        exact ⟨consuming, position, later, isNext⟩
      · rw [sameHand]
        dsimp only
        rw [sameLog]
        exact stored
  | begin pause position rest sought metered notBusy consuming isInbox isSought
      isNext =>
      obtain ⟨sameLog, message, present, isTaken⟩ :=
        taken_of_begin isSought isNext
      have noHand : state.inHand = [] := by
        rw [inHand, notBusy]
        rfl
      have oneHand :
          ({ state with metered := metered, busy := true } : FedNode).inHand =
            [position] := by
        simp only [inHand, isInbox]
        rfl
      refine ⟨sameLog.trans fed.sameLog, fun _ => ⟨consuming, position, rest,
        isInbox⟩, fun _ _ _ _ => rfl, positions, isProcessed, ?_⟩
      rw [noHand, List.append_nil] at stored
      rw [fed.sameLog] at present
      rw [oneHand, isTaken]
      exact stored.append present
  | finish loop isBusy idle moved =>
      cases FanoutLoop.steps_of_step moved with
      | process position rest consuming isInbox =>
          have oneHand : state.inHand = [position] := by
            rw [inHand, isBusy, isInbox]
            rfl
          refine ⟨fed.sameLog, fun stillBusy => Bool.noConfusion stillBusy, ?_,
            positions ++ [position], ?_, ?_⟩
          · intro stream todo evicted scans
            rw [idle] at scans
            cases scans
          · rw [isProcessed, List.append_assoc]
          · rw [oneHand] at stored
            exact (List.append_nil _).symm ▸ stored

/-- The step of the loop in a step of the whole. -/
theorem Fed.loop_step (fed : state.Fed begun)
    (steps : Steps env state action next) :
    next.loop = state.loop ∨
      ∃ label,
        (redelivers action = false → state.loop.HandsOutOnce label) ∧
          state.loop.step label = some next.loop := by
  cases steps with
  | node label metered quiet moved =>
      obtain ⟨-, isMove⟩ := quiet_of_node quiet moved
      have cases_log :
          metered.node.log = state.loop.log ∨
            ∃ subject payload,
              metered.node.log = state.loop.log.publish subject payload := by
        rw [← fed.sameLog]
        rcases isMove with same | ⟨move, notNext, stepped⟩
        · exact Or.inl (by rw [same])
        · exact (Node.steps_of_step stepped).logMove.log_cases
      rcases cases_log with same | ⟨subject, payload, isPublish⟩
      · left
        dsimp only
        rw [same]
      · right
        refine ⟨.publish subject payload, fun _ => trivial, ?_⟩
        dsimp only
        rw [isPublish]
        rfl
  | consumer label loop beside moved =>
      refine Or.inr ⟨label, fun once => ?_, moved⟩
      cases label with
      | redeliver position arrives => cases once
      | restart sameNode => cases beside
      | _ => trivial
  | begin pause position rest sought metered notBusy consuming isInbox isSought
      isNext =>
      exact Or.inl rfl
  | finish loop isBusy idle moved =>
      exact Or.inr ⟨.process, fun _ => trivial, moved⟩

/-! ## Runs -/

section

variable {log : MessageLog} {window : Option Nat}
variable {limiter : Option StreamRateLimiter} {clock : ℚ}
variable {allowed : FedNode → FedAction → Prop} {stopped : FanoutLoop}

theorem fed_of_reaches
    (run : Reaches (step env) allowed (initial env begun limiter clock)
      state) : state.Fed begun :=
  run.invariant (fun _ _ _ _ moved fed => fed.step (steps_of_step moved))
    (fed_initial env begun limiter clock)

/-- A run of the whole is a run of the loop. -/
theorem loop_reaches
    (run : Reaches (step env) allowed (initial env begun limiter clock)
      state) :
    Reaches FanoutLoop.step
      (fun loop label =>
        (∀ source action, allowed source action →
          redelivers action = false) → loop.HandsOutOnce label)
      begun state.loop := by
  induction run with
  | refl => exact Reaches.refl begun
  | tail before last ih =>
      obtain ⟨label, isAllowed, moved⟩ := last
      rcases (fed_of_reaches before).loop_step (steps_of_step moved) with
        same | ⟨action, once, stepped⟩
      · rw [same]
        exact ih
      · exact ih.tail (fun never => once (never _ _ isAllowed)) stepped

/-- A run of the whole is a run of the metered node. -/
theorem metered_reaches
    (run : Reaches (step env) allowed (initial env begun limiter clock)
      state) :
    Reaches (MeteredNode.step env) (fun _ _ => True)
      (.initial env begun.log begun.consumer.passed limiter clock)
      state.metered := by
  induction run with
  | refl => exact Reaches.refl _
  | tail before last ih =>
      obtain ⟨label, -, moved⟩ := last
      cases steps_of_step moved with
      | node action metered quiet stepped =>
          exact ih.tail trivial stepped
      | consumer action loop beside stepped => exact ih
      | begin pause position rest sought metered notBusy consuming isInbox
          isSought isNext =>
          exact (ih.tail trivial isSought).tail trivial isNext
      | finish loop isBusy idle stepped => exact ih

/-- The first of two messages is fanned out to a client. -/
def firstFedActions : List FedAction :=
  List.map (fun action => .node (.node action))
      (Node.newsConnect ++ Node.newsSubscribe ++
        [Node.newsPublish, Node.newsPublish]) ++
    [.consumer (.connect true), .consumer (.handOut true), .begin 0,
      .node (.node .fanDeliver), .node (.node .fanRelease), .finish]

/-- The message in hand is the first one of the stream. -/
theorem inHand_sublist (state : FedNode) :
    state.inHand.Sublist state.loop.inbox := by
  unfold inHand
  split
  · cases state.loop.inbox with
    | nil => exact List.Sublist.refl _
    | cons position rest =>
        exact List.Sublist.cons_cons position (List.nil_sublist rest)
  · exact List.nil_sublist _

/-- What lies at increasing places is a part of the log. -/
theorem Stored.sublist_log {messages : List StoredMessage}
    {positions : List Nat} (stored : Stored log positions messages)
    (increasing : positions.Pairwise (· < ·)) {bound : Nat}
    (below : ∀ position, position ∈ positions → position < bound) :
    messages.Sublist log.messages := by
  have isTaken :
      messages =
        positions.filterMap (fun position => log.messages[position]?) := by
    have mapped := congrArg (List.filterMap id) stored
    rw [List.filterMap_map, List.filterMap_map] at mapped
    simpa using mapped.symm
  rw [isTaken]
  exact (FanoutLoop.filterMap_getElem?_sublist log.messages positions
    increasing bound below).trans (List.take_sublist _ _)

/-- As long as nothing is handed out again, the node is handed the messages in
the order of the log. -/
theorem taken_sublist_log (empty : begun.inbox = [])
    (run : Reaches (step env) (fun _ action => redelivers action = false)
      (initial env begun limiter clock) state) :
    state.metered.taken.Sublist state.loop.log.messages := by
  have loopRun :=
    (loop_reaches run).weaken
      (fun _ _ once => once (fun _ _ isAllowed => isAllowed))
  obtain ⟨recent, isRecent, increasing, handed⟩ :=
    FanoutLoop.ordered_of_reaches empty loopRun
  obtain ⟨positions, isProcessed, stored⟩ :=
    (fed_of_reaches run).exists_positions
  obtain rfl : recent = positions :=
    List.append_cancel_left (isRecent.symm.trans isProcessed)
  have part : (recent ++ state.inHand).Sublist (recent ++ state.loop.inbox) :=
    (List.Sublist.refl recent).append state.inHand_sublist
  exact stored.sublist_log (increasing.sublist part)
    (fun position member => handed position (part.subset member))

/-- As long as JetStream hands nothing out again to a node that runs, every
socket of it carries the live frames of a stream in the order of the log, each
at most once, whatever streams fail and messages get lost. -/
theorem live_in_log_order {sameNode : Bool}
    (restarted : stopped.step (.restart sameNode) = some begun)
    (run : Reaches (step env) (fun _ action => redelivers action = false)
      (initial env begun limiter clock) state)
    (conn : ConnId) (stream : String) :
    (Node.feedOf env stream state.loop.log.messages).Nodup ∧
      (writtenOf (isLiveOf stream)
        (state.metered.node.sessions conn).out.socket).Sublist
        (Node.feedOf env stream state.loop.log.messages) := by
  have empty : begun.inbox = [] := by
    obtain rfl := Option.some.inj restarted
    rfl
  refine ⟨Node.nodup_feedOf env stream state.loop.log, ?_⟩
  have meteredRun := metered_reaches run
  obtain ⟨passed, fanned, answers, since⟩ :=
    MeteredNode.since_of_reaches meteredRun
  have isFanned : state.metered.node.fanned = fanned := since.isFanned
  have isPassed : state.metered.taken = passed := since.isPassed
  have inLog :
      state.metered.node.fanned.Sublist state.loop.log.messages := by
    rw [isFanned]
    exact since.sublist.trans (isPassed ▸ taken_sublist_log empty run)
  exact (Node.written_sublist_fanned (MeteredNode.node_reaches meteredRun) conn
    stream).trans (Node.feedOf_sublist inLog)

/-- The second message is lost on its way, and the stream fails before the
third. -/
def lossyFeed : FedNode :=
  (execute (step Node.newsEnv) (fun _ action => redelivers action = false)
    (initial Node.newsEnv (.start .empty none) none 0)
    (firstFedActions ++
      [.consumer (.handOut false), .consumer .breakOff, .consumer .wake,
        .node (.node Node.newsPublish), .consumer (.connect true),
        .consumer (.handOut true), .begin 0, .node (.node .fanDeliver),
        .node (.node .fanRelease), .finish] ++
      List.map (fun action => .node (.node action)) (Node.newsWrite 3))).get
    (by decide +kernel)

theorem live_in_log_order_lossy :
    lossyFeed.loop.processed = [0, 2] ∧
      (writtenOf (isLiveOf "news")
        (lossyFeed.metered.node.sessions 1).out.socket).length = 2 ∧
      (writtenOf (isLiveOf "news")
        (lossyFeed.metered.node.sessions 1).out.socket).Sublist
        (Node.feedOf Node.newsEnv "news" lossyFeed.loop.log.messages) := by
  have run :
      Reaches (step Node.newsEnv) (fun _ action => redelivers action = false)
        (initial Node.newsEnv (.start .empty none) none 0) lossyFeed :=
    reaches_execute_get _
  have restarted :
      (FanoutLoop.start .empty none).step (.restart true) =
        some (FanoutLoop.start .empty none) :=
    rfl
  exact ⟨by decide +kernel, by decide +kernel,
    (live_in_log_order restarted run 1 "news").2⟩

end

end FedNode

end TurbocableServer.Gateway
