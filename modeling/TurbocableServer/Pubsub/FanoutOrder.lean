import Mathlib.Data.Finset.Card
import TurbocableServer.Pubsub.FanoutLoop

/-!
# What the fan-out loop processes again, and in which order

A message that was processed comes again when its acknowledgement did not
arrive.  Under one node id this is confined to what is not acknowledged, and as
long as JetStream hands nothing out again the messages are processed in the
order of the log.
-/

namespace TurbocableServer.Pubsub.FanoutLoop

open Foundations

variable {loop next begun : FanoutLoop} {action : LoopAction}
variable {log : MessageLog} {window : Option Nat}

/-- The node keeps its id. -/
def KeepsNode (_ : FanoutLoop) (action : LoopAction) : Prop :=
  action ≠ .restart false

instance (loop : FanoutLoop) (action : LoopAction) :
    Decidable (loop.KeepsNode action) :=
  inferInstanceAs (Decidable (action ≠ .restart false))

/-! ## Settled messages -/

/-- The message will not come again. -/
structure Settled (position : Nat) (loop : FanoutLoop) : Prop where
  below : position < loop.consumer.passed
  acknowledged : position ∉ loop.consumer.unacked
  absent : position ∉ loop.inbox

theorem Settled.step {position : Nat} (settled : loop.Settled position)
    (keeps : action ≠ .restart false) (steps : Steps loop action next) :
    next.Settled position := by
  obtain ⟨below, acknowledged, absent⟩ := settled
  cases steps with
  | handOut arrives room stored =>
      have notLast : position ≠ loop.consumer.passed := Nat.ne_of_lt below
      refine ⟨?_, ?_, ?_⟩
      · rw [receive_consumer]
        exact Nat.lt_succ_of_lt below
      · rw [receive_consumer]
        simp [AckCursor.handOut, acknowledged, notLast]
      · intro member
        rcases mem_inbox_receive member with before | isLast
        · exact absent before
        · exact notLast isLast
  | redeliver other arrives unacked =>
      refine ⟨by simpa using below, by simpa using acknowledged, ?_⟩
      intro member
      rcases mem_inbox_receive member with before | isOther
      · exact absent before
      · rw [isOther] at acknowledged
        exact acknowledged unacked
  | process other rest consuming isInbox =>
      refine ⟨below, acknowledged, ?_⟩
      intro member
      apply absent
      rw [isInbox]
      exact List.mem_cons_of_mem other member
  | acknowledged index other present =>
      refine ⟨below, ?_, absent⟩
      intro member
      exact acknowledged (AckCursor.mem_unacked_acknowledge.mp member).2
  | renamed => exact absurd rfl keeps
  | publish subject payload | notConnected connecting | wake sleeping
  | ackFailed index other present => exact ⟨below, acknowledged, absent⟩
  -- a new stream and one that is dropped are empty
  | _ => exact ⟨below, acknowledged, List.not_mem_nil⟩

/-- Only what waits in the stream is processed. -/
theorem Steps.processed_cases (steps : Steps loop action next) :
    next.processed = loop.processed ∨
      ∃ position, position ∈ loop.inbox ∧
        next.processed = loop.processed ++ [position] := by
  cases steps with
  | handOut arrives room stored => exact Or.inl (by simp)
  | redeliver position arrives unacked => exact Or.inl (by simp)
  | process position rest consuming isInbox =>
      refine Or.inr ⟨position, ?_, rfl⟩
      rw [isInbox]
      exact List.mem_cons_self
  | _ => exact Or.inl rfl

/-- `recent` was processed since `begun`, and nothing that was settled then. -/
structure Since (begun : FanoutLoop) (recent : List Nat) (loop : FanoutLoop) :
    Prop where
  processed_eq : loop.processed = begun.processed ++ recent
  fresh : ∀ position, begun.Settled position → position ∉ recent
  settled : ∀ position, begun.Settled position → loop.Settled position

theorem since_self (begun : FanoutLoop) : begun.Since [] begun where
  processed_eq := (List.append_nil _).symm
  fresh := fun _ _ => List.not_mem_nil
  settled := fun _ isSettled => isSettled

theorem Since.step {recent : List Nat} (since : begun.Since recent loop)
    (keeps : action ≠ .restart false) (steps : Steps loop action next) :
    ∃ later, begun.Since later next := by
  have stillSettled (position : Nat) (isSettled : begun.Settled position) :
      next.Settled position :=
    (since.settled position isSettled).step keeps steps
  rcases steps.processed_cases with same | ⟨position, waits, extended⟩
  · exact ⟨recent, same.trans since.processed_eq, since.fresh, stillSettled⟩
  · refine ⟨recent ++ [position], ?_, ?_, stillSettled⟩
    · rw [extended, since.processed_eq, List.append_assoc]
    · intro other isSettled member
      rcases List.mem_append.mp member with before | isLast
      · exact since.fresh other isSettled before
      · have absent := (since.settled other isSettled).absent
        rw [List.mem_singleton.mp isLast] at absent
        exact absent waits

theorem since_of_reaches (run : Reaches step KeepsNode begun loop) :
    ∃ recent, begun.Since recent loop := by
  have kept :
      ∀ source action target, KeepsNode source action →
        FanoutLoop.step source action = some target →
        (∃ recent, begun.Since recent source) →
          ∃ recent, begun.Since recent target := by
    intro source action target keeps moved exists_since
    obtain ⟨recent, since⟩ := exists_since
    exact since.step keeps (steps_of_step moved)
  exact run.invariant kept ⟨[], since_self begun⟩

/-! ## Restarts -/

/-- What the node has processed and what waits in its stream was handed out. -/
def HandedOut (loop : FanoutLoop) : Prop :=
  ∀ position, position ∈ loop.processed ∨ position ∈ loop.inbox →
    position < loop.consumer.passed

theorem HandedOut.step (handed : loop.HandedOut)
    (keeps : action ≠ .restart false) (steps : Steps loop action next) :
    next.HandedOut := by
  intro position member
  cases steps with
  | handOut arrives room stored =>
      rw [receive_processed] at member
      rw [receive_consumer]
      rcases member with done | waits
      · exact Nat.lt_succ_of_lt (handed position (Or.inl done))
      · rcases mem_inbox_receive waits with before | isLast
        · exact Nat.lt_succ_of_lt (handed position (Or.inr before))
        · rw [isLast]
          exact Nat.lt_succ_self _
  | redeliver other arrives unacked =>
      rw [receive_processed] at member
      rw [receive_consumer]
      rcases member with done | waits
      · exact handed position (Or.inl done)
      · rcases mem_inbox_receive waits with before | isOther
        · exact handed position (Or.inr before)
        · rw [isOther]
          exact loop.consumer.below other unacked
  | process other rest consuming isInbox =>
      apply handed position
      rw [isInbox]
      rcases member with done | waits
      · rcases List.mem_append.mp done with before | isLast
        · exact Or.inl before
        · rw [List.mem_singleton.mp isLast]
          exact Or.inr List.mem_cons_self
      · exact Or.inr (List.mem_cons_of_mem other waits)
  | connected connecting | breakOff consuming | restart =>
      exact handed position (member.imp_right (by simp))
  | renamed => exact absurd rfl keeps
  | _ => exact handed position member

theorem handedOut_of_reaches
    (run : Reaches step KeepsNode (start log window) loop) :
    loop.HandedOut :=
  run.invariant
    (fun _ _ _ keeps moved handed => handed.step keeps (steps_of_step moved))
    (by simp [HandedOut, start])

/-- A node that is restarted under its id processes again only what was not
acknowledged when it stopped: at most `max_ack_pending` messages, however often
it processes them. -/
theorem restart_repeats_unacked {limit : Nat}
    (before : Reaches step KeepsNode (start log (some limit)) loop)
    (restarted : loop.step (.restart true) = some begun)
    (after : Reaches step KeepsNode begun next) :
    ∃ recent, next.processed = loop.processed ++ recent ∧
      (∀ position, position ∈ loop.processed → position ∈ recent →
        position ∈ loop.consumer.unacked) ∧
      (loop.processed.toFinset ∩ recent.toFinset).card ≤ limit := by
  obtain rfl := Option.some.inj restarted
  obtain ⟨recent, since⟩ := since_of_reaches after
  have confined :
      ∀ position, position ∈ loop.processed → position ∈ recent →
        position ∈ loop.consumer.unacked := by
    intro position done again
    by_contra acknowledged
    refine since.fresh position ⟨?_, acknowledged, List.not_mem_nil⟩ again
    exact handedOut_of_reaches before position (Or.inl done)
  refine ⟨recent, since.processed_eq, confined, ?_⟩
  have inside :
      loop.processed.toFinset ∩ recent.toFinset ⊆
        loop.consumer.unacked.toFinset := by
    intro position member
    rw [Finset.mem_inter, List.mem_toFinset, List.mem_toFinset] at member
    exact List.mem_toFinset.mpr (confined position member.1 member.2)
  calc (loop.processed.toFinset ∩ recent.toFinset).card
      ≤ loop.consumer.unacked.toFinset.card := Finset.card_le_card inside
    _ ≤ loop.consumer.unacked.length := List.toFinset_card_le _
    _ ≤ limit := loop.consumer.fits limit (window_of_reaches before)

/-- The node of `unackedRun` is restarted, and the message comes again. -/
def restartedLoop (sameNode : Bool) : FanoutLoop :=
  (unackedLoop.step (.restart sameNode)).get rfl

def repeatedLoop : FanoutLoop :=
  (execute step KeepsNode (restartedLoop true)
    [.connect true, .redeliver 0 true, .process]).get (by decide)

theorem restart_repeats_unacked_once :
    repeatedLoop.processed = [0, 0] ∧
      ∃ recent, repeatedLoop.processed = unackedLoop.processed ++ recent ∧
        (∀ position, position ∈ unackedLoop.processed → position ∈ recent →
          position ∈ unackedLoop.consumer.unacked) ∧
        (unackedLoop.processed.toFinset ∩ recent.toFinset).card ≤ 1 := by
  have ran :
      execute step KeepsNode (start .empty (some 1)) unackedRun =
        some unackedLoop :=
    rfl
  have restarted :
      unackedLoop.step (.restart true) = some (restartedLoop true) :=
    rfl
  have after : Reaches step KeepsNode (restartedLoop true) repeatedLoop :=
    reaches_execute_get _
  exact ⟨by decide,
    restart_repeats_unacked (reaches_of_execute ran) restarted after⟩

/-- A node that is restarted under a new id, as one without a configured id is,
processes the whole log again before it has caught up. -/
theorem renamed_repeats_log {allowed : FanoutLoop → LoopAction → Prop}
    (restarted : loop.step (.restart false) = some begun)
    (after : Reaches step allowed begun next)
    (acknowledged : next.consumer.unacked = [])
    (passed : next.consumer.passed = next.log.messages.length) :
    ∃ recent, next.processed = loop.processed ++ recent ∧
      ∀ position, position < next.log.messages.length →
        position ∈ recent := by
  obtain rfl := Option.some.inj restarted
  obtain ⟨recent, isProcessed, -, handed⟩ :=
    (accounted_of_reaches after (accounted_renamed loop)).exists_recent
  refine ⟨recent, isProcessed, ?_⟩
  intro position below
  rcases handed position (by omega) with done | unacked
  · exact done
  · rw [acknowledged] at unacked
    cases unacked

/-- The node gets a new id, and with it a consumer that starts from the
beginning. -/
def renamedLoop : FanoutLoop :=
  (execute step (fun _ _ => True) (restartedLoop false)
    [.connect true, .handOut true, .process, .ack 0 true]).get (by decide)

theorem renamed_repeats_log_once :
    ∃ recent, renamedLoop.processed = unackedLoop.processed ++ recent ∧
      ∀ position, position < renamedLoop.log.messages.length →
        position ∈ recent := by
  have restarted :
      unackedLoop.step (.restart false) = some (restartedLoop false) :=
    rfl
  have after :
      Reaches step (fun _ _ => True) (restartedLoop false) renamedLoop :=
    reaches_execute_get _
  exact renamed_repeats_log restarted after (by decide) (by decide)

/-! ## Order -/

/-- Under one id, nothing is handed out again. -/
def HandsOutOnce (_ : FanoutLoop) : LoopAction → Prop
  | .redeliver _ _ => False
  | .restart sameNode => sameNode = true
  | _ => True

instance (loop : FanoutLoop) :
    (action : LoopAction) → Decidable (loop.HandsOutOnce action)
  | .redeliver _ _ => inferInstanceAs (Decidable False)
  | .restart sameNode => inferInstanceAs (Decidable (sameNode = true))
  | .publish _ _ | .connect _ | .handOut _ | .process | .breakOff | .wake
  | .ack _ _ => inferInstanceAs (Decidable True)

/-- Since `begun`, what was processed and what waits is in the order of the
log. -/
def Ordered (begun loop : FanoutLoop) : Prop :=
  ∃ recent,
    loop.processed = begun.processed ++ recent ∧
      (recent ++ loop.inbox).Pairwise (· < ·) ∧
        ∀ position, position ∈ recent ++ loop.inbox →
          position < loop.consumer.passed

theorem ordered_of_nil {begun : FanoutLoop} (empty : begun.inbox = []) :
    Ordered begun begun := by
  refine ⟨[], (List.append_nil _).symm, ?_, ?_⟩
  · rw [empty]
    exact List.Pairwise.nil
  · intro position member
    rw [empty] at member
    cases member

theorem Ordered.step {begun : FanoutLoop} (ordered : Ordered begun loop)
    (once : loop.HandsOutOnce action) (steps : Steps loop action next) :
    Ordered begun next := by
  obtain ⟨recent, isProcessed, increasing, handed⟩ := ordered
  have emptied :
      (recent ++ []).Pairwise (· < ·) ∧
        ∀ position, position ∈ recent ++ [] →
          position < loop.consumer.passed := by
    rw [List.append_nil]
    exact ⟨(List.pairwise_append.mp increasing).1, fun position member =>
      handed position (List.mem_append_left _ member)⟩
  cases steps with
  | handOut arrives room stored =>
      have below :
          ∀ position, position ∈ recent ++ loop.inbox →
            position < loop.consumer.passed + 1 :=
        fun position member => Nat.lt_succ_of_lt (handed position member)
      refine ⟨recent, by rw [receive_processed, isProcessed], ?_⟩
      rw [receive_consumer]
      unfold receive
      split
      · dsimp only
        rw [← List.append_assoc]
        constructor
        · rw [List.pairwise_append]
          refine ⟨increasing, List.pairwise_singleton _ _, ?_⟩
          intro position member last isLast
          rw [List.mem_singleton.mp isLast]
          exact handed position member
        · intro position member
          rcases List.mem_append.mp member with before | isLast
          · exact below position before
          · rw [List.mem_singleton.mp isLast]
            exact Nat.lt_succ_self _
      · exact ⟨increasing, below⟩
  | redeliver position arrives unacked => cases once
  | process position rest consuming isInbox =>
      rw [isInbox, List.append_cons] at increasing handed
      exact ⟨recent ++ [position], by rw [isProcessed, List.append_assoc],
        increasing, handed⟩
  | connected connecting | breakOff consuming | restart =>
      exact ⟨recent, isProcessed, emptied⟩
  | renamed => cases once
  | _ => exact ⟨recent, isProcessed, increasing, handed⟩

theorem ordered_of_reaches {begun : FanoutLoop} (empty : begun.inbox = [])
    (run : Reaches step HandsOutOnce begun loop) : Ordered begun loop :=
  run.invariant
    (fun _ _ _ once moved ordered => ordered.step once (steps_of_step moved))
    (ordered_of_nil empty)

/-- Items at increasing positions are a part of the list. -/
theorem filterMap_getElem?_sublist {α : Type} (items : List α)
    (positions : List Nat) :
    positions.Pairwise (· < ·) →
      ∀ bound, (∀ position, position ∈ positions → position < bound) →
        (positions.filterMap (fun position => items[position]?)).Sublist
          (items.take bound) := by
  induction positions using List.reverseRecOn with
  | nil =>
      intro _ bound _
      exact List.nil_sublist _
  | append_singleton earlier last ih =>
      intro increasing bound below
      rw [List.pairwise_append] at increasing
      have beforeLast :
          (earlier.filterMap (fun position => items[position]?)).Sublist
            (items.take last) :=
        ih increasing.1 last (fun position member =>
          increasing.2.2 position member last (List.mem_singleton_self _))
      have lastBelow : last < bound :=
        below last (List.mem_append_right _ (List.mem_singleton_self _))
      have upToLast :
          ((earlier ++ [last]).filterMap
            (fun position => items[position]?)).Sublist
              (items.take (last + 1)) := by
        rw [List.filterMap_append, List.take_add_one]
        apply beforeLast.append
        cases isItem : items[last]? with
        | none => simp [isItem]
        | some item => simp [isItem]
      exact upToLast.trans (List.take_prefix_take_left lastBelow).sublist

/-- As long as nothing is handed out again, the messages are processed in the
order of the log, each at most once, whatever streams fail and messages get
lost. -/
theorem processed_in_log_order
    (run : Reaches step HandsOutOnce (start log window) loop) :
    loop.processedMessages.Sublist loop.log.messages := by
  obtain ⟨recent, isProcessed, increasing, handed⟩ :=
    ordered_of_reaches rfl run
  have isRecent : loop.processed = recent := isProcessed
  have inLog :=
    filterMap_getElem?_sublist loop.log.messages recent
      (List.pairwise_append.mp increasing).1 loop.consumer.passed
      (fun position member => handed position (List.mem_append_left _ member))
  rw [processedMessages, isRecent]
  exact inLog.trans (List.take_sublist _ _)

/-- The second of three messages is lost on its way, and the stream fails
before the third is taken. -/
def lossyLoop : FanoutLoop :=
  (execute step HandsOutOnce (start .empty none)
    [.publish "TURBOCABLE.news" ⟨#[49]⟩, .publish "TURBOCABLE.news" ⟨#[50]⟩,
      .publish "TURBOCABLE.chat" ⟨#[51]⟩, .publish "TURBOCABLE.chat" ⟨#[52]⟩,
      .connect true, .handOut true, .handOut false, .handOut true, .process,
      .breakOff, .wake, .connect true, .handOut true, .process]).get
    (by decide)

theorem processed_in_log_order_lossy :
    lossyLoop.processed = [0, 3] ∧
      lossyLoop.processedMessages.Sublist lossyLoop.log.messages :=
  ⟨by decide, processed_in_log_order (reaches_execute_get _)⟩

/-- Moreover no message is lost on its way, and a stream is dropped only when it
is empty. -/
def LosesNothing (loop : FanoutLoop) : LoopAction → Prop
  | .handOut arrives => arrives = true ∧ loop.pc = .consuming
  | .redeliver _ _ => False
  | .breakOff => loop.inbox = []
  | .restart sameNode => sameNode = true ∧ loop.inbox = []
  | _ => True

instance (loop : FanoutLoop) :
    (action : LoopAction) → Decidable (loop.LosesNothing action)
  | .handOut arrives =>
      inferInstanceAs (Decidable (arrives = true ∧ loop.pc = .consuming))
  | .redeliver _ _ => inferInstanceAs (Decidable False)
  | .breakOff => inferInstanceAs (Decidable (loop.inbox = []))
  | .restart sameNode =>
      inferInstanceAs (Decidable (sameNode = true ∧ loop.inbox = []))
  | .publish _ _ | .connect _ | .process | .wake | .ack _ _ =>
      inferInstanceAs (Decidable True)

/-- What was processed and what waits is all that was handed out. -/
structure Complete (loop : FanoutLoop) : Prop where
  all : loop.processed ++ loop.inbox = List.range loop.consumer.passed
  closed : loop.pc ≠ .consuming → loop.inbox = []

theorem Complete.step (complete : loop.Complete)
    (lossless : loop.LosesNothing action) (steps : Steps loop action next) :
    next.Complete := by
  obtain ⟨all, closed⟩ := complete
  cases steps with
  | connected connecting =>
      have empty : loop.inbox = [] := closed (by simp [connecting])
      rw [empty] at all
      exact ⟨all, fun _ => rfl⟩
  | notConnected connecting =>
      exact ⟨all, fun _ => closed (by simp [connecting])⟩
  | handOut arrives room stored =>
      obtain ⟨arrived, consuming⟩ := lossless
      have taken : arrives = true ∧ loop.pc = .consuming :=
        ⟨arrived, consuming⟩
      refine ⟨?_, ?_⟩
      · rw [receive_processed, receive_consumer]
        unfold receive
        rw [if_pos taken]
        show loop.processed ++ (loop.inbox ++ [loop.consumer.passed]) =
          List.range (loop.consumer.passed + 1)
        rw [List.range_succ, ← all, List.append_assoc]
      · unfold receive
        rw [if_pos taken]
        exact fun notConsuming => absurd consuming notConsuming
  | redeliver position arrives unacked => cases lossless
  | process position rest consuming isInbox =>
      refine ⟨?_, fun notConsuming => absurd consuming notConsuming⟩
      rw [← all, isInbox]
      simp
  | breakOff consuming =>
      have empty : loop.inbox = [] := lossless
      rw [empty] at all
      exact ⟨all, fun _ => rfl⟩
  | wake sleeping => exact ⟨all, fun _ => closed (by simp [sleeping])⟩
  | restart =>
      have empty : loop.inbox = [] := lossless.2
      rw [empty] at all
      exact ⟨all, fun _ => rfl⟩
  | renamed => cases lossless.1
  | _ => exact ⟨all, closed⟩

end TurbocableServer.Pubsub.FanoutLoop
