import TurbocableServer.Foundations.AckCursor
import TurbocableServer.Foundations.Reachability
import TurbocableServer.Pubsub.MessageLog

/-!
# The fan-out loop and its durable consumer

`fanout_loop` and `run_consumer` of `pubsub/nats.rs`, with the durable consumer
that JetStream keeps for the node and the tasks that acknowledge.  The loop
takes a message from its message stream, processes it and leaves the
acknowledgement to a task.  When the stream ends or fails, the loop pauses and
opens a new one; the messages that were still in the old one come again, because
nobody acknowledged them.

What the network and the server do is up to the environment: whether a call or
an acknowledgement succeeds, whether a message reaches the stream, and when the
server hands a message out again.
-/

namespace TurbocableServer.Pubsub

open Foundations

/-- Where `fanout_loop` stands: in `run_consumer` before the loop over the
messages, in that loop, or in the pause after `run_consumer`. -/
inductive LoopPc where
  | connecting
  | consuming
  | sleeping
  deriving DecidableEq, Repr

/-- Messages are named by their position in the log.  `inbox` are those that
reached the message stream and were not taken yet, and `acks` those whose ack
task was spawned and has not run.  `processed` records the calls of
`process_nats_message`; nothing reads it. -/
structure FanoutLoop where
  log : MessageLog
  consumer : AckCursor
  pc : LoopPc
  inbox : List Nat
  acks : List Nat
  processed : List Nat

inductive LoopAction where
  | publish (subject : String) (payload : ByteArray)
  | connect (succeeds : Bool)
  | handOut (arrives : Bool)
  | redeliver (position : Nat) (arrives : Bool)
  | process
  | breakOff
  | wake
  | ack (index : Nat) (succeeds : Bool)
  | restart (sameNode : Bool)
  deriving DecidableEq

namespace FanoutLoop

/-- A node that was just started, with a consumer of its own. -/
def start (log : MessageLog) (window : Option Nat) : FanoutLoop where
  log := log
  consumer := .new window
  pc := .connecting
  inbox := []
  acks := []
  processed := []

/-- A message that JetStream has sent out.  It is lost when it does not arrive
and when no stream is open. -/
def receive (loop : FanoutLoop) (arrives : Bool) (position : Nat) :
    FanoutLoop :=
  if arrives = true ∧ loop.pc = .consuming then
    { loop with inbox := loop.inbox ++ [position] }
  else
    loop

def step (loop : FanoutLoop) : LoopAction → Option FanoutLoop
  | .publish subject payload =>
      some { loop with log := loop.log.publish subject payload }
  | .connect succeeds =>
      -- `get_stream`, `get_or_create_consumer` and `messages`
      if loop.pc = .connecting then
        if succeeds then
          some { loop with pc := .consuming, inbox := [] }
        else
          some { loop with pc := .sleeping }
      else
        none
  | .handOut arrives =>
      if loop.consumer.passed < loop.log.messages.length then
        if room : loop.consumer.hasRoom = true then
          some
            (({ loop with consumer := loop.consumer.handOut room } :
              FanoutLoop).receive arrives loop.consumer.passed)
        else
          none
      else
        none
  | .redeliver position arrives =>
      if position ∈ loop.consumer.unacked then
        some (loop.receive arrives position)
      else
        none
  | .process =>
      if loop.pc = .consuming then
        match loop.inbox with
        | [] => none
        | position :: rest =>
            some { loop with
              inbox := rest
              acks := loop.acks ++ [position]
              processed := loop.processed ++ [position] }
      else
        none
  | .breakOff =>
      -- the stream answers `None` or an error and is dropped
      if loop.pc = .consuming then
        some { loop with pc := .sleeping, inbox := [] }
      else
        none
  | .wake =>
      if loop.pc = .sleeping then
        some { loop with pc := .connecting }
      else
        none
  | .ack index succeeds =>
      match loop.acks[index]? with
      | none => none
      | some position =>
          some { loop with
            acks := loop.acks.eraseIdx index
            consumer :=
              if succeeds then loop.consumer.acknowledge position
              else loop.consumer }
  | .restart sameNode =>
      -- a new node id means a new consumer
      some { loop with
        consumer :=
          if sameNode then loop.consumer else .new loop.consumer.window
        pc := .connecting
        inbox := []
        acks := [] }

/-! ## Inversion -/

/-- The moves of the loop, its consumer and its ack tasks. -/
inductive Steps (loop : FanoutLoop) : LoopAction → FanoutLoop → Prop
  | publish (subject : String) (payload : ByteArray) :
      Steps loop (.publish subject payload)
        { loop with log := loop.log.publish subject payload }
  | connected :
      loop.pc = .connecting →
      Steps loop (.connect true) { loop with pc := .consuming, inbox := [] }
  | notConnected :
      loop.pc = .connecting →
      Steps loop (.connect false) { loop with pc := .sleeping }
  | handOut (arrives : Bool) (room : loop.consumer.hasRoom = true) :
      loop.consumer.passed < loop.log.messages.length →
      Steps loop (.handOut arrives)
        (({ loop with consumer := loop.consumer.handOut room } :
          FanoutLoop).receive arrives loop.consumer.passed)
  | redeliver (position : Nat) (arrives : Bool) :
      position ∈ loop.consumer.unacked →
      Steps loop (.redeliver position arrives) (loop.receive arrives position)
  | process (position : Nat) (rest : List Nat) :
      loop.pc = .consuming → loop.inbox = position :: rest →
      Steps loop .process
        { loop with
          inbox := rest
          acks := loop.acks ++ [position]
          processed := loop.processed ++ [position] }
  | breakOff :
      loop.pc = .consuming →
      Steps loop .breakOff { loop with pc := .sleeping, inbox := [] }
  | wake :
      loop.pc = .sleeping →
      Steps loop .wake { loop with pc := .connecting }
  | acknowledged (index position : Nat) :
      loop.acks[index]? = some position →
      Steps loop (.ack index true)
        { loop with
          acks := loop.acks.eraseIdx index
          consumer := loop.consumer.acknowledge position }
  | ackFailed (index position : Nat) :
      loop.acks[index]? = some position →
      Steps loop (.ack index false)
        { loop with acks := loop.acks.eraseIdx index }
  | restart :
      Steps loop (.restart true)
        { loop with pc := .connecting, inbox := [], acks := [] }
  | renamed :
      Steps loop (.restart false)
        { loop with
          consumer := .new loop.consumer.window
          pc := .connecting
          inbox := []
          acks := [] }

variable {loop next : FanoutLoop} {action : LoopAction}

theorem steps_of_step (moved : loop.step action = some next) :
    Steps loop action next := by
  cases action with
  | publish subject payload =>
      obtain rfl := Option.some.inj moved
      exact .publish subject payload
  | connect succeeds =>
      simp only [step] at moved
      split at moved
      · rename_i connecting
        cases succeeds with
        | true =>
            obtain rfl := Option.some.inj moved
            exact .connected connecting
        | false =>
            obtain rfl := Option.some.inj moved
            exact .notConnected connecting
      · cases moved
  | handOut arrives =>
      simp only [step] at moved
      split at moved
      · rename_i stored
        split at moved
        · rename_i room
          obtain rfl := Option.some.inj moved
          exact .handOut arrives room stored
        · cases moved
      · cases moved
  | redeliver position arrives =>
      simp only [step] at moved
      split at moved
      · rename_i unacked
        obtain rfl := Option.some.inj moved
        exact .redeliver position arrives unacked
      · cases moved
  | process =>
      simp only [step] at moved
      split at moved
      · rename_i consuming
        split at moved
        · cases moved
        · rename_i position rest isInbox
          obtain rfl := Option.some.inj moved
          exact .process position rest consuming isInbox
      · cases moved
  | breakOff =>
      simp only [step] at moved
      split at moved
      · rename_i consuming
        obtain rfl := Option.some.inj moved
        exact .breakOff consuming
      · cases moved
  | wake =>
      simp only [step] at moved
      split at moved
      · rename_i sleeping
        obtain rfl := Option.some.inj moved
        exact .wake sleeping
      · cases moved
  | ack index succeeds =>
      simp only [step] at moved
      split at moved
      · cases moved
      · rename_i position present
        cases succeeds with
        | true =>
            obtain rfl := Option.some.inj moved
            exact .acknowledged index position present
        | false =>
            obtain rfl := Option.some.inj moved
            exact .ackFailed index position present
  | restart sameNode =>
      cases sameNode with
      | true =>
          obtain rfl := Option.some.inj moved
          exact .restart
      | false =>
          obtain rfl := Option.some.inj moved
          exact .renamed

@[simp]
theorem receive_log (arrives : Bool) (position : Nat) :
    (loop.receive arrives position).log = loop.log := by
  unfold receive
  split <;> rfl

@[simp]
theorem receive_consumer (arrives : Bool) (position : Nat) :
    (loop.receive arrives position).consumer = loop.consumer := by
  unfold receive
  split <;> rfl

@[simp]
theorem receive_acks (arrives : Bool) (position : Nat) :
    (loop.receive arrives position).acks = loop.acks := by
  unfold receive
  split <;> rfl

@[simp]
theorem receive_processed (arrives : Bool) (position : Nat) :
    (loop.receive arrives position).processed = loop.processed := by
  unfold receive
  split <;> rfl

theorem mem_inbox_receive {arrives : Bool} {position other : Nat}
    (member : other ∈ (loop.receive arrives position).inbox) :
    other ∈ loop.inbox ∨ other = position := by
  unfold receive at member
  split at member
  · rcases List.mem_append.mp member with before | isLast
    · exact Or.inl before
    · exact Or.inr (List.mem_singleton.mp isLast)
  · exact Or.inl member

/-! ## Nothing is lost -/

/-- With the calls in `earlier` left out, what was handed out has been processed
or is not acknowledged, and only what was processed is being acknowledged. -/
structure Accounted (earlier : List Nat) (loop : FanoutLoop) : Prop where
  exists_recent :
    ∃ recent, loop.processed = earlier ++ recent ∧
      (∀ position, position ∈ loop.acks → position ∈ recent) ∧
      ∀ position, position < loop.consumer.passed →
        position ∈ recent ∨ position ∈ loop.consumer.unacked

theorem accounted_start (log : MessageLog) (window : Option Nat) :
    (start log window).Accounted [] where
  exists_recent := by
    refine ⟨[], rfl, ?_, ?_⟩
    · intro position member
      cases member
    · intro position below
      cases below

/-- A consumer that starts anew owes the calls made before nothing. -/
theorem accounted_renamed (loop : FanoutLoop) :
    ({ loop with
        consumer := .new loop.consumer.window
        pc := .connecting
        inbox := []
        acks := [] } : FanoutLoop).Accounted loop.processed where
  exists_recent := by
    refine ⟨[], (List.append_nil _).symm, ?_, ?_⟩
    · intro position member
      cases member
    · intro position below
      cases below

theorem Accounted.step {earlier : List Nat} (accounted : loop.Accounted earlier)
    (steps : Steps loop action next) :
    next.Accounted earlier := by
  obtain ⟨recent, isProcessed, acked, handed⟩ := accounted.exists_recent
  cases steps with
  | handOut arrives room stored =>
      refine ⟨recent, by simpa using isProcessed, by simpa using acked, ?_⟩
      intro position below
      rw [receive_consumer] at below ⊢
      have isBelow : position < loop.consumer.passed + 1 := below
      by_cases isLast : position = loop.consumer.passed
      · right
        rw [isLast]
        exact List.mem_append_right _ (List.mem_singleton_self _)
      · rcases handed position (by omega) with done | unacked
        · exact Or.inl done
        · exact Or.inr (List.mem_append_left _ unacked)
  | redeliver position arrives unacked =>
      exact ⟨recent, by simpa using isProcessed, by simpa using acked,
        by simpa using handed⟩
  | process position rest consuming isInbox =>
      refine ⟨recent ++ [position], ?_, ?_, ?_⟩
      · simp only [isProcessed, List.append_assoc]
      · intro other member
        rcases List.mem_append.mp member with before | isLast
        · exact List.mem_append_left _ (acked other before)
        · exact List.mem_append_right _ isLast
      · intro other below
        rcases handed other below with done | unacked
        · exact Or.inl (List.mem_append_left _ done)
        · exact Or.inr unacked
  | acknowledged index position present =>
      refine ⟨recent, isProcessed, ?_, ?_⟩
      · intro other member
        exact acked other (List.mem_of_mem_eraseIdx member)
      · intro other below
        rcases handed other below with done | unacked
        · exact Or.inl done
        · by_cases still :
            other ∈ (loop.consumer.acknowledge position).unacked
          · exact Or.inr still
          · left
            rw [AckCursor.eq_of_not_mem_acknowledge unacked still]
            exact acked position (List.mem_of_getElem? present)
  | ackFailed index position present =>
      exact ⟨recent, isProcessed,
        fun other member => acked other (List.mem_of_mem_eraseIdx member),
        handed⟩
  | restart =>
      refine ⟨recent, isProcessed, ?_, handed⟩
      intro other member
      cases member
  | renamed =>
      refine ⟨recent, isProcessed, ?_, ?_⟩
      · intro other member
        cases member
      · intro other below
        cases below
  | _ => exact ⟨recent, isProcessed, acked, handed⟩

theorem accounted_of_reaches {earlier : List Nat} {begun : FanoutLoop}
    {allowed : FanoutLoop → LoopAction → Prop}
    (run : Reaches step allowed begun loop)
    (accounted : begun.Accounted earlier) :
    loop.Accounted earlier :=
  run.invariant
    (fun _ _ _ _ moved isAccounted => isAccounted.step (steps_of_step moved))
    accounted

/-- The messages `process_nats_message` was called with. -/
def processedMessages (loop : FanoutLoop) : List StoredMessage :=
  loop.processed.filterMap (fun position => loop.log.messages[position]?)

theorem mem_processedMessages {position : Nat} {message : StoredMessage}
    (stored : loop.log.messages[position]? = some message)
    (member : position ∈ loop.processed) :
    message ∈ loop.processedMessages :=
  List.mem_filterMap.mpr ⟨position, member, stored⟩

/-- A stored message has been processed, or JetStream still owes it to the node:
it was not handed out yet, or not acknowledged. -/
theorem no_message_lost {log : MessageLog} {window : Option Nat}
    {allowed : FanoutLoop → LoopAction → Prop}
    (run : Reaches step allowed (start log window) loop)
    {position : Nat} {message : StoredMessage}
    (stored : loop.log.messages[position]? = some message) :
    message ∈ loop.processedMessages ∨
      loop.consumer.passed ≤ position ∨
      position ∈ loop.consumer.unacked := by
  obtain ⟨recent, isProcessed, -, handed⟩ :=
    (accounted_of_reaches run (accounted_start log window)).exists_recent
  by_cases below : position < loop.consumer.passed
  · rcases handed position below with done | unacked
    · left
      apply mem_processedMessages stored
      rw [isProcessed]
      exact done
    · exact Or.inr (Or.inr unacked)
  · exact Or.inr (Or.inl (Nat.le_of_not_lt below))

/-- One message is processed, and its acknowledgement fails. -/
def unackedRun : List LoopAction :=
  [.publish "TURBOCABLE.news" ⟨#[49]⟩, .connect true, .handOut true, .process,
    .ack 0 false]

def unackedLoop : FanoutLoop :=
  (execute step (fun _ _ => True) (start .empty (some 1)) unackedRun).get
    (by decide)

theorem no_message_lost_unacked :
    0 ∈ unackedLoop.consumer.unacked ∧
      ∃ message, unackedLoop.log.messages[0]? = some message ∧
        (message ∈ unackedLoop.processedMessages ∨
          unackedLoop.consumer.passed ≤ 0 ∨
          0 ∈ unackedLoop.consumer.unacked) :=
  ⟨by decide, ⟨1, "TURBOCABLE.news", ⟨#[49]⟩⟩, rfl,
    no_message_lost (reaches_execute_get _) rfl⟩

/-! ## Catching up -/

/-- Neither the network nor the server fails, and nothing is published. -/
def Smooth (_ : FanoutLoop) : LoopAction → Prop
  | .connect succeeds => succeeds = true
  | .handOut arrives => arrives = true
  | .redeliver _ arrives => arrives = true
  | .process => True
  | .wake => True
  | .ack _ succeeds => succeeds = true
  | _ => False

/-- The loop waits for a message, and its stream holds none. -/
structure Waiting (loop : FanoutLoop) : Prop where
  consuming : loop.pc = .consuming
  inbox_eq : loop.inbox = []

/-- The stream can be opened without a trace. -/
theorem exists_consuming (loop : FanoutLoop) :
    ∃ opened, Reaches step Smooth loop opened ∧ opened.pc = .consuming ∧
      opened.log = loop.log ∧ opened.consumer = loop.consumer := by
  have fromConnecting (begun : FanoutLoop) (connecting : begun.pc = .connecting) :
      Reaches step Smooth begun { begun with pc := .consuming, inbox := [] } :=
    (Reaches.refl begun).tail (show Smooth begun (.connect true) from rfl)
      (by simp [step, connecting])
  cases isPc : loop.pc with
  | connecting => exact ⟨_, fromConnecting loop isPc, rfl, rfl, rfl⟩
  | consuming => exact ⟨loop, Reaches.refl loop, isPc, rfl, rfl⟩
  | sleeping =>
      have woken :
          Reaches step Smooth loop { loop with pc := .connecting } :=
        (Reaches.refl loop).tail (show Smooth loop .wake from trivial)
          (by simp [step, isPc])
      exact ⟨_, woken.trans (fromConnecting _ rfl), rfl, rfl, rfl⟩

/-- What the stream holds can be processed. -/
theorem exists_waiting (inbox : List Nat) :
    ∀ {loop : FanoutLoop}, loop.pc = .consuming → loop.inbox = inbox →
      ∃ emptied, Reaches step Smooth loop emptied ∧ emptied.Waiting ∧
        emptied.log = loop.log ∧ emptied.consumer = loop.consumer := by
  induction inbox with
  | nil =>
      intro loop consuming isInbox
      exact ⟨loop, Reaches.refl loop, ⟨consuming, isInbox⟩, rfl, rfl⟩
  | cons position rest ih =>
      intro loop consuming isInbox
      have taken :
          Reaches step Smooth loop
            { loop with
              inbox := rest
              acks := loop.acks ++ [position]
              processed := loop.processed ++ [position] } :=
        (Reaches.refl loop).tail (show Smooth loop .process from trivial)
          (by simp [step, consuming, isInbox])
      obtain ⟨emptied, run, waiting, sameLog, sameConsumer⟩ :=
        ih
          (show ({ loop with
              inbox := rest
              acks := loop.acks ++ [position]
              processed := loop.processed ++ [position] } :
            FanoutLoop).pc = .consuming from consuming) rfl
      exact ⟨emptied, taken.trans run, waiting, sameLog, sameConsumer⟩

/-- A message that comes alone is processed and acknowledged. -/
private theorem settle {position : Nat} (consuming : loop.pc = .consuming)
    (isInbox : loop.inbox = [position]) :
    Reaches step Smooth loop
      { loop with
        inbox := []
        processed := loop.processed ++ [position]
        consumer := loop.consumer.acknowledge position } := by
  have taken :
      Reaches step Smooth loop
        { loop with
          inbox := []
          acks := loop.acks ++ [position]
          processed := loop.processed ++ [position] } :=
    (Reaches.refl loop).tail (show Smooth loop .process from trivial)
      (by simp [step, consuming, isInbox])
  refine taken.tail
    (show Smooth _ (.ack loop.acks.length true) from rfl) ?_
  simp [step, List.eraseIdx_append_of_length_le]

/-- Everything outstanding can be acknowledged. -/
theorem exists_acknowledged (count : Nat) :
    ∀ {loop : FanoutLoop}, loop.Waiting →
      loop.consumer.unacked.length = count →
      ∃ settled, Reaches step Smooth loop settled ∧ settled.Waiting ∧
        settled.consumer.unacked = [] ∧ settled.log = loop.log ∧
        settled.consumer.window = loop.consumer.window := by
  induction count with
  | zero =>
      intro loop waiting none
      exact ⟨loop, Reaches.refl loop, waiting,
        List.eq_nil_of_length_eq_zero none, rfl, rfl⟩
  | succ count ih =>
      intro loop waiting isCount
      obtain ⟨position, rest, isUnacked⟩ :=
        List.exists_cons_of_length_eq_add_one isCount
      have unacked : position ∈ loop.consumer.unacked := by
        rw [isUnacked]
        exact List.mem_cons_self
      have again :
          Reaches step Smooth loop { loop with inbox := [position] } :=
        (Reaches.refl loop).tail
          (show Smooth loop (.redeliver position true) from rfl)
          (by simp [step, unacked, receive, waiting.consuming,
            waiting.inbox_eq])
      have fewer :
          (loop.consumer.acknowledge position).unacked.length = count := by
        rw [AckCursor.acknowledge, List.length_erase_of_mem unacked, isCount]
        rfl
      obtain ⟨settled, run, rests⟩ :=
        ih
          (show ({ loop with
              inbox := []
              processed := loop.processed ++ [position]
              consumer := loop.consumer.acknowledge position } :
            FanoutLoop).Waiting from ⟨waiting.consuming, rfl⟩) fewer
      exact ⟨settled,
        (again.trans (settle waiting.consuming rfl)).trans run, rests⟩

/-- With nothing outstanding, the rest of the log can be handed out. -/
theorem exists_passed (left : Nat) :
    ∀ {loop : FanoutLoop}, loop.Waiting → loop.consumer.unacked = [] →
      loop.consumer.window ≠ some 0 →
      loop.consumer.passed + left = loop.log.messages.length →
      ∃ done, Reaches step Smooth loop done ∧ done.consumer.unacked = [] ∧
        done.log = loop.log ∧
        done.consumer.passed = done.log.messages.length := by
  induction left with
  | zero =>
      intro loop _ nothing _ isLeft
      exact ⟨loop, Reaches.refl loop, nothing, rfl, isLeft⟩
  | succ left ih =>
      intro loop waiting nothing opened isLeft
      have room := AckCursor.hasRoom_of_unacked_eq_nil nothing opened
      have stored : loop.consumer.passed < loop.log.messages.length := by
        omega
      have handed :
          Reaches step Smooth loop
            { loop with
              consumer := loop.consumer.handOut room
              inbox := [loop.consumer.passed] } :=
        (Reaches.refl loop).tail
          (show Smooth loop (.handOut true) from rfl)
          (by simp [step, stored, room, receive, waiting.consuming,
            waiting.inbox_eq])
      obtain ⟨done, run, rests⟩ :=
        ih
          (show ({ loop with
              inbox := []
              processed := loop.processed ++ [loop.consumer.passed]
              consumer := (loop.consumer.handOut room).acknowledge
                loop.consumer.passed } : FanoutLoop).Waiting from
            ⟨waiting.consuming, rfl⟩)
          (by simp [AckCursor.acknowledge, AckCursor.handOut, nothing])
          opened
          (show loop.consumer.passed + 1 + left = loop.log.messages.length by
            omega)
      exact ⟨done, (handed.trans (settle waiting.consuming rfl)).trans run,
        rests⟩

theorem Steps.window_eq (steps : Steps loop action next) :
    next.consumer.window = loop.consumer.window := by
  cases steps with
  | handOut arrives room stored => simp [AckCursor.handOut]
  | redeliver position arrives unacked => simp
  | _ => rfl

theorem window_of_reaches {begun : FanoutLoop}
    {allowed : FanoutLoop → LoopAction → Prop}
    (run : Reaches step allowed begun loop) :
    loop.consumer.window = begun.consumer.window :=
  run.invariant
    (fun _ _ _ _ moved same => (steps_of_step moved).window_eq.trans same) rfl

theorem Steps.passed_le (steps : Steps loop action next)
    (within : loop.consumer.passed ≤ loop.log.messages.length) :
    next.consumer.passed ≤ next.log.messages.length := by
  cases steps with
  | publish subject payload =>
      obtain ⟨added, extended, -⟩ := loop.log.publish_messages subject payload
      simp only [extended, List.length_append]
      omega
  | handOut arrives room stored =>
      rw [receive_consumer, receive_log]
      exact stored
  | redeliver position arrives unacked =>
      rw [receive_consumer, receive_log]
      exact within
  | renamed => exact Nat.zero_le _
  | _ => exact within

theorem passed_le_of_reaches {log : MessageLog} {window : Option Nat}
    {allowed : FanoutLoop → LoopAction → Prop}
    (run : Reaches step allowed (start log window) loop) :
    loop.consumer.passed ≤ loop.log.messages.length :=
  run.invariant
    (fun _ _ _ _ moved within => (steps_of_step moved).passed_le within)
    (Nat.zero_le _)

/-- What the calls in `earlier` do not cover is caught up with. -/
theorem exists_caughtUp {earlier : List Nat}
    (accounted : loop.Accounted earlier)
    (within : loop.consumer.passed ≤ loop.log.messages.length)
    (opened : loop.consumer.window ≠ some 0) :
    ∃ final recent, Reaches step Smooth loop final ∧
      final.log = loop.log ∧ final.consumer.unacked = [] ∧
      final.processed = earlier ++ recent ∧
      ∀ position, position < final.log.messages.length →
        position ∈ recent := by
  obtain ⟨consuming, toConsuming, isConsuming, consumingLog,
    consumingConsumer⟩ := exists_consuming loop
  obtain ⟨emptied, toEmptied, waiting, emptiedLog, emptiedConsumer⟩ :=
    exists_waiting consuming.inbox isConsuming rfl
  obtain ⟨settled, toSettled, stillWaiting, nothing, settledLog, sameWindow⟩ :=
    exists_acknowledged emptied.consumer.unacked.length waiting rfl
  have toHere : Reaches step Smooth loop settled :=
    (toConsuming.trans toEmptied).trans toSettled
  have stillWithin : settled.consumer.passed ≤ settled.log.messages.length :=
    toHere.invariant
      (fun _ _ _ _ moved bound => (steps_of_step moved).passed_le bound) within
  have stillOpened : settled.consumer.window ≠ some 0 := by
    rw [window_of_reaches toHere]
    exact opened
  obtain ⟨final, toFinal, none, sameLog, allPassed⟩ :=
    exists_passed (settled.log.messages.length - settled.consumer.passed)
      stillWaiting nothing stillOpened (by omega)
  have run := toHere.trans toFinal
  obtain ⟨recent, isProcessed, -, handed⟩ :=
    (accounted_of_reaches run accounted).exists_recent
  refine ⟨final, recent, run, ?_, none, isProcessed, ?_⟩
  · rw [sameLog, settledLog, emptiedLog, consumingLog]
  · intro position below
    rcases handed position (by omega) with done | unacked
    · exact done
    · rw [none] at unacked
      cases unacked

/-- From every state the node can catch up with the log, without a restart and
without anything new on the log.  Nothing stays unacknowledged. -/
theorem caughtUp_reachable {log : MessageLog} {window : Option Nat}
    {allowed : FanoutLoop → LoopAction → Prop}
    (run : Reaches step allowed (start log window) loop)
    (opened : window ≠ some 0) :
    ∃ final, Reaches step Smooth loop final ∧ final.log = loop.log ∧
      final.consumer.unacked = [] ∧
      ∀ message, message ∈ final.log.messages →
        message ∈ final.processedMessages := by
  have stillOpened : loop.consumer.window ≠ some 0 := by
    rw [window_of_reaches run]
    exact opened
  obtain ⟨final, recent, toFinal, sameLog, nothing, isProcessed, covered⟩ :=
    exists_caughtUp (accounted_of_reaches run (accounted_start log window))
      (passed_le_of_reaches run) stillOpened
  refine ⟨final, toFinal, sameLog, nothing, ?_⟩
  intro message member
  obtain ⟨position, stored⟩ := List.mem_iff_getElem?.mp member
  have below : position < final.log.messages.length :=
    (List.getElem?_eq_some_iff.mp stored).1
  apply mem_processedMessages stored
  rw [isProcessed]
  exact List.mem_append_right _ (covered position below)

theorem caughtUp_reachable_unacked :
    ∃ final, Reaches step Smooth unackedLoop final ∧
      final.log = unackedLoop.log ∧ final.consumer.unacked = [] ∧
      ∀ message, message ∈ final.log.messages →
        message ∈ final.processedMessages :=
  caughtUp_reachable (reaches_execute_get (by decide)) (by decide)

end FanoutLoop

end TurbocableServer.Pubsub
