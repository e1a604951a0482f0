import Mathlib.Data.List.Forall2
import Mathlib.Data.List.Nodup
import TurbocableServer.Pubsub.ReplayCalls

/-!
# The consumer of a replay

What JetStream promises of the consumer a replay creates: it hands out the
messages its filter selects, each at most once and in stream order, and reports
the end only when nothing it held is left.  Under this promise the outcome of a
replay is compared with the messages there were to replay.
-/

namespace TurbocableServer.Pubsub

open Protocol

namespace FetchEvent

/-- A message was fetched. -/
def isMessage : FetchEvent → Bool
  | .message _ _ => true
  | _ => false

/-- The sequence of the fetched message, as far as it has one. -/
def sequence : FetchEvent → Option Nat
  | .message sequence _ => sequence
  | _ => none

/-- The event hands out this message, whose metadata may be missing. -/
def Carries : FetchEvent → StoredMessage → Prop
  | .message sequence payload, stored =>
      payload = stored.payload ∧
        (sequence = none ∨ sequence = some stored.seq)
  | _, _ => False

end FetchEvent

/-- The events are those of a consumer that selects the messages `selected`,
the ones it holds when it is created and the ones stored later. -/
structure HandsOut (lastSeq : Nat) (selected : List StoredMessage)
    (events : List FetchEvent) : Prop where
  increasing :
    selected.Pairwise (fun earlier later => earlier.seq < later.seq)
  started : ∀ message ∈ selected, requestedSeq lastSeq ≤ message.seq
  fits : ∀ message ∈ selected, message.seq ≤ u64Max
  handed :
    ∃ handed, handed.Sublist selected ∧
      List.Forall₂ FetchEvent.Carries (events.filter FetchEvent.isMessage)
        handed

/-- The sequences of the fetched messages. -/
def sequences (events : List FetchEvent) : List Nat :=
  events.filterMap FetchEvent.sequence

@[simp]
theorem sequences_message (sequence : Nat) (payload : ByteArray)
    (rest : List FetchEvent) :
    sequences (.message (some sequence) payload :: rest) =
      sequence :: sequences rest :=
  rfl

theorem sequences_append (left right : List FetchEvent) :
    sequences (left ++ right) = sequences left ++ sequences right :=
  List.filterMap_append

theorem sequences_filter_isMessage (events : List FetchEvent) :
    sequences (events.filter FetchEvent.isMessage) = sequences events := by
  induction events with
  | nil =>
      rfl
  | cons event rest ih =>
      cases event with
      | message sequence payload =>
          rw [List.filter_cons_of_pos rfl]
          cases sequence with
          | none => exact ih
          | some sequence => rw [sequences_message, ih,
              sequences_message]
      | error => exact ih
      | ended => exact ih

/-- The sequences come from the messages handed out. -/
theorem sequences_sublist {events : List FetchEvent}
    {handed : List StoredMessage}
    (carried : List.Forall₂ FetchEvent.Carries events handed) :
    (sequences events).Sublist (handed.map StoredMessage.seq) := by
  induction carried with
  | nil =>
      exact List.Sublist.refl _
  | @cons event message events handed carries _ ih =>
      cases event with
      | message sequence payload =>
          rcases carries.2 with rfl | rfl
          · exact ih.cons _
          · exact ih.cons_cons _
      | error => exact carries.elim
      | ended => exact carries.elim

/-- Behind a cursor that is not the last possible one, sequences increase. -/
theorem HandsOut.ascending {lastSeq : Nat} {selected : List StoredMessage}
    {events : List FetchEvent} (consumer : HandsOut lastSeq selected events)
    (below : lastSeq < u64Max) :
    (lastSeq :: sequences events).Pairwise (· < ·) := by
  obtain ⟨handed, isSublist, carried⟩ := consumer.handed
  have fromSelected :
      (sequences events).Sublist (selected.map StoredMessage.seq) := by
    rw [← sequences_filter_isMessage]
    exact (sequences_sublist carried).trans (isSublist.map _)
  rw [List.pairwise_cons]
  refine ⟨fun sequence member => ?_,
    (List.pairwise_map.mpr consumer.increasing).sublist fromSelected⟩
  obtain ⟨message, isSelected, rfl⟩ :=
    List.mem_map.mp (fromSelected.subset member)
  have started := consumer.started message isSelected
  rw [requestedSeq] at started
  omega

theorem exists_carried {events : List FetchEvent}
    {handed : List StoredMessage}
    (carried : List.Forall₂ FetchEvent.Carries events handed)
    {event : FetchEvent} (member : event ∈ events) :
    ∃ stored ∈ handed, event.Carries stored := by
  induction carried with
  | nil =>
      cases member
  | @cons first stored _ _ carries _ ih =>
      rcases List.mem_cons.mp member with rfl | later
      · exact ⟨stored, List.mem_cons_self .., carries⟩
      · obtain ⟨other, isHanded, otherCarries⟩ := ih later
        exact ⟨other, List.mem_cons_of_mem _ isHanded, otherCarries⟩

/-- A sequence tells the message it belongs to. -/
theorem HandsOut.carries_of_sequence {lastSeq : Nat}
    {selected : List StoredMessage} {events : List FetchEvent}
    (consumer : HandsOut lastSeq selected events) {stored : StoredMessage}
    (isSelected : stored ∈ selected) {payload : ByteArray}
    (fetched : .message (some stored.seq) payload ∈ events) :
    payload = stored.payload := by
  obtain ⟨handed, isSublist, carried⟩ := consumer.handed
  have isMessage :
      .message (some stored.seq) payload ∈
        events.filter FetchEvent.isMessage :=
    List.mem_filter.mpr ⟨fetched, rfl⟩
  obtain ⟨other, isHanded, samePayload, noSeq | sameSeq⟩ :=
    exists_carried carried isMessage
  · cases noSeq
  · have nodup : (selected.map StoredMessage.seq).Nodup :=
      List.pairwise_map.mpr
        (consumer.increasing.imp (fun before => Nat.ne_of_lt before))
    have same : stored = other :=
      List.inj_on_of_nodup_map nodup isSelected (isSublist.subset isHanded)
        (Option.some.inj sameSeq)
    rw [samePayload, same]

/-! ## Messages that are taken -/

/-- A message that carries its sequence and that `tx` accepts. -/
def Taken (entry : FetchEvent × Bool) : Prop :=
  ∃ sequence payload, entry = (.message (some sequence) payload, true)

/-- The frame of a fetched message. -/
def frameOf (decodePayload : ByteArray → Json) (streamName : String) :
    FetchEvent × Bool → Option ServerMessage
  | (.message (some sequence) payload, _) =>
      some (replayedFrame decodePayload streamName sequence payload)
  | _ => none

section Taken

variable {decodePayload : ByteArray → Json} {streamName : String}
variable {encodes : ServerMessage → Bool} {cursor : ReplayCursor}

theorem replayCalls_error (accepted : Bool)
    (rest : List (FetchEvent × Bool)) :
    replayCalls decodePayload encodes streamName cursor
        ((.error, accepted) :: rest) =
      ([], some (.ok ⟨cursor.count, false⟩)) := by
  simp only [replayCalls, replayTurn, ite_self]

/-- The truncation probe finds a message. -/
theorem replayCalls_probe (full : maxReplayMessages ≤ cursor.count)
    (sequence : Option Nat) (payload : ByteArray) (accepted : Bool)
    (rest : List (FetchEvent × Bool)) :
    replayCalls decodePayload encodes streamName cursor
        ((.message sequence payload, accepted) :: rest) =
      ([], some (.error
        (.truncated streamName cursor.count maxReplayMessages))) := by
  simp only [replayCalls, replayTurn, if_neg (Nat.not_lt_of_le full)]

/-- Messages in order are sent one after the other, up to the cap. -/
theorem replayCalls_of_taken (total : ∀ frame, encodes frame = true)
    (rest : List (FetchEvent × Bool)) :
    ∀ {taken : List (FetchEvent × Bool)} {cursor : ReplayCursor},
      (∀ entry ∈ taken, Taken entry) →
      (cursor.prevSeq :: sequences (taken.map Prod.fst)).Pairwise (· < ·) →
      cursor.count + taken.length ≤ maxReplayMessages →
        ∃ prevSeq, ∀ calls result,
          replayCalls decodePayload encodes streamName
              ⟨cursor.count + taken.length, prevSeq⟩ rest = (calls, result) →
            replayCalls decodePayload encodes streamName cursor
                (taken ++ rest) =
              ((taken.filterMap (frameOf decodePayload streamName)).map
                  (fun frame => (frame, true)) ++ calls,
                result)
  | [], cursor, _, _, _ => ⟨cursor.prevSeq, fun _ _ isRest => isRest⟩
  | entry :: taken, cursor, areTaken, ascending, capped => by
      obtain ⟨sequence, payload, rfl⟩ :=
        areTaken entry (List.mem_cons_self ..)
      rw [List.map_cons, sequences_message] at ascending
      rw [List.length_cons] at capped
      have newer : cursor.prevSeq < sequence :=
        List.rel_of_pairwise_cons ascending (List.mem_cons_self ..)
      have below : cursor.count < maxReplayMessages := by omega
      obtain ⟨prevSeq, isLater⟩ :=
        @replayCalls_of_taken total rest taken ⟨cursor.count + 1, sequence⟩
          (fun other member => areTaken other (List.mem_cons_of_mem _ member))
          ascending.of_cons (by dsimp only; omega)
      refine ⟨prevSeq, fun calls result isRest => ?_⟩
      rw [List.length_cons, Nat.add_comm taken.length 1, ← Nat.add_assoc]
        at isRest
      simp only [List.cons_append, replayCalls, replayTurn, if_pos below,
        if_neg (Nat.not_le_of_lt newer), total, if_true,
        isLater calls result isRest]
      rfl

/-- A replay that is reported complete has sent every message before the event
that stopped it. -/
theorem ReplayRun.stopped {events : List (FetchEvent × Bool)}
    {calls : List (ServerMessage × Bool)}
    {result : Option (Except ReplayError ReplayDelivery)} {delivered : Nat}
    (run : ReplayRun decodePayload encodes streamName cursor events calls
      result)
    (total : ∀ frame, encodes frame = true)
    (isOk : result = some (.ok ⟨delivered, false⟩))
    (ascending :
      (cursor.prevSeq :: sequences (events.map Prod.fst)).Pairwise (· < ·))
    (capped : cursor.count ≤ maxReplayMessages) :
    ∃ taken stop accepted rest,
      events = taken ++ (stop, accepted) :: rest ∧
        (stop = .error ∨ stop = .ended) ∧
        (∀ entry ∈ taken, Taken entry) ∧
        cursor.count + taken.length ≤ maxReplayMessages ∧
        enqueued calls =
          taken.filterMap (frameOf decodePayload streamName) := by
  induction run with
  | skipped below older later ih =>
      have newer :=
        List.rel_of_pairwise_cons ascending (List.mem_cons_self ..)
      exact absurd older (Nat.not_le_of_lt newer)
  | unencodable below newer cannot later ih =>
      rw [total] at cannot
      cases cannot
  | @sent cursor sequence payload rest calls result below newer canEncode later
      ih =>
      obtain ⟨taken, stop, accepted, remaining, rfl, stops, areTaken, counted,
        areFrames⟩ := ih isOk ascending.of_cons below
      refine ⟨(.message (some sequence) payload, true) :: taken, stop, accepted,
        remaining, rfl, stops, ?_, ?_, ?_⟩
      · intro entry member
        rcases List.mem_cons.mp member with rfl | inTaken
        · exact ⟨sequence, payload, rfl⟩
        · exact areTaken entry inTaken
      · rw [List.length_cons]
        dsimp only at counted
        omega
      · rw [enqueued_cons_true, areFrames]
        rfl
  | failed => exact ⟨[], .error, _, _, rfl, Or.inl rfl, nofun, capped, rfl⟩
  | ended => exact ⟨[], .ended, _, _, rfl, Or.inr rfl, nofun, capped, rfl⟩
  | _ => cases isOk

end Taken

/-! ## Complete replays -/

/-- The consumer reports the end, or lets a fetch time out, only when it has
handed out everything it held. -/
def EndsAfter (held : List StoredMessage) (events : List FetchEvent) : Prop :=
  ∀ before rest, events = before ++ .ended :: rest →
    ∀ stored ∈ held, ∃ event ∈ before, event.Carries stored

/-- A fetch error reaches the loop only when all that was held behind the cursor
has been fetched.  It does reach the loop when `tx` has accepted everything
before it and the cap was not exceeded. -/
def ErrorsLate (lastSeq : Nat) (held : List StoredMessage)
    (events : List (FetchEvent × Bool)) : Prop :=
  ∀ taken accepted rest, events = taken ++ (.error, accepted) :: rest →
    (∀ entry ∈ taken, Taken entry) → taken.length ≤ maxReplayMessages →
      ∀ stored ∈ held, lastSeq < stored.seq →
        stored.seq ∈ sequences (taken.map Prod.fst)

/-- Success means that everything held behind the cursor was enqueued. -/
def ReplayComplete (decodePayload : ByteArray → Json) (streamName : String)
    (lastSeq : Nat) (held : List StoredMessage)
    (calls : List (ServerMessage × Bool))
    (result : Option (Except ReplayError ReplayDelivery)) : Prop :=
  ∀ delivered, result = some (.ok ⟨delivered, false⟩) →
    ∀ stored ∈ held, lastSeq < stored.seq →
      replayedFrame decodePayload streamName stored.seq stored.payload ∈
        enqueued calls

section Complete

variable {decodePayload : ByteArray → Json} {streamName : String}
variable {encodes : ServerMessage → Bool} {lastSeq : Nat}
variable {held selected : List StoredMessage}

theorem sequence_of_mem_frames {taken : List (FetchEvent × Bool)}
    {stored : StoredMessage}
    (member :
      replayedFrame decodePayload streamName stored.seq stored.payload ∈
        taken.filterMap (frameOf decodePayload streamName)) :
    stored.seq ∈ sequences (taken.map Prod.fst) := by
  obtain ⟨⟨event, accepted⟩, inTaken, isFrame⟩ := List.mem_filterMap.mp member
  cases event with
  | message sequence payload =>
      cases sequence with
      | none => cases isFrame
      | some sequence =>
          have sameSeq : sequence = stored.seq := by
            simp only [frameOf, replayedFrame, Option.some.injEq,
              ServerMessage.message.injEq] at isFrame
            exact isFrame.2.2.2
          refine List.mem_filterMap.mpr
            ⟨.message (some sequence) payload, ?_, ?_⟩
          · exact List.mem_map.mpr ⟨_, inTaken, rfl⟩
          · rw [← sameSeq]
            rfl
  | error => cases isFrame
  | ended => cases isFrame

theorem mem_frames_of_sequence {taken rest : List (FetchEvent × Bool)}
    (consumer :
      HandsOut lastSeq selected ((taken ++ rest).map Prod.fst))
    {stored : StoredMessage} (isSelected : stored ∈ selected)
    (fetched : stored.seq ∈ sequences (taken.map Prod.fst)) :
    replayedFrame decodePayload streamName stored.seq stored.payload ∈
      taken.filterMap (frameOf decodePayload streamName) := by
  obtain ⟨event, isEvent, isSequence⟩ := List.mem_filterMap.mp fetched
  obtain ⟨⟨fetchedEvent, accepted⟩, inTaken, rfl⟩ := List.mem_map.mp isEvent
  cases fetchedEvent with
  | message sequence payload =>
      cases sequence with
      | none => cases isSequence
      | some sequence =>
          obtain rfl : sequence = stored.seq := Option.some.inj isSequence
          have samePayload :=
            consumer.carries_of_sequence isSelected
              (List.mem_map.mpr
                ⟨_, List.mem_append_left _ inTaken, rfl⟩)
          rw [← samePayload]
          exact List.mem_filterMap.mpr ⟨_, inTaken, rfl⟩
  | error => cases isSequence
  | ended => cases isSequence

/-- What was handed out before an end that reaches the loop was taken. -/
theorem EndsAfter.sequence_mem {taken rest : List (FetchEvent × Bool)}
    {accepted : Bool}
    (finished :
      EndsAfter held ((taken ++ (.ended, accepted) :: rest).map Prod.fst))
    (areTaken : ∀ entry ∈ taken, Taken entry) {stored : StoredMessage}
    (isHeld : stored ∈ held) :
    stored.seq ∈ sequences (taken.map Prod.fst) := by
  obtain ⟨event, isEvent, carries⟩ :=
    finished (taken.map Prod.fst) (rest.map Prod.fst) (by simp) stored isHeld
  obtain ⟨entry, inTaken, rfl⟩ := List.mem_map.mp isEvent
  obtain ⟨sequence, payload, rfl⟩ := areTaken entry inTaken
  refine List.mem_filterMap.mpr ⟨_, isEvent, ?_⟩
  rcases carries.2 with missing | isSequence
  · cases missing
  · exact isSequence

/-- The loop on a cursor that has something behind it. -/
theorem replayCalls_complete_iff (total : ∀ frame, encodes frame = true)
    {events : List (FetchEvent × Bool)}
    (consumer : HandsOut lastSeq selected (events.map Prod.fst))
    (holds : ∀ stored ∈ held, stored ∈ selected)
    (finished : EndsAfter held (events.map Prod.fst))
    (below : lastSeq < u64Max) :
    ReplayComplete decodePayload streamName lastSeq held
        (replayCalls decodePayload encodes streamName ⟨0, lastSeq⟩ events).1
        (replayCalls decodePayload encodes streamName ⟨0, lastSeq⟩ events).2 ↔
      ErrorsLate lastSeq held events := by
  have ascending := consumer.ascending below
  constructor
  · rintro complete taken accepted rest rfl areTaken capped stored isHeld newer
    rw [List.map_append, sequences_append] at ascending
    have before :
        (lastSeq :: sequences (taken.map Prod.fst)).Pairwise (· < ·) :=
      ascending.sublist ((List.sublist_append_left _ _).cons_cons _)
    obtain ⟨prevSeq, isRun⟩ :=
      @replayCalls_of_taken decodePayload streamName encodes total
        ((.error, accepted) :: rest) taken ⟨0, lastSeq⟩ areTaken before
        (by simpa using capped)
    rw [isRun _ _ (replayCalls_error accepted rest), List.append_nil]
      at complete
    have sent := complete _ rfl stored isHeld newer
    rw [enqueued_map_true] at sent
    exact sequence_of_mem_frames sent
  · intro late delivered isOk stored isHeld newer
    have run :=
      @replayRun_replayCalls decodePayload encodes streamName events
        ⟨0, lastSeq⟩
    obtain ⟨taken, stop, accepted, rest, rfl, stops, areTaken, counted,
      areFrames⟩ := run.stopped total isOk ascending (Nat.zero_le _)
    rw [areFrames]
    apply mem_frames_of_sequence consumer (holds stored isHeld)
    rcases stops with rfl | rfl
    · exact late taken accepted rest rfl areTaken (by simpa using counted)
        stored isHeld newer
    · exact finished.sequence_mem areTaken isHeld

/-- Under the promise of the consumer, a replay that is reported as successful
is complete exactly when no fetch error cuts it short. -/
theorem replay_complete_iff (decodePayload : ByteArray → Json)
    (encodes : ServerMessage → Bool) (streamName : String) (lastSeq : Nat)
    (info : Except String StreamInfo) (opened : Except String Unit)
    (events : List (FetchEvent × Bool)) (held selected : List StoredMessage)
    (total : ∀ frame, encodes frame = true)
    (consumer : HandsOut lastSeq selected (events.map Prod.fst))
    (holds : ∀ stored ∈ held, stored ∈ selected)
    (finished : EndsAfter held (events.map Prod.fst)) :
    ReplayComplete decodePayload streamName lastSeq held
        (replaySinceCalls decodePayload encodes streamName lastSeq info opened
          events).1
        (replaySinceCalls decodePayload encodes streamName lastSeq info opened
          events).2 ↔
      (Opens streamName lastSeq info opened →
        ErrorsLate lastSeq held events) := by
  rcases replaySinceCalls_cases decodePayload encodes streamName lastSeq info
      opened events with
    ⟨closed, error, -, isError⟩ | ⟨isOpen, isLoop⟩
  · rw [isError]
    exact ⟨fun _ isOpen => absurd isOpen closed, fun _ => nofun⟩
  · rw [isLoop]
    by_cases below : lastSeq < u64Max
    · rw [replayCalls_complete_iff total consumer holds finished below]
      exact ⟨fun late _ => late, fun late => late isOpen⟩
    · -- Nothing lies behind the last possible cursor.
      have nothing : ∀ stored ∈ held, ¬ lastSeq < stored.seq := by
        intro stored isHeld newer
        have fits := consumer.fits stored (holds stored isHeld)
        omega
      constructor
      · intro _ _ taken accepted rest _ _ _ stored isHeld newer
        exact absurd newer (nothing stored isHeld)
      · intro _ delivered _ stored isHeld newer
        exact absurd newer (nothing stored isHeld)

end Complete

/-! ## Truncated replays -/

/-- How many messages were fetched. -/
def messageCount (events : List (FetchEvent × Bool)) : Nat :=
  ((events.map Prod.fst).filter FetchEvent.isMessage).length

theorem messageCount_message (sequence : Option Nat) (payload : ByteArray)
    (accepted : Bool) (rest : List (FetchEvent × Bool)) :
    messageCount ((.message sequence payload, accepted) :: rest) =
      messageCount rest + 1 :=
  rfl

/-- A replay is truncated only after more messages than the cap. -/
theorem ReplayRun.messages_of_truncated
    {decodePayload : ByteArray → Json} {encodes : ServerMessage → Bool}
    {streamName : String} {cursor : ReplayCursor}
    {events : List (FetchEvent × Bool)}
    {calls : List (ServerMessage × Bool)}
    {result : Option (Except ReplayError ReplayDelivery)} {stream : String}
    {delivered limit : Nat}
    (run : ReplayRun decodePayload encodes streamName cursor events calls
      result)
    (isTruncated :
      result = some (.error (.truncated stream delivered limit))) :
    maxReplayMessages < cursor.count + messageCount events := by
  induction run with
  | skipped below older later ih =>
      have counted := ih isTruncated
      rw [messageCount_message]
      omega
  | unencodable below newer cannot later ih
  | sent below newer canEncode later ih =>
      have counted := ih isTruncated
      rw [messageCount_message]
      dsimp only at counted
      omega
  | truncated full =>
      rw [messageCount_message]
      omega
  | _ => cases isTruncated

theorem HandsOut.length_le {lastSeq : Nat} {selected : List StoredMessage}
    {events : List (FetchEvent × Bool)}
    (consumer : HandsOut lastSeq selected (events.map Prod.fst)) :
    messageCount events ≤ selected.length := by
  obtain ⟨handed, isSublist, carried⟩ := consumer.handed
  rw [messageCount, carried.length_eq]
  exact isSublist.length_le

/-- At the last possible cursor a consumer selects one message at most. -/
theorem HandsOut.length_le_one {lastSeq : Nat}
    {selected : List StoredMessage} {events : List FetchEvent}
    (consumer : HandsOut lastSeq selected events)
    (last : u64Max ≤ lastSeq) : selected.length ≤ 1 := by
  have isLast : ∀ stored ∈ selected, stored.seq = u64Max := by
    intro stored member
    have started := consumer.started stored member
    have fits := consumer.fits stored member
    rw [requestedSeq, Nat.min_eq_right (Nat.le_succ_of_le last)] at started
    exact Nat.le_antisymm fits started
  cases selected with
  | nil => exact Nat.zero_le _
  | cons first later =>
      cases later with
      | nil => exact Nat.le_refl _
      | cons second rest =>
          have before :=
            List.rel_of_pairwise_cons consumer.increasing
              (List.mem_cons_self ..)
          rw [isLast first (by simp), isLast second (by simp)] at before
          exact absurd before (Nat.lt_irrefl _)

/-- The messages of a selection that are behind the cursor. -/
def behind (lastSeq : Nat) (selected : List StoredMessage) :
    List StoredMessage :=
  selected.filter (fun stored => lastSeq < stored.seq)

theorem HandsOut.length_le_behind {lastSeq : Nat}
    {selected : List StoredMessage} {events : List FetchEvent}
    (consumer : HandsOut lastSeq selected events) :
    selected.length ≤ max 1 (behind lastSeq selected).length := by
  by_cases below : lastSeq < u64Max
  · have all : behind lastSeq selected = selected := by
      rw [behind, List.filter_eq_self]
      intro stored member
      have started := consumer.started stored member
      rw [requestedSeq] at started
      exact decide_eq_true (by omega)
    rw [all]
    exact Nat.le_max_right _ _
  · exact Nat.le_trans (consumer.length_le_one (Nat.le_of_not_lt below))
      (Nat.le_max_left _ _)

/-- If no more messages than the cap are stored behind the cursor by the time
the replay ends, it is not truncated. -/
theorem replay_not_truncated (decodePayload : ByteArray → Json)
    (encodes : ServerMessage → Bool) (streamName : String) (lastSeq : Nat)
    (info : Except String StreamInfo) (opened : Except String Unit)
    (events : List (FetchEvent × Bool)) (selected : List StoredMessage)
    (consumer : HandsOut lastSeq selected (events.map Prod.fst))
    (few : (behind lastSeq selected).length ≤ maxReplayMessages)
    (stream : String) (delivered limit : Nat) :
    (replaySinceCalls decodePayload encodes streamName lastSeq info opened
        events).2 ≠
      some (.error (.truncated stream delivered limit)) := by
  intro isTruncated
  rcases replaySinceCalls_cases decodePayload encodes streamName lastSeq info
      opened events with
    ⟨-, error, notTruncated, isError⟩ | ⟨-, isLoop⟩
  · rw [isError] at isTruncated
    cases isTruncated
    exact notTruncated stream delivered limit rfl
  · rw [isLoop] at isTruncated
    have fetched :=
      (replayRun_replayCalls events _).messages_of_truncated isTruncated
    have handed := consumer.length_le
    have selectedFew := consumer.length_le_behind
    have capPositive : 1 ≤ maxReplayMessages := by decide
    dsimp only at fetched
    omega

/-! ## A stream of numbered messages -/

def numbered (sequence : Nat) : StoredMessage where
  seq := sequence
  subject := subjectOf "news"
  payload := ByteArray.empty

def numberedUpTo (count : Nat) : List StoredMessage :=
  (List.range count).map (fun index => numbered (index + 1))

/-- The first messages are fetched and accepted. -/
def numberedEvents (count : Nat) : List (FetchEvent × Bool) :=
  (numberedUpTo count).map (fun stored =>
    (.message (some stored.seq) stored.payload, true))

theorem numberedUpTo_initial {count total : Nat} (within : count ≤ total) :
    numberedUpTo count <+: numberedUpTo total := by
  obtain ⟨more, rfl⟩ := Nat.exists_eq_add_of_le within
  rw [numberedUpTo, numberedUpTo, List.range_add, List.map_append]
  exact List.prefix_append _ _

theorem taken_numberedEvents (count : Nat) :
    ∀ entry ∈ numberedEvents count, Taken entry := by
  intro entry member
  obtain ⟨stored, -, rfl⟩ := List.mem_map.mp member
  exact ⟨stored.seq, stored.payload, rfl⟩

theorem isMessage_of_mem_numberedEvents {count : Nat} {event : FetchEvent}
    (member : event ∈ (numberedEvents count).map Prod.fst) :
    event.isMessage = true := by
  obtain ⟨entry, inEvents, rfl⟩ := List.mem_map.mp member
  obtain ⟨sequence, payload, rfl⟩ := taken_numberedEvents count entry inEvents
  rfl

/-- A consumer that has handed out the first messages, and then no more. -/
theorem handsOut_numbered {count total : Nat} (within : count ≤ total)
    (fits : total ≤ u64Max) {tail : List (FetchEvent × Bool)}
    (noMore : ∀ entry ∈ tail, entry.1.isMessage = false) :
    HandsOut 0 (numberedUpTo total)
      ((numberedEvents count ++ tail).map Prod.fst) where
  increasing :=
    List.pairwise_map.mpr
      (List.pairwise_lt_range.imp (fun before => Nat.succ_lt_succ before))
  started := by
    intro stored member
    obtain ⟨index, -, rfl⟩ := List.mem_map.mp member
    exact Nat.le_trans (Nat.min_le_left _ _) (Nat.succ_le_succ (Nat.zero_le _))
  fits := by
    intro stored member
    obtain ⟨index, inRange, rfl⟩ := List.mem_map.mp member
    exact Nat.le_trans (List.mem_range.mp inRange) fits
  handed := by
    refine ⟨numberedUpTo count, (numberedUpTo_initial within).sublist, ?_⟩
    have isTail : (tail.map Prod.fst).filter FetchEvent.isMessage = [] := by
      rw [List.filter_eq_nil_iff]
      intro event member
      obtain ⟨entry, inTail, rfl⟩ := List.mem_map.mp member
      rw [noMore entry inTail]
      exact Bool.false_ne_true
    have isHead :
        ((numberedEvents count).map Prod.fst).filter FetchEvent.isMessage =
          (numberedEvents count).map Prod.fst := by
      rw [List.filter_eq_self]
      exact fun event member => isMessage_of_mem_numberedEvents member
    rw [List.map_append, List.filter_append, isHead, isTail, List.append_nil,
      numberedEvents, List.map_map, List.forall₂_map_left_iff,
      List.forall₂_same]
    exact fun stored _ => ⟨rfl, Or.inr rfl⟩

theorem endsAfter_numbered (count : Nat) :
    EndsAfter (numberedUpTo count)
      ((numberedEvents count ++ [(FetchEvent.ended, true)]).map
        Prod.fst) := by
  intro before rest isSplit stored isHeld
  rw [List.map_append, List.append_eq_append_iff] at isSplit
  have fetched :
      .message (some stored.seq) stored.payload ∈
        (numberedEvents count).map Prod.fst :=
    List.mem_map.mpr ⟨_, List.mem_map.mpr ⟨stored, isHeld, rfl⟩, rfl⟩
  refine ⟨.message (some stored.seq) stored.payload, ?_, rfl, Or.inr rfl⟩
  rcases isSplit with ⟨more, rfl, -⟩ | ⟨more, areEvents, isRest⟩
  · exact List.mem_append_left _ fetched
  · cases more with
    | nil =>
        rwa [areEvents, List.append_nil] at fetched
    | cons event more =>
        cases isRest
        have isMessage :=
          @isMessage_of_mem_numberedEvents count .ended
            (by rw [areEvents]; simp)
        cases isMessage

/-- The first message is fetched, and the next fetch fails. -/
def cutShort : List (FetchEvent × Bool) :=
  numberedEvents 1 ++ [(.error, true)]

/-- Two messages are fetched, and then there are no more. -/
def fetchedAll : List (FetchEvent × Bool) :=
  numberedEvents 2 ++ [(.ended, true)]

/-- The replay of two messages that a failed fetch cuts short is reported as
successful. -/
theorem failed_fetch_reported_complete :
    HandsOut 0 (numberedUpTo 2) (cutShort.map Prod.fst) ∧
      EndsAfter (numberedUpTo 2) (cutShort.map Prod.fst) ∧
      ¬ ReplayComplete (fun _ => .null) "news" 0 (numberedUpTo 2)
        (replaySinceCalls (fun _ => .null) (fun _ => true) "news" 0
          (.ok ⟨2, 1⟩) (.ok ()) cutShort).1
        (replaySinceCalls (fun _ => .null) (fun _ => true) "news" 0
          (.ok ⟨2, 1⟩) (.ok ()) cutShort).2 := by
  refine ⟨handsOut_numbered (by decide) (by decide) (by decide), ?_, ?_⟩
  · intro before rest isSplit
    have ends : FetchEvent.ended ∈ before ++ .ended :: rest := by simp
    rw [← isSplit] at ends
    exact absurd ends (by decide)
  · intro complete
    have sent := complete 1 rfl (numbered 2) (by decide) (by decide)
    simp [replayedFrame, numbered, cutShort, numberedEvents, numberedUpTo,
      replaySinceCalls, checkWindow, replayCalls, replayTurn, requestedSeq,
      u64Max, maxReplayMessages] at sent

/-- The replay of two messages that runs to its end is complete. -/
theorem replay_complete_iff_fetchedAll :
    ReplayComplete (fun _ => .null) "news" 0 (numberedUpTo 2)
      (replaySinceCalls (fun _ => .null) (fun _ => true) "news" 0
        (.ok ⟨2, 1⟩) (.ok ()) fetchedAll).1
      (replaySinceCalls (fun _ => .null) (fun _ => true) "news" 0
        (.ok ⟨2, 1⟩) (.ok ()) fetchedAll).2 := by
  refine (replay_complete_iff (fun _ => .null) (fun _ => true) "news" 0
    (.ok ⟨2, 1⟩) (.ok ()) fetchedAll (numberedUpTo 2) (numberedUpTo 2)
    (fun _ => rfl)
    (handsOut_numbered (by decide) (by decide) (by decide))
    (fun _ isHeld => isHeld) (endsAfter_numbered 2)).mpr ?_
  intro _ taken accepted rest isSplit
  have fails : (FetchEvent.error, accepted) ∈ fetchedAll := by
    rw [isSplit]
    simp
  cases accepted with
  | true | false => exact absurd fails (by decide)

/-- A backlog of two messages is not truncated. -/
theorem replay_not_truncated_fetchedAll :
    (replaySinceCalls (fun _ => .null) (fun _ => true) "news" 0
        (.ok ⟨2, 1⟩) (.ok ()) fetchedAll).2 ≠
      some (.error (.truncated "news" 2 maxReplayMessages)) :=
  replay_not_truncated (fun _ => .null) (fun _ => true) "news" 0
    (.ok ⟨2, 1⟩) (.ok ()) fetchedAll (numberedUpTo 2)
    (handsOut_numbered (by decide) (by decide) (by decide)) (by decide) "news"
    2 maxReplayMessages

/-- However many messages are published while a replay runs, a backlog within
the cap would not be truncated. -/
def BacklogNeverTruncated : Prop :=
  ∀ (decodePayload : ByteArray → Json) (encodes : ServerMessage → Bool)
    (streamName : String) (lastSeq : Nat) (info : Except String StreamInfo)
    (opened : Except String Unit) (events : List (FetchEvent × Bool))
    (backlog selected : List StoredMessage),
    HandsOut lastSeq selected (events.map Prod.fst) → backlog <+: selected →
      (behind lastSeq backlog).length ≤ maxReplayMessages →
        ∀ stream delivered limit,
          (replaySinceCalls decodePayload encodes streamName lastSeq info
              opened events).2 ≠
            some (.error (.truncated stream delivered limit))

theorem length_numberedEvents (count : Nat) :
    (numberedEvents count).length = count := by
  rw [numberedEvents, List.length_map, numberedUpTo, List.length_map,
    List.length_range]

/-- One message more than the cap ends a replay of numbered messages. -/
theorem numbered_truncated :
    (replaySinceCalls (fun _ => .null) (fun _ => true) "news" 0
        (.ok ⟨maxReplayMessages, 1⟩) (.ok ())
        (numberedEvents (maxReplayMessages + 1))).2 =
      some (.error (.truncated "news" maxReplayMessages
        maxReplayMessages)) := by
  have isSplit :
      numberedEvents (maxReplayMessages + 1) =
        numberedEvents maxReplayMessages ++
          [(.message (some (maxReplayMessages + 1)) ByteArray.empty,
            true)] := by
    rw [numberedEvents, numberedUpTo, List.range_succ, List.map_append,
      List.map_append]
    rfl
  have consumer :=
    @handsOut_numbered maxReplayMessages maxReplayMessages (Nat.le_refl _)
      (by decide) [] nofun
  rw [List.append_nil] at consumer
  obtain ⟨prevSeq, isRun⟩ :=
    @replayCalls_of_taken (fun _ => .null) "news" (fun _ => true)
      (fun _ => rfl)
      [(.message (some (maxReplayMessages + 1)) ByteArray.empty, true)]
      (numberedEvents maxReplayMessages) ⟨0, 0⟩ (taken_numberedEvents _)
      (consumer.ascending (by decide))
      (by rw [length_numberedEvents]; exact Nat.le_of_eq (Nat.zero_add _))
  rw [length_numberedEvents, Nat.zero_add] at isRun
  have isLoop :
      replaySinceCalls (fun _ => .null) (fun _ => true) "news" 0
          (.ok ⟨maxReplayMessages, 1⟩) (.ok ())
          (numberedEvents (maxReplayMessages + 1)) =
        replayCalls (fun _ => .null) (fun _ => true) "news" ⟨0, 0⟩
          (numberedEvents (maxReplayMessages + 1)) := rfl
  rw [isLoop, isSplit,
    isRun _ _ (replayCalls_probe (Nat.le_refl _) _ _ _ _)]

/-- A backlog of exactly the cap, and one more message is published while it is
replayed. -/
theorem busy_stream_truncated : ¬ BacklogNeverTruncated := by
  intro never
  have consumer :=
    @handsOut_numbered (maxReplayMessages + 1) (maxReplayMessages + 1)
      (Nat.le_refl _) (by decide) [] nofun
  rw [List.append_nil] at consumer
  refine never (fun _ => .null) (fun _ => true) "news" 0
    (.ok ⟨maxReplayMessages, 1⟩) (.ok ())
    (numberedEvents (maxReplayMessages + 1))
    (numberedUpTo maxReplayMessages) (numberedUpTo (maxReplayMessages + 1))
    consumer (numberedUpTo_initial (Nat.le_succ _)) ?_ "news"
    maxReplayMessages maxReplayMessages numbered_truncated
  refine Nat.le_trans (List.length_filter_le _ _) (Nat.le_of_eq ?_)
  rw [numberedUpTo, List.length_map, List.length_range]

end TurbocableServer.Pubsub
