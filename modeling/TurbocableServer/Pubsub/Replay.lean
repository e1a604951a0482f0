import TurbocableServer.Protocol.Types
import TurbocableServer.Pubsub.Subjects

/-!
# Messages and their replay

The frames built from a JetStream message, live (`process_nats_message`) and
replayed, and the replay loop `replay_since` of `pubsub/nats.rs`.

The body of the replay loop is one function of the loop variables and of the
event that ended the wait for the next message.  Both the sequential
`replaySince` below and the replay tasks of a running node are built from it.
Both codecs encode every server message, so the branch for an encoding error
does not occur, and frames are kept unencoded.
-/

namespace TurbocableServer.Pubsub

open Protocol

/-- A message of the JetStream stream. -/
structure StoredMessage where
  seq : Nat
  subject : String
  payload : ByteArray
  deriving DecidableEq

/-- The name of the stream a message belongs to. -/
def StoredMessage.stream (message : StoredMessage) : String :=
  extractStreamName message.subject

def maxReplayMessages : Nat := 10000

def u64Max : Nat := 2 ^ 64 - 1

inductive ReplayError where
  | windowExceeded (stream : String) (requestedSeq oldestAvailable : Nat)
  | truncated (stream : String) (delivered limit : Nat)
  | jetStream (error : String)
  deriving DecidableEq, Repr

/-- Outcome of a replay without error.  The time of the first delivery is only
used for metrics and left out. -/
structure ReplayDelivery where
  delivered : Nat
  peerGone : Bool
  deriving DecidableEq, Repr

/-- The part of the stream info the window checks read. -/
structure StreamInfo where
  messages : Nat
  firstSequence : Nat
  deriving DecidableEq, Repr

/-- What the wait for the next message ends with.  A timeout counts as the end
of the messages. -/
inductive FetchEvent where
  | message (sequence : Option Nat) (payload : ByteArray)
  | error
  | ended
  deriving DecidableEq

/-- The variables of the replay loop. -/
structure ReplayCursor where
  count : Nat
  prevSeq : Nat
  deriving DecidableEq, Repr

/-- What one turn of the replay loop does. -/
inductive ReplayTurn where
  | again (cursor : ReplayCursor)
  | send (frame : ServerMessage) (cursor : ReplayCursor)
  | finish (result : Except ReplayError ReplayDelivery)

section

-- The payload as JSON, else as MessagePack, else `null`.
variable (decodePayload : ByteArray → Json)

/-- The frame fanned out for a message. -/
def liveFrame (message : StoredMessage) : ServerMessage :=
  .message message.stream (decodePayload message.payload) none
    (some message.seq)

/-- The frame replayed for a message to a subscriber of `streamName`. -/
def replayedFrame (streamName : String) (sequence : Nat)
    (payload : ByteArray) : ServerMessage :=
  .message streamName (decodePayload payload) (some true) (some sequence)

/-- `last_seq.saturating_add(1)`. -/
def requestedSeq (lastSeq : Nat) : Nat :=
  min (lastSeq + 1) u64Max

/-- The retention checks before the consumer is created. -/
def checkWindow (streamName : String) (lastSeq : Nat) (info : StreamInfo) :
    Except ReplayError Unit :=
  if info.messages > 0 ∧ requestedSeq lastSeq < info.firstSequence then
    .error
      (.windowExceeded streamName (requestedSeq lastSeq) info.firstSequence)
  else if info.messages = 0 ∧ lastSeq > 0 then
    .error
      (.windowExceeded streamName (requestedSeq lastSeq)
        (max info.firstSequence 1))
  else
    .ok ()

/-- The loop body, and the truncation probe once the cap is reached. -/
def replayTurn (streamName : String) (cursor : ReplayCursor)
    (event : FetchEvent) : ReplayTurn :=
  if cursor.count < maxReplayMessages then
    match event with
    | .message none _ =>
        .finish (.error (.jetStream
          "replay message missing JetStream stream sequence metadata"))
    | .message (some sequence) payload =>
        if sequence ≤ cursor.prevSeq then
          .again cursor
        else
          .send (replayedFrame decodePayload streamName sequence payload)
            { count := cursor.count + 1, prevSeq := sequence }
    | .error => .finish (.ok ⟨cursor.count, false⟩)
    | .ended => .finish (.ok ⟨cursor.count, false⟩)
  else
    match event with
    | .message _ _ =>
        .finish (.error
          (.truncated streamName cursor.count maxReplayMessages))
    | .error => .finish (.ok ⟨cursor.count, false⟩)
    | .ended => .finish (.ok ⟨cursor.count, false⟩)

/-- The replay loop over a list of events, each with the answer of `tx.send` to
the frame it may lead to.  No result means that the events ran out first. -/
def replayLoop (streamName : String) :
    ReplayCursor → List (FetchEvent × Bool) →
      List ServerMessage × Option (Except ReplayError ReplayDelivery)
  | _, [] => ([], none)
  | cursor, (event, accepted) :: rest =>
      match replayTurn decodePayload streamName cursor event with
      | .again next => replayLoop streamName next rest
      | .send frame next =>
          if accepted then
            let (frames, result) := replayLoop streamName next rest
            (frame :: frames, result)
          else
            ([], some (.ok ⟨cursor.count, true⟩))
      | .finish result => ([], some result)

/-- `replay_since`: the frames it enqueues and its result.  `info` stands for
`get_stream` and `info`, `opened` for the creation of the consumer and of its
message stream. -/
def replaySince (streamName : String) (lastSeq : Nat)
    (info : Except String StreamInfo) (opened : Except String Unit)
    (events : List (FetchEvent × Bool)) :
    List ServerMessage × Option (Except ReplayError ReplayDelivery) :=
  match info with
  | .error reason => ([], some (.error (.jetStream reason)))
  | .ok info =>
      match checkWindow streamName lastSeq info with
      | .error refused => ([], some (.error refused))
      | .ok () =>
          match opened with
          | .error reason => ([], some (.error (.jetStream reason)))
          | .ok () =>
              replayLoop decodePayload streamName
                { count := 0, prevSeq := lastSeq } events

/-! ## Where the frames come from -/

variable {decodePayload}

/-- A turn only sends the frame of the message it fetched. -/
theorem replayTurn_eq_send {streamName : String}
    {cursor next : ReplayCursor} {event : FetchEvent} {frame : ServerMessage}
    (sends : replayTurn decodePayload streamName cursor event =
      .send frame next) :
    ∃ sequence payload,
      event = .message (some sequence) payload ∧
        cursor.count < maxReplayMessages ∧ cursor.prevSeq < sequence ∧
        frame = replayedFrame decodePayload streamName sequence payload ∧
        next = { count := cursor.count + 1, prevSeq := sequence } := by
  unfold replayTurn at sends
  split at sends
  · rename_i below
    split at sends
    · cases sends
    · rename_i sequence payload
      split at sends
      · cases sends
      · rename_i newer
        cases sends
        exact ⟨sequence, payload, rfl, below, by omega, rfl, rfl⟩
    · cases sends
    · cases sends
  · split at sends <;> cases sends

/-- A turn without effect skips a message that is not newer. -/
theorem replayTurn_eq_again {streamName : String}
    {cursor next : ReplayCursor} {event : FetchEvent}
    (again : replayTurn decodePayload streamName cursor event =
      .again next) :
    next = cursor ∧
      ∃ sequence payload,
        event = .message (some sequence) payload ∧
          sequence ≤ cursor.prevSeq := by
  unfold replayTurn at again
  split at again
  · split at again
    · cases again
    · rename_i sequence payload
      split at again
      · rename_i older
        cases again
        exact ⟨rfl, sequence, payload, rfl, older⟩
      · cases again
    · cases again
    · cases again
  · split at again <;> cases again

/-- Every frame of the loop is the frame of a fetched message. -/
theorem mem_replayLoop {streamName : String} {frame : ServerMessage} :
    ∀ {events : List (FetchEvent × Bool)} {cursor : ReplayCursor},
      frame ∈ (replayLoop decodePayload streamName cursor events).1 →
        ∃ sequence payload accepted,
          (FetchEvent.message (some sequence) payload, accepted) ∈ events ∧
            frame =
              replayedFrame decodePayload streamName sequence payload
  | [], cursor, member => by
      cases member
  | (event, accepted) :: rest, cursor, member => by
      have later :
          ∀ {next : ReplayCursor},
            frame ∈ (replayLoop decodePayload streamName next rest).1 →
              ∃ sequence payload accepted',
                (FetchEvent.message (some sequence) payload, accepted') ∈
                    (event, accepted) :: rest ∧
                  frame =
                    replayedFrame decodePayload streamName sequence
                      payload := by
        intro next inRest
        obtain ⟨sequence, payload, flag, isEvent, isFrame⟩ :=
          mem_replayLoop inRest
        exact ⟨sequence, payload, flag, List.mem_cons_of_mem _ isEvent,
          isFrame⟩
      rw [replayLoop] at member
      split at member
      · exact later member
      · rename_i sent next sends
        obtain ⟨sequence, payload, isEvent, -, -, isFrame, -⟩ :=
          replayTurn_eq_send sends
        split at member
        · rcases List.mem_cons.mp member with same | inRest
          · refine ⟨sequence, payload, accepted, ?_, same.trans isFrame⟩
            rw [← isEvent]
            exact List.mem_cons_self ..
          · exact later inRest
        · cases member
      · cases member

theorem mem_replaySince {streamName : String} {lastSeq : Nat}
    {info : Except String StreamInfo} {opened : Except String Unit}
    {events : List (FetchEvent × Bool)} {frame : ServerMessage}
    (member : frame ∈
      (replaySince decodePayload streamName lastSeq info opened events).1) :
    ∃ sequence payload accepted,
      (FetchEvent.message (some sequence) payload, accepted) ∈ events ∧
        frame = replayedFrame decodePayload streamName sequence payload := by
  unfold replaySince at member
  split at member
  · cases member
  · split at member
    · cases member
    · split at member
      · cases member
      · exact mem_replayLoop member

end

end TurbocableServer.Pubsub
