import TurbocableServer.Pubsub.Retention

/-!
# Replays call by call

`replay_since` with the calls of `tx.send` it makes and their answers, and with
a codec that may fail: a message that cannot be encoded is skipped together with
its sequence.  With a codec that never fails this is `replaySince`.

What one event leads to is said once, by `ReplayRun`; the shape of the output
follows by induction over it.
-/

namespace TurbocableServer.Pubsub

open Protocol

section Calls

variable (decodePayload : ByteArray → Json)
variable (encodes : ServerMessage → Bool)

/-- The replay loop with its calls of `tx.send`. -/
def replayCalls (streamName : String) :
    ReplayCursor → List (FetchEvent × Bool) →
      List (ServerMessage × Bool) ×
        Option (Except ReplayError ReplayDelivery)
  | _, [] => ([], none)
  | cursor, (event, accepted) :: rest =>
      match replayTurn decodePayload streamName cursor event with
      | .again next => replayCalls streamName next rest
      | .send frame next =>
          if encodes frame then
            if accepted then
              let (calls, result) := replayCalls streamName next rest
              ((frame, true) :: calls, result)
            else
              ([(frame, false)], some (.ok ⟨cursor.count, true⟩))
          else
            -- `prev_seq` has moved on, `count` has not.
            replayCalls streamName { next with count := cursor.count } rest
      | .finish result => ([], some result)

/-- `replay_since` with its calls of `tx.send`. -/
def replaySinceCalls (streamName : String) (lastSeq : Nat)
    (info : Except String StreamInfo) (opened : Except String Unit)
    (events : List (FetchEvent × Bool)) :
    List (ServerMessage × Bool) ×
      Option (Except ReplayError ReplayDelivery) :=
  match info with
  | .error reason => ([], some (.error (.jetStream reason)))
  | .ok info =>
      match checkWindow streamName lastSeq info with
      | .error refused => ([], some (.error refused))
      | .ok () =>
          match opened with
          | .error reason => ([], some (.error (.jetStream reason)))
          | .ok () =>
              replayCalls decodePayload encodes streamName
                { count := 0, prevSeq := lastSeq } events

end Calls

/-- The frames that `tx` has taken. -/
def enqueued (calls : List (ServerMessage × Bool)) : List ServerMessage :=
  (calls.filter Prod.snd).map Prod.fst

@[simp]
theorem enqueued_nil : enqueued [] = [] :=
  rfl

@[simp]
theorem enqueued_cons_true (frame : ServerMessage)
    (calls : List (ServerMessage × Bool)) :
    enqueued ((frame, true) :: calls) = frame :: enqueued calls :=
  rfl

@[simp]
theorem enqueued_refused (frame : ServerMessage) :
    enqueued [(frame, false)] = [] :=
  rfl

theorem enqueued_map_true (frames : List ServerMessage) :
    enqueued (frames.map (fun frame => (frame, true))) = frames := by
  induction frames with
  | nil =>
      rfl
  | cons frame rest ih =>
      rw [List.map_cons, enqueued_cons_true, ih]

variable {decodePayload : ByteArray → Json}
variable {encodes : ServerMessage → Bool} {streamName : String}

/-- With a codec that never fails the frames are those of `replayLoop`. -/
theorem replayLoop_eq_replayCalls (total : ∀ frame, encodes frame = true) :
    ∀ (events : List (FetchEvent × Bool)) (cursor : ReplayCursor),
      replayLoop decodePayload streamName cursor events =
        (enqueued (replayCalls decodePayload encodes streamName cursor
            events).1,
          (replayCalls decodePayload encodes streamName cursor events).2)
  | [], cursor => rfl
  | (event, accepted) :: rest, cursor => by
      have later := replayLoop_eq_replayCalls total rest
      rw [replayLoop, replayCalls]
      cases turn : replayTurn decodePayload streamName cursor event with
      | again next =>
          exact later next
      | send frame next =>
          simp only [total frame, if_true]
          cases accepted with
          | true =>
              simp only [if_true, later next, enqueued_cons_true]
          | false =>
              rfl
      | finish result =>
          rfl

theorem replaySince_eq_replaySinceCalls
    (total : ∀ frame, encodes frame = true) (lastSeq : Nat)
    (info : Except String StreamInfo) (opened : Except String Unit)
    (events : List (FetchEvent × Bool)) :
    replaySince decodePayload streamName lastSeq info opened events =
      (enqueued (replaySinceCalls decodePayload encodes streamName lastSeq
          info opened events).1,
        (replaySinceCalls decodePayload encodes streamName lastSeq info opened
          events).2) := by
  cases info with
  | error reason =>
      rfl
  | ok info =>
      simp only [replaySince, replaySinceCalls]
      cases checkWindow streamName lastSeq info with
      | error refused =>
          rfl
      | ok passed =>
          cases opened with
          | error reason =>
              rfl
          | ok done =>
              exact replayLoop_eq_replayCalls total events _

/-! ## What an event leads to -/

/-- The runs of the replay loop, one rule for each thing that can happen. -/
inductive ReplayRun (decodePayload : ByteArray → Json)
    (encodes : ServerMessage → Bool) (streamName : String) :
    ReplayCursor → List (FetchEvent × Bool) →
      List (ServerMessage × Bool) →
        Option (Except ReplayError ReplayDelivery) → Prop
  | waiting (cursor : ReplayCursor) :
      ReplayRun decodePayload encodes streamName cursor [] [] none
  | skipped {cursor : ReplayCursor} {sequence : Nat} {payload : ByteArray}
      {accepted : Bool} {rest : List (FetchEvent × Bool)}
      {calls : List (ServerMessage × Bool)}
      {result : Option (Except ReplayError ReplayDelivery)} :
      cursor.count < maxReplayMessages → sequence ≤ cursor.prevSeq →
      ReplayRun decodePayload encodes streamName cursor rest calls result →
      ReplayRun decodePayload encodes streamName cursor
        ((.message (some sequence) payload, accepted) :: rest) calls result
  | unencodable {cursor : ReplayCursor} {sequence : Nat}
      {payload : ByteArray} {accepted : Bool}
      {rest : List (FetchEvent × Bool)}
      {calls : List (ServerMessage × Bool)}
      {result : Option (Except ReplayError ReplayDelivery)} :
      cursor.count < maxReplayMessages → cursor.prevSeq < sequence →
      encodes (replayedFrame decodePayload streamName sequence payload) =
        false →
      ReplayRun decodePayload encodes streamName ⟨cursor.count, sequence⟩
        rest calls result →
      ReplayRun decodePayload encodes streamName cursor
        ((.message (some sequence) payload, accepted) :: rest) calls result
  | sent {cursor : ReplayCursor} {sequence : Nat} {payload : ByteArray}
      {rest : List (FetchEvent × Bool)}
      {calls : List (ServerMessage × Bool)}
      {result : Option (Except ReplayError ReplayDelivery)} :
      cursor.count < maxReplayMessages → cursor.prevSeq < sequence →
      encodes (replayedFrame decodePayload streamName sequence payload) =
        true →
      ReplayRun decodePayload encodes streamName
        ⟨cursor.count + 1, sequence⟩ rest calls result →
      ReplayRun decodePayload encodes streamName cursor
        ((.message (some sequence) payload, true) :: rest)
        ((replayedFrame decodePayload streamName sequence payload, true) ::
          calls)
        result
  | peerGone {cursor : ReplayCursor} {sequence : Nat} {payload : ByteArray}
      {rest : List (FetchEvent × Bool)} :
      cursor.count < maxReplayMessages → cursor.prevSeq < sequence →
      encodes (replayedFrame decodePayload streamName sequence payload) =
        true →
      ReplayRun decodePayload encodes streamName cursor
        ((.message (some sequence) payload, false) :: rest)
        [(replayedFrame decodePayload streamName sequence payload, false)]
        (some (.ok ⟨cursor.count, true⟩))
  | unnumbered {cursor : ReplayCursor} {payload : ByteArray}
      {accepted : Bool} {rest : List (FetchEvent × Bool)} :
      cursor.count < maxReplayMessages →
      ReplayRun decodePayload encodes streamName cursor
        ((.message none payload, accepted) :: rest) []
        (some (.error (.jetStream
          "replay message missing JetStream stream sequence metadata")))
  | truncated {cursor : ReplayCursor} {sequence : Option Nat}
      {payload : ByteArray} {accepted : Bool}
      {rest : List (FetchEvent × Bool)} :
      maxReplayMessages ≤ cursor.count →
      ReplayRun decodePayload encodes streamName cursor
        ((.message sequence payload, accepted) :: rest) []
        (some (.error
          (.truncated streamName cursor.count maxReplayMessages)))
  | failed {cursor : ReplayCursor} {accepted : Bool}
      {rest : List (FetchEvent × Bool)} :
      ReplayRun decodePayload encodes streamName cursor
        ((.error, accepted) :: rest) [] (some (.ok ⟨cursor.count, false⟩))
  | ended {cursor : ReplayCursor} {accepted : Bool}
      {rest : List (FetchEvent × Bool)} :
      ReplayRun decodePayload encodes streamName cursor
        ((.ended, accepted) :: rest) [] (some (.ok ⟨cursor.count, false⟩))

theorem replayRun_replayCalls :
    ∀ (events : List (FetchEvent × Bool)) (cursor : ReplayCursor),
      ReplayRun decodePayload encodes streamName cursor events
        (replayCalls decodePayload encodes streamName cursor events).1
        (replayCalls decodePayload encodes streamName cursor events).2
  | [], cursor => .waiting cursor
  | (event, accepted) :: rest, cursor => by
      have later := replayRun_replayCalls rest
      rw [replayCalls]
      cases event with
      | message sequence payload =>
          by_cases below : cursor.count < maxReplayMessages
          · cases sequence with
            | none =>
                simp only [replayTurn, if_pos below]
                exact .unnumbered below
            | some sequence =>
                by_cases older : sequence ≤ cursor.prevSeq
                · simp only [replayTurn, if_pos below, if_pos older]
                  exact .skipped below older (later cursor)
                · have newer := Nat.lt_of_not_le older
                  simp only [replayTurn, if_pos below, if_neg older]
                  split
                  · rename_i canEncode
                    cases accepted with
                    | true => exact .sent below newer canEncode (later _)
                    | false => exact .peerGone below newer canEncode
                  · rename_i cannot
                    exact .unencodable below newer
                      (Bool.eq_false_iff.mpr cannot) (later _)
          · simp only [replayTurn, if_neg below]
            exact .truncated (Nat.le_of_not_lt below)
      | error =>
          simp only [replayTurn, ite_self]
          exact .failed
      | ended =>
          simp only [replayTurn, ite_self]
          exact .ended

/-- The replay gets to its loop: the cursor passes the checks, and the consumer
and its message stream can be created. -/
def Opens (streamName : String) (lastSeq : Nat)
    (info : Except String StreamInfo) (opened : Except String Unit) : Prop :=
  ∃ state, info = .ok state ∧
    checkWindow streamName lastSeq state = .ok () ∧ opened = .ok ()

/-- Either the replay does not get to its loop, and ends without a call, or it
is a run of the loop from the cursor of the client. -/
theorem replaySinceCalls_cases (decodePayload : ByteArray → Json)
    (encodes : ServerMessage → Bool) (streamName : String) (lastSeq : Nat)
    (info : Except String StreamInfo) (opened : Except String Unit)
    (events : List (FetchEvent × Bool)) :
    (¬ Opens streamName lastSeq info opened ∧
        ∃ error,
          (∀ stream delivered limit,
            error ≠ .truncated stream delivered limit) ∧
          replaySinceCalls decodePayload encodes streamName lastSeq info
              opened events =
            ([], some (.error error))) ∨
      Opens streamName lastSeq info opened ∧
        replaySinceCalls decodePayload encodes streamName lastSeq info opened
            events =
          replayCalls decodePayload encodes streamName
            { count := 0, prevSeq := lastSeq } events := by
  cases info with
  | error reason =>
      exact Or.inl ⟨by simp [Opens], .jetStream reason, by simp, rfl⟩
  | ok info =>
      simp only [replaySinceCalls]
      rcases checkWindow_cases with isOk | ⟨oldest, refused⟩
      · rw [isOk]
        cases opened with
        | error reason =>
            exact Or.inl ⟨by simp [Opens], .jetStream reason, by simp, rfl⟩
        | ok done =>
            exact Or.inr ⟨⟨info, rfl, isOk, rfl⟩, rfl⟩
      · rw [refused]
        exact Or.inl ⟨by simp [Opens, refused], _, by simp, rfl⟩

/-! ## The shape of the output -/

section Shape

variable {cursor : ReplayCursor} {events : List (FetchEvent × Bool)}
variable {calls : List (ServerMessage × Bool)}
variable {result : Option (Except ReplayError ReplayDelivery)}

/-- The catch-up frame of a sequence and a payload. -/
def catchUpFrame (streamName : String) (entry : Nat × Json) : ServerMessage :=
  .message streamName entry.2 (some true) (some entry.1)

/-- The frames carry increasing sequences above the cursor. -/
theorem ReplayRun.exists_entries
    (run : ReplayRun decodePayload encodes streamName cursor events calls
      result) :
    ∃ entries : List (Nat × Json),
      enqueued calls = entries.map (catchUpFrame streamName) ∧
        (entries.map Prod.fst).Pairwise (· < ·) ∧
        ∀ entry ∈ entries, cursor.prevSeq < entry.1 := by
  induction run with
  | skipped below older later ih =>
      exact ih
  | unencodable below newer cannot later ih =>
      obtain ⟨entries, areFrames, increasing, above⟩ := ih
      exact ⟨entries, areFrames, increasing, fun entry member =>
        Nat.lt_trans newer (above entry member)⟩
  | @sent cursor sequence payload rest calls result below newer canEncode later
      ih =>
      obtain ⟨entries, areFrames, increasing, above⟩ := ih
      refine ⟨(sequence, decodePayload payload) :: entries, ?_, ?_, ?_⟩
      · rw [enqueued_cons_true, areFrames]
        rfl
      · rw [List.map_cons, List.pairwise_cons]
        refine ⟨fun next member => ?_, increasing⟩
        obtain ⟨entry, isEntry, rfl⟩ := List.mem_map.mp member
        exact above entry isEntry
      · intro entry member
        rcases List.mem_cons.mp member with rfl | later
        · exact newer
        · exact Nat.lt_trans newer (above entry later)
  | _ => exact ⟨[], rfl, List.Pairwise.nil, by simp⟩

/-- The loop never counts beyond the cap. -/
theorem ReplayRun.length_le
    (run : ReplayRun decodePayload encodes streamName cursor events calls
      result) (capped : cursor.count ≤ maxReplayMessages) :
    cursor.count + (enqueued calls).length ≤ maxReplayMessages := by
  induction run with
  | skipped below older later ih =>
      exact ih capped
  | unencodable below newer cannot later ih =>
      exact ih capped
  | sent below newer canEncode later ih =>
      have counted := ih below
      rw [enqueued_cons_true, List.length_cons]
      dsimp only at counted
      omega
  | _ => exact capped

/-- The counter of the loop, and with it what is reported as delivered, is the
number of frames enqueued. -/
theorem ReplayRun.delivered_eq
    (run : ReplayRun decodePayload encodes streamName cursor events calls
      result) :
    (∀ delivery, result = some (.ok delivery) →
        delivery.delivered = cursor.count + (enqueued calls).length) ∧
      ∀ stream delivered limit,
        result = some (.error (.truncated stream delivered limit)) →
          delivered = cursor.count + (enqueued calls).length := by
  induction run with
  | skipped below older later ih =>
      exact ih
  | unencodable below newer cannot later ih =>
      exact ih
  | sent below newer canEncode later ih =>
      obtain ⟨finished, truncated⟩ := ih
      simp only [enqueued_cons_true, List.length_cons]
      refine ⟨fun delivery isResult => ?_,
        fun stream delivered limit isResult => ?_⟩
      · rw [finished delivery isResult]
        exact Nat.add_right_comm _ _ _
      · rw [truncated stream delivered limit isResult]
        exact Nat.add_right_comm _ _ _
  | peerGone below newer canEncode | failed | ended =>
      refine ⟨fun delivery isResult => ?_, nofun⟩
      cases isResult
      rfl
  | truncated full =>
      refine ⟨nofun, fun stream delivered limit isResult => ?_⟩
      cases isResult
      rfl
  | waiting | unnumbered below => exact ⟨nofun, nofun⟩

/-- The peer is reported gone exactly when `tx` has refused a frame. -/
theorem ReplayRun.peerGone_iff
    (run : ReplayRun decodePayload encodes streamName cursor events calls
      result) :
    (∃ delivered, result = some (.ok ⟨delivered, true⟩)) ↔
      ∃ frame, (frame, false) ∈ calls := by
  induction run with
  | skipped below older later ih =>
      exact ih
  | unencodable below newer cannot later ih =>
      exact ih
  | sent below newer canEncode later ih =>
      simp [ih]
  | _ => simp

end Shape

/-- The output of a replay: catch-up frames of the requested stream in strictly
increasing sequence behind the cursor, no more than the cap, with a result that
reports how many there are and whether `tx` was closed. -/
structure ReplayOutput (streamName : String) (lastSeq : Nat)
    (calls : List (ServerMessage × Bool))
    (result : Option (Except ReplayError ReplayDelivery)) : Prop where
  frames :
    ∃ entries : List (Nat × Json),
      enqueued calls = entries.map (catchUpFrame streamName) ∧
        (entries.map Prod.fst).Pairwise (· < ·) ∧
        ∀ entry ∈ entries, lastSeq < entry.1
  capped : (enqueued calls).length ≤ maxReplayMessages
  delivered :
    ∀ delivery, result = some (.ok delivery) →
      delivery.delivered = (enqueued calls).length
  truncated :
    ∀ stream delivered limit,
      result = some (.error (.truncated stream delivered limit)) →
        delivered = (enqueued calls).length
  peerGone :
    (∃ delivered, result = some (.ok ⟨delivered, true⟩)) ↔
      ∃ frame, (frame, false) ∈ calls

/-- Whatever the consumer hands out, in whatever order, and whenever `tx` is
closed, the output of a replay is well formed. -/
theorem replay_output_wellFormed (decodePayload : ByteArray → Json)
    (encodes : ServerMessage → Bool) (streamName : String) (lastSeq : Nat)
    (info : Except String StreamInfo) (opened : Except String Unit)
    (events : List (FetchEvent × Bool)) :
    ReplayOutput streamName lastSeq
      (replaySinceCalls decodePayload encodes streamName lastSeq info opened
        events).1
      (replaySinceCalls decodePayload encodes streamName lastSeq info opened
        events).2 := by
  rcases replaySinceCalls_cases decodePayload encodes streamName lastSeq info
      opened events with
    ⟨-, error, notTruncated, isError⟩ | ⟨-, isLoop⟩
  · rw [isError]
    exact
      { frames := ⟨[], rfl, List.Pairwise.nil, nofun⟩
        capped := Nat.zero_le _
        delivered := nofun
        truncated := by
          intro stream delivered limit isResult
          cases isResult
          exact absurd rfl (notTruncated stream delivered limit)
        peerGone := by simp }
  · rw [isLoop]
    have run :=
      @replayRun_replayCalls decodePayload encodes streamName events
        { count := 0, prevSeq := lastSeq }
    have capped := run.length_le (Nat.zero_le _)
    obtain ⟨delivered, truncated⟩ := run.delivered_eq
    simp only [Nat.zero_add] at capped delivered truncated
    exact ⟨run.exists_entries, capped, delivered, truncated, run.peerGone_iff⟩

end TurbocableServer.Pubsub
