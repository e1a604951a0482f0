import TurbocableServer.Pubsub.MessageLog

/-!
# The streams an identifier names

A subscription identifier reaches a stream by four routes: the registry key
extracted from it, the filter subject of its replay, the subject its messages
are published to, and the identifier field of the frames it receives.  Only the
first route looks inside the identifier, and only the replay filter gives
wildcards a meaning, so the routes agree exactly for identifiers that are their
own stream key and whose filter selects nothing else.
-/

namespace TurbocableServer.Pubsub

open Protocol

/-- Whatever the consumer hands over is one of the candidates; order,
repetitions, omissions and errors are left open. -/
def YieldedFrom (candidates : List StoredMessage)
    (events : List (FetchEvent × Bool)) : Prop :=
  ∀ sequence payload accepted,
    (FetchEvent.message (some sequence) payload, accepted) ∈ events →
      ∃ message,
        message ∈ candidates ∧ sequence = message.seq ∧
          payload = message.payload

section

variable (fromStr : String → Option Json) (decodePayload : ByteArray → Json)

/-- The replay of `identifier` can enqueue the frame of `message`. -/
def Replays (log : MessageLog) (identifier : String)
    (lastSeq : Nat) (message : StoredMessage) : Prop :=
  ∃ info opened events,
    YieldedFrom (log.replayCandidates identifier lastSeq) events ∧
      replayedFrame decodePayload identifier message.seq message.payload ∈
        (replaySince decodePayload identifier lastSeq info opened events).1

/-- All four routes lead to the registry key. -/
structure RoutesAgree (identifier : String) : Prop where
  replayed_stream :
    ∀ (log : MessageLog) lastSeq message, message ∈ log.messages →
      Replays decodePayload log identifier lastSeq message →
        message.stream = streamKeyFromIdentifier fromStr identifier
  retained_candidate :
    ∀ (log : MessageLog) lastSeq message, message ∈ log.messages →
      message.stream = streamKeyFromIdentifier fromStr identifier →
        lastSeq < message.seq →
          message ∈ log.replayCandidates identifier lastSeq
  published_stream :
    extractStreamName (subjectOf identifier) =
      streamKeyFromIdentifier fromStr identifier
  same_identifier_field :
    ∀ (log : MessageLog) lastSeq message, message ∈ log.messages →
      Replays decodePayload log identifier lastSeq message →
        identifierField (liveFrame decodePayload message) =
          identifierField
            (replayedFrame decodePayload identifier message.seq
              message.payload)

variable {fromStr decodePayload}

/-- What a replay enqueues is one of its candidates. -/
theorem Replays.mem_candidates
    {log : MessageLog} {identifier : String} {lastSeq : Nat}
    {message : StoredMessage} (member : message ∈ log.messages)
    (replays : Replays decodePayload log identifier lastSeq message) :
    message ∈ log.replayCandidates identifier lastSeq := by
  obtain ⟨info, opened, events, yielded, enqueued⟩ := replays
  obtain ⟨sequence, payload, accepted, isEvent, sameFrame⟩ :=
    mem_replaySince enqueued
  obtain ⟨origin, isCandidate, sameSeq, -⟩ :=
    yielded sequence payload accepted isEvent
  have seqEq : message.seq = sequence := by
    simp only [replayedFrame, ServerMessage.message.injEq] at sameFrame
    exact Option.some.inj sameFrame.2.2.2
  have originMember : origin ∈ log.messages :=
    (List.mem_filter.mp isCandidate).1
  have same : message = origin :=
    log.eq_of_seq_eq member originMember (seqEq.trans sameSeq)
  rw [same]
  exact isCandidate

/-- A log with one message on the given subject, if it can be stored. -/
def singletonLog (subject : String) : MessageLog :=
  MessageLog.empty.publish subject ByteArray.empty

theorem singletonLog_messages {subject : String}
    (canStore : storable subject = true) :
    (singletonLog subject).messages = [⟨1, subject, ByteArray.empty⟩] := by
  simp [singletonLog, MessageLog.publish, MessageLog.empty, canStore]

/-- A replay that starts at the beginning can enqueue any message its filter
selects. -/
theorem replays_singleton {identifier subject : String}
    (canStore : storable subject = true)
    (selected : filterSelects (subjectOf identifier) subject = true) :
    Replays decodePayload (singletonLog subject) identifier 0
      ⟨1, subject, ByteArray.empty⟩ := by
  refine ⟨.ok ⟨1, 1⟩, .ok (), [(.message (some 1) ByteArray.empty, true)],
    ?_, ?_⟩
  · intro sequence payload accepted isEvent
    refine ⟨⟨1, subject, ByteArray.empty⟩, ?_, ?_⟩
    · rw [MessageLog.replayCandidates, singletonLog_messages canStore]
      simp [selected, requestedSeq, u64Max]
    · have only := List.mem_singleton.mp isEvent
      simp only [Prod.mk.injEq, FetchEvent.message.injEq,
        Option.some.injEq] at only
      exact only.1
  · simp [replaySince, checkWindow, replayLoop, replayTurn, requestedSeq,
      u64Max, maxReplayMessages]

/-- The candidates of a name whose filter selects only its own subject. -/
theorem stream_of_candidate
    {log : MessageLog} {identifier : String} {lastSeq : Nat}
    {message : StoredMessage}
    (exact_ :
      ¬ HasWildcard identifier ∨
        ∀ subject, storable subject = true →
          filterSelects (subjectOf identifier) subject = false)
    (isCandidate : message ∈ log.replayCandidates identifier lastSeq) :
    message.stream = identifier := by
  obtain ⟨member, chosen⟩ := List.mem_filter.mp isCandidate
  rw [Bool.and_eq_true] at chosen
  rcases exact_ with plain | unmatched
  · rw [StoredMessage.stream,
      (filterSelects_plain_iff plain message.subject).mp chosen.1,
      extractStreamName_subjectOf]
  · have refused :=
      unmatched message.subject (log.captured message member)
    rw [chosen.1] at refused
    cases refused

/-- The routes agree exactly for an identifier that is its own stream key and
either has no wildcard token or a filter no stored subject can match. -/
theorem routesAgree_iff (identifier : String) :
    RoutesAgree fromStr decodePayload identifier ↔
      streamKeyFromIdentifier fromStr identifier = identifier ∧
        (¬ HasWildcard identifier ∨
          ∀ subject, storable subject = true →
            filterSelects (subjectOf identifier) subject = false) := by
  constructor
  · intro agree
    have ownKey :
        streamKeyFromIdentifier fromStr identifier = identifier := by
      rw [← agree.published_stream, extractStreamName_subjectOf]
    refine ⟨ownKey, ?_⟩
    by_contra both
    push Not at both
    obtain ⟨wild, subject, canStore, selected⟩ := both
    have selectedTrue :
        filterSelects (subjectOf identifier) subject = true := by
      simpa using selected
    -- Everything the filter selects would have to be the one subject.
    have only :
        ∀ tested, storable tested = true →
          filterSelects (subjectOf identifier) tested = true →
            tested = subjectOf identifier := by
      intro tested canStoreTested selectedTested
      have member :
          ⟨1, tested, ByteArray.empty⟩ ∈ (singletonLog tested).messages := by
        rw [singletonLog_messages canStoreTested]
        exact List.mem_singleton_self _
      have stream :=
        agree.replayed_stream _ 0 _ member
          (replays_singleton canStoreTested selectedTested)
      have isSubject := MessageLog.subject_eq _ member
      rw [stream, ownKey] at isSubject
      exact isSubject
    obtain ⟨other, isOther, canStoreOther, selectedOther⟩ :=
      exists_other_storable wild selectedTrue canStore
    apply isOther
    rw [only other canStoreOther selectedOther,
      only subject canStore selectedTrue]
  · rintro ⟨ownKey, exact_⟩
    refine ⟨?_, ?_, ?_, ?_⟩
    · intro log lastSeq message member replays
      rw [ownKey]
      exact stream_of_candidate exact_ (replays.mem_candidates member)
    · intro log lastSeq message member ofStream newer
      rw [← ownKey, ← ofStream]
      exact log.mem_replayCandidates_of_stream member newer
    · rw [ownKey, extractStreamName_subjectOf]
    · intro log lastSeq message member replays
      have stream :=
        stream_of_candidate exact_ (replays.mem_candidates member)
      simp [identifierField, liveFrame, replayedFrame, stream]

end

/-- The registry key of the documented identifier is `bench`, and what is
published through it goes to another stream. -/
theorem routes_disagree_bench :
    streamKeyFromIdentifier benchFromStr benchIdentifier = "bench" ∧
      ¬ RoutesAgree benchFromStr (fun _ => .null) benchIdentifier := by
  have key :
      streamKeyFromIdentifier benchFromStr benchIdentifier = "bench" := by
    decide
  refine ⟨key, fun agree => ?_⟩
  have published := agree.published_stream
  rw [key, extractStreamName_subjectOf] at published
  exact absurd published (by decide)

end TurbocableServer.Pubsub
