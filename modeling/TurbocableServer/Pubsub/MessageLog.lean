import Mathlib.Data.List.Nodup
import TurbocableServer.Pubsub.Replay

/-!
# The log of a stream

The JetStream stream behind a node: messages in increasing sequence, on subjects
the stream captures.  The log of a node holds whatever was stored; what the
stream still has of it is the part that retention has left.
-/

namespace TurbocableServer.Pubsub

structure MessageLog where
  messages : List StoredMessage
  lastSequence : Nat
  increasing :
    messages.Pairwise (fun earlier later => earlier.seq < later.seq)
  bounded : ∀ message, message ∈ messages → message.seq ≤ lastSequence
  captured :
    ∀ message, message ∈ messages → storable message.subject = true

namespace MessageLog

def empty : MessageLog where
  messages := []
  lastSequence := 0
  increasing := List.Pairwise.nil
  bounded := by simp
  captured := by simp

/-- A publish to the server: stored when the stream captures the
subject. -/
def publish (log : MessageLog) (subject : String) (payload : ByteArray) :
    MessageLog :=
  if stored : storable subject = true then
    { messages := log.messages ++ [⟨log.lastSequence + 1, subject, payload⟩]
      lastSequence := log.lastSequence + 1
      increasing := by
        rw [List.pairwise_append]
        refine ⟨log.increasing, List.pairwise_singleton _ _, ?_⟩
        intro earlier member later isLast
        rw [List.mem_singleton.mp isLast]
        exact Nat.lt_succ_of_le (log.bounded earlier member)
      bounded := by
        intro message member
        rcases List.mem_append.mp member with earlier | isLast
        · exact Nat.le_succ_of_le (log.bounded message earlier)
        · obtain rfl := List.mem_singleton.mp isLast
          exact Nat.le_refl _
      captured := by
        intro message member
        rcases List.mem_append.mp member with earlier | isLast
        · exact log.captured message earlier
        · rw [List.mem_singleton.mp isLast]
          exact stored }
  else
    log

/-- What is left of a log without its oldest messages. -/
def retained (log : MessageLog) (expired : Nat) : MessageLog where
  messages := log.messages.drop expired
  lastSequence := log.lastSequence
  increasing := log.increasing.sublist (List.drop_sublist expired _)
  bounded := by
    intro message member
    exact log.bounded message (List.mem_of_mem_drop member)
  captured := by
    intro message member
    exact log.captured message (List.mem_of_mem_drop member)

/-- The stream info read before a replay. -/
def info (log : MessageLog) : StreamInfo where
  messages := log.messages.length
  firstSequence :=
    match log.messages with
    | [] => log.lastSequence + 1
    | oldest :: _ => oldest.seq

/-- The messages the consumer of a replay selects. -/
def replayCandidates (log : MessageLog) (identifier : String)
    (lastSeq : Nat) : List StoredMessage :=
  log.messages.filter (fun message =>
    filterSelects (subjectOf identifier) message.subject &&
      decide (requestedSeq lastSeq ≤ message.seq))

theorem publish_messages
    (log : MessageLog) (subject : String) (payload : ByteArray) :
    ∃ added,
      (log.publish subject payload).messages = log.messages ++ added ∧
        ∀ message, message ∈ added → log.lastSequence < message.seq := by
  unfold publish
  split
  · refine ⟨_, rfl, fun message member => ?_⟩
    rw [List.mem_singleton.mp member]
    exact Nat.lt_succ_self _
  · exact ⟨[], (List.append_nil _).symm, by simp⟩

theorem lastSequence_le_publish
    (log : MessageLog) (subject : String) (payload : ByteArray) :
    log.lastSequence ≤ (log.publish subject payload).lastSequence := by
  unfold publish
  split
  · exact Nat.le_succ _
  · exact Nat.le_refl _

theorem eq_of_seq_eq (log : MessageLog) {left right : StoredMessage}
    (leftMember : left ∈ log.messages) (rightMember : right ∈ log.messages)
    (same : left.seq = right.seq) : left = right := by
  have nodup : (log.messages.map StoredMessage.seq).Nodup :=
    List.pairwise_map.mpr
      (log.increasing.imp (fun before => Nat.ne_of_lt before))
  exact List.inj_on_of_nodup_map nodup leftMember rightMember same

/-- Whatever is older than one of the first messages is among them. -/
theorem mem_take_of_older (log : MessageLog) {message other : StoredMessage}
    {count : Nat} (taken : message ∈ log.messages.take count)
    (stored : other ∈ log.messages) (older : other.seq < message.seq) :
    other ∈ log.messages.take count := by
  have increasing := log.increasing
  rw [← List.take_append_drop count log.messages] at stored increasing
  rcases List.mem_append.mp stored with before | after
  · exact before
  · rw [List.pairwise_append] at increasing
    exact absurd (increasing.2.2 message taken other after)
      (Nat.not_lt_of_lt older)

theorem subject_eq (log : MessageLog) {message : StoredMessage}
    (member : message ∈ log.messages) :
    message.subject = subjectOf message.stream := by
  have canStore := log.captured message member
  rw [storable, Bool.and_eq_true] at canStore
  obtain ⟨streamName, isSubject⟩ :=
    exists_subjectOf_of_filterSelects canStore.1
  rw [StoredMessage.stream, isSubject, extractStreamName_subjectOf]

/-- A name whose own subject can be stored has no wildcard. -/
theorem not_hasWildcard_of_storable {streamName : String}
    (canStore : storable (subjectOf streamName) = true) :
    ¬ HasWildcard streamName := by
  rw [storable_subjectOf_iff, List.all_eq_true] at canStore
  rintro (member | last)
  · exact absurd (canStore _ member) (by decide)
  · exact absurd (canStore _ (List.mem_of_getLast? last)) (by decide)

/-- Every newer message of a stream is among the candidates of its name. -/
theorem mem_replayCandidates_of_stream (log : MessageLog)
    {message : StoredMessage} {lastSeq : Nat}
    (member : message ∈ log.messages) (newer : lastSeq < message.seq) :
    message ∈ log.replayCandidates message.stream lastSeq := by
  have plain : ¬ HasWildcard message.stream := by
    apply not_hasWildcard_of_storable
    rw [← log.subject_eq member]
    exact log.captured message member
  have selected :
      filterSelects (subjectOf message.stream) message.subject = true :=
    (filterSelects_plain_iff plain message.subject).mpr
      (log.subject_eq member)
  have requested : requestedSeq lastSeq ≤ message.seq := by
    rw [requestedSeq]
    omega
  rw [replayCandidates, List.mem_filter, selected, decide_eq_true requested]
  exact ⟨member, rfl⟩

end MessageLog

end TurbocableServer.Pubsub
