import TurbocableServer.Connection.ReplayCoverage
import TurbocableServer.Connection.SocketWrites
import TurbocableServer.Pubsub.GapFree

/-!
# Catching up on a socket

The replay queue of a session that resumes a stream carries the missed messages
without a gap, and the confirmation only after all messages that were stored
when the subscription began.  The outbound task keeps this order.
-/

namespace TurbocableServer.Connection

open Foundations Protocol Pubsub

/-! ## Frames -/

/-- The sequence of a message frame of `stream`. -/
def messageSeq (stream : String) : ServerMessage → Option Nat
  | .message identifier _ _ seq => if identifier = stream then seq else none
  | _ => none

def seqsIn (stream : String) (frames : List ServerMessage) : List Nat :=
  frames.filterMap (messageSeq stream)

@[simp]
theorem seqsIn_append (stream : String) (left right : List ServerMessage) :
    seqsIn stream (left ++ right) = seqsIn stream left ++ seqsIn stream right :=
  List.filterMap_append ..

theorem mem_seqsIn {stream : String} {frames : List ServerMessage}
    {frame : ServerMessage} {seq : Nat} (member : frame ∈ frames)
    (isSeq : messageSeq stream frame = some seq) : seq ∈ seqsIn stream frames :=
  List.mem_filterMap.mpr ⟨frame, member, isSeq⟩

/-- The sequences of the message frames of `stream` on a socket. -/
def seqsOn (stream : String) (socket : List (SocketFrame ServerMessage)) :
    List Nat :=
  seqsIn stream (writtenOf (fun _ => true) socket)

section

variable {stream : String} {socket : List (SocketFrame ServerMessage)}
variable {frame : ServerMessage} {seq : Nat}

@[simp]
theorem seqsOn_append (socket' : List (SocketFrame ServerMessage)) :
    seqsOn stream (socket ++ socket') =
      seqsOn stream socket ++ seqsOn stream socket' := by
  simp [seqsOn]

theorem seqsOn_of_seq (isSeq : messageSeq stream frame = some seq) :
    seqsOn stream [.data frame] = [seq] := by
  simp [seqsOn, seqsIn, writtenOf, isSeq]

theorem seqsOn_eq_nil
    (none : ∀ message, .data message ∈ socket →
      messageSeq stream message = none) :
    seqsOn stream socket = [] := by
  rw [seqsOn, seqsIn, List.filterMap_eq_nil_iff]
  intro message member
  exact none message (mem_writtenOf_iff.mp member).1

theorem seqsOn_of_no_seq (isSeq : messageSeq stream frame = none) :
    seqsOn stream [.data frame] = [] := by
  apply seqsOn_eq_nil
  intro message member
  cases List.mem_singleton.mp member
  exact isSeq

theorem mem_seqsOn_iff :
    seq ∈ seqsOn stream socket ↔
      ∃ frame, .data frame ∈ socket ∧ messageSeq stream frame = some seq := by
  rw [seqsOn, seqsIn, List.mem_filterMap]
  simp [mem_writtenOf_iff]

theorem mem_seqsOn_of_written {chosen : ServerMessage → Bool}
    (member : seq ∈ seqsIn stream (writtenOf chosen socket)) :
    seq ∈ seqsOn stream socket := by
  obtain ⟨frame, isWritten, isSeq⟩ := List.mem_filterMap.mp member
  exact mem_seqsOn_iff.mpr ⟨frame, (mem_writtenOf_iff.mp isWritten).1, isSeq⟩

end

def isConfirmOf (stream : String) : ServerMessage → Bool
  | .confirmSubscription identifier => identifier == stream
  | _ => false

/-- The frames of a replay of `stream`: catch-up frames and the
confirmation. -/
def isCatchUpOf (stream : String) (frame : ServerMessage) : Bool :=
  isReplayedOf stream frame || isConfirmOf stream frame

def catchUpOf (stream : String) (frames : List ServerMessage) :
    List ServerMessage :=
  frames.filter (isCatchUpOf stream)

@[simp]
theorem catchUpOf_append (stream : String) (left right : List ServerMessage) :
    catchUpOf stream (left ++ right) =
      catchUpOf stream left ++ catchUpOf stream right :=
  List.filter_append ..

theorem seq_mem_catchUpOf {env : Environment} {stream : String}
    {frames : List ServerMessage} {message : StoredMessage}
    (member : catchUpFrame env message ∈ frames)
    (ofStream : message.stream = stream) :
    message.seq ∈ seqsIn stream (catchUpOf stream frames) := by
  refine mem_seqsIn (List.mem_filter.mpr ⟨member, ?_⟩) ?_ <;>
    simp [isCatchUpOf, isReplayedOf, messageSeq, catchUpFrame, replayedFrame,
      ofStream]

namespace Session

variable {env : Environment} {session next : Session}
variable {action : SessionAction} {log : MessageLog}
variable {floor since : Nat} {stream : String}

/-! ## The replay queue -/

/-- The replay queue of a session that resumes `stream` after `since`; `floor`
messages were stored when the subscription began. -/
structure Catching (env : Environment) (log : MessageLog) (floor : Nat)
    (stream : String) (since : Nat) (session : Session) : Prop where
  covered : session.ReplaysCovered env log floor 0 0 stream
  gapFree :
    GapFree log stream since
      (seqsIn stream (catchUpOf stream session.out.replay.sent))
  announced :
    ∀ before after,
      catchUpOf stream session.out.replay.sent =
          before ++ .confirmSubscription stream :: after →
        ∀ message, message ∈ log.messages.take floor →
          message.stream = stream → since < message.seq →
            message.seq ∈ seqsIn stream before

theorem catching_of_no_tasks (noTasks : session.tasks = [])
    (unfed : session.out.replay.sent = []) :
    session.Catching env log floor stream since where
  covered := by
    intro index task _ present
    rw [noTasks] at present
    cases present
  gapFree := by
    rw [unfed]
    exact GapFree.nil
  announced := by
    intro before after split
    rw [unfed] at split
    simp [catchUpOf] at split

theorem Catching.publish (catching : session.Catching env log floor stream since)
    (within : floor ≤ log.messages.length)
    (subject : String) (payload : ByteArray) :
    session.Catching env (log.publish subject payload) floor stream since where
  covered := catching.covered.publish within subject payload
  gapFree := catching.gapFree.publish subject payload
  announced := by
    obtain ⟨added, extended, -⟩ := log.publish_messages subject payload
    intro before after split message member
    rw [extended, List.take_append_of_le_length within] at member
    exact catching.announced before after split message member

/-- A frame that is none of the replay's changes nothing. -/
private theorem catching_of_same (catching :
      session.Catching env log floor stream since)
    (covered : next.ReplaysCovered env log floor 0 0 stream)
    (same :
      catchUpOf stream next.out.replay.sent =
        catchUpOf stream session.out.replay.sent) :
    next.Catching env log floor stream since where
  covered := covered
  gapFree := same ▸ catching.gapFree
  announced := same ▸ catching.announced

private theorem catching_of_replayed
    (catching : session.Catching env log floor stream since)
    (covered : next.ReplaysCovered env log floor 0 0 stream)
    {task : ReplayTask} {stored seq : Nat} {cursor : ReplayCursor}
    {payload : ByteArray}
    (taskCovered : Covered env log floor session.out.replay.sent task)
    (ofStream : task.identifier = stream) (position : task.lastSeq = since)
    (streaming : task.pc = .streaming stored cursor)
    (fed : Feeds log task (.fetched (.message (some seq) payload)))
    (extended :
      catchUpOf stream next.out.replay.sent =
        catchUpOf stream session.out.replay.sent ++
          [replayedFrame env.decodePayload stream seq payload]) :
    next.Catching env log floor stream since where
  covered := covered
  gapFree := by
    obtain ⟨⟨fetched, inLog, isSeq, -⟩, least⟩ := fed
    obtain ⟨-, -, enqueued⟩ := taskCovered.streaming stored cursor streaming
    have isSeqs :
        seqsIn stream (catchUpOf stream next.out.replay.sent) =
          seqsIn stream (catchUpOf stream session.out.replay.sent) ++
            [seq] := by
      rw [extended, seqsIn_append]
      simp [seqsIn, messageSeq, replayedFrame]
    rw [isSeqs]
    refine catching.gapFree.snoc (isSeq ▸ log.bounded fetched inLog) ?_
    intro message member inStream newer earlier
    have newerTask : task.lastSeq < message.seq := position ▸ newer
    have ofTask : message.stream = task.identifier :=
      inStream.trans ofStream.symm
    by_cases passed : message.seq ≤ cursor.prevSeq
    · exact seq_mem_catchUpOf
        (enqueued message member ofTask newerTask passed) inStream
    · have reached := least stored cursor message streaming
        ⟨member, ofTask, newerTask⟩ (Nat.lt_of_not_le passed)
      exact absurd earlier (Nat.not_lt_of_le reached)
  announced := by
    intro before after split
    rw [extended] at split
    rcases append_singleton_cases split with
      ⟨-, isConfirm, -⟩ | ⟨rest, earlier, -⟩
    · cases isConfirm
    · exact catching.announced before rest earlier

private theorem catching_of_confirmed
    (catching : session.Catching env log floor stream since)
    (covered : next.ReplaysCovered env log floor 0 0 stream)
    {task : ReplayTask}
    (taskCovered : Covered env log floor session.out.replay.sent task)
    (ofStream : task.identifier = stream) (position : task.lastSeq = since)
    (answering : task.pc = .answering .confirm)
    (extended :
      catchUpOf stream next.out.replay.sent =
        catchUpOf stream session.out.replay.sent ++
          [.confirmSubscription stream]) :
    next.Catching env log floor stream since where
  covered := covered
  gapFree := by
    have noSeq : seqsIn stream [.confirmSubscription stream] = [] := rfl
    rw [extended, seqsIn_append, noSeq, List.append_nil]
    exact catching.gapFree
  announced := by
    intro before after split message member inStream newer
    rw [extended] at split
    rcases append_singleton_cases split with
      ⟨rfl, -, -⟩ | ⟨rest, earlier, -⟩
    · have enqueued :=
        taskCovered.answered (Or.inl answering) message member
          (inStream.trans ofStream.symm) (position ▸ newer)
      exact seq_mem_catchUpOf enqueued inStream
    · exact catching.announced before rest earlier message member inStream
        newer

theorem Catching.step (catching : session.Catching env log floor stream since)
    (within : floor ≤ log.messages.length)
    (positions :
      ∀ task, task ∈ session.tasks → task.identifier = stream →
        task.lastSeq = since)
    (fed : session.FedReplay log stream 0 action)
    (steps : Steps env session action next) :
    next.Catching env log floor stream since := by
  have covered := catching.covered.step within fed steps
  rcases steps.replay_sent with
    same | ⟨index, stimulus, task, frame, sent, gone, rfl, present, moves, -,
      extended⟩
  · exact catching_of_same catching covered (by rw [same])
  · have extendedBy :
        catchUpOf stream next.out.replay.sent =
          catchUpOf stream session.out.replay.sent ++
            catchUpOf stream [frame] := by
      rw [extended, catchUpOf_append]
    by_cases ofStream : task.identifier = stream
    · have taskCovered :=
        catching.covered index task (Nat.zero_le _) present ofStream
          (Nat.zero_le _)
      have position :=
        positions task (List.mem_of_getElem? present) ofStream
      have isFed :=
        fed index stimulus task rfl present ofStream (Nat.zero_le _)
      cases moves with
      | replayed stored cursor seq payload streaming newer =>
          refine catching_of_replayed catching covered taskCovered ofStream
            position streaming isFed (extendedBy.trans ?_)
          simp [catchUpOf, isCatchUpOf, isReplayedOf, replayedFrame, ofStream]
      | confirmed answering =>
          refine catching_of_confirmed catching covered taskCovered ofStream
            position answering (extendedBy.trans ?_)
          simp [catchUpOf, isCatchUpOf, isConfirmOf, ofStream]
    · refine catching_of_same catching covered (extendedBy.trans ?_)
      cases moves <;>
        simp [catchUpOf, isCatchUpOf, isReplayedOf, isConfirmOf,
          replayedFrame, ofStream]

/-! ## The socket -/

theorem isCatchUpOf_live (separated : session.Separated env)
    (unconfirmed : .confirmSubscription stream ∉ session.out.live.sent)
    {frame : ServerMessage} (member : frame ∈ session.out.live.sent) :
    isCatchUpOf stream frame = false := by
  rw [isCatchUpOf, separated.isReplayedOf_live member stream, Bool.false_or]
  cases frame with
  | confirmSubscription identifier =>
      rw [isConfirmOf, beq_eq_false_iff_ne]
      rintro rfl
      exact unconfirmed member
  | _ => rfl

/-- A message frame in the live queue is a live one. -/
theorem isLiveOf_of_messageSeq (separated : session.Separated env)
    {frame : ServerMessage} {seq : Nat}
    (member : frame ∈ session.out.live.sent)
    (isSeq : messageSeq stream frame = some seq) :
    isLiveOf stream frame = true := by
  rcases separated.live frame member with noMessage | ⟨message, rfl⟩
  · cases frame <;> first | cases isSeq | cases noMessage
  · have same : message.stream = stream := by
      by_contra different
      simp [messageSeq, liveFrame, different] at isSeq
    simp [isLiveOf, liveFrame, same]

/-- What is on the socket of a replay comes first in its queue. -/
private theorem written_catchUp
    (forwards : session.ForwardsReplay (isCatchUpOf stream)) :
    writtenOf (isCatchUpOf stream) session.out.socket <+:
      catchUpOf stream session.out.replay.sent := by
  rw [Channel.sent, catchUpOf_append]
  exact forwards.isPrefix.trans (List.prefix_append _ _)

/-- Once the confirmation is on the socket, so are all messages that were
stored when the subscription began. -/
theorem Catching.on_socket
    (catching : session.Catching env log floor stream since)
    (forwards : session.ForwardsReplay (isCatchUpOf stream))
    (confirmed : .data (.confirmSubscription stream) ∈ session.out.socket)
    {message : StoredMessage} (member : message ∈ log.messages.take floor)
    (ofStream : message.stream = stream) (newer : since < message.seq) :
    message.seq ∈ seqsOn stream session.out.socket := by
  have isWritten :
      .confirmSubscription stream ∈
        writtenOf (isCatchUpOf stream) session.out.socket :=
    mem_writtenOf_iff.mpr ⟨confirmed, by simp [isCatchUpOf, isConfirmOf]⟩
  obtain ⟨before, after, split⟩ := List.append_of_mem isWritten
  obtain ⟨rest, isQueue⟩ := written_catchUp forwards
  have inBefore : message.seq ∈ seqsIn stream before := by
    refine catching.announced before (after ++ rest) ?_ message member
      ofStream newer
    rw [← isQueue, split, List.append_assoc, List.cons_append]
  apply mem_seqsOn_of_written
  rw [split, seqsIn_append]
  exact List.mem_append_left _ inBefore

/-- A frame of the replay queue leaves no gap on the socket. -/
theorem Catching.gapFree_written
    (catching : next.Catching env log floor stream since)
    (separated : session.Separated env)
    (forwards : next.ForwardsReplay (isCatchUpOf stream))
    {frame : ServerMessage} (queued : frame ∈ session.out.replay.sent)
    (extended : next.out.socket = session.out.socket ++ [.data frame])
    (gapFree : GapFree log stream since (seqsOn stream session.out.socket)) :
    GapFree log stream since (seqsOn stream next.out.socket) := by
  rw [extended, seqsOn_append]
  cases isSeq : messageSeq stream frame with
  | none =>
      rw [seqsOn_of_no_seq isSeq, List.append_nil]
      exact gapFree
  | some seq =>
      have isCatchUp : isCatchUpOf stream frame = true := by
        rcases separated.replay frame queued with
          ⟨identifier, rfl⟩ | ⟨identifier, sequence, payload, rfl⟩
        · cases isSeq
        · have same : identifier = stream := by
            by_contra different
            simp [messageSeq, replayedFrame, different] at isSeq
          simp [isCatchUpOf, isReplayedOf, replayedFrame, same]
      obtain ⟨rest, isQueue⟩ := written_catchUp forwards
      rw [extended, writtenOf_append, writtenOf_data,
        List.filter_singleton, isCatchUp] at isQueue
      have inQueue :
          seqsIn stream (catchUpOf stream next.out.replay.sent) =
            seqsIn stream
                (writtenOf (isCatchUpOf stream) session.out.socket) ++
              seq :: seqsIn stream rest := by
        rw [← isQueue]
        simp [seqsIn, isSeq]
      obtain ⟨inLog, preceded⟩ := catching.gapFree _ _ _ inQueue
      rw [seqsOn_of_seq isSeq]
      refine gapFree.snoc inLog ?_
      intro message member ofStream newer earlier
      exact mem_seqsOn_of_written
        (preceded message member ofStream newer earlier)

end Session

end TurbocableServer.Connection
