import TurbocableServer.Connection.SessionFacts
import TurbocableServer.Pubsub.MessageLog

/-!
# What a replay covers

A replay task that is fed by a faithful consumer enqueues every message of its
stream above its starting point up to the one it has reached, and when it comes
to confirm, every one that was stored when its consumer was created.
-/

namespace TurbocableServer.Connection

open Foundations Protocol Pubsub

/-- What the consumer of a replay answers when its message stream is without
error: the next message it selects in order (or an older one again), and the end
only after all messages stored when it was created.  `stock` is what the stream
still has of the log. -/
def faithfulFetch (stock log : MessageLog) (task : ReplayTask) :
    FetchEvent → Bool
  | .message (some seq) payload =>
      (stock.replayCandidates task.identifier task.lastSeq).any
          (fun message =>
            decide (message.seq = seq ∧ message.payload = payload)) &&
        (match task.pc with
          | .streaming _ cursor =>
              (stock.replayCandidates task.identifier task.lastSeq).all
                (fun message =>
                  decide (message.seq ≤ cursor.prevSeq) ||
                    decide (seq ≤ message.seq))
          | _ => true)
  | .message none _ => false
  | .error => false
  | .ended =>
      match task.pc with
      | .streaming stored cursor =>
          (stock.replayCandidates task.identifier task.lastSeq).all
            (fun message =>
              decide (message.seq ≤ cursor.prevSeq) ||
                decide (message ∉ log.messages.take stored))
      | _ => true

/-- Answers of JetStream to a replay task without error. -/
def faithfulStimulus (stock log : MessageLog) (task : ReplayTask) :
    ReplayStimulus → Bool
  | .info (.error _) => false
  | .opened (.error _) _ => false
  | .opened (.ok ()) stored => stored == log.messages.length
  | .fetched event => faithfulFetch stock log task event
  | _ => true

/-- The catch-up frame of a message for the subscribers of its stream. -/
def catchUpFrame (env : Environment) (message : StoredMessage) :
    ServerMessage :=
  replayedFrame env.decodePayload message.stream message.seq message.payload

/-- `sent` holds what the task has to have enqueued at its program point.
`floor` messages were stored when the task was started. -/
structure Covered (env : Environment) (log : MessageLog) (floor : Nat)
    (sent : List ServerMessage) (task : ReplayTask) : Prop where
  streaming :
    ∀ stored cursor, task.pc = .streaming stored cursor →
      floor ≤ stored ∧
        (cursor.prevSeq = task.lastSeq ∨
          cursor.prevSeq ≤ log.lastSequence) ∧
        ∀ message, message ∈ log.messages →
          message.stream = task.identifier → task.lastSeq < message.seq →
            message.seq ≤ cursor.prevSeq → catchUpFrame env message ∈ sent
  answered :
    task.pc = .answering .confirm ∨ task.pc = .ended true →
      ∀ message, message ∈ log.messages.take floor →
        message.stream = task.identifier → task.lastSeq < message.seq →
          catchUpFrame env message ∈ sent

/-! ## Answers of the consumer -/

/-- A message of the log that the task is to replay. -/
structure Due (log : MessageLog) (task : ReplayTask)
    (message : StoredMessage) : Prop where
  stored : message ∈ log.messages
  ofStream : message.stream = task.identifier
  newer : task.lastSeq < message.seq

/-- What the coverage of a task rests on: no answer is an error, and none goes
past a message that is due. -/
def Feeds (log : MessageLog) (task : ReplayTask) : ReplayStimulus → Prop
  | .info (.error _) => False
  | .opened (.error _) _ => False
  | .opened (.ok ()) stored => stored = log.messages.length
  | .fetched (.message (some seq) payload) =>
      (∃ fetched, fetched ∈ log.messages ∧ fetched.seq = seq ∧
          fetched.payload = payload) ∧
        ∀ stored cursor message, task.pc = .streaming stored cursor →
          Due log task message → cursor.prevSeq < message.seq →
            seq ≤ message.seq
  | .fetched (.message none _) => False
  | .fetched .error => False
  | .fetched .ended =>
      ∀ stored cursor message, task.pc = .streaming stored cursor →
        Due log task message → message ∈ log.messages.take stored →
          message.seq ≤ cursor.prevSeq
  | _ => True

section

variable {stock log : MessageLog} {task : ReplayTask}

theorem Due.candidate {message : StoredMessage} (due : Due log task message)
    (retained : message ∈ stock.messages) :
    message ∈ stock.replayCandidates task.identifier task.lastSeq := by
  rw [← due.ofStream]
  exact stock.mem_replayCandidates_of_stream retained due.newer

/-- A faithful consumer feeds the task, if nothing that is due has left the
stream. -/
theorem feeds_of_faithful {stimulus : ReplayStimulus}
    (faithful : faithfulStimulus stock log task stimulus = true)
    (inLog : ∀ message, message ∈ stock.messages → message ∈ log.messages)
    (kept : ∀ message, Due log task message → message ∈ stock.messages) :
    Feeds log task stimulus := by
  cases stimulus with
  | permit granted => trivial
  | answer => trivial
  | info answer =>
      cases answer with
      | error reason => cases faithful
      | ok info => trivial
  | opened answer stored =>
      cases answer with
      | error reason => cases faithful
      | ok done => exact eq_of_beq faithful
  | fetched event =>
      cases event with
      | error => cases faithful
      | ended =>
          intro stored cursor message streaming due wasStored
          simp only [faithfulStimulus, faithfulFetch, streaming,
            List.all_eq_true, Bool.or_eq_true, decide_eq_true_eq] at faithful
          have listed := due.candidate (kept message due)
          exact (faithful message listed).resolve_right
            (fun absent => absent wasStored)
      | message seq payload =>
          cases seq with
          | none => cases faithful
          | some seq =>
              simp only [faithfulStimulus, faithfulFetch, Bool.and_eq_true,
                List.any_eq_true, decide_eq_true_eq] at faithful
              obtain ⟨⟨fetched, candidate, isSeq, isPayload⟩, least⟩ := faithful
              refine ⟨⟨fetched, inLog _ (List.mem_filter.mp candidate).1, isSeq,
                isPayload⟩, ?_⟩
              intro stored cursor message streaming due newer
              simp only [streaming, List.all_eq_true, Bool.or_eq_true,
                decide_eq_true_eq] at least
              exact (least message
                (due.candidate (kept message due))).resolve_left
                (Nat.not_le_of_lt newer)

/-- A replay that finishes while it is fed confirms only at the end of the
messages. -/
theorem ended_of_confirming {env : Environment} {cursor : ReplayCursor}
    {event : FetchEvent} {result : Except ReplayError ReplayDelivery}
    (fed : Feeds log task (.fetched event))
    (finishes : replayTurn env.decodePayload task.identifier cursor event =
      .finish result)
    (confirming : concludePc result = .answering .confirm) :
    event = .ended := by
  cases event with
  | ended => rfl
  | error => cases fed
  | message seq payload =>
      cases seq with
      | none => cases fed
      | some seq =>
          simp only [replayTurn] at finishes
          split at finishes
          · split at finishes <;> cases finishes
          · cases finishes
            cases confirming

end

theorem concludePc_cases (result : Except ReplayError ReplayDelivery) :
    concludePc result = .ended false ∨
      concludePc result = .answering .confirm ∨
      ∃ reason, concludePc result = .answering (.disconnect reason) := by
  unfold concludePc
  cases replayAnswer result with
  | none => exact Or.inl rfl
  | some answer =>
      cases answer with
      | confirm => exact Or.inr (Or.inl rfl)
      | disconnect reason => exact Or.inr (Or.inr ⟨reason, rfl⟩)

theorem concludePc_of_checkWindow {streamName : String} {lastSeq : Nat}
    {info : StreamInfo} {refused : ReplayError}
    (isRefused : checkWindow streamName lastSeq info = .error refused) :
    ∃ reason,
      concludePc (.error refused) = .answering (.disconnect reason) := by
  unfold checkWindow at isRefused
  split at isRefused
  · cases isRefused
    exact ⟨_, rfl⟩
  · split at isRefused
    · cases isRefused
      exact ⟨_, rfl⟩
    · cases isRefused

/-! ## Coverage -/

namespace Covered

variable {env : Environment} {log log' : MessageLog} {floor : Nat}
variable {sent sent' : List ServerMessage} {task : ReplayTask}

/-- Nothing is due at the other program points. -/
theorem of_pc {pc : ReplayPc}
    (notStreaming : ∀ stored cursor, pc ≠ .streaming stored cursor)
    (notConfirming : pc ≠ .answering .confirm) (notConfirmed : pc ≠ .ended true)
    (isPc : task.pc = pc) : Covered env log floor sent task where
  streaming := by
    intro stored cursor streaming
    exact absurd (isPc.symm.trans streaming) (notStreaming stored cursor)
  answered := by
    rintro (confirming | confirmed)
    · exact absurd (isPc.symm.trans confirming) notConfirming
    · exact absurd (isPc.symm.trans confirmed) notConfirmed

/-- Frames stay enqueued. -/
theorem weaken (covered : Covered env log floor sent task)
    (kept : ∀ frame, frame ∈ sent → frame ∈ sent') :
    Covered env log floor sent' task where
  streaming := by
    intro stored cursor streaming
    obtain ⟨enough, reached, enqueued⟩ :=
      covered.streaming stored cursor streaming
    exact ⟨enough, reached, fun message member ofStream newer passed =>
      kept _ (enqueued message member ofStream newer passed)⟩
  answered := by
    intro confirming message member ofStream newer
    exact kept _ (covered.answered confirming message member ofStream newer)

/-- Messages published later lie beyond what the task has reached. -/
theorem publish (covered : Covered env log floor sent task)
    (within : floor ≤ log.messages.length)
    (subject : String) (payload : ByteArray) :
    Covered env (log.publish subject payload) floor sent task := by
  obtain ⟨added, extended, newest⟩ := log.publish_messages subject payload
  constructor
  · intro stored cursor streaming
    obtain ⟨enough, reached, enqueued⟩ :=
      covered.streaming stored cursor streaming
    refine ⟨enough, ?_, ?_⟩
    · exact reached.imp_right
        (fun bounded => Nat.le_trans bounded (log.lastSequence_le_publish ..))
    · intro message member ofStream newer passed
      rw [extended] at member
      rcases List.mem_append.mp member with earlier | isNew
      · exact enqueued message earlier ofStream newer passed
      · have beyond := newest message isNew
        omega
  · intro confirming message member
    rw [extended, List.take_append_of_le_length within] at member
    exact covered.answered confirming message member

private theorem replayed {stored : Nat} {cursor : ReplayCursor} {seq : Nat}
    {payload : ByteArray}
    (covered : Covered env log floor sent task)
    (streaming : task.pc = .streaming stored cursor)
    (fed : Feeds log task (.fetched (.message (some seq) payload)))
    (kept : ∀ frame, frame ∈ sent → frame ∈ sent')
    (pushed :
      replayedFrame env.decodePayload task.identifier seq payload ∈ sent') :
    Covered env log floor sent'
      { task with pc := .streaming stored ⟨cursor.count + 1, seq⟩ } := by
  obtain ⟨enough, -, enqueued⟩ := covered.streaming stored cursor streaming
  obtain ⟨⟨fetched, inLog, rfl, rfl⟩, least⟩ := fed
  constructor
  · intro stored' cursor' same
    cases same
    refine ⟨enough, Or.inr (log.bounded fetched inLog), ?_⟩
    intro message member ofStream newer passed
    by_cases earlier : message.seq ≤ cursor.prevSeq
    · exact kept _ (enqueued message member ofStream newer earlier)
    · -- The message lies beyond the old position, so it is the one fetched.
      have reached := least stored cursor message streaming
        ⟨member, ofStream, newer⟩ (Nat.lt_of_not_le earlier)
      obtain rfl : message = fetched :=
        log.eq_of_seq_eq member inLog (Nat.le_antisymm passed reached)
      have sameFrame :
          catchUpFrame env message =
            replayedFrame env.decodePayload task.identifier message.seq
              message.payload := by
        rw [catchUpFrame, ofStream]
      exact sameFrame ▸ pushed
  · rintro (confirming | confirmed)
    · cases confirming
    · cases confirmed

private theorem ended {stored : Nat} {cursor : ReplayCursor}
    (covered : Covered env log floor sent task)
    (streaming : task.pc = .streaming stored cursor)
    (fed : Feeds log task (.fetched .ended)) :
    Covered env log floor sent { task with pc := .answering .confirm } := by
  obtain ⟨enough, -, enqueued⟩ := covered.streaming stored cursor streaming
  constructor
  · intro stored' cursor' same
    cases same
  · intro _ message member ofStream newer
    have inLog := List.mem_of_mem_take member
    have wasStored : message ∈ log.messages.take stored :=
      (List.take_prefix_take_left enough).subset member
    exact enqueued message inLog ofStream newer
      (fed stored cursor message streaming ⟨inLog, ofStream, newer⟩ wasStored)

/-- What a move of a task that is fed leaves to be enqueued. -/
theorem moves {stimulus : ReplayStimulus} {move : TaskMove} {pc : ReplayPc}
    (covered : Covered env log floor sent task)
    (within : floor ≤ log.messages.length)
    (taskMoves : TaskMoves env task stimulus move)
    (fed : Feeds log task stimulus)
    (leads : move.LeadsTo pc)
    (kept : ∀ frame, frame ∈ sent → frame ∈ sent')
    (pushed :
      ∀ frame accepted gone, move = .enqueue frame accepted gone →
        pc = gone ∨ frame ∈ sent') :
    Covered env log floor sent' { task with pc := pc } := by
  cases taskMoves with
  | permit granted queued =>
      cases leads
      cases granted <;>
        exact of_pc (by simp) (by simp) (by simp) rfl
  | infoFailed reason checking => cases fed
  | windowRefused info refused checking isRefused =>
      cases leads
      obtain ⟨reason, isPc⟩ := concludePc_of_checkWindow isRefused
      exact of_pc (by simp) (by simp) (by simp) isPc
  | windowOpen info checking isOpen =>
      cases leads
      exact of_pc (by simp) (by simp) (by simp) rfl
  | openFailed reason stored opening => cases fed
  | opened stored opening =>
      cases leads
      have isLength : stored = log.messages.length := fed
      constructor
      · intro stored' cursor' same
        cases same
        refine ⟨isLength ▸ within, Or.inl rfl, ?_⟩
        intro message _ _ newer passed
        exact absurd newer (Nat.not_lt_of_le passed)
      · rintro (confirming | confirmed)
        · cases confirming
        · cases confirmed
  | skipped stored cursor seq payload streaming older =>
      cases leads
      have same : { task with pc := .streaming stored cursor } = task := by
        rw [← streaming]
      rw [same]
      exact covered.weaken kept
  | replayed stored cursor seq payload streaming newer =>
      rcases pushed _ _ _ rfl with gone | enqueued
      · exact of_pc (by simp) (by simp) (by simp) gone
      · rcases leads with isPc | isPc
        · rw [isPc]
          exact covered.replayed streaming fed kept enqueued
        · exact of_pc (by simp) (by simp) (by simp) isPc
  | finished stored cursor event result streaming finishes =>
      cases leads
      rcases concludePc_cases result with isEnded | confirming | ⟨reason, isPc⟩
      · exact of_pc (by simp) (by simp) (by simp) isEnded
      · obtain rfl := ended_of_confirming fed finishes confirming
        rw [confirming]
        exact (covered.ended streaming fed).weaken kept
      · exact of_pc (by simp) (by simp) (by simp) isPc
  | confirmed answering =>
      rcases leads with rfl | rfl
      · constructor
        · intro stored cursor same
          cases same
        · intro _ message member ofStream newer
          exact kept _ (covered.answered (Or.inl answering) message member
            ofStream newer)
      · exact of_pc (by simp) (by simp) (by simp) rfl
  | disconnected reason answering =>
      cases leads
      exact of_pc (by simp) (by simp) (by simp) rfl

end Covered

namespace Session

variable {env : Environment} {session next : Session}
variable {action : SessionAction} {stock log : MessageLog}
variable {floor first bound : Nat} {stream : String}

/-- The replay tasks of `stream` from the index `first` on that start at
`bound` or later are covered. -/
def ReplaysCovered (env : Environment) (log : MessageLog)
    (floor first bound : Nat) (stream : String) (session : Session) : Prop :=
  ∀ index task, first ≤ index → session.tasks[index]? = some task →
    task.identifier = stream → bound ≤ task.lastSeq →
      Covered env log floor session.out.replay.sent task

/-- The consumers of the replays of `stream` are faithful. -/
def FaithfulReplay (stock log : MessageLog) (stream : String)
    (session : Session) (action : SessionAction) : Prop :=
  ∀ index stimulus task, action = .replay index stimulus →
    session.tasks[index]? = some task → task.identifier = stream →
      faithfulStimulus stock log task stimulus = true

/-- The replays of `stream` that start at `bound` or later are fed. -/
def FedReplay (log : MessageLog) (stream : String) (bound : Nat)
    (session : Session) (action : SessionAction) : Prop :=
  ∀ index stimulus task, action = .replay index stimulus →
    session.tasks[index]? = some task → task.identifier = stream →
      bound ≤ task.lastSeq → Feeds log task stimulus

/-- Faithful consumers feed the replays for which nothing has left the
stream. -/
theorem FaithfulReplay.fed
    (faithful : session.FaithfulReplay stock log stream action)
    (inLog : ∀ message, message ∈ stock.messages → message ∈ log.messages)
    (kept : ∀ message, message ∈ log.messages → message.stream = stream →
      bound < message.seq → message ∈ stock.messages) :
    session.FedReplay log stream bound action := by
  intro index stimulus task isReplay present ofStream bounded
  refine feeds_of_faithful (faithful index stimulus task isReplay present
    ofStream) inLog ?_
  intro message due
  exact kept message due.stored (due.ofStream.trans ofStream)
    (Nat.lt_of_le_of_lt bounded due.newer)

theorem ReplaysCovered.publish
    (covered : session.ReplaysCovered env log floor first bound stream)
    (within : floor ≤ log.messages.length)
    (subject : String) (payload : ByteArray) :
    session.ReplaysCovered env (log.publish subject payload) floor first bound
      stream :=
  fun index task started present ofStream bounded =>
    (covered index task started present ofStream bounded).publish within subject
      payload

/-- What a replay task enqueues is in the queue, unless its receiver is gone. -/
theorem Steps.pushed {index : Nat} {stimulus : ReplayStimulus}
    (steps : Steps env session (.replay index stimulus) next) :
    ∃ task move pc,
      session.tasks[index]? = some task ∧
        TaskMoves env task stimulus move ∧ move.LeadsTo pc ∧
        next.tasks = session.tasks.set index { task with pc := pc } ∧
        ∀ frame accepted gone, move = .enqueue frame accepted gone →
          pc = gone ∨ frame ∈ next.out.replay.sent := by
  cases steps with
  | taskGo _ _ task pc present moves =>
      exact ⟨task, _, pc, present, moves, rfl, rfl, by simp⟩
  | taskUrgent _ _ task frame after urgent accepted present moves offered =>
      exact ⟨task, _, after, present, moves, rfl, rfl, by simp⟩
  | taskEnqueue _ _ task frame sent gone replay accepted present moves
      offered =>
      refine ⟨task, _, if accepted then sent else gone, present, moves, ?_,
        rfl, ?_⟩
      · cases accepted
        · exact Or.inr rfl
        · exact Or.inl rfl
      · intro frame' sent' gone' same
        cases same
        cases accepted with
        | false => exact Or.inl rfl
        | true =>
            right
            rw [Channel.send_eq_true offered]
            simp

theorem ReplaysCovered.step
    (covered : session.ReplaysCovered env log floor first bound stream)
    (within : floor ≤ log.messages.length)
    (fed : session.FedReplay log stream bound action)
    (steps : Steps env session action next) :
    next.ReplaysCovered env log floor first bound stream := by
  have kept :
      ∀ frame, frame ∈ session.out.replay.sent →
        frame ∈ next.out.replay.sent := by
    intro frame member
    rcases steps.replay_sent with same | ⟨_, _, _, _, _, _, -, -, -, -, extended⟩
    · exact same ▸ member
    · rw [extended]
      exact List.mem_append_left _ member
  intro index task started present ofStream bounded
  rcases steps.tasks_cases with
    same | ⟨moved, stimulus, _, _, _, rfl, -, -, -, -⟩ |
      ⟨identifier, since, rest, -, -, extended⟩
  · rw [same] at present
    exact (covered index task started present ofStream bounded).weaken kept
  · obtain ⟨before, move, pc, wasThere, taskMoves, leads, isSet, pushed⟩ :=
      steps.pushed
    rw [isSet, List.getElem?_set] at present
    split at present
    · rename_i sameIndex
      subst sameIndex
      split at present
      · obtain rfl := Option.some.inj present
        exact (covered moved before started wasThere ofStream bounded).moves
          within taskMoves
          (fed moved stimulus before rfl wasThere ofStream bounded) leads kept
          pushed
      · cases present
    · exact (covered index task started present ofStream bounded).weaken kept
  · rw [extended, List.getElem?_append] at present
    split at present
    · exact (covered index task started present ofStream bounded).weaken kept
    · obtain rfl : task = ⟨identifier, since, .queued⟩ := by
        simpa using (List.mem_of_getElem? present)
      exact Covered.of_pc (by simp) (by simp) (by simp) rfl

end Session

end TurbocableServer.Connection
