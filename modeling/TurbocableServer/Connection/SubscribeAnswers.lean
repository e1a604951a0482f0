import TurbocableServer.Connection.Session

/-!
# The answer to a Subscribe

One Subscribe is followed from `handle_client_frame` through the background task
it may start to the end of that task, with all channels open.  Among the frames
it enqueues there is exactly one answer.
-/

namespace TurbocableServer.Connection

open Protocol Pubsub Auth

inductive OutboundQueue where
  | live
  | replay
  | urgent
  deriving DecidableEq, Repr

/-- A frame and the queue it is put on. -/
abbrev Enqueued := OutboundQueue × ServerMessage

/-- What JetStream answers to `replay_since`. -/
structure ReplayInputs where
  info : Except String StreamInfo
  opened : Except String Unit
  events : List FetchEvent

/-- The `match result` of the replay task. -/
def answerFrames (identifier : String)
    (result : Except ReplayError ReplayDelivery) : List Enqueued :=
  match replayAnswer result with
  | none => []
  | some .confirm => [(.replay, .confirmSubscription identifier)]
  | some (.disconnect reason) => [(.urgent, .disconnect reason (some true))]

section

variable (env : Environment)

/-- A replay task by itself, its sends accepted: the frames it enqueues while it
is given these answers, and the point it reaches. -/
def runTask (task : ReplayTask) :
    List ReplayStimulus → Option (List Enqueued × ReplayPc)
  | [] => some ([], task.pc)
  | stimulus :: rest =>
      match taskMove env task stimulus with
      | none => none
      | some (.go pc) => runTask { task with pc := pc } rest
      | some (.enqueue frame sent _) =>
          (runTask { task with pc := sent } rest).map
            (fun (frames, pc) => ((.replay, frame) :: frames, pc))
      | some (.enqueueUrgent frame after) =>
          (runTask { task with pc := after } rest).map
            (fun (frames, pc) => ((.urgent, frame) :: frames, pc))

/-- The frames an effect leads to.  A replay task gets its permit, then the
answers in `stimuli`; there is no value while it has not ended. -/
def enqueuedBy (stimuli : List ReplayStimulus) :
    Effect → Option (List Enqueued)
  | .sendLive frame => some [(.live, frame)]
  | .spawnReplay identifier lastSeq =>
      match
        runTask env ⟨identifier, lastSeq, .queued⟩ (.permit true :: stimuli)
      with
      | some (frames, .ended _) => some frames
      | _ => none
  | _ => some []

/-- The frames the effects of a command lead to, in order. -/
def enqueuedByAll (stimuli : List ReplayStimulus) :
    List Effect → Option (List Enqueued)
  | [] => some []
  | effect :: rest =>
      (enqueuedBy env stimuli effect).bind (fun first =>
        (enqueuedByAll stimuli rest).map (fun later => first ++ later))

/-- The replay task as one piece: `replay_since` with an open queue, then the
answer.  There is no value as long as `replay_since` has not returned. -/
def replayTaskFrames (inputs : ReplayInputs) (identifier : String)
    (lastSeq : Nat) : Option (List Enqueued) :=
  let replayed :=
    replaySince env.decodePayload identifier lastSeq inputs.info inputs.opened
      (inputs.events.map (fun event => (event, true)))
  replayed.2.map (fun result =>
    replayed.1.map (fun frame => (.replay, frame)) ++
      answerFrames identifier result)

end

def isAnswer : ServerMessage → Bool
  | .confirmSubscription _ => true
  | .rejectSubscription _ => true
  | .disconnect _ _ => true
  | _ => false

/-- The frames that answer a Subscribe of `identifier`. -/
def IsAnswerTo (identifier : String) (frame : ServerMessage) : Prop :=
  frame = .rejectSubscription identifier ∨
    frame = .confirmSubscription identifier ∨
    ∃ reason, frame = .disconnect reason (some true)

/-! ## The replay task -/

section

variable {env : Environment} {inputs : ReplayInputs}
variable {stimuli : List ReplayStimulus}

/-- With open channels the peer is never gone. -/
theorem replayLoop_peer {decodePayload : ByteArray → Json}
    {streamName : String} {events : List FetchEvent} {cursor : ReplayCursor}
    {result : Except ReplayError ReplayDelivery}
    (returns :
      (replayLoop decodePayload streamName cursor
        (events.map (fun event => (event, true)))).2 = some result) :
    (replayAnswer result).isSome := by
  induction events generalizing cursor with
  | nil =>
      cases returns
  | cons event rest ih =>
      rw [List.map_cons, replayLoop] at returns
      cases turn : replayTurn decodePayload streamName cursor event with
      | again next | send frame next =>
          rw [turn] at returns
          exact ih returns
      | finish ended =>
          rw [turn] at returns
          obtain rfl := Option.some.inj returns
          unfold replayTurn at turn
          split at turn
          · split at turn
            · cases turn
              rfl
            · split at turn <;> cases turn
            · cases turn
              rfl
            · cases turn
              rfl
          · split at turn <;>
            · cases turn
              rfl

theorem replaySince_peer {identifier : String} {lastSeq : Nat}
    {result : Except ReplayError ReplayDelivery}
    (returns :
      (replaySince env.decodePayload identifier lastSeq inputs.info
        inputs.opened (inputs.events.map (fun event => (event, true)))).2 =
          some result) :
    (replayAnswer result).isSome := by
  unfold replaySince at returns
  split at returns
  · obtain rfl := Option.some.inj returns
    rfl
  · split at returns
    · rename_i refused isRefused
      obtain rfl := Option.some.inj returns
      unfold checkWindow at isRefused
      split at isRefused
      · cases isRefused
        rfl
      · split at isRefused
        · cases isRefused
          rfl
        · cases isRefused
    · split at returns
      · obtain rfl := Option.some.inj returns
        rfl
      · exact replayLoop_peer returns

/-- Replayed frames on the replay queue, then one answer. -/
theorem replayTaskFrames_shape {identifier : String} {lastSeq : Nat}
    {frames : List Enqueued}
    (completes :
      replayTaskFrames env inputs identifier lastSeq = some frames) :
    ∃ replayed answer,
      frames = replayed ++ [answer] ∧
        (∀ frame, frame ∈ replayed →
          frame.1 = .replay ∧ isAnswer frame.2 = false) ∧
        (answer = (.replay, .confirmSubscription identifier) ∨
          ∃ reason, answer = (.urgent, .disconnect reason (some true))) := by
  obtain ⟨result, returns, rfl⟩ := Option.map_eq_some_iff.mp completes
  obtain ⟨answer, isAnswer⟩ :=
    Option.isSome_iff_exists.mp (replaySince_peer returns)
  have replayedOnly :
      ∀ frame : Enqueued,
        frame ∈
            (replaySince env.decodePayload identifier lastSeq inputs.info
              inputs.opened
              (inputs.events.map (fun event => (event, true)))).1.map
                (fun frame => (OutboundQueue.replay, frame)) →
          frame.1 = .replay ∧ Connection.isAnswer frame.2 = false := by
    intro frame member
    obtain ⟨message, sent, rfl⟩ := List.mem_map.mp member
    obtain ⟨sequence, payload, accepted, -, rfl⟩ := mem_replaySince sent
    exact ⟨rfl, rfl⟩
  cases answer with
  | confirm =>
      exact ⟨_, _, by rw [answerFrames, isAnswer], replayedOnly, Or.inl rfl⟩
  | disconnect reason =>
      exact ⟨_, _, by rw [answerFrames, isAnswer], replayedOnly,
        Or.inr ⟨reason, rfl⟩⟩

/-! ## The task step by step -/

/-- A task that has ended does nothing more. -/
theorem runTask_ended {task : ReplayTask} {confirmed : Bool}
    {frames : List Enqueued} {pc : ReplayPc}
    (isEnded : task.pc = .ended confirmed)
    (ran : runTask env task stimuli = some (frames, pc)) : frames = [] := by
  cases stimuli with
  | nil =>
      cases ran
      rfl
  | cons stimulus rest =>
      have stuck : taskMove env task stimulus = none := by
        cases stimulus <;> simp [taskMove, isEnded]
      rw [runTask, stuck] at ran
      cases ran

/-- From the end of `replay_since` on the task sends its answer. -/
theorem runTask_conclude {task : ReplayTask}
    (result : Except ReplayError ReplayDelivery) {frames : List Enqueued}
    {confirmed : Bool}
    (concludes : task.pc = concludePc result)
    (ran : runTask env task stimuli = some (frames, .ended confirmed)) :
    frames = answerFrames task.identifier result := by
  unfold concludePc at concludes
  unfold answerFrames
  cases answered : replayAnswer result with
  | none =>
      rw [answered] at concludes
      exact runTask_ended concludes ran
  | some answer =>
      rw [answered] at concludes
      cases stimuli with
      | nil =>
          rw [runTask, concludes] at ran
          cases ran
      | cons stimulus rest =>
          rw [runTask] at ran
          cases stimulus with
          | answer =>
              cases answer with
              | confirm | disconnect reason =>
                  simp only [taskMove, concludes] at ran
                  obtain ⟨⟨later, pc⟩, rested, same⟩ :=
                    Option.map_eq_some_iff.mp ran
                  cases same
                  rw [runTask_ended rfl rested]
          | _ => simp [taskMove, concludes] at ran

/-- The loop of `replay_since` in the task is `replayLoop`. -/
theorem runTask_streaming :
    ∀ {task : ReplayTask} {stored : Nat} {cursor : ReplayCursor}
      {frames : List Enqueued} {confirmed : Bool},
      task.pc = .streaming stored cursor →
        runTask env task stimuli = some (frames, .ended confirmed) →
          ∃ (events : List FetchEvent)
            (result : Except ReplayError ReplayDelivery),
            (replayLoop env.decodePayload task.identifier cursor
              (events.map (fun event => (event, true)))).2 = some result ∧
            frames =
              (replayLoop env.decodePayload task.identifier cursor
                (events.map (fun event => (event, true)))).1.map
                  (fun frame => (.replay, frame)) ++
                answerFrames task.identifier result := by
  induction stimuli with
  | nil =>
      intro task stored cursor frames confirmed streaming ran
      rw [runTask, streaming] at ran
      cases ran
  | cons stimulus rest ih =>
      intro task stored cursor frames confirmed streaming ran
      rw [runTask] at ran
      cases stimulus with
      | fetched event =>
          cases turn :
              replayTurn env.decodePayload task.identifier cursor event with
          | again next =>
              simp only [taskMove, streaming, turn] at ran
              obtain ⟨events, result, returns, isFrames⟩ := ih rfl ran
              refine ⟨event :: events, result, ?_⟩
              simp only [List.map_cons, replayLoop, turn]
              exact ⟨returns, isFrames⟩
          | send frame next =>
              simp only [taskMove, streaming, turn] at ran
              obtain ⟨⟨later, pc⟩, rested, same⟩ :=
                Option.map_eq_some_iff.mp ran
              cases same
              obtain ⟨events, result, returns, rfl⟩ := ih rfl rested
              refine ⟨event :: events, result, ?_⟩
              simp only [List.map_cons, replayLoop, turn]
              exact ⟨returns, rfl⟩
          | finish result =>
              simp only [taskMove, streaming, turn] at ran
              refine ⟨[event], result, ?_⟩
              simp only [List.map_cons, replayLoop, turn]
              have answered := runTask_conclude result rfl ran
              exact ⟨trivial, answered⟩
      | _ => simp [taskMove, streaming] at ran

theorem runTask_opening {identifier : String} {lastSeq : Nat}
    {info : StreamInfo} {frames : List Enqueued}
    {confirmed : Bool}
    (window : checkWindow identifier lastSeq info = .ok ())
    (ran :
      runTask env ⟨identifier, lastSeq, .opening⟩ stimuli =
        some (frames, .ended confirmed)) :
    ∃ inputs, replayTaskFrames env inputs identifier lastSeq = some frames := by
  cases stimuli with
  | nil =>
      rw [runTask] at ran
      cases ran
  | cons stimulus rest =>
      rw [runTask] at ran
      cases stimulus with
      | opened answer stored =>
          cases answer with
          | error reason =>
              simp only [taskMove, if_true] at ran
              refine ⟨⟨.ok info, .error reason, []⟩, ?_⟩
              rw [runTask_conclude (.error (.jetStream reason)) rfl ran]
              simp only [replayTaskFrames, replaySince, window]
              rfl
          | ok _ =>
              simp only [taskMove, if_true] at ran
              obtain ⟨events, result, returns, rfl⟩ :=
                runTask_streaming rfl ran
              refine ⟨⟨.ok info, .ok (), events⟩, ?_⟩
              simp only [replayTaskFrames, replaySince, window, returns,
                Option.map_some]
      | _ => simp [taskMove] at ran

/-- Whatever answers a task that has its permit is given, once it has ended it
has enqueued what `replay_since` and its result demand. -/
theorem replayTaskFrames_of_runTask {identifier : String} {lastSeq : Nat}
    {frames : List Enqueued} {confirmed : Bool}
    (ran :
      runTask env ⟨identifier, lastSeq, .checking⟩ stimuli =
        some (frames, .ended confirmed)) :
    ∃ inputs, replayTaskFrames env inputs identifier lastSeq = some frames := by
  cases stimuli with
  | nil =>
      rw [runTask] at ran
      cases ran
  | cons stimulus rest =>
      rw [runTask] at ran
      cases stimulus with
      | info answer =>
          cases answer with
          | error reason =>
              simp only [taskMove, if_true] at ran
              refine ⟨⟨.error reason, .ok (), []⟩, ?_⟩
              rw [runTask_conclude (.error (.jetStream reason)) rfl ran]
              rfl
          | ok info =>
              cases window : checkWindow identifier lastSeq info with
              | error refused =>
                  simp only [taskMove, window, if_true] at ran
                  refine ⟨⟨.ok info, .ok (), []⟩, ?_⟩
                  rw [runTask_conclude (.error refused) rfl ran]
                  simp only [replayTaskFrames, replaySince, window]
                  rfl
              | ok _ =>
                  simp only [taskMove, window, if_true] at ran
                  exact runTask_opening window ran
      | _ => simp [taskMove] at ran

/-! ## Every outcome is reached -/

/-- Once `replay_since` has returned, the task comes to its end. -/
theorem exists_runTask_conclude (identifier : String) (lastSeq : Nat)
    (result : Except ReplayError ReplayDelivery) :
    ∃ stimuli confirmed,
      runTask env ⟨identifier, lastSeq, concludePc result⟩ stimuli =
        some (answerFrames identifier result, .ended confirmed) := by
  unfold concludePc answerFrames
  cases replayAnswer result with
  | none => exact ⟨[], false, rfl⟩
  | some answer =>
      cases answer with
      | confirm => exact ⟨[.answer], true, rfl⟩
      | disconnect reason => exact ⟨[.answer], false, rfl⟩

/-- The events on which `replay_since` returns lead the task to its end. -/
theorem exists_runTask_streaming {identifier : String} {lastSeq stored : Nat}
    {events : List FetchEvent} {cursor : ReplayCursor}
    {result : Except ReplayError ReplayDelivery}
    (returns :
      (replayLoop env.decodePayload identifier cursor
        (events.map (fun event => (event, true)))).2 = some result) :
    ∃ stimuli confirmed,
      runTask env ⟨identifier, lastSeq, .streaming stored cursor⟩ stimuli =
        some
          ((replayLoop env.decodePayload identifier cursor
              (events.map (fun event => (event, true)))).1.map
                (fun frame => (.replay, frame)) ++
              answerFrames identifier result,
            .ended confirmed) := by
  induction events generalizing cursor with
  | nil =>
      cases returns
  | cons event rest ih =>
      rw [List.map_cons, replayLoop] at returns ⊢
      cases turn :
          replayTurn env.decodePayload identifier cursor event with
      | again next =>
          rw [turn] at returns
          obtain ⟨stimuli, confirmed, ran⟩ := ih returns
          refine ⟨.fetched event :: stimuli, confirmed, ?_⟩
          simp only [runTask, taskMove, turn]
          exact ran
      | send frame next =>
          rw [turn] at returns
          obtain ⟨stimuli, confirmed, ran⟩ := ih returns
          refine ⟨.fetched event :: stimuli, confirmed, ?_⟩
          simp only [runTask, taskMove, turn, ran]
          rfl
      | finish ended =>
          rw [turn] at returns
          obtain rfl := Option.some.inj returns
          obtain ⟨stimuli, confirmed, ran⟩ :=
            @exists_runTask_conclude env identifier lastSeq ended
          refine ⟨.fetched event :: stimuli, confirmed, ?_⟩
          simp only [runTask, taskMove, turn, ran]
          rfl

/-- Whatever JetStream answers, if `replay_since` returns then the task comes to
its end. -/
theorem exists_runTask_checking {identifier : String} {lastSeq : Nat}
    {frames : List Enqueued}
    (completes :
      replayTaskFrames env inputs identifier lastSeq = some frames) :
    ∃ stimuli confirmed,
      runTask env ⟨identifier, lastSeq, .checking⟩ stimuli =
        some (frames, .ended confirmed) := by
  obtain ⟨result, returns, rfl⟩ := Option.map_eq_some_iff.mp completes
  obtain ⟨info, opened, events⟩ := inputs
  cases info with
  | error reason =>
      obtain rfl := Option.some.inj returns
      obtain ⟨stimuli, confirmed, ran⟩ :=
        @exists_runTask_conclude env identifier lastSeq
          (.error (.jetStream reason))
      exact ⟨.info (.error reason) :: stimuli, confirmed, ran⟩
  | ok info =>
      simp only [replaySince] at returns ⊢
      cases window : checkWindow identifier lastSeq info with
      | error refused =>
          rw [window] at returns
          obtain rfl := Option.some.inj returns
          obtain ⟨stimuli, confirmed, ran⟩ :=
            @exists_runTask_conclude env identifier lastSeq (.error refused)
          refine ⟨.info (.ok info) :: stimuli, confirmed, ?_⟩
          simp only [runTask, taskMove, window, if_true]
          exact ran
      | ok _ =>
          rw [window] at returns
          cases opened with
          | error reason =>
              obtain rfl := Option.some.inj returns
              obtain ⟨stimuli, confirmed, ran⟩ :=
                @exists_runTask_conclude env identifier lastSeq
                  (.error (.jetStream reason))
              refine ⟨.info (.ok info) :: .opened (.error reason) 0 :: stimuli,
                confirmed, ?_⟩
              simp only [runTask, taskMove, window, if_true]
              exact ran
          | ok _ =>
              obtain ⟨stimuli, confirmed, ran⟩ :=
                @exists_runTask_streaming env identifier lastSeq 0 events
                  ⟨0, lastSeq⟩ result returns
              refine ⟨.info (.ok info) :: .opened (.ok ()) 0 :: stimuli,
                confirmed, ?_⟩
              simp only [runTask, taskMove, window, if_true]
              exact ran

/-- The frames with which a replay task can end are those that `replay_since`
and its result demand, for some answers of JetStream, and all of them. -/
theorem enqueuedBy_spawnReplay_iff {identifier : String} {lastSeq : Nat}
    {frames : List Enqueued} :
    (∃ stimuli,
        enqueuedBy env stimuli (.spawnReplay identifier lastSeq) =
          some frames) ↔
      ∃ inputs,
        replayTaskFrames env inputs identifier lastSeq = some frames := by
  constructor
  · rintro ⟨stimuli, completes⟩
    simp only [enqueuedBy, runTask, taskMove, if_true] at completes
    split at completes
    · rename_i confirmed ran
      obtain rfl := Option.some.inj completes
      exact replayTaskFrames_of_runTask ran
    · cases completes
  · rintro ⟨inputs, completes⟩
    obtain ⟨stimuli, confirmed, ran⟩ := exists_runTask_checking completes
    refine ⟨stimuli, ?_⟩
    simp only [enqueuedBy, runTask, taskMove, if_true, ran]

/-! ## The handler -/

variable {ctx : ConnContext}

theorem dispatchSubscribe_cases (state : InboundState) (identifier : String) :
    dispatchSubscribe env ctx state identifier =
        (state, [rejectEffect identifier]) ∨
      ∃ presence : List Effect,
        presence.all Effect.isPresence = true ∧
          (dispatchSubscribe env ctx state identifier).2 =
            .registrySubscribe (env.streamKey identifier) ::
              (presence ++ [confirmEffect env state.lastSeq identifier]) := by
  unfold dispatchSubscribe
  split
  · exact Or.inl rfl
  · split
    · exact Or.inl rfl
    · split
      · rename_i user present
        exact Or.inr
          ⟨[.presencePut identifier user, .startHeartbeat identifier user],
            rfl, rfl⟩
      · exact Or.inr ⟨[], rfl, rfl⟩

/-- A Subscribe is rejected without any other effect, or accepted.  In the
compatible mode even a rejected one counts as the end of the handshake. -/
theorem handleClientFrame_subscribe_cases (state : InboundState)
    (identifier : String) :
    (∃ connState,
        handleClientFrame env ctx state
            (some (.command (.subscribe identifier))) =
          ({ state with connState := connState },
            [rejectEffect identifier])) ∨
      ∃ presence : List Effect,
        presence.all Effect.isPresence = true ∧
          (handleClientFrame env ctx state
            (some (.command (.subscribe identifier)))).2 =
            .registrySubscribe (env.streamKey identifier) ::
              (presence ++ [confirmEffect env state.lastSeq identifier]) := by
  simp only [handleClientFrame]
  split
  · split
    · exact Or.inl ⟨state.connState, rfl⟩
    · rcases @dispatchSubscribe_cases env ctx
          { state with connState := .active } identifier with
        rejected | accepted
      · exact Or.inl ⟨.active, rejected⟩
      · exact Or.inr accepted
  · rcases @dispatchSubscribe_cases env ctx state identifier with
      rejected | accepted
    · exact Or.inl ⟨state.connState, rejected⟩
    · exact Or.inr accepted

/-- Effects on presence enqueue nothing. -/
theorem enqueuedByAll_presence {presence : List Effect}
    (onlyPresence : presence.all Effect.isPresence = true)
    (rest : List Effect) :
    enqueuedByAll env stimuli (presence ++ rest) =
      enqueuedByAll env stimuli rest := by
  induction presence with
  | nil =>
      rfl
  | cons effect more ih =>
      simp only [List.all_cons, Bool.and_eq_true] at onlyPresence
      have nothing : enqueuedBy env stimuli effect = some [] := by
        cases effect <;> first | rfl | cases onlyPresence.1
      rw [List.cons_append, enqueuedByAll, nothing, ih onlyPresence.2]
      simp

theorem enqueuedByAll_singleton (effect : Effect) :
    enqueuedByAll env stimuli [effect] = enqueuedBy env stimuli effect := by
  simp [enqueuedByAll]

theorem enqueuedByAll_accepted {presence : List Effect} {stream : String}
    (onlyPresence : presence.all Effect.isPresence = true) (last : Effect) :
    enqueuedByAll env stimuli
        (.registrySubscribe stream :: (presence ++ [last])) =
      enqueuedBy env stimuli last := by
  rw [enqueuedByAll, enqueuedByAll_presence onlyPresence,
    enqueuedByAll_singleton]
  simp [enqueuedBy]

/-- One Subscribe with its background task enqueues exactly one answer.  A
rejection is its only effect and changes none of the variables but the state of
the handshake, and a confirmation by the replay task comes last on the replay
queue. -/
theorem subscribe_answered_once {state after : InboundState}
    {effects : List Effect} {identifier : String} {frames : List Enqueued}
    (handled :
      handleClientFrame env ctx state
        (some (.command (.subscribe identifier))) = (after, effects))
    (completes : enqueuedByAll env stimuli effects = some frames) :
    ∃ answer : Enqueued,
      frames.filter (fun frame => isAnswer frame.2) = [answer] ∧
        IsAnswerTo identifier answer.2 ∧
        (answer.2 = .rejectSubscription identifier →
          effects = [rejectEffect identifier] ∧
            after = { state with connState := after.connState }) ∧
        ∀ since, .spawnReplay identifier since ∈ effects →
          answer.2 = .confirmSubscription identifier →
            ∃ replayed : List Enqueued,
              frames = replayed ++ [(.replay, .confirmSubscription identifier)] ∧
                ∀ frame, frame ∈ replayed → frame.1 = .replay := by
  rcases @handleClientFrame_subscribe_cases env ctx state identifier with
    ⟨connState, rejected⟩ | ⟨presence, onlyPresence, accepted⟩
  · rw [rejected] at handled
    obtain ⟨rfl, rfl⟩ := Prod.mk.inj handled
    obtain rfl : [(.live, .rejectSubscription identifier)] = frames := by
      simpa [enqueuedByAll_singleton, enqueuedBy, rejectEffect] using completes
    refine ⟨(.live, .rejectSubscription identifier), rfl, Or.inl rfl,
      fun _ => ⟨rfl, rfl⟩, ?_⟩
    intro since spawned
    simp [rejectEffect] at spawned
  · rw [handled] at accepted
    obtain rfl : effects = _ := accepted
    rw [enqueuedByAll_accepted onlyPresence] at completes
    rcases confirmEffect_cases env state.lastSeq identifier with
      direct | ⟨since, -, replayed⟩
    · -- Confirmed on the spot.
      rw [direct, enqueuedBy] at completes
      obtain rfl := Option.some.inj completes
      refine ⟨(.live, .confirmSubscription identifier), rfl,
        Or.inr (Or.inl rfl), (fun isReject => by cases isReject), ?_⟩
      intro since spawned
      rw [direct] at spawned
      have inPresence : .spawnReplay identifier since ∈ presence := by
        simpa using spawned
      have isPresence := List.all_eq_true.mp onlyPresence _ inPresence
      cases isPresence
    · rw [replayed] at completes
      obtain ⟨inputs, isSince⟩ :=
        enqueuedBy_spawnReplay_iff.mp ⟨stimuli, completes⟩
      obtain ⟨before, answer, rfl, isReplayed, isLast⟩ :=
        replayTaskFrames_shape isSince
      have onlyAnswer :
          isAnswer answer.2 = true →
            (before ++ [answer]).filter (fun frame => isAnswer frame.2) =
              [answer] := by
        intro isAnswer
        have none :
            before.filter (fun frame => Connection.isAnswer frame.2) = [] := by
          rw [List.filter_eq_nil_iff]
          intro frame member
          simp [(isReplayed frame member).2]
        rw [List.filter_append, none, List.nil_append]
        exact List.filter_cons_of_pos isAnswer
      refine ⟨answer, ?_⟩
      rcases isLast with rfl | ⟨reason, rfl⟩
      · refine ⟨onlyAnswer rfl, Or.inr (Or.inl rfl),
          (fun isReject => by cases isReject), ?_⟩
        intro since _ _
        exact ⟨before, rfl, fun frame member => (isReplayed frame member).1⟩
      · refine ⟨onlyAnswer rfl, Or.inr (Or.inr ⟨reason, rfl⟩),
          (fun isReject => by cases isReject), ?_⟩
        intro since _ isConfirm
        cases isConfirm

end

/-! A client that is one message behind. -/

def oneBehindEnv : Environment :=
  { Environment.fourSlots with
    enforcement := .hardEnforce
    presenceAvailable := true }

def oneBehindContext : ConnContext :=
  ⟨false, ["*"], some "ann"⟩

def oneBehindState : InboundState where
  connState := .active
  replayCapable := true
  lastSeq := some 6
  heartbeats := []

def oneBehindStimuli : List ReplayStimulus :=
  [.info (.ok ⟨7, 1⟩), .opened (.ok ()) 7,
    .fetched (.message (some 7) ByteArray.empty), .fetched .ended, .answer]

def oneBehindFrames : List Enqueued :=
  [(.replay, replayedFrame (fun _ => .null) "news" 7 ByteArray.empty),
    (.replay, .confirmSubscription "news")]

theorem oneBehind_answered :
    ∃ frames,
      enqueuedByAll oneBehindEnv oneBehindStimuli
          (handleClientFrame oneBehindEnv oneBehindContext oneBehindState
            (some (.command (.subscribe "news")))).2 = some frames ∧
        ∃ answer : Enqueued,
          frames.filter (fun frame => isAnswer frame.2) = [answer] ∧
            IsAnswerTo "news" answer.2 := by
  have completes :
      enqueuedByAll oneBehindEnv oneBehindStimuli
          (handleClientFrame oneBehindEnv oneBehindContext oneBehindState
            (some (.command (.subscribe "news")))).2 =
        some oneBehindFrames :=
    rfl
  obtain ⟨answer, once, isAnswer, -⟩ :=
    @subscribe_answered_once oneBehindEnv oneBehindStimuli oneBehindContext
      oneBehindState _ _ "news" oneBehindFrames rfl completes
  exact ⟨oneBehindFrames, completes, answer, once, isAnswer⟩

end TurbocableServer.Connection
