import TurbocableServer.Connection.CatchUp

/-!
# A session that has nothing to say about a stream

Frames of a stream reach the queues of a connection from three sides: the
fan-out loop, the connection task with its confirmations, and the replay tasks.
A session is muted when the connection task plans no call and no answer for the
stream, and its replays are over when none is planned or under way.
-/

namespace TurbocableServer.Connection

open Foundations Protocol Pubsub

/-- A message frame or a confirmation for `stream`. -/
def isOf (stream : String) : ServerMessage → Bool
  | .message identifier _ _ _ => identifier == stream
  | .confirmSubscription identifier => identifier == stream
  | _ => false

section

variable {env : Environment} {ctx : ConnContext} {lastSeq after : Option Nat}
variable {frame : Option ClientFrame} {effects : List Effect}

/-- A Subscribe that is neither rejected nor ignored goes to the registry. -/
theorem Handled.registrySubscribe_mem {identifier : String}
    (handled :
      Handled env ctx lastSeq (some (.command (.subscribe identifier))) after
        effects)
    {effect : Effect} (member : effect ∈ effects)
    (notReject : effect ≠ rejectEffect identifier) :
    .registrySubscribe (env.streamKey identifier) ∈ effects := by
  cases handled with
  | subscribed => exact List.mem_cons_self ..
  | rejected => exact absurd (List.mem_singleton.mp member) notReject
  | ignored => cases member

/-- The handler confirms only what it has given to the registry. -/
theorem Handled.registrySubscribe_of_sendLive
    (handled : Handled env ctx lastSeq frame after effects)
    {stream : String} {answer : ServerMessage}
    (member : .sendLive answer ∈ effects) (ofStream : isOf stream answer) :
    .registrySubscribe (env.streamKey stream) ∈ effects := by
  obtain ⟨identifier, rfl, rfl | rfl⟩ := handled.subscribe_of_sendLive member
  · cases ofStream
  · obtain rfl : identifier = stream := beq_iff_eq.mp ofStream
    exact handled.registrySubscribe_mem member (by simp [rejectEffect])

theorem Handled.registrySubscribe_of_spawnReplay
    (handled : Handled env ctx lastSeq frame after effects)
    {stream : String} {since : Nat}
    (member : .spawnReplay stream since ∈ effects) :
    .registrySubscribe (env.streamKey stream) ∈ effects := by
  obtain ⟨rfl, -⟩ := handled.subscribe_of_spawnReplay member
  exact handled.registrySubscribe_mem member (by simp [rejectEffect])

theorem Handled.presence_after_registryUnsubscribe {stream : String}
    {before rest : List Effect}
    (handled : Handled env ctx lastSeq frame after effects)
    (split : effects = before ++ .registryUnsubscribe stream :: rest) :
    rest.all Effect.isPresence = true := by
  have member : .registryUnsubscribe stream ∈ effects := by
    rw [split]
    exact List.mem_append_right _ (List.mem_cons_self ..)
  have fromUnsubscribe :
      ∃ identifier, frame = some (.command (.unsubscribe identifier)) := by
    rcases handled.mem_cases member rfl with
      ⟨identifier, -, isReject | ⟨-, isSubscribe | isConfirm⟩⟩ |
        ⟨identifier, isFrame, -⟩ | ⟨identifier, data, isPublish⟩
    · cases isReject
    · cases isSubscribe
    · rcases confirmEffect_cases env lastSeq identifier with
        direct | ⟨since, -, replayed⟩
      · simp [direct] at isConfirm
      · simp [replayed] at isConfirm
    · exact ⟨identifier, isFrame⟩
    · cases isPublish
  obtain ⟨identifier, rfl⟩ := fromUnsubscribe
  cases handled with
  | ignored => cases member
  | unsubscribed _ presence onlyPresence =>
      cases before with
      | nil =>
          rw [← (List.cons.inj split).2]
          exact onlyPresence
      | cons first others =>
          -- The call comes once, so it is not among the presence effects.
          have inPresence : .registryUnsubscribe stream ∈ presence := by
            rw [(List.cons.inj split).2]
            exact List.mem_append_right _ (List.mem_cons_self ..)
          cases List.all_eq_true.mp onlyPresence _ inPresence

end

namespace Session

variable {env : Environment} {session next : Session} {action : SessionAction}
variable {stream : String}

/-- The connection task plans no call and no answer for `stream`. -/
structure Muted (stream : String) (session : Session) : Prop where
  noCall : .registrySubscribe stream ∉ session.todo
  noAnswer :
    ∀ frame, .sendLive frame ∈ session.todo → isOf stream frame = false

/-- No Subscribe for `stream`, under whatever identifier, is accepted. -/
def Refrains (env : Environment) (stream : String) (session : Session)
    (action : SessionAction) : Prop :=
  ∀ frame, action = .frame frame →
    .registrySubscribe stream ∉
      (handleClientFrame env session.ctx session.inbound frame).2

theorem Muted.step (muted : session.Muted stream)
    (plain : env.streamKey stream = stream)
    (refrains : session.Refrains env stream action)
    (steps : Steps env session action next) : next.Muted stream where
  noCall := by
    intro member
    rcases steps.mem_todo member with before | ⟨frame, isFrame, handled⟩ | routine
    · exact muted.noCall before
    · exact refrains frame isFrame handled
    · exact routine
  noAnswer := by
    intro answer member
    rcases steps.mem_todo member with before | ⟨frame, isFrame, inHandled⟩ | routine
    · exact muted.noAnswer answer before
    · by_contra ofStream
      have called :=
        (handled_handleClientFrame env session.ctx session.inbound
          frame).registrySubscribe_of_sendLive inHandled
            (by simpa using ofStream)
      rw [plain] at called
      exact refrains frame isFrame called
    · obtain rfl : answer = .welcome := routine
      rfl

/-- Nothing but presence follows an `unsubscribe` call. -/
def UnsubscribesLast (session : Session) : Prop :=
  ∀ before stream rest,
    session.todo = before ++ .registryUnsubscribe stream :: rest →
      rest.all Effect.isPresence = true

theorem UnsubscribesLast.step (last : session.UnsubscribesLast)
    (steps : Steps env session action next) : next.UnsubscribesLast := by
  intro before unsubscribed rest split
  rcases steps.todo_cases with
    same | ⟨effect, popped⟩ | ⟨frame, -, planned⟩ | routine
  · exact last before unsubscribed rest (same ▸ split)
  · refine last (effect :: before) unsubscribed rest ?_
    rw [popped, split, List.cons_append]
  · rw [planned] at split
    exact
      (handled_handleClientFrame env session.ctx session.inbound
        frame).presence_after_registryUnsubscribe split
  · have isRoutine : IsRoutine (.registryUnsubscribe unsubscribed) :=
      routine _ (split ▸ List.mem_append_right _ (List.mem_cons_self ..))
    exact absurd isRoutine id

theorem muted_of_presence
    (onlyPresence : session.todo.all Effect.isPresence = true) :
    session.Muted stream where
  noCall := by
    intro member
    cases List.all_eq_true.mp onlyPresence _ member
  noAnswer := by
    intro frame member
    cases List.all_eq_true.mp onlyPresence _ member

/-- Without a Subscribe no replay starts anew. -/
theorem ReplayOver.step (replayOver : session.ReplayOver stream)
    (plain : env.streamKey stream = stream)
    (refrains : session.Refrains env stream action)
    (steps : Steps env session action next) : next.ReplayOver stream := by
  refine ⟨?_, ?_⟩
  · intro effect member
    rcases steps.mem_todo member with before | ⟨frame, isFrame, planned⟩ | routine
    · exact replayOver.1 effect before
    · cases effect with
      | spawnReplay identifier since =>
          refine beq_eq_false_iff_ne.mpr ?_
          rintro rfl
          have called :=
            (handled_handleClientFrame env session.ctx session.inbound
              frame).registrySubscribe_of_spawnReplay planned
          rw [plain] at called
          exact refrains frame isFrame called
      | _ => rfl
    · cases effect <;> first | rfl | cases routine
  · intro task member ofStream
    rcases steps.mem_tasks member with
      before | ⟨earlier, stimulus, move, present, moves, sameIdentifier, -⟩ |
        ⟨rest, todo, -⟩
    · exact replayOver.2 task before ofStream
    · have isOver :=
        replayOver.2 earlier present (sameIdentifier.symm.trans ofStream)
      rw [moves.not_isOver] at isOver
      cases isOver
    · have planned := replayOver.1 _ (todo ▸ List.mem_cons_self ..)
      rw [ofStream] at planned
      simp [Effect.spawnsReplayOf] at planned

/-- The tasks of other streams send frames of other streams. -/
theorem isOf_of_taskMoves {task : ReplayTask} {stimulus : ReplayStimulus}
    {frame : ServerMessage} {sent gone : ReplayPc}
    (moves : TaskMoves env task stimulus (.enqueue frame sent gone)) :
    isOf stream frame = (task.identifier == stream) := by
  cases moves <;> rfl

/-- Nothing about the stream is put on the live queue, unless the fan-out loop
delivers it. -/
theorem Muted.live_sent (muted : session.Muted stream)
    (steps : Steps env session action next)
    (notDelivered :
      ∀ frame, action = .deliver frame → isOf stream frame = false) :
    next.out.live.sent.filter (isOf stream) =
      session.out.live.sent.filter (isOf stream) := by
  rcases steps.live_sent with same | ⟨frame, extended, origin⟩
  · rw [same]
  · have other : isOf stream frame = false := by
      rcases origin with delivered | ⟨-, ⟨rest, todo⟩ | ⟨timestamp, rfl⟩⟩
      · exact notDelivered frame delivered
      · exact muted.noAnswer frame (todo ▸ List.mem_cons_self ..)
      · rfl
    rw [extended, List.filter_append]
    simp [other]

theorem ReplayOver.replay_sent (replayOver : session.ReplayOver stream)
    (steps : Steps env session action next) :
    next.out.replay.sent.filter (isOf stream) =
      session.out.replay.sent.filter (isOf stream) := by
  rcases steps.replay_sent with
    same | ⟨index, stimulus, task, frame, sent, gone, -, present, moves, -,
      extended⟩
  · rw [same]
  · have other : isOf stream frame = false := by
      rw [isOf_of_taskMoves moves, beq_eq_false_iff_ne]
      intro ofStream
      have isOver := replayOver.2 task (List.mem_of_getElem? present) ofStream
      rw [moves.not_isOver] at isOver
      cases isOver
    rw [extended, List.filter_append]
    simp [other]

end Session

end TurbocableServer.Connection
