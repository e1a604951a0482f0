import TurbocableServer.Connection.SessionQueues

/-!
# The order of catch-up frames

A replay task skips what is not newer than its last message, but several tasks
for one stream know nothing of each other.  When a replay of a stream starts
only after the earlier ones have queued all they will queue, and beyond what
they have queued, the catch-up frames of the stream are written in increasing
sequence.
-/

namespace TurbocableServer.Connection

open Foundations Protocol Pubsub

/-- The sequence of a catch-up frame of `stream` on the socket. -/
def writtenSeq (stream : String) : SocketFrame ServerMessage → Option Nat
  | .data message => replayedSeq stream message
  | _ => none

/-- The task may still queue a catch-up frame. -/
def ReplayTask.isActive (task : ReplayTask) : Bool :=
  match task.pc with
  | .answering _ => false
  | .ended _ => false
  | _ => true

/-- The task queues only sequences above this one. -/
def ReplayTask.floor (task : ReplayTask) : Nat :=
  match task.pc with
  | .streaming _ cursor => cursor.prevSeq
  | _ => task.lastSeq

theorem concludePc_not_active (task : ReplayTask)
    (result : Except ReplayError ReplayDelivery) :
    ({ task with pc := concludePc result } : ReplayTask).isActive = false := by
  unfold concludePc
  split <;> rfl

/-- A task that is active after a move was so before, and its floor has not
sunk. -/
theorem TaskMoves.floor_le {env : Environment} {task : ReplayTask}
    {stimulus : ReplayStimulus} {move : TaskMove} {pc : ReplayPc}
    (moves : TaskMoves env task stimulus move) (leads : move.LeadsTo pc)
    (active : ({ task with pc := pc } : ReplayTask).isActive = true) :
    task.isActive = true ∧
      task.floor ≤ ({ task with pc := pc } : ReplayTask).floor := by
  cases moves with
  | permit granted queued =>
      obtain rfl := leads
      cases granted <;> simp_all [ReplayTask.isActive, ReplayTask.floor]
  | finished stored cursor event result streaming finishes
  | windowRefused info refused checking isRefused =>
      obtain rfl := leads
      rw [concludePc_not_active] at active
      cases active
  | replayed stored cursor seq payload streaming newer =>
      rcases leads with rfl | rfl
      · simp_all [ReplayTask.isActive, ReplayTask.floor, Nat.le_of_lt]
      · cases active
  | confirmed answering => rcases leads with rfl | rfl <;> cases active
  | disconnected reason answering =>
      obtain rfl := leads
      cases active
  | _ =>
      obtain rfl := leads
      simp_all [ReplayTask.isActive, ReplayTask.floor]

namespace Session

variable {env : Environment} {session next : Session}
variable {action : SessionAction} {stream : String}

/-- The catch-up sequences of `stream` written since the latest hello. -/
def replayedSince (stream : String) (session : Session) : List Nat :=
  (session.out.socket.drop session.helloAt).filterMap (writtenSeq stream)

/-- The same, with those that are still queued. -/
def replayHistory (stream : String) (session : Session) : List Nat :=
  session.replayedSince stream ++
    session.out.replay.buf.filterMap (replayedSeq stream)

/-- The replay of `stream` the connection task is about to start. -/
def nextReplay (stream : String) (session : Session) : Option Nat :=
  match session.todo with
  | .spawnReplay identifier since :: _ =>
      if identifier = stream then some since else none
  | _ => none

/-- A replay of `stream` starts only when no earlier one is active, and above
all that was queued since the latest hello. -/
def StartsInOrder (stream : String) (session : Session) : Prop :=
  ∀ since, since ∈ session.nextReplay stream →
    (∀ task, task ∈ session.tasks → task.identifier = stream →
      task.isActive = false) ∧
      ∀ seq, seq ∈ session.replayHistory stream → seq ≤ since

instance (stream : String) (session : Session) :
    Decidable (session.StartsInOrder stream) :=
  inferInstanceAs (Decidable (∀ since, since ∈ session.nextReplay stream → _))

/-- An active task of the next state is an active task at the same place, or
has just been started. -/
theorem Steps.active_task {index : Nat} {task : ReplayTask}
    (steps : Steps env session action next)
    (present : next.tasks[index]? = some task)
    (active : task.isActive = true) :
    (∃ before,
        session.tasks[index]? = some before ∧ before.isActive = true ∧
          before.identifier = task.identifier ∧
          before.floor ≤ task.floor) ∨
      action = .effect ∧ session.nextReplay task.identifier = some task.floor ∧
        index = session.tasks.length := by
  rcases steps.tasks_cases with
    same | ⟨moved, stimulus, before, move, pc, -, isThere, moves, leads,
      isSet⟩ | ⟨identifier, since, rest, isEffect, todo, extended⟩
  · rw [same] at present
    exact Or.inl ⟨task, present, active, rfl, Nat.le_refl _⟩
  · left
    rw [isSet, List.getElem?_set] at present
    split at present
    · rename_i isIndex
      subst isIndex
      split at present
      · obtain rfl := Option.some.inj present
        obtain ⟨wasActive, below⟩ := moves.floor_le leads active
        exact ⟨before, isThere, wasActive, rfl, below⟩
      · cases present
    · exact ⟨task, present, active, rfl, Nat.le_refl _⟩
  · rw [extended] at present
    rcases Nat.lt_or_ge index session.tasks.length with inside | atEnd
    · rw [List.getElem?_append_left inside] at present
      exact Or.inl ⟨task, present, active, rfl, Nat.le_refl _⟩
    · right
      rw [List.getElem?_append_right atEnd] at present
      obtain ⟨inside, isTask⟩ := List.getElem?_eq_some_iff.mp present
      simp only [List.length_singleton, Nat.lt_one_iff] at inside
      simp only [List.getElem_singleton] at isTask
      subst isTask
      refine ⟨isEffect, ?_, by omega⟩
      simp [nextReplay, todo, ReplayTask.floor]

/-! ## What is written and queued -/

theorem replayHistory_of_written
    (inside : session.helloAt ≤ session.out.socket.length)
    {written : List (SocketFrame ServerMessage)}
    (sameHello : next.helloAt = session.helloAt)
    (extended : next.out.socket = session.out.socket ++ written) :
    next.replayHistory stream =
      session.replayedSince stream ++ written.filterMap (writtenSeq stream) ++
        next.out.replay.buf.filterMap (replayedSeq stream) := by
  rw [replayHistory, replayedSince, sameHello, extended,
    List.drop_append_of_le_length inside, List.filterMap_append]
  rfl

theorem writtenSeq_eq_none {frame : ServerMessage}
    (notReplayed : isReplayedOf stream frame = false) :
    writtenSeq stream (.data frame) = none := by
  by_contra isSeq
  obtain ⟨seq, present⟩ := Option.ne_none_iff_exists'.mp isSeq
  rw [isReplayedOf_of_replayedSeq present] at notReplayed
  cases notReplayed

private theorem replayHistory_outbound {ok shutdown : Bool}
    (regular : session.Regular env)
    (inside : session.helloAt ≤ session.out.socket.length)
    (sameHello : next.helloAt = session.helloAt)
    (stepped : session.out.step some ok backpressureFrame shutdown =
      some next.out) :
    (next.replayHistory stream).Sublist (session.replayHistory stream) := by
  have unwritten :
      ∀ {written : List (SocketFrame ServerMessage)},
        next.out.socket = session.out.socket ++ written →
        written.filterMap (writtenSeq stream) = [] →
          next.replayedSince stream = session.replayedSince stream := by
    intro written extended nothing
    rw [replayedSince, sameHello, extended,
      List.drop_append_of_le_length inside, List.filterMap_append, nothing,
      List.append_nil, replayedSince]
  cases OutboundState.moves_of_step stepped with
  | control _ _ _ _ _ _ sameReplay _ sameSocket =>
      rw [replayHistory, replayHistory, sameReplay.buf,
        unwritten (by rw [sameSocket, List.append_nil]) rfl]
  | replayWritten frame _ _ _ _ _ _ _ took _ written =>
      -- The head of the queue moves to the end of the socket history.
      have same :
          next.replayHistory stream = session.replayHistory stream := by
        rw [replayHistory_of_written inside sameHello written, replayHistory,
          took.buf, List.append_assoc]
        cases isSeq : replayedSeq stream frame <;>
          simp [OutboundState.onSocket, writtenSeq, isSeq]
      rw [same]
  | replayLost frame _ took _ sameSocket =>
      rw [replayHistory, replayHistory, took.buf,
        unwritten (by rw [sameSocket, List.append_nil]) rfl]
      apply List.Sublist.append_left
      exact (List.sublist_cons_self ..).filterMap _
  | liveWritten frame _ _ sameReplay took written =>
      have queued : frame ∈ session.out.live.sent :=
        List.mem_append_right _ (by simp [took.buf])
      have nothing :=
        writtenSeq_eq_none (regular.separated.isReplayedOf_live queued stream)
      rw [replayHistory, replayHistory, sameReplay.buf,
        unwritten written (by simp [OutboundState.onSocket, nothing])]
  | liveLost frame _ sameReplay _ sameSocket =>
      rw [replayHistory, replayHistory, sameReplay.buf,
        unwritten (by rw [sameSocket, List.append_nil]) rfl]
  | terminal last _ sameReplay _ origin written =>
      have nothing : last.filterMap (writtenSeq stream) = [] := by
        rw [List.filterMap_eq_nil_iff]
        intro frame member
        cases frame with
        | data message =>
            apply writtenSeq_eq_none
            exact isReplayedOf_eq_false
              (identifierField_terminal regular.separated
                (origin message member)) stream
        | goingAway => rfl
        | closing => rfl
      rw [replayHistory, replayHistory, sameReplay.buf,
        unwritten written nothing]

/-- The history loses entries, or a streaming task adds a newer one. -/
theorem Steps.replayHistory_cases (regular : session.Regular env)
    (inside : session.helloAt ≤ session.out.socket.length)
    (steps : Steps env session action next) :
    (next.replayHistory stream).Sublist (session.replayHistory stream) ∨
      ∃ index task stored cursor seq,
        session.tasks[index]? = some task ∧ task.identifier = stream ∧
          task.pc = .streaming stored cursor ∧ cursor.prevSeq < seq ∧
          next.tasks =
            session.tasks.set index
              { task with pc := .streaming stored ⟨cursor.count + 1, seq⟩ } ∧
          next.replayHistory stream = session.replayHistory stream ++ [seq] := by
  cases steps with
  | outbound ok shutdown out stepped =>
      exact Or.inl (replayHistory_outbound regular inside rfl stepped)
  | frame frame idle =>
      left
      rcases frame with _ | (hello | command)
      · exact List.Sublist.refl _
      · -- A hello starts a new history.
        simp [replayHistory, replayedSince, receive]
      · exact List.Sublist.refl _
  | taskEnqueue index stimulus task frame sent gone replay accepted present
      moves offered =>
      cases accepted with
      | false =>
          left
          rw [Channel.send_eq_false offered]
          simp [replayHistory, replayedSince]
      | true =>
          rw [Channel.send_eq_true offered]
          cases moves with
          | replayed stored cursor seq payload streaming newer =>
              by_cases ofStream : task.identifier = stream
              · refine Or.inr ⟨index, task, stored, cursor, seq, present,
                  ofStream, streaming, newer, rfl, ?_⟩
                simp [replayHistory, replayedSince, replayedFrame,
                  replayedSeq, ofStream]
              · left
                simp [replayHistory, replayedSince, replayedFrame,
                  replayedSeq, ofStream]
          | confirmed answering =>
              left
              simp [replayHistory, replayedSince, replayedSeq]
  | taskGo | taskUrgent => simp [replayHistory, replayedSince]
  | _ => exact Or.inl (List.Sublist.refl _)

/-! ## The invariant -/

structure ReplaysInOrder (stream : String) (session : Session) : Prop where
  inside : session.helloAt ≤ session.out.socket.length
  increasing : (session.replayHistory stream).Pairwise (· < ·)
  single :
    ∀ (left right : Nat) (first second : ReplayTask),
      session.tasks[left]? = some first →
      session.tasks[right]? = some second →
      first.identifier = stream → second.identifier = stream →
      first.isActive = true → second.isActive = true → left = right
  below :
    ∀ task, task ∈ session.tasks → task.identifier = stream →
      task.isActive = true →
        ∀ seq, seq ∈ session.replayHistory stream → seq ≤ task.floor

theorem replaysInOrder_unborn (env : Environment) (stream : String) :
    (unborn env).ReplaysInOrder stream where
  inside := Nat.le_refl _
  increasing := List.Pairwise.nil
  single := by simp [unborn]
  below := by simp [unborn]

private theorem inside_step
    (inside : session.helloAt ≤ session.out.socket.length)
    (steps : Steps env session action next) :
    next.helloAt ≤ next.out.socket.length := by
  have longer := steps.socket
  cases steps with
  | frame frame idle =>
      rcases frame with _ | (hello | command)
      · exact inside
      · exact Nat.le_refl _
      · exact inside
  | _ => exact Nat.le_trans inside longer.length_le

private theorem single_step (inOrder : session.ReplaysInOrder stream)
    (starts : action = .effect → session.StartsInOrder stream)
    (steps : Steps env session action next)
    {left right : Nat} {first second : ReplayTask}
    (isFirst : next.tasks[left]? = some first)
    (isSecond : next.tasks[right]? = some second)
    (firstOf : first.identifier = stream)
    (secondOf : second.identifier = stream)
    (firstActive : first.isActive = true)
    (secondActive : second.isActive = true) : left = right := by
  have alone :
      ∀ {index : Nat} {task : ReplayTask},
        session.tasks[index]? = some task →
        task.identifier = stream → task.isActive = true →
          action = .effect → session.nextReplay stream = none := by
    intro index task present ofStream active isEffect
    by_contra starting
    obtain ⟨since, isNext⟩ := Option.ne_none_iff_exists'.mp starting
    have idle :=
      (starts isEffect since isNext).1 task (List.mem_of_getElem? present)
        ofStream
    rw [active] at idle
    cases idle
  rcases steps.active_task isFirst firstActive with
    ⟨before, wasFirst, wasActive, sameName, -⟩ | ⟨isEffect, isNew, atEnd⟩
  · rcases steps.active_task isSecond secondActive with
      ⟨other, wasSecond, otherActive, otherName, -⟩ | ⟨isEffect, isNew, -⟩
    · exact inOrder.single left right before other wasFirst wasSecond
        (sameName.trans firstOf) (otherName.trans secondOf) wasActive
        otherActive
    · have none := alone wasFirst (sameName.trans firstOf) wasActive isEffect
      rw [secondOf, none] at isNew
      cases isNew
  · rcases steps.active_task isSecond secondActive with
      ⟨other, wasSecond, otherActive, otherName, -⟩ | ⟨-, -, alsoAtEnd⟩
    · have none :=
        alone wasSecond (otherName.trans secondOf) otherActive isEffect
      rw [firstOf, none] at isNew
      cases isNew
    · exact atEnd.trans alsoAtEnd.symm

theorem ReplaysInOrder.step (inOrder : session.ReplaysInOrder stream)
    (regular : session.Regular env)
    (starts : action = .effect → session.StartsInOrder stream)
    (steps : Steps env session action next) :
    next.ReplaysInOrder stream := by
  refine ⟨inside_step inOrder.inside steps, ?_, ?_, ?_⟩
  · rcases steps.replayHistory_cases regular inOrder.inside with
      fewer | ⟨index, task, stored, cursor, seq, present, ofStream, streaming,
        newer, -, extended⟩
    · exact inOrder.increasing.sublist fewer
    · rw [extended, List.pairwise_append]
      refine ⟨inOrder.increasing, List.pairwise_singleton _ _, ?_⟩
      intro earlier member later isLast
      have bounded :=
        inOrder.below task (List.mem_of_getElem? present) ofStream
          (by simp [ReplayTask.isActive, streaming]) earlier member
      rw [List.mem_singleton.mp isLast]
      exact Nat.lt_of_le_of_lt
        (by simpa [ReplayTask.floor, streaming] using bounded) newer
  · intro left right first second
    exact single_step inOrder starts steps
  · intro task member ofStream active seq inHistory
    obtain ⟨index, present⟩ := List.mem_iff_getElem?.mp member
    rcases steps.replayHistory_cases regular inOrder.inside with
      fewer | ⟨moved, streamer, stored, cursor, added, isThere, streamerOf,
        streaming, newer, isSet, extended⟩
    · have earlier := fewer.mem inHistory
      rcases steps.active_task present active with
        ⟨before, wasThere, wasActive, sameName, rises⟩ |
          ⟨isEffect, isNew, -⟩
      · exact Nat.le_trans
          (inOrder.below before (List.mem_of_getElem? wasThere)
            (sameName.trans ofStream) wasActive seq earlier) rises
      · rw [ofStream] at isNew
        exact (starts isEffect _ isNew).2 seq earlier
    · -- The streaming task is the only active one.
      have streamerActive : streamer.isActive = true := by
        simp [ReplayTask.isActive, streaming]
      rw [isSet, List.getElem?_set] at present
      split at present
      · split at present
        · obtain rfl := Option.some.inj present
          rw [extended] at inHistory
          rcases List.mem_append.mp inHistory with earlier | isLast
          · have bounded :=
              inOrder.below streamer (List.mem_of_getElem? isThere)
                streamerOf streamerActive seq earlier
            simp only [ReplayTask.floor, streaming] at bounded
            exact Nat.le_trans bounded (Nat.le_of_lt newer)
          · rw [List.mem_singleton.mp isLast]
            exact Nat.le_refl _
        · cases present
      · rename_i elsewhere
        exact absurd
          (inOrder.single moved index streamer task isThere present streamerOf
            ofStream streamerActive active)
          elsewhere

end Session

end TurbocableServer.Connection
