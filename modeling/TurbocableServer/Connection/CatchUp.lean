import TurbocableServer.Connection.SessionQueues

/-!
# Catch-up before live frames

The outbound loop prefers the replay queue, but only over live frames that are
queued at the same time: before the replay task has queued anything, the live
branch is free to run.  When the live branch writes a frame of a stream only
after the replay of that stream is over, no catch-up frame of the stream follows
a live one on the socket.
-/

namespace TurbocableServer.Connection

open Foundations Protocol Pubsub

/-- No catch-up frame of `stream` comes after a live one. -/
def CatchUpFirst (stream : String)
    (socket : List (SocketFrame ServerMessage)) : Prop :=
  socket.Pairwise (fun earlier later =>
    onData (isLiveOf stream) earlier = true →
      onData (isReplayedOf stream) later = false)

instance (stream : String) (socket : List (SocketFrame ServerMessage)) :
    Decidable (CatchUpFirst stream socket) :=
  inferInstanceAs (Decidable (List.Pairwise _ socket))

theorem CatchUpFirst.append {stream : String}
    {socket written : List (SocketFrame ServerMessage)}
    (first : CatchUpFirst stream socket)
    (noCatchUp :
      ∀ frame, frame ∈ written → onData (isReplayedOf stream) frame = false) :
    CatchUpFirst stream (socket ++ written) := by
  rw [CatchUpFirst, List.pairwise_append]
  refine ⟨first, ?_, fun _ _ later member _ => noCatchUp later member⟩
  exact List.pairwise_of_forall_mem_list
    (fun _ _ later member _ => noCatchUp later member)

theorem CatchUpFirst.append_of_no_live {stream : String}
    {socket : List (SocketFrame ServerMessage)}
    (noLive :
      ∀ frame, frame ∈ socket → onData (isLiveOf stream) frame = false)
    (frame : SocketFrame ServerMessage) :
    CatchUpFirst stream (socket ++ [frame]) := by
  rw [CatchUpFirst, List.pairwise_append]
  refine ⟨?_, List.pairwise_singleton _ _, ?_⟩
  · apply List.pairwise_of_forall_mem_list
    intro earlier member later _ isLive
    rw [noLive earlier member] at isLive
    cases isLive
  · intro earlier member later _ isLive
    rw [noLive earlier member] at isLive
    cases isLive

def Effect.spawnsReplayOf (stream : String) : Effect → Bool
  | .spawnReplay identifier _ => identifier == stream
  | _ => false

def ReplayTask.isOver (task : ReplayTask) : Bool :=
  match task.pc with
  | .ended _ => true
  | _ => false

/-- A replay task that is over makes no move. -/
theorem TaskMoves.not_isOver {env : Environment} {task : ReplayTask}
    {stimulus : ReplayStimulus} {move : TaskMove}
    (moves : TaskMoves env task stimulus move) : task.isOver = false := by
  cases moves <;> simp [ReplayTask.isOver, *]

namespace Session

variable {env : Environment} {session next : Session}
variable {action : SessionAction} {stream : String}

/-- No replay of `stream` is planned or under way. -/
def ReplayOver (stream : String) (session : Session) : Prop :=
  (∀ effect, effect ∈ session.todo → effect.spawnsReplayOf stream = false) ∧
    ∀ task, task ∈ session.tasks → task.identifier = stream →
      task.isOver = true

instance (stream : String) (session : Session) :
    Decidable (session.ReplayOver stream) :=
  inferInstanceAs (Decidable (_ ∧ _))

/-- The next step of the outbound task writes a live frame of `stream`. -/
def writesLive (stream : String) (session : Session) (ok shutdown : Bool) :
    Bool :=
  match session.out.step some ok backpressureFrame shutdown with
  | some out =>
      (out.socket.drop session.out.socket.length).any
        (onData (isLiveOf stream))
  | none => false

/-- If the live branch is about to write a frame of `stream`, no replay of it is
left. -/
def LiveAfterReplay (stream : String) (session : Session)
    (ok shutdown : Bool) : Prop :=
  session.out.pc = .select →
    session.writesLive stream ok shutdown = true →
      session.ReplayOver stream

instance (stream : String) (session : Session) (ok shutdown : Bool) :
    Decidable (session.LiveAfterReplay stream ok shutdown) :=
  inferInstanceAs (Decidable (_ → _ → _))

/-- Subscribe frames for `stream`. -/
def subscribesTo (env : Environment) (stream : String) : ClientFrame → Bool
  | .command (.subscribe identifier) => env.streamKey identifier == stream
  | _ => false

/-- The client has sent at most one Subscribe for `stream`. -/
def SubscribedOnce (env : Environment) (stream : String)
    (session : Session) : Prop :=
  session.frames.countP (subscribesTo env stream) ≤ 1

instance (env : Environment) (stream : String) (session : Session) :
    Decidable (session.SubscribedOnce env stream) :=
  inferInstanceAs (Decidable (_ ≤ _))

theorem SubscribedOnce.of_steps (steps : Steps env session action next)
    (once : next.SubscribedOnce env stream) :
    session.SubscribedOnce env stream := by
  unfold SubscribedOnce at once ⊢
  rcases steps.frames with same | ⟨frame, -, extended⟩
  · rw [← same]
    exact once
  · rw [extended, List.countP_append] at once
    omega

/-! ## When a live frame is out -/

/-- Nothing of a replay of `stream` is left, and none will follow. -/
structure Settled (env : Environment) (stream : String)
    (session : Session) : Prop where
  replayOver : session.ReplayOver stream
  drained :
    ∀ frame, frame ∈ session.out.replay.buf →
      isReplayedOf stream frame = false
  subscribed : session.Subscribed env stream

private theorem replayOver_step (settled : session.Settled env stream)
    (plain : env.streamKey stream = stream)
    (once : next.SubscribedOnce env stream)
    (steps : Steps env session action next) : next.ReplayOver stream := by
  constructor
  · intro effect member
    rcases steps.mem_todo member with before | ⟨frame, rfl, fromFrame⟩ | routine
    · exact settled.replayOver.1 effect before
    · -- A second Subscribe would be one too many.
      by_contra spawns
      cases effect with
      | spawnReplay identifier since =>
          have same : identifier = stream := by
            simpa [Effect.spawnsReplayOf] using spawns
          obtain ⟨isFrame, -⟩ :=
            (handled_handleClientFrame env session.ctx session.inbound
              frame).subscribe_of_spawnReplay fromFrame
          subst same isFrame
          obtain ⟨earlier, asked, -, isKey⟩ := settled.subscribed
          have counted :
              0 < session.frames.countP (subscribesTo env identifier) := by
            rw [List.countP_pos_iff]
            exact ⟨_, asked, by simp [subscribesTo, isKey]⟩
          have another :
              (session.frames ++
                  [ClientFrame.command (.subscribe identifier)]).countP
                    (subscribesTo env identifier) =
                session.frames.countP (subscribesTo env identifier) + 1 := by
            simp [List.countP_append, subscribesTo, plain]
          cases steps with
          | frame _ idle =>
              have atMostOne :
                  (session.frames ++
                    [ClientFrame.command (.subscribe identifier)]).countP
                      (subscribesTo env identifier) ≤ 1 :=
                once
              omega
      | _ => exact spawns rfl
    · cases effect <;> first | rfl | cases routine
  · intro task member ofStream
    rcases steps.mem_tasks member with
      before | ⟨before, stimulus, move, present, moves, sameName, -⟩ |
        ⟨rest, todo, -⟩
    · exact settled.replayOver.2 task before ofStream
    · have isOver :=
        settled.replayOver.2 before present (sameName.symm.trans ofStream)
      rw [moves.not_isOver] at isOver
      cases isOver
    · have spawns :=
        settled.replayOver.1 (.spawnReplay task.identifier task.lastSeq)
          (by simp [todo])
      simp [Effect.spawnsReplayOf, ofStream] at spawns

theorem Settled.step (settled : session.Settled env stream)
    (regular : session.Regular env) (plain : env.streamKey stream = stream)
    (once : next.SubscribedOnce env stream)
    (steps : Steps env session action next) : next.Settled env stream where
  replayOver := replayOver_step settled plain once steps
  drained := by
    intro frame member
    rcases steps.mem_replay_buf member with
      before | ⟨task, stimulus, sent, gone, present, moves⟩
    · exact settled.drained frame before
    · by_contra replayed
      have ofStream : task.identifier = stream := by
        cases moves with
        | replayed =>
            simpa [isReplayedOf, replayedFrame] using replayed
        | confirmed =>
            exact absurd rfl replayed
      have isOver := settled.replayOver.2 task present ofStream
      rw [moves.not_isOver] at isOver
      cases isOver
  subscribed := settled.subscribed.of_steps regular.traced.fresh steps

/-- No catch-up frame follows a live one, and once a live frame is out there is
none left that could. -/
structure CaughtUp (env : Environment) (stream : String)
    (session : Session) : Prop where
  order : CatchUpFirst stream session.out.socket
  settled :
    (∃ frame, frame ∈ session.out.socket ∧
        onData (isLiveOf stream) frame = true) →
      session.out.pc = .drainLive ∨ session.out.pc = .exited ∨
        session.Settled env stream

theorem caughtUp_unborn (env : Environment) (stream : String) :
    (unborn env).CaughtUp env stream where
  order := List.Pairwise.nil
  settled := by simp [unborn, freshOutbound]

theorem caughtUp_of_same_socket (caught : session.CaughtUp env stream)
    (sameSocket : next.out.socket = session.out.socket)
    (pc :
      session.out.pc = .drainLive ∨ session.out.pc = .exited →
        next.out.pc = .drainLive ∨ next.out.pc = .exited)
    (kept : session.Settled env stream → next.Settled env stream) :
    next.CaughtUp env stream where
  order := sameSocket ▸ caught.order
  settled := by
    rw [sameSocket]
    intro isOut
    rcases caught.settled isOut with draining | exited | settled
    · exact (pc (Or.inl draining)).imp_right Or.inl
    · exact (pc (Or.inr exited)).imp_right Or.inl
    · exact Or.inr (Or.inr (kept settled))

private theorem caughtUp_replayWritten {frame : ServerMessage}
    (caught : session.CaughtUp env stream) (regular : session.Regular env)
    (notDraining : session.out.pc ≠ .drainLive)
    (notExited : session.out.pc ≠ .exited)
    (waiting : frame ∈ session.out.replay.buf)
    (written : next.out.socket = session.out.socket ++ [.data frame])
    (kept : session.Settled env stream → next.Settled env stream) :
    next.CaughtUp env stream := by
  by_cases isOut :
      ∃ earlier, earlier ∈ session.out.socket ∧
        onData (isLiveOf stream) earlier = true
  · -- After a live frame the replay queue holds no catch-up frame any more.
    have settled : session.Settled env stream := by
      rcases caught.settled isOut with draining | exited | settled
      · exact absurd draining notDraining
      · exact absurd exited notExited
      · exact settled
    refine ⟨?_, fun _ => Or.inr (Or.inr (kept settled))⟩
    rw [written]
    apply caught.order.append
    intro later member
    rw [List.mem_singleton.mp member]
    exact settled.drained frame waiting
  · have noLive :
        ∀ earlier, earlier ∈ session.out.socket →
          onData (isLiveOf stream) earlier = false := by
      intro earlier member
      by_contra isLive
      exact isOut ⟨earlier, member, by simpa using isLive⟩
    have notLive :=
      regular.separated.isLiveOf_replay (List.mem_append_right _ waiting) stream
    constructor
    · rw [written]
      exact CatchUpFirst.append_of_no_live noLive _
    · rintro ⟨later, member, isLive⟩
      rw [written] at member
      rcases List.mem_append.mp member with before | isLast
      · rw [noLive later before] at isLive
        cases isLive
      · rw [List.mem_singleton.mp isLast, onData, notLive] at isLive
        cases isLive

private theorem caughtUp_liveWritten {frame : ServerMessage}
    {ok shutdown : Bool}
    (caught : session.CaughtUp env stream) (regular : session.Regular env)
    (orderly : session.LiveAfterReplay stream ok shutdown)
    (stepped : session.out.step some ok backpressureFrame shutdown =
      some next.out)
    (source :
      session.out.pc = .select ∧ session.out.replay.buf = [] ∨
        session.out.pc = .drainLive)
    (samePc : next.out.pc = session.out.pc)
    (waiting : frame ∈ session.out.live.buf)
    (written : next.out.socket = session.out.socket ++ [.data frame])
    (kept : session.Settled env stream → next.Settled env stream) :
    next.CaughtUp env stream := by
  have queued : frame ∈ session.out.live.sent :=
    List.mem_append_right _ waiting
  constructor
  · rw [written]
    apply caught.order.append
    intro later member
    rw [List.mem_singleton.mp member]
    exact regular.separated.isReplayedOf_live queued stream
  · rintro ⟨later, member, isLive⟩
    rcases source with ⟨atSelect, noReplay⟩ | draining
    · refine Or.inr (Or.inr (kept ?_))
      rw [written] at member
      rcases List.mem_append.mp member with before | isLast
      · rcases caught.settled ⟨later, before, isLive⟩ with
          draining | exited | settled
        · rw [atSelect] at draining
          cases draining
        · rw [atSelect] at exited
          cases exited
        · exact settled
      · rw [List.mem_singleton.mp isLast] at isLive
        have writes : session.writesLive stream ok shutdown = true := by
          simp only [writesLive, stepped, written, List.drop_left]
          simpa using isLive
        refine ⟨orderly atSelect writes, ?_, ?_⟩
        · simp [noReplay]
        · exact regular.traced.enqueued frame stream queued
            (identifierField_of_isLiveOf isLive)
    · exact Or.inl (samePc.trans draining)

theorem CaughtUp.step (caught : session.CaughtUp env stream)
    (regular : session.Regular env) (plain : env.streamKey stream = stream)
    (once : next.SubscribedOnce env stream)
    (orderly :
      ∀ ok shutdown, action = .outbound ok shutdown →
        session.LiveAfterReplay stream ok shutdown)
    (steps : Steps env session action next) : next.CaughtUp env stream := by
  have kept : session.Settled env stream → next.Settled env stream :=
    fun settled => settled.step regular plain once steps
  rcases steps.socket_cases with
    ⟨ok, shutdown, rfl, stepped⟩ | ⟨sameSocket, samePc | ⟨-, rest, todo⟩⟩
  · cases OutboundState.moves_of_step stepped with
    | control _ notDraining notExited _ _ _ _ _ sameSocket =>
        refine caughtUp_of_same_socket caught sameSocket ?_ kept
        rintro (draining | exited)
        · exact absurd draining notDraining
        · exact absurd exited notExited
    | replayWritten frame _ notDraining notExited _ _ _ _ took _ written =>
        exact caughtUp_replayWritten caught regular notDraining notExited
          (by simp [took.buf]) written kept
    | replayLost frame target _ _ sameSocket =>
        exact ⟨sameSocket ▸ caught.order, fun _ => by tauto⟩
    | liveWritten frame source samePc _ took written =>
        exact caughtUp_liveWritten caught regular
          (orderly ok shutdown rfl) stepped source samePc
          (by simp [took.buf]) written kept
    | liveLost frame exited _ _ sameSocket =>
        exact ⟨sameSocket ▸ caught.order, fun _ => Or.inr (Or.inl exited)⟩
    | terminal last exited _ _ origin written =>
        refine ⟨?_, fun _ => Or.inr (Or.inl exited)⟩
        rw [written]
        apply caught.order.append
        intro frame member
        cases frame with
        | data message =>
            exact isReplayedOf_eq_false
              (identifierField_terminal regular.separated
                (origin message member)) stream
        | goingAway => rfl
        | closing => rfl
  · refine caughtUp_of_same_socket caught sameSocket ?_ kept
    rw [samePc]
    exact id
  · -- Nothing has been written before the outbound task starts.
    have planned : .spawnOutbound ∈ session.todo := by simp [todo]
    have silent :=
      regular.launched.silent (regular.launched.planned planned).1
    rw [silent] at sameSocket
    exact ⟨by rw [sameSocket]; exact List.Pairwise.nil,
      by simp [sameSocket]⟩

end Session

end TurbocableServer.Connection
