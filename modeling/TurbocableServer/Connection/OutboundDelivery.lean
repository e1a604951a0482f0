import TurbocableServer.Connection.OutboundMoves
import TurbocableServer.Foundations.Interleaving

/-!
# Delivery on a socket that accepts every write

While writes succeed, the outbound task neither drops nor reorders the frames
of a queue: what is on the socket is an interleaving of what was taken from the
two queues, followed by the frames that end the connection.  A shutdown empties
both queues first.
-/

namespace TurbocableServer.Connection.OutboundState

open Foundations

variable {β μ : Type}

/-- What a step does when the write it may make succeeds. -/
inductive Delivers (toMsg : β → Option μ) (disconnectFrame : β)
    (state next : OutboundState β μ) : Prop
  | quiet :
      state.pc ≠ .exited → state.pc ≠ .drainLive → next.pc ≠ .exited →
      (state.pc = .drainReplay →
        next.pc = .drainLive ∧ state.replay.buf = []) →
      SameItems state.replay next.replay →
      SameItems state.live next.live →
      next.socket = state.socket →
      Delivers toMsg disconnectFrame state next
  | replay (frame : β) :
      state.pc ≠ .exited → state.pc ≠ .drainLive → next.pc ≠ .exited →
      (state.pc = .drainReplay → next.pc = .drainReplay) →
      TookHead frame state.replay next.replay →
      SameItems state.live next.live →
      next.socket = state.socket ++ onSocket toMsg frame →
      Delivers toMsg disconnectFrame state next
  | live (frame : β) :
      state.pc ≠ .exited → state.pc ≠ .drainReplay → next.pc = state.pc →
      SameItems state.replay next.replay →
      TookHead frame state.live next.live →
      next.socket = state.socket ++ onSocket toMsg frame →
      Delivers toMsg disconnectFrame state next
  | goingAway :
      state.pc = .drainLive → state.live.buf = [] → next.pc = .exited →
      SameItems state.replay next.replay →
      SameItems state.live next.live →
      next.socket = state.socket ++ [.goingAway] →
      Delivers toMsg disconnectFrame state next
  | closing :
      state.pc = .select → next.pc = .exited →
      SameItems state.replay next.replay →
      SameItems state.live next.live →
      next.socket = state.socket ++ [.closing] →
      Delivers toMsg disconnectFrame state next
  | disconnect (frame : β) :
      state.pc = .select → next.pc = .exited →
      frame = disconnectFrame ∨ frame ∈ state.urgent.buf →
      SameItems state.replay next.replay →
      SameItems state.live next.live →
      next.socket = state.socket ++ (onSocket toMsg frame ++ [.closing]) →
      Delivers toMsg disconnectFrame state next

section

variable {toMsg : β → Option μ} {disconnectFrame : β} {shutdown : Bool}
variable {state next : OutboundState β μ}

theorem writeThen_true (toMsg : β → Option μ) (state : OutboundState β μ)
    (frame : β) (onward failed : OutboundState β μ → OutboundState β μ) :
    writeThen toMsg true state frame onward failed =
      onward { state with socket := state.socket ++ onSocket toMsg frame } := by
  rcases writeThen_cases toMsg true state frame onward failed with
    written | ⟨impossible, -⟩
  · exact written
  · cases impossible

theorem closeWith_true (toMsg : β → Option μ) (state : OutboundState β μ)
    (frame : β) :
    closeWith toMsg true state frame =
      { state with
        socket := state.socket ++ (onSocket toMsg frame ++ [.closing])
        : OutboundState β μ }.exit := by
  rw [closeWith, writeThen_true, ← List.append_assoc]
  rfl

/-- Control passes within the loop, or to the shutdown branch. -/
private theorem quiet_of_select (atSelect : state.pc = .select)
    (stays : next.pc ≠ .exited) (sameReplay : next.replay = state.replay)
    (sameLive : next.live = state.live)
    (sameSocket : next.socket = state.socket) :
    Delivers toMsg disconnectFrame state next := by
  refine .quiet ?_ ?_ stays ?_ ?_ ?_ sameSocket
  · simp [atSelect]
  · simp [atSelect]
  · simp [atSelect]
  · rw [sameReplay]
    exact SameItems.refl _
  · rw [sameLive]
    exact SameItems.refl _

private theorem liveBranch_delivers (atSelect : state.pc = .select)
    (moved : liveBranch toMsg true state = some next) :
    Delivers toMsg disconnectFrame state next := by
  unfold liveBranch at moved
  split at moved
  · rename_i frame rest taken
    obtain rfl := Option.some.inj moved
    have took := tookHead_of_tryRecv (Channel.recv_eq_item taken)
    rw [writeThen_true]
    exact .live frame (by simp [atSelect]) (by simp [atSelect]) rfl
      (SameItems.refl _) took rfl
  · obtain rfl := Option.some.inj moved
    exact .closing atSelect rfl ⟨rfl, rfl⟩ ⟨rfl, rfl⟩ rfl
  · cases moved

private theorem goTo_burstPc_ne (left : Nat) (state : OutboundState β μ) :
    (goTo (burstPc left) state).pc ≠ .exited := by
  rcases burstPc_cases left with isPc | ⟨more, isPc⟩ <;> simp [goTo, isPc]

private theorem replayBranch_delivers (atSelect : state.pc = .select)
    (moved : replayBranch toMsg true state = some next) :
    Delivers toMsg disconnectFrame state next := by
  unfold replayBranch at moved
  split at moved
  · rename_i frame rest taken
    obtain rfl := Option.some.inj moved
    have took := tookHead_of_tryRecv (Channel.recv_eq_item taken)
    rw [writeThen_true]
    exact .replay frame (by simp [atSelect]) (by simp [atSelect])
      (goTo_burstPc_ne _ _) (by simp [atSelect]) took (SameItems.refl _) rfl
  · obtain rfl := Option.some.inj moved
    exact quiet_of_select atSelect (by simp [atSelect]) rfl rfl rfl
  · exact liveBranch_delivers atSelect moved

private theorem shutdownBranch_delivers (atSelect : state.pc = .select)
    (moved : shutdownBranch toMsg true shutdown state = some next) :
    Delivers toMsg disconnectFrame state next := by
  unfold shutdownBranch at moved
  split at moved
  · obtain rfl := Option.some.inj moved
    exact quiet_of_select atSelect (by simp [goTo]) rfl rfl rfl
  · exact replayBranch_delivers atSelect moved

private theorem urgentBranch_delivers (atSelect : state.pc = .select)
    (moved : urgentBranch toMsg true shutdown state = some next) :
    Delivers toMsg disconnectFrame state next := by
  unfold urgentBranch at moved
  split at moved
  · split at moved
    · rename_i frame rest taken
      obtain rfl := Option.some.inj moved
      have took := tookHead_of_tryRecv (Channel.recv_eq_item taken)
      rw [closeWith_true]
      exact .disconnect frame atSelect rfl (Or.inr (by simp [took.buf]))
        ⟨rfl, rfl⟩ ⟨rfl, rfl⟩ rfl
    · obtain rfl := Option.some.inj moved
      exact quiet_of_select atSelect (by simp [atSelect]) rfl rfl rfl
    · exact shutdownBranch_delivers atSelect moved
  · exact shutdownBranch_delivers atSelect moved

private theorem selectStep_delivers (atSelect : state.pc = .select)
    (moved :
      selectStep toMsg true disconnectFrame shutdown state = some next) :
    Delivers toMsg disconnectFrame state next := by
  unfold selectStep at moved
  split at moved
  · split at moved
    · obtain rfl := Option.some.inj moved
      rw [closeWith_true]
      exact .disconnect disconnectFrame atSelect rfl (Or.inl rfl) ⟨rfl, rfl⟩
        ⟨rfl, rfl⟩ rfl
    · obtain rfl := Option.some.inj moved
      exact quiet_of_select atSelect (by simp [atSelect]) rfl rfl rfl
    · exact urgentBranch_delivers atSelect moved
  · exact urgentBranch_delivers atSelect moved

private theorem burstStep_delivers {left : Nat}
    (inBurst : state.pc = .burst left) :
    Delivers toMsg disconnectFrame state (burstStep toMsg true left state) := by
  unfold burstStep
  split
  · refine .quiet ?_ ?_ ?_ ?_ (SameItems.refl _) (SameItems.refl _) rfl
    · simp [inBurst]
    · simp [inBurst]
    · simp [goTo]
    · simp [inBurst]
  · rename_i frame rest taken
    rw [writeThen_true]
    exact .replay frame (by simp [inBurst]) (by simp [inBurst])
      (goTo_burstPc_ne _ _) (by simp [inBurst]) (tookHead_of_tryRecv taken)
      (SameItems.refl _) rfl

private theorem drainReplayStep_delivers
    (draining : state.pc = .drainReplay) :
    Delivers toMsg disconnectFrame state
      (drainReplayStep toMsg true state) := by
  unfold drainReplayStep
  split
  · rename_i empty
    have noReplay := (Channel.tryRecv_eq_none_iff _).mp empty
    refine .quiet ?_ ?_ ?_ ?_ (SameItems.refl _) (SameItems.refl _) rfl
    · simp [draining]
    · simp [draining]
    · simp [goTo]
    · intro _
      exact ⟨rfl, noReplay⟩
  · rename_i frame rest taken
    rw [writeThen_true]
    exact .replay frame (by simp [draining]) (by simp [draining])
      (by simp [draining]) (fun _ => draining) (tookHead_of_tryRecv taken)
      (SameItems.refl _) rfl

private theorem drainLiveStep_delivers (draining : state.pc = .drainLive) :
    Delivers toMsg disconnectFrame state (drainLiveStep toMsg true state) := by
  unfold drainLiveStep
  split
  · rename_i empty
    exact .goingAway draining ((Channel.tryRecv_eq_none_iff _).mp empty) rfl
      ⟨rfl, rfl⟩ ⟨rfl, rfl⟩ rfl
  · rename_i frame rest taken
    rw [writeThen_true]
    exact .live frame (by simp [draining]) (by simp [draining]) rfl
      (SameItems.refl _) (tookHead_of_tryRecv taken) rfl

theorem delivers_of_step
    (moved : step toMsg true disconnectFrame shutdown state = some next) :
    Delivers toMsg disconnectFrame state next := by
  apply step_induction moved
  · exact fun here selected => selectStep_delivers here selected
  · exact fun _ here => burstStep_delivers here
  · exact fun here => drainReplayStep_delivers here
  · exact fun here => drainLiveStep_delivers here

end

/-! ## Conservation -/

/-- The frames of a list as they appear on the socket. -/
def shown (toMsg : β → Option μ) (frames : List β) : List (SocketFrame μ) :=
  frames.flatMap (onSocket toMsg)

/-- What may follow the last frame of the queues: the close frame of a
shutdown, the closing handshake, or a disconnect frame and the closing
handshake. -/
inductive Ending (toMsg : β → Option μ) (disconnectFrame : β)
    (urgent : List β) : List (SocketFrame μ) → Prop
  | goingAway : Ending toMsg disconnectFrame urgent [.goingAway]
  | closing : Ending toMsg disconnectFrame urgent [.closing]
  | disconnect (frame : β) :
      frame = disconnectFrame ∨ frame ∈ urgent →
      Ending toMsg disconnectFrame urgent (onSocket toMsg frame ++ [.closing])

/-- The socket holds the frames taken from the queues, and an ending once the
task has returned. -/
structure Conserved (toMsg : β → Option μ) (disconnectFrame : β)
    (state : OutboundState β μ) (body ending : List (SocketFrame μ)) :
    Prop where
  socket : state.socket = body ++ ending
  merged :
    Interleaves (shown toMsg state.live.received)
      (shown toMsg state.replay.received) body
  running : state.pc ≠ .exited → ending = []
  ended :
    state.pc = .exited →
      Ending toMsg disconnectFrame state.urgent.sent ending

section

variable {toMsg : β → Option μ} {disconnectFrame : β} {shutdown : Bool}
variable {state next : OutboundState β μ}
variable {body ending : List (SocketFrame μ)}

theorem shown_append (first second : List β) :
    shown toMsg (first ++ second) =
      shown toMsg first ++ shown toMsg second :=
  List.flatMap_append ..

theorem shown_singleton (frame : β) :
    shown toMsg [frame] = onSocket toMsg frame :=
  List.flatMap_singleton ..

/-- A queue whose frames all have a message form is shown frame by frame. -/
theorem shown_eq_map {message : β → μ} {frames : List β}
    (formed : ∀ frame, frame ∈ frames → toMsg frame = some (message frame)) :
    shown toMsg frames =
      frames.map (fun frame => SocketFrame.data (message frame)) := by
  induction frames with
  | nil =>
      rfl
  | cons head tail ih =>
      have isHead := formed head (List.mem_cons_self ..)
      have ofTail := ih
        (fun frame member => formed frame (List.mem_cons_of_mem head member))
      rw [List.map_cons, ← ofTail, shown, shown, List.flatMap_cons, onSocket,
        isHead]
      rfl

theorem merged_left {live replay live' : List β} {frame : β}
    (merged : Interleaves (shown toMsg live) (shown toMsg replay) body)
    (took : live' = live ++ [frame]) :
    Interleaves (shown toMsg live') (shown toMsg replay)
      (body ++ onSocket toMsg frame) := by
  rw [took, shown_append, shown_singleton]
  cases form : toMsg frame with
  | none =>
      simpa [onSocket, form] using merged
  | some message =>
      simpa [onSocket, form] using Interleaves.left (.data message) merged

theorem merged_right {live replay replay' : List β} {frame : β}
    (merged : Interleaves (shown toMsg live) (shown toMsg replay) body)
    (took : replay' = replay ++ [frame]) :
    Interleaves (shown toMsg live) (shown toMsg replay')
      (body ++ onSocket toMsg frame) := by
  rw [took, shown_append, shown_singleton]
  cases form : toMsg frame with
  | none =>
      simpa [onSocket, form] using merged
  | some message =>
      simpa [onSocket, form] using Interleaves.right (.data message) merged

/-- Steps that take nothing from the queues and write nothing. -/
theorem Conserved.of_same
    (conserved : Conserved toMsg disconnectFrame state body ending)
    (sameSocket : next.socket = state.socket)
    (sameLive : next.live.received = state.live.received)
    (sameReplay : next.replay.received = state.replay.received)
    (samePc : next.pc = .exited ↔ state.pc = .exited)
    (urgent : ∀ frame, frame ∈ state.urgent.sent → frame ∈ next.urgent.sent) :
    Conserved toMsg disconnectFrame next body ending := by
  refine ⟨sameSocket.trans conserved.socket, ?_, ?_, ?_⟩
  · rw [sameLive, sameReplay]
    exact conserved.merged
  · intro running
    exact conserved.running (fun exited => running (samePc.mpr exited))
  · intro exited
    cases conserved.ended (samePc.mp exited) with
    | goingAway => exact .goingAway
    | closing => exact .closing
    | disconnect frame source =>
        exact .disconnect frame (source.imp_right (urgent frame))

/-- One step of the task. -/
theorem Conserved.step
    (conserved : Conserved toMsg disconnectFrame state body ending)
    (moved : step toMsg true disconnectFrame shutdown state = some next) :
    ∃ body ending, Conserved toMsg disconnectFrame next body ending := by
  have urgentKept := step_urgent_sent moved
  have running : state.pc ≠ .exited → state.socket = body := by
    intro notExited
    rw [conserved.socket, conserved.running notExited, List.append_nil]
  -- A frame of a queue goes to the body, the task still runs.
  have goesOn :
      ∀ {longer}, next.pc ≠ .exited → next.socket = longer →
        Interleaves (shown toMsg next.live.received)
          (shown toMsg next.replay.received) longer →
          ∃ body ending, Conserved toMsg disconnectFrame next body ending := by
    intro longer notExited isSocket merged
    exact ⟨longer, [], by rw [isSocket, List.append_nil], merged,
      fun _ => rfl, fun exited => absurd exited notExited⟩
  have ends :
      ∀ {last}, state.pc ≠ .exited → next.pc = .exited →
        SameItems state.replay next.replay →
        SameItems state.live next.live →
        next.socket = state.socket ++ last →
        Ending toMsg disconnectFrame state.urgent.sent last →
          ∃ body ending, Conserved toMsg disconnectFrame next body ending := by
    intro last notExited exited sameReplay sameLive written isEnding
    refine ⟨body, last, ?_, ?_, fun notNext => absurd exited notNext, ?_⟩
    · rw [written, running notExited]
    · rw [sameReplay.received, sameLive.received]
      exact conserved.merged
    · intro _
      rw [urgentKept]
      exact isEnding
  cases delivers_of_step moved with
  | quiet notExited _ stays _ sameReplay sameLive sameSocket =>
      refine goesOn stays (sameSocket.trans (running notExited)) ?_
      rw [sameReplay.received, sameLive.received]
      exact conserved.merged
  | replay frame notExited _ stays _ took sameLive written =>
      refine goesOn stays (written.trans (by rw [running notExited])) ?_
      rw [sameLive.received]
      exact merged_right conserved.merged took.received
  | live frame notExited _ samePc sameReplay took written =>
      refine goesOn (samePc ▸ notExited)
        (written.trans (by rw [running notExited])) ?_
      rw [sameReplay.received]
      exact merged_left conserved.merged took.received
  | goingAway draining _ exited sameReplay sameLive written =>
      exact ends (by simp [draining]) exited sameReplay sameLive written
        .goingAway
  | closing atSelect exited sameReplay sameLive written =>
      exact ends (by simp [atSelect]) exited sameReplay sameLive written
        .closing
  | disconnect frame atSelect exited source sameReplay sameLive written =>
      exact ends (by simp [atSelect]) exited sameReplay sameLive written
        (.disconnect frame
          (source.imp_right (fun queued => List.mem_append_right _ queued)))

end

/-! ## Shutdown -/

/-- What `taken` had queued when the shutdown branch was chosen is taken from
the queues before the task writes the close frame and returns. -/
structure Draining (taken state : OutboundState β μ) : Prop where
  replayKept : taken.replay.sent <+: state.replay.sent
  liveKept : taken.live.sent <+: state.live.sent
  point :
    state.pc = .drainReplay ∨ state.pc = .drainLive ∨ state.pc = .exited
  replayDone :
    state.pc ≠ .drainReplay → taken.replay.sent <+: state.replay.received
  liveDone :
    state.pc = .exited → taken.live.sent <+: state.live.received
  closed : state.pc = .exited → .goingAway ∈ state.socket

section

variable {toMsg : β → Option μ} {disconnectFrame : β} {shutdown : Bool}
variable {taken state next : OutboundState β μ}

theorem draining_of_drainReplay (chosen : taken.pc = .drainReplay) :
    Draining taken taken where
  replayKept := List.prefix_rfl
  liveKept := List.prefix_rfl
  point := Or.inl chosen
  replayDone := fun other => absurd chosen other
  liveDone := by
    intro exited
    cases chosen.symm.trans exited
  closed := by
    intro exited
    cases chosen.symm.trans exited

/-- More frames may be queued while the queues are drained. -/
theorem Draining.of_same (draining : Draining taken state)
    (samePc : next.pc = state.pc)
    (replay : state.replay.sent <+: next.replay.sent)
    (live : state.live.sent <+: next.live.sent)
    (sameReplay : next.replay.received = state.replay.received)
    (sameLive : next.live.received = state.live.received)
    (sameSocket : next.socket = state.socket) :
    Draining taken next where
  replayKept := draining.replayKept.trans replay
  liveKept := draining.liveKept.trans live
  point := samePc ▸ draining.point
  replayDone := by
    rw [samePc, sameReplay]
    exact draining.replayDone
  liveDone := by
    rw [samePc, sameLive]
    exact draining.liveDone
  closed := by
    rw [samePc, sameSocket]
    exact draining.closed

theorem sent_eq_received {channel : Channel β} (empty : channel.buf = []) :
    channel.sent = channel.received := by
  rw [Channel.sent, empty, List.append_nil]

theorem Draining.step (draining : Draining taken state)
    (moved : step toMsg true disconnectFrame shutdown state = some next) :
    Draining taken next := by
  have sent := (moves_of_step moved).sent
  have kept : taken.replay.sent <+: next.replay.sent ∧
      taken.live.sent <+: next.live.sent := by
    rw [sent.1, sent.2]
    exact ⟨draining.replayKept, draining.liveKept⟩
  have notSelect : state.pc ≠ .select := by
    rcases draining.point with isPc | isPc | isPc <;> simp [isPc]
  cases delivers_of_step moved with
  | quiet notExited notLive _ onward sameReplay _ _ =>
      have fromReplay : state.pc = .drainReplay := by
        rcases draining.point with isPc | isPc | isPc
        · exact isPc
        · exact absurd isPc notLive
        · exact absurd isPc notExited
      obtain ⟨toLive, empty⟩ := onward fromReplay
      have running : next.pc ≠ .exited := by simp [toLive]
      refine ⟨kept.1, kept.2, Or.inr (Or.inl toLive), ?_,
        fun exited => absurd exited running,
        fun exited => absurd exited running⟩
      intro _
      rw [sameReplay.received, ← sent_eq_received empty]
      exact draining.replayKept
  | replay frame notExited notLive _ stays took _ _ =>
      have fromReplay : state.pc = .drainReplay := by
        rcases draining.point with isPc | isPc | isPc
        · exact isPc
        · exact absurd isPc notLive
        · exact absurd isPc notExited
      have here := stays fromReplay
      have running : next.pc ≠ .exited := by simp [here]
      exact ⟨kept.1, kept.2, Or.inl here, fun other => absurd here other,
        fun exited => absurd exited running,
        fun exited => absurd exited running⟩
  | live frame notExited notReplay samePc sameReplay _ _ =>
      have running : next.pc ≠ .exited := samePc ▸ notExited
      refine ⟨kept.1, kept.2, samePc ▸ draining.point, ?_,
        fun exited => absurd exited running,
        fun exited => absurd exited running⟩
      intro _
      rw [sameReplay.received]
      exact draining.replayDone notReplay
  | goingAway fromLive empty exited sameReplay sameLive written =>
      refine ⟨kept.1, kept.2, Or.inr (Or.inr exited), ?_, ?_, ?_⟩
      · intro _
        rw [sameReplay.received]
        exact draining.replayDone (by simp [fromLive])
      · intro _
        rw [sameLive.received, ← sent_eq_received empty]
        exact draining.liveKept
      · intro _
        rw [written]
        exact List.mem_append_right _ (List.mem_singleton_self _)
  | closing atSelect _ _ _ _ | disconnect frame atSelect _ _ _ _ _ =>
      exact absurd atSelect notSelect

end

end TurbocableServer.Connection.OutboundState
