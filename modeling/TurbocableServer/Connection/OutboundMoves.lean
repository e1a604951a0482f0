import TurbocableServer.Connection.OutboundLoop

/-!
# What a step of the outbound task can do

One inversion of `OutboundState.step`, in terms of the two queues, the socket
and the program point.  All results about the order of frames on a socket use
the outbound task through it.
-/

namespace TurbocableServer.Connection.OutboundState

open Foundations

variable {β μ : Type}

/-- The channel holds the same items; its receiver may have been dropped. -/
structure SameItems (source target : Channel β) : Prop where
  received : target.received = source.received
  buf : target.buf = source.buf

theorem SameItems.refl (channel : Channel β) :
    SameItems channel channel :=
  ⟨rfl, rfl⟩

theorem SameItems.sent {source target : Channel β}
    (same : SameItems source target) : target.sent = source.sent := by
  rw [Channel.sent, Channel.sent, same.received, same.buf]

/-- The head of the queue was taken. -/
structure TookHead (frame : β) (source target : Channel β) : Prop where
  received : target.received = source.received ++ [frame]
  buf : source.buf = frame :: target.buf

theorem TookHead.sent {frame : β} {source target : Channel β}
    (took : TookHead frame source target) : target.sent = source.sent := by
  simp [Channel.sent, took.received, took.buf]

/-- A frame as it appears on the socket; a payload without a message form does
not appear. -/
def onSocket (toMsg : β → Option μ) (frame : β) : List (SocketFrame μ) :=
  ((toMsg frame).map SocketFrame.data).toList

/-- The possible outcomes of a step. -/
inductive Moves (toMsg : β → Option μ) (disconnectFrame : β)
    (state next : OutboundState β μ) : Prop
  | control :
      state.pc ≠ .unspawned → state.pc ≠ .drainLive → state.pc ≠ .exited →
      next.pc = .select ∨ next.pc = .drainReplay ∨ next.pc = .drainLive →
      (next.pc = .select → state.pc ≠ .drainReplay) →
      (next.pc = .drainLive → state.pc = .drainReplay ∧ state.replay.buf = []) →
      SameItems state.replay next.replay →
      SameItems state.live next.live →
      next.socket = state.socket →
      Moves toMsg disconnectFrame state next
  | replayWritten (frame : β) :
      state.pc ≠ .unspawned → state.pc ≠ .drainLive → state.pc ≠ .exited →
      next.pc ≠ .unspawned → next.pc ≠ .drainLive → next.pc ≠ .exited →
      (state.pc = .drainReplay ↔ next.pc = .drainReplay) →
      TookHead frame state.replay next.replay →
      SameItems state.live next.live →
      next.socket = state.socket ++ onSocket toMsg frame →
      Moves toMsg disconnectFrame state next
  | replayLost (frame : β) :
      next.pc = .exited ∨ next.pc = .drainLive →
      TookHead frame state.replay next.replay →
      SameItems state.live next.live →
      next.socket = state.socket →
      Moves toMsg disconnectFrame state next
  | liveWritten (frame : β) :
      state.pc = .select ∧ state.replay.buf = [] ∨ state.pc = .drainLive →
      next.pc = state.pc →
      SameItems state.replay next.replay →
      TookHead frame state.live next.live →
      next.socket = state.socket ++ onSocket toMsg frame →
      Moves toMsg disconnectFrame state next
  | liveLost (frame : β) :
      next.pc = .exited →
      SameItems state.replay next.replay →
      TookHead frame state.live next.live →
      next.socket = state.socket →
      Moves toMsg disconnectFrame state next
  | terminal (last : List (SocketFrame μ)) :
      next.pc = .exited →
      SameItems state.replay next.replay →
      SameItems state.live next.live →
      (∀ message, SocketFrame.data message ∈ last →
        ∃ frame, toMsg frame = some message ∧
          (frame = disconnectFrame ∨ frame ∈ state.urgent.buf)) →
      next.socket = state.socket ++ last →
      Moves toMsg disconnectFrame state next

section

variable {toMsg : β → Option μ} {disconnectFrame : β} {ok shutdown : Bool}
variable {state next : OutboundState β μ}

theorem tookHead_of_tryRecv {channel rest : Channel β} {frame : β}
    (taken : channel.tryRecv = some (frame, rest)) :
    TookHead frame channel rest := by
  obtain ⟨buf, received, -⟩ := Channel.tryRecv_eq_some taken
  exact ⟨received, buf⟩

theorem buf_nil_of_not_item {channel : Channel β}
    (other : channel.recv = .pending ∨ channel.recv = .closed) :
    channel.buf = [] := by
  rw [← Channel.tryRecv_eq_none_iff]
  unfold Channel.recv at other
  split at other
  · simp at other
  · assumption

/-- A write succeeds and appends the frame, or fails and appends nothing. -/
theorem writeThen_cases
    (toMsg : β → Option μ) (ok : Bool) (state : OutboundState β μ) (frame : β)
    (onward failed : OutboundState β μ → OutboundState β μ) :
    writeThen toMsg ok state frame onward failed =
        onward { state with socket := state.socket ++ onSocket toMsg frame } ∨
      ok = false ∧
        writeThen toMsg ok state frame onward failed = failed state := by
  unfold writeThen onSocket
  split
  · rename_i noForm
    left
    simp [noForm]
  · rename_i message hasForm
    split
    · left
      simp [hasForm, emit]
    · rename_i refused
      right
      exact ⟨by simpa using refused, rfl⟩

theorem hangUp_replay (state : OutboundState β μ) (ok : Bool) :
    (state.hangUp ok).replay = state.replay.dropReceiver := by
  cases ok <;> rfl

theorem hangUp_live (state : OutboundState β μ) (ok : Bool) :
    (state.hangUp ok).live = state.live.dropReceiver := by
  cases ok <;> rfl

theorem hangUp_socket (state : OutboundState β μ) (ok : Bool) :
    ∃ last, (state.hangUp ok).socket = state.socket ++ last ∧
      ∀ message, SocketFrame.data message ∉ last := by
  cases ok with
  | false =>
      exact ⟨[], (List.append_nil _).symm, by simp⟩
  | true =>
      exact ⟨[.closing], rfl, by simp⟩

/-! ## The branches -/

theorem liveBranch_moves
    (atSelect : state.pc = .select) (noReplay : state.replay.buf = [])
    (moved : liveBranch toMsg ok state = some next) :
    Moves toMsg disconnectFrame state next := by
  unfold liveBranch at moved
  split at moved
  · rename_i frame rest taken
    have took := tookHead_of_tryRecv (Channel.recv_eq_item taken)
    obtain rfl := Option.some.inj moved
    rcases writeThen_cases toMsg ok { state with live := rest } frame id
        (fun failed => failed.hangUp ok) with written | ⟨refused, lost⟩
    · rw [written]
      exact .liveWritten frame (Or.inl ⟨atSelect, noReplay⟩) rfl
        (SameItems.refl _) took rfl
    · rw [lost, refused]
      exact .liveLost frame rfl ⟨rfl, rfl⟩ ⟨took.received, took.buf⟩ rfl
  · obtain rfl := Option.some.inj moved
    obtain ⟨last, socket, noData⟩ := hangUp_socket state ok
    refine .terminal last rfl ?_ ?_ ?_ socket
    · rw [hangUp_replay]
      exact ⟨rfl, rfl⟩
    · rw [hangUp_live]
      exact ⟨rfl, rfl⟩
    · intro message member
      exact absurd member (noData message)
  · cases moved

theorem burstPc_cases (left : Nat) :
    burstPc left = .select ∨ ∃ more, burstPc left = .burst more := by
  unfold burstPc
  split
  · exact Or.inl rfl
  · exact Or.inr ⟨left, rfl⟩

/-- A frame taken from the replay queue outside the shutdown branch. -/
theorem writeReplay_moves {frame : β} {rest : Channel β} {left : Nat}
    (working : state.pc = .select ∨ ∃ more, state.pc = .burst more)
    (taken : state.replay.tryRecv = some (frame, rest)) :
    Moves toMsg disconnectFrame state
      (writeThen toMsg ok { state with replay := rest } frame
        (goTo (burstPc left)) (fun failed => failed.hangUp ok)) := by
  have took := tookHead_of_tryRecv taken
  rcases writeThen_cases toMsg ok { state with replay := rest } frame
      (goTo (burstPc left)) (fun failed => failed.hangUp ok) with
    written | ⟨refused, lost⟩
  · rw [written]
    have onward := burstPc_cases left
    refine .replayWritten frame ?_ ?_ ?_ ?_ ?_ ?_ ?_ took
      (SameItems.refl _) rfl
    · rcases working with here | ⟨more, here⟩ <;> simp [here]
    · rcases working with here | ⟨more, here⟩ <;> simp [here]
    · rcases working with here | ⟨more, here⟩ <;> simp [here]
    · rcases onward with there | ⟨more, there⟩ <;> simp [goTo, there]
    · rcases onward with there | ⟨more, there⟩ <;> simp [goTo, there]
    · rcases onward with there | ⟨more, there⟩ <;> simp [goTo, there]
    · rcases working with here | ⟨more, here⟩ <;>
        rcases onward with there | ⟨more, there⟩ <;> simp [goTo, here, there]
  · rw [lost, refused]
    exact .replayLost frame (Or.inl rfl) ⟨took.received, took.buf⟩
      ⟨rfl, rfl⟩ rfl

/-- A step that stays at the head of the loop. -/
theorem control_of_select
    (atSelect : state.pc = .select)
    (point : next.pc = .select ∨ next.pc = .drainReplay)
    (sameReplay : next.replay = state.replay)
    (sameLive : next.live = state.live)
    (sameSocket : next.socket = state.socket) :
    Moves toMsg disconnectFrame state next := by
  refine .control ?_ ?_ ?_ ?_ ?_ ?_ ?_ ?_ sameSocket
  · simp [atSelect]
  · simp [atSelect]
  · simp [atSelect]
  · tauto
  · simp [atSelect]
  · rcases point with here | here <;> simp [here]
  · rw [sameReplay]
    exact SameItems.refl _
  · rw [sameLive]
    exact SameItems.refl _

theorem replayBranch_moves (atSelect : state.pc = .select)
    (moved : replayBranch toMsg ok state = some next) :
    Moves toMsg disconnectFrame state next := by
  unfold replayBranch at moved
  split at moved
  · rename_i frame rest taken
    obtain rfl := Option.some.inj moved
    exact writeReplay_moves (Or.inl atSelect) (Channel.recv_eq_item taken)
  · obtain rfl := Option.some.inj moved
    exact control_of_select atSelect (Or.inl atSelect) rfl rfl rfl
  · rename_i pending
    exact liveBranch_moves atSelect (buf_nil_of_not_item (Or.inl pending))
      moved

theorem shutdownBranch_moves (atSelect : state.pc = .select)
    (moved : shutdownBranch toMsg ok shutdown state = some next) :
    Moves toMsg disconnectFrame state next := by
  unfold shutdownBranch at moved
  split at moved
  · obtain rfl := Option.some.inj moved
    exact control_of_select atSelect (Or.inr rfl) rfl rfl rfl
  · exact replayBranch_moves atSelect moved

/-- The last frame before the connection is closed. -/
theorem closeWith_moves {closing : OutboundState β μ} {frame : β}
    (source : frame = disconnectFrame ∨ frame ∈ state.urgent.buf)
    (sameReplay : closing.replay = state.replay)
    (sameLive : closing.live = state.live)
    (sameSocket : closing.socket = state.socket) :
    Moves toMsg disconnectFrame state (closeWith toMsg ok closing frame) := by
  obtain ⟨handshake, tail, noData⟩ :=
    hangUp_socket (writeThen toMsg ok closing frame id id) ok
  have written :
      ∃ first,
        (writeThen toMsg ok closing frame id id).socket =
            state.socket ++ first ∧
          ∀ message, SocketFrame.data message ∈ first →
            toMsg frame = some message := by
    rcases writeThen_cases toMsg ok closing frame id id with
      shown | ⟨-, shown⟩
    · refine ⟨onSocket toMsg frame, ?_, ?_⟩
      · rw [shown]
        exact congrArg (· ++ onSocket toMsg frame) sameSocket
      · intro message member
        simpa [onSocket] using member
    · refine ⟨[], ?_, by simp⟩
      rw [shown, List.append_nil]
      exact sameSocket
  have queues :
      (writeThen toMsg ok closing frame id id).replay = state.replay ∧
        (writeThen toMsg ok closing frame id id).live = state.live := by
    rcases writeThen_cases toMsg ok closing frame id id with
      shown | ⟨-, shown⟩ <;>
      · rw [shown]
        exact ⟨sameReplay, sameLive⟩
  obtain ⟨first, start, isFrame⟩ := written
  refine .terminal (first ++ handshake) rfl ?_ ?_ ?_ ?_
  · rw [closeWith, hangUp_replay, queues.1]
    exact ⟨rfl, rfl⟩
  · rw [closeWith, hangUp_live, queues.2]
    exact ⟨rfl, rfl⟩
  · intro message member
    rcases List.mem_append.mp member with inFirst | inHandshake
    · exact ⟨frame, isFrame message inFirst, source⟩
    · exact absurd inHandshake (noData message)
  · rw [closeWith, tail, start, List.append_assoc]

theorem urgentBranch_moves (atSelect : state.pc = .select)
    (moved : urgentBranch toMsg ok shutdown state = some next) :
    Moves toMsg disconnectFrame state next := by
  unfold urgentBranch at moved
  split at moved
  · split at moved
    · rename_i frame rest taken
      obtain rfl := Option.some.inj moved
      have took := tookHead_of_tryRecv (Channel.recv_eq_item taken)
      refine closeWith_moves (Or.inr ?_) rfl rfl rfl
      rw [took.buf]
      exact List.mem_cons_self ..
    · obtain rfl := Option.some.inj moved
      exact control_of_select atSelect (Or.inl atSelect) rfl rfl rfl
    · exact shutdownBranch_moves atSelect moved
  · exact shutdownBranch_moves atSelect moved

theorem selectStep_moves (atSelect : state.pc = .select)
    (moved : selectStep toMsg ok disconnectFrame shutdown state = some next) :
    Moves toMsg disconnectFrame state next := by
  unfold selectStep at moved
  split at moved
  · split at moved
    · obtain rfl := Option.some.inj moved
      exact closeWith_moves (Or.inl rfl) rfl rfl rfl
    · obtain rfl := Option.some.inj moved
      exact control_of_select atSelect (Or.inl atSelect) rfl rfl rfl
    · exact urgentBranch_moves atSelect moved
  · exact urgentBranch_moves atSelect moved

theorem burstStep_moves {left : Nat} (inBurst : state.pc = .burst left) :
    Moves toMsg disconnectFrame state (burstStep toMsg ok left state) := by
  unfold burstStep
  split
  · refine .control ?_ ?_ ?_ (Or.inl rfl) ?_ ?_ (SameItems.refl _)
      (SameItems.refl _) rfl
    · simp [inBurst]
    · simp [inBurst]
    · simp [inBurst]
    · simp [inBurst]
    · simp [goTo]
  · rename_i frame rest taken
    exact writeReplay_moves (Or.inr ⟨left, inBurst⟩) taken

theorem drainReplayStep_moves (draining : state.pc = .drainReplay) :
    Moves toMsg disconnectFrame state (drainReplayStep toMsg ok state) := by
  unfold drainReplayStep
  split
  · rename_i empty
    have noReplay := (Channel.tryRecv_eq_none_iff _).mp empty
    refine .control ?_ ?_ ?_ (Or.inr (Or.inr rfl)) ?_ ?_ (SameItems.refl _)
      (SameItems.refl _) rfl
    · simp [draining]
    · simp [draining]
    · simp [draining]
    · simp [goTo]
    · intro _
      exact ⟨draining, noReplay⟩
  · rename_i frame rest taken
    have took := tookHead_of_tryRecv taken
    rcases writeThen_cases toMsg ok { state with replay := rest } frame id
        (goTo .drainLive) with written | ⟨refused, lost⟩
    · rw [written]
      refine .replayWritten frame ?_ ?_ ?_ ?_ ?_ ?_ ?_ took
        (SameItems.refl _) rfl <;>
        simp [draining]
    · rw [lost]
      exact .replayLost frame (Or.inr rfl) took (SameItems.refl _) rfl

theorem drainLiveStep_moves (draining : state.pc = .drainLive) :
    Moves toMsg disconnectFrame state (drainLiveStep toMsg ok state) := by
  unfold drainLiveStep
  split
  · refine .terminal (if ok then [.goingAway] else []) rfl ?_ ?_ ?_ ?_
    · cases ok <;> exact ⟨rfl, rfl⟩
    · cases ok <;> exact ⟨rfl, rfl⟩
    · intro message member
      cases ok <;> simp at member
    · cases ok <;> simp [emit, exit]
  · rename_i frame rest taken
    have took := tookHead_of_tryRecv taken
    rcases writeThen_cases toMsg ok { state with live := rest } frame id
        (fun failed => (failed.emit ok .goingAway).exit) with
      written | ⟨refused, lost⟩
    · rw [written]
      exact .liveWritten frame (Or.inr draining) rfl (SameItems.refl _) took
        rfl
    · rw [lost, refused]
      exact .liveLost frame rfl ⟨rfl, rfl⟩ ⟨took.received, took.buf⟩ rfl

/-- What holds after each part of the loop holds after a step. -/
theorem step_induction {motive : OutboundState β μ → Prop}
    (moved : step toMsg ok disconnectFrame shutdown state = some next)
    (select : state.pc = .select →
      selectStep toMsg ok disconnectFrame shutdown state = some next →
      motive next)
    (burst : ∀ left, state.pc = .burst left →
      motive (burstStep toMsg ok left state))
    (drainReplay : state.pc = .drainReplay →
      motive (drainReplayStep toMsg ok state))
    (drainLive : state.pc = .drainLive →
      motive (drainLiveStep toMsg ok state)) :
    motive next := by
  unfold step at moved
  split at moved
  · cases moved
  · rename_i here
    exact select here moved
  · rename_i left here
    obtain rfl := Option.some.inj moved
    exact burst left here
  · rename_i here
    obtain rfl := Option.some.inj moved
    exact drainReplay here
  · rename_i here
    obtain rfl := Option.some.inj moved
    exact drainLive here
  · cases moved

/-- Every step is one of the moves. -/
theorem moves_of_step
    (moved : step toMsg ok disconnectFrame shutdown state = some next) :
    Moves toMsg disconnectFrame state next := by
  apply step_induction moved
  · exact fun here selected => selectStep_moves here selected
  · exact fun _ here => burstStep_moves here
  · exact fun here => drainReplayStep_moves here
  · exact fun here => drainLiveStep_moves here

/-- A step moves items from a queue to its history, and adds none. -/
theorem Moves.sent (moves : Moves toMsg disconnectFrame state next) :
    next.replay.sent = state.replay.sent ∧
      next.live.sent = state.live.sent := by
  cases moves with
  | control _ _ _ _ _ _ sameReplay sameLive _ =>
      exact ⟨sameReplay.sent, sameLive.sent⟩
  | replayWritten frame _ _ _ _ _ _ _ took sameLive _
  | replayLost frame _ took sameLive _ =>
      exact ⟨took.sent, sameLive.sent⟩
  | liveWritten frame _ _ sameReplay took _
  | liveLost frame _ sameReplay took _ =>
      exact ⟨sameReplay.sent, took.sent⟩
  | terminal last _ sameReplay sameLive _ _ =>
      exact ⟨sameReplay.sent, sameLive.sent⟩

/-- What is written stays written. -/
theorem Moves.socket (moves : Moves toMsg disconnectFrame state next) :
    state.socket <+: next.socket := by
  cases moves with
  | control _ _ _ _ _ _ _ _ same => exact same ▸ List.prefix_rfl
  | replayWritten _ _ _ _ _ _ _ _ _ _ written =>
      exact written ▸ List.prefix_append _ _
  | replayLost _ _ _ _ same => exact same ▸ List.prefix_rfl
  | liveWritten _ _ _ _ _ written => exact written ▸ List.prefix_append _ _
  | liveLost _ _ _ _ same => exact same ▸ List.prefix_rfl
  | terminal _ _ _ _ _ written => exact written ▸ List.prefix_append _ _

/-- A step adds nothing to the replay queue. -/
theorem Moves.replay_buf (moves : Moves toMsg disconnectFrame state next) :
    next.replay.buf <:+ state.replay.buf := by
  cases moves with
  | control _ _ _ _ _ _ sameReplay _ _ =>
      exact sameReplay.buf ▸ List.suffix_rfl
  | replayWritten _ _ _ _ _ _ _ _ took _ _ =>
      exact took.buf ▸ List.suffix_cons _ _
  | replayLost _ _ took _ _ => exact took.buf ▸ List.suffix_cons _ _
  | liveWritten _ _ _ sameReplay _ _ =>
      exact sameReplay.buf ▸ List.suffix_rfl
  | liveLost _ _ sameReplay _ _ | terminal _ _ sameReplay _ _ _ =>
      exact sameReplay.buf ▸ List.suffix_rfl

end

/-! ## What no step changes -/

/-- A part of the state that the outbound task does not change, whatever it
takes from a queue or writes. -/
structure Untouched {γ : Type} (part : OutboundState β μ → γ) : Prop where
  socket :
    ∀ state socket,
      part { state with socket := socket } = part state
  pc : ∀ state pc, part { state with pc := pc } = part state
  evictOpen :
    ∀ state isOpen, part { state with evictOpen := isOpen } = part state
  urgentOpen :
    ∀ state isOpen, part { state with urgentOpen := isOpen } = part state
  evict :
    ∀ state signal rest, state.evict.tryRecv = some (signal, rest) →
      part { state with evict := rest } = part state
  urgent :
    ∀ state frame rest, state.urgent.tryRecv = some (frame, rest) →
      part { state with urgent := rest } = part state
  replay :
    ∀ state frame rest, state.replay.tryRecv = some (frame, rest) →
      part { state with replay := rest } = part state
  live :
    ∀ state frame rest, state.live.tryRecv = some (frame, rest) →
      part { state with live := rest } = part state
  exit : ∀ state, part state.exit = part state

namespace Untouched

variable {γ : Type} {part : OutboundState β μ → γ}
variable {toMsg : β → Option μ} {disconnectFrame : β} {ok shutdown : Bool}
variable {state next : OutboundState β μ}

theorem emit (untouched : Untouched part) (state : OutboundState β μ)
    (ok : Bool) (frame : SocketFrame μ) :
    part (state.emit ok frame) = part state := by
  cases ok with
  | false =>
      rfl
  | true =>
      exact untouched.socket state _

theorem hangUp (untouched : Untouched part) (state : OutboundState β μ)
    (ok : Bool) : part (state.hangUp ok) = part state :=
  (untouched.exit _).trans (untouched.emit state ok _)

theorem writeThen (untouched : Untouched part) (state : OutboundState β μ)
    (frame : β) {onward failed : OutboundState β μ → OutboundState β μ}
    (onwardKeeps : ∀ source, part (onward source) = part source)
    (failedKeeps : ∀ source, part (failed source) = part source) :
    part (writeThen toMsg ok state frame onward failed) = part state := by
  rcases writeThen_cases toMsg ok state frame onward failed with
    written | ⟨-, lost⟩
  · rw [written, onwardKeeps]
    exact untouched.socket state _
  · rw [lost, failedKeeps]

theorem closeWith (untouched : Untouched part) (state : OutboundState β μ)
    (frame : β) : part (closeWith toMsg ok state frame) = part state :=
  (untouched.hangUp _ ok).trans
    (untouched.writeThen state frame (fun _ => rfl) (fun _ => rfl))

private theorem liveBranch (untouched : Untouched part)
    (moved : liveBranch toMsg ok state = some next) :
    part next = part state := by
  unfold OutboundState.liveBranch at moved
  split at moved
  · rename_i frame rest taken
    obtain rfl := Option.some.inj moved
    have kept := untouched.live state frame rest (Channel.recv_eq_item taken)
    exact (untouched.writeThen _ frame (fun _ => rfl)
      (fun source => untouched.hangUp source ok)).trans kept
  · obtain rfl := Option.some.inj moved
    exact untouched.hangUp state ok
  · cases moved

private theorem replayBranch (untouched : Untouched part)
    (moved : replayBranch toMsg ok state = some next) :
    part next = part state := by
  unfold OutboundState.replayBranch at moved
  split at moved
  · rename_i frame rest taken
    obtain rfl := Option.some.inj moved
    have kept := untouched.replay state frame rest (Channel.recv_eq_item taken)
    exact (untouched.writeThen _ frame (fun source => untouched.pc source _)
      (fun source => untouched.hangUp source ok)).trans kept
  · obtain rfl := Option.some.inj moved
    rfl
  · exact untouched.liveBranch moved

private theorem shutdownBranch (untouched : Untouched part)
    (moved : shutdownBranch toMsg ok shutdown state = some next) :
    part next = part state := by
  unfold OutboundState.shutdownBranch at moved
  split at moved
  · obtain rfl := Option.some.inj moved
    exact untouched.pc state _
  · exact untouched.replayBranch moved

private theorem urgentBranch (untouched : Untouched part)
    (moved : urgentBranch toMsg ok shutdown state = some next) :
    part next = part state := by
  unfold OutboundState.urgentBranch at moved
  split at moved
  · split at moved
    · rename_i frame rest taken
      obtain rfl := Option.some.inj moved
      rw [untouched.closeWith _ frame]
      exact untouched.urgent state frame rest (Channel.recv_eq_item taken)
    · obtain rfl := Option.some.inj moved
      exact untouched.urgentOpen state false
    · exact untouched.shutdownBranch moved
  · exact untouched.shutdownBranch moved

private theorem selectStep (untouched : Untouched part)
    (moved : selectStep toMsg ok disconnectFrame shutdown state = some next) :
    part next = part state := by
  unfold OutboundState.selectStep at moved
  split at moved
  · split at moved
    · rename_i signal rest taken
      obtain rfl := Option.some.inj moved
      rw [untouched.closeWith _ disconnectFrame]
      exact untouched.evict state signal rest (Channel.recv_eq_item taken)
    · obtain rfl := Option.some.inj moved
      exact untouched.evictOpen state false
    · exact untouched.urgentBranch moved
  · exact untouched.urgentBranch moved

theorem step (untouched : Untouched part)
    (moved : step toMsg ok disconnectFrame shutdown state = some next) :
    part next = part state := by
  unfold OutboundState.step at moved
  split at moved
  · cases moved
  · exact untouched.selectStep moved
  · obtain rfl := Option.some.inj moved
    unfold burstStep
    split
    · exact untouched.pc state _
    · rename_i frame rest taken
      have kept := untouched.replay state frame rest taken
      exact (untouched.writeThen _ frame (fun source => untouched.pc source _)
        (fun source => untouched.hangUp source ok)).trans kept
  · obtain rfl := Option.some.inj moved
    unfold drainReplayStep
    split
    · exact untouched.pc state _
    · rename_i frame rest taken
      have kept := untouched.replay state frame rest taken
      exact (untouched.writeThen _ frame (fun _ => rfl)
        (fun source => untouched.pc source _)).trans kept
  · obtain rfl := Option.some.inj moved
    unfold drainLiveStep
    split
    · exact (untouched.exit _).trans (untouched.emit state ok _)
    · rename_i frame rest taken
      have kept := untouched.live state frame rest taken
      have closed :
          ∀ source : OutboundState β μ,
            part (source.emit ok .goingAway).exit = part source :=
        fun source => (untouched.exit _).trans (untouched.emit source ok _)
      exact (untouched.writeThen _ frame (fun _ => rfl) closed).trans kept
  · cases moved

end Untouched

theorem tryRecv_capacity {channel rest : Channel β} {frame : β}
    (taken : channel.tryRecv = some (frame, rest)) :
    rest.capacity = channel.capacity := by
  unfold Channel.tryRecv at taken
  split at taken
  · cases taken
  · obtain ⟨-, rfl⟩ := Prod.mk.inj (Option.some.inj taken)
    rfl

theorem untouched_urgent_sent :
    Untouched (fun state : OutboundState β μ => state.urgent.sent) where
  socket := fun _ _ => rfl
  pc := fun _ _ => rfl
  evictOpen := fun _ _ => rfl
  urgentOpen := fun _ _ => rfl
  evict := fun _ _ _ _ => rfl
  urgent := fun _ _ _ taken => (Channel.tryRecv_eq_some taken).2.2
  replay := fun _ _ _ _ => rfl
  live := fun _ _ _ _ => rfl
  exit := fun _ => rfl

theorem untouched_replay_capacity :
    Untouched (fun state : OutboundState β μ => state.replay.capacity) where
  socket := fun _ _ => rfl
  pc := fun _ _ => rfl
  evictOpen := fun _ _ => rfl
  urgentOpen := fun _ _ => rfl
  evict := fun _ _ _ _ => rfl
  urgent := fun _ _ _ _ => rfl
  replay := fun _ _ _ taken => tryRecv_capacity taken
  live := fun _ _ _ _ => rfl
  exit := fun _ => rfl

theorem step_urgent_sent {toMsg : β → Option μ} {disconnectFrame : β}
    {ok shutdown : Bool} {state next : OutboundState β μ}
    (moved : step toMsg ok disconnectFrame shutdown state = some next) :
    next.urgent.sent = state.urgent.sent :=
  untouched_urgent_sent.step moved

end TurbocableServer.Connection.OutboundState
