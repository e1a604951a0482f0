import Mathlib.Data.List.Perm.Subperm
import TurbocableServer.Connection.OutboundLoop

/-!
# Ending the outbound task

When `handle_socket` has deregistered a connection and dropped its senders,
the outbound task is left alone with four channels whose senders are gone.
The eviction and urgent branches switch themselves off when their channel is
closed, but the replay branch does not: its `recv()` keeps answering at once
with nothing, and it stands before the live branch.  So a loop that meets no
pending eviction or urgent frame goes round for ever, and one that does meet
such a frame leaves at once with its two queues as they are.
-/

namespace TurbocableServer.Connection.OutboundState

open Foundations

variable {β μ : Type}

/-- The loop is at its `select!` and no channel has a sender left. -/
structure TornDown (state : OutboundState β μ) : Prop where
  atSelect : state.pc = .select
  evictSenders : state.evict.senders = 0
  urgentSenders : state.urgent.senders = 0
  replaySenders : state.replay.senders = 0
  liveSenders : state.live.senders = 0

/-- An eviction signal or an urgent close frame waits behind an enabled
branch. -/
def SignalPending (state : OutboundState β μ) : Prop :=
  (state.evictOpen = true ∧ state.evict.buf ≠ []) ∨
    (state.urgentOpen = true ∧ state.urgent.buf ≠ [])

def queuedFrames (state : OutboundState β μ) : List β :=
  state.replay.buf ++ state.live.buf

/-- The loop body, iterated at most `slack` times more often than there are
queued frames, leaves the loop with both queues drained and every queued frame
written. -/
def LeavesAfterWritingAll
    (toMsg : β → Option μ) (disconnectFrame : β) (slack : Nat)
    (state : OutboundState β μ) : Prop :=
  ∃ count target,
    count ≤ (queuedFrames state).length + slack ∧
      iterations toMsg disconnectFrame count state = some target ∧
      target.pc = .exited ∧
      queuedFrames target = [] ∧
      ∃ written,
        target.socket = state.socket ++ written ∧
          List.Subperm
            (((queuedFrames state).filterMap toMsg).map SocketFrame.data)
            written

/-! ## Bursts leave the signals alone -/

/-- The two states agree on everything but the replay queue, the socket and
the program point. -/
private structure SameSignals (source target : OutboundState β μ) :
    Prop where
  evict : target.evict = source.evict
  urgent : target.urgent = source.urgent
  live : target.live = source.live
  evictOpen : target.evictOpen = source.evictOpen
  urgentOpen : target.urgentOpen = source.urgentOpen
  replaySenders : target.replay.senders = source.replay.senders

private theorem SameSignals.refl (state : OutboundState β μ) :
    SameSignals state state :=
  ⟨rfl, rfl, rfl, rfl, rfl, rfl⟩

private theorem SameSignals.trans {first second third : OutboundState β μ}
    (left : SameSignals first second) (right : SameSignals second third) :
    SameSignals first third where
  evict := right.evict.trans left.evict
  urgent := right.urgent.trans left.urgent
  live := right.live.trans left.live
  evictOpen := right.evictOpen.trans left.evictOpen
  urgentOpen := right.urgentOpen.trans left.urgentOpen
  replaySenders := right.replaySenders.trans left.replaySenders

private theorem tryRecv_senders {channel rest : Channel β} {value : β}
    (taken : channel.tryRecv = some (value, rest)) :
    rest.senders = channel.senders := by
  unfold Channel.tryRecv at taken
  split at taken
  · cases taken
  · obtain ⟨-, rfl⟩ := Prod.mk.inj (Option.some.inj taken)
    rfl

/-- Taking a replay frame and writing it successfully only moves on. -/
private theorem writeReplay_sameSignals
    (toMsg : β → Option μ) (state : OutboundState β μ)
    {payload : β} {rest : Channel β} (next : OutboundPc)
    (taken : state.replay.tryRecv = some (payload, rest))
    (failed : OutboundState β μ → OutboundState β μ) :
    let target :=
      writeThen toMsg true { state with replay := rest } payload
        (goTo next) failed
    SameSignals state target ∧ target.pc = next := by
  have senders := tryRecv_senders taken
  simp only [writeThen, emit, goTo]
  split
  · exact ⟨⟨rfl, rfl, rfl, rfl, rfl, senders⟩, rfl⟩
  · exact ⟨⟨rfl, rfl, rfl, rfl, rfl, senders⟩, rfl⟩

private theorem burstStep_sameSignals
    (toMsg : β → Option μ) (left : Nat) (state : OutboundState β μ) :
    SameSignals state (burstStep toMsg true left state) ∧
      ((burstStep toMsg true left state).pc = .select ∨
        (burstStep toMsg true left state).pc = burstPc (left - 1)) := by
  unfold burstStep
  split
  · exact ⟨⟨rfl, rfl, rfl, rfl, rfl, rfl⟩, Or.inl rfl⟩
  · rename_i payload rest taken
    have moved :=
      writeReplay_sameSignals toMsg state (burstPc (left - 1)) taken
        (fun failed => failed.hangUp true)
    exact ⟨moved.1, Or.inr moved.2⟩

private theorem finishBurst_select
    (toMsg : β → Option μ) (turns : Nat) {state : OutboundState β μ}
    (atSelect : state.pc = .select) :
    finishBurst toMsg turns state = state := by
  cases turns with
  | zero => rfl
  | succ turns =>
      rw [finishBurst]
      simp only [atSelect]

/-- With enough turns the burst loop returns to the `select!`.  The induction
is on the turns; `burstPc` makes an exhausted burst look like the head of the
loop. -/
private theorem finishBurst_sameSignals (toMsg : β → Option μ) :
    ∀ (turns left : Nat) (state : OutboundState β μ),
      left ≤ turns →
      state.pc = .select ∨ state.pc = burstPc left →
        SameSignals state (finishBurst toMsg turns state) ∧
          (finishBurst toMsg turns state).pc = .select
  | 0, left, state, enough, point => by
      obtain rfl : left = 0 := by omega
      refine ⟨SameSignals.refl state, ?_⟩
      rcases point with atSelect | atBurst
      · exact atSelect
      · exact atBurst
  | turns + 1, left, state, enough, point => by
      rcases point with atSelect | atBurst
      · rw [finishBurst_select toMsg _ atSelect]
        exact ⟨SameSignals.refl state, atSelect⟩
      · by_cases exhausted : left = 0
        · subst exhausted
          have atSelect : state.pc = .select := atBurst
          rw [finishBurst_select toMsg _ atSelect]
          exact ⟨SameSignals.refl state, atSelect⟩
        · have inBurst : state.pc = .burst left := by
            simpa [burstPc, exhausted] using atBurst
          rw [finishBurst]
          simp only [inBurst]
          obtain ⟨first, point⟩ :=
            burstStep_sameSignals toMsg left state
          obtain ⟨rest, atSelect⟩ :=
            finishBurst_sameSignals toMsg turns (left - 1)
              (burstStep toMsg true left state) (by omega) point
          exact ⟨first.trans rest, atSelect⟩

private theorem SameSignals.signalPending_iff
    {source target : OutboundState β μ}
    (same : SameSignals source target) :
    SignalPending target ↔ SignalPending source := by
  unfold SignalPending
  rw [same.evict, same.urgent, same.evictOpen, same.urgentOpen]

/-! ## Closed channels -/

private theorem recv_closed {α : Type} {channel : Channel α}
    (empty : channel.buf = []) (gone : channel.senders = 0) :
    channel.recv = .closed := by
  have nothing := (Channel.tryRecv_eq_none_iff channel).mpr empty
  simp [Channel.recv, nothing, gone]

private theorem recv_item {α : Type} {channel : Channel α}
    (waiting : channel.buf ≠ []) :
    ∃ value rest,
      channel.recv = .item value rest ∧
        channel.tryRecv = some (value, rest) := by
  cases taken : channel.tryRecv with
  | none =>
      exact absurd ((Channel.tryRecv_eq_none_iff channel).mp taken) waiting
  | some pair =>
      obtain ⟨value, rest⟩ := pair
      exact ⟨value, rest, by simp [Channel.recv, taken], rfl⟩

/-- From the replay branch on, a torn-down loop comes back to its `select!`:
an empty replay queue is closed, so the live branch is never reached. -/
private theorem replayBranch_returns
    (toMsg : β → Option μ) {state : OutboundState β μ}
    (gone : TornDown state) :
    ∃ target left,
      replayBranch toMsg true state = some target ∧
        SameSignals state target ∧
        left ≤ outboundReplayBurst ∧
        (target.pc = .select ∨ target.pc = burstPc left) := by
  unfold replayBranch
  by_cases empty : state.replay.buf = []
  · rw [recv_closed empty gone.replaySenders]
    exact ⟨state, 0, rfl, SameSignals.refl state, Nat.zero_le _,
      Or.inl gone.atSelect⟩
  · obtain ⟨payload, rest, answered, taken⟩ := recv_item empty
    rw [answered]
    have moved :=
      writeReplay_sameSignals toMsg state
        (burstPc (outboundReplayBurst - 1)) taken
        (fun failed => failed.hangUp true)
    exact ⟨_, outboundReplayBurst - 1, rfl, moved.1, Nat.sub_le _ _,
      Or.inr moved.2⟩

/-! ## Without a signal the loop never ends -/

private theorem urgentBranch_returns
    (toMsg : β → Option μ) {state : OutboundState β μ}
    (gone : TornDown state)
    (quiet : state.urgentOpen = true → state.urgent.buf = []) :
    ∃ target left,
      urgentBranch toMsg true false state = some target ∧
        target.evict = state.evict ∧
        target.evictOpen = state.evictOpen ∧
        target.urgent = state.urgent ∧
        target.live = state.live ∧
        target.replay.senders = state.replay.senders ∧
        (target.urgentOpen = true → state.urgentOpen = true) ∧
        left ≤ outboundReplayBurst ∧
        (target.pc = .select ∨ target.pc = burstPc left) := by
  unfold urgentBranch
  by_cases isOpen : state.urgentOpen = true
  · rw [if_pos isOpen, recv_closed (quiet isOpen) gone.urgentSenders]
    refine ⟨_, 0, rfl, rfl, rfl, rfl, rfl, rfl, ?_, Nat.zero_le _,
      Or.inl gone.atSelect⟩
    intro impossible
    cases impossible
  · obtain ⟨target, left, moved, same, bound, point⟩ :=
      replayBranch_returns toMsg gone
    rw [if_neg isOpen]
    exact ⟨target, left, moved, same.evict, same.evictOpen, same.urgent,
      same.live, same.replaySenders,
      fun opened => same.urgentOpen ▸ opened, bound, point⟩

/-- One iteration of a torn-down loop without a pending signal ends at the
`select!` of a torn-down loop without a pending signal. -/
theorem iteration_of_no_signal
    (toMsg : β → Option μ) (disconnectFrame : β)
    {state : OutboundState β μ}
    (gone : TornDown state) (quiet : ¬ SignalPending state) :
    ∃ target,
      iteration toMsg disconnectFrame state = some target ∧
        TornDown target ∧ ¬ SignalPending target := by
  have evictQuiet :
      state.evictOpen = true → state.evict.buf = [] := by
    intro isOpen
    by_contra waiting
    exact quiet (Or.inl ⟨isOpen, waiting⟩)
  have urgentQuiet :
      state.urgentOpen = true → state.urgent.buf = [] := by
    intro isOpen
    by_contra waiting
    exact quiet (Or.inr ⟨isOpen, waiting⟩)
  have stepped :
      ∃ target left,
        step toMsg true disconnectFrame false state = some target ∧
          target.evict = state.evict ∧
          target.urgent = state.urgent ∧
          target.live = state.live ∧
          target.replay.senders = state.replay.senders ∧
          (target.evictOpen = true → state.evictOpen = true) ∧
          (target.urgentOpen = true → state.urgentOpen = true) ∧
          left ≤ outboundReplayBurst ∧
          (target.pc = .select ∨ target.pc = burstPc left) := by
    simp only [step, gone.atSelect, selectStep]
    by_cases isOpen : state.evictOpen = true
    · rw [if_pos isOpen,
        recv_closed (evictQuiet isOpen) gone.evictSenders]
      refine ⟨_, 0, rfl, rfl, rfl, rfl, rfl, ?_, id, Nat.zero_le _,
        Or.inl rfl⟩
      intro impossible
      cases impossible
    · obtain ⟨target, left, moved, evict, evictOpen, urgent, live,
        replaySenders, urgentOpen, bound, point⟩ :=
        urgentBranch_returns toMsg gone urgentQuiet
      rw [if_neg isOpen]
      exact ⟨target, left, moved, evict, urgent, live, replaySenders,
        fun opened => evictOpen ▸ opened, urgentOpen, bound, point⟩
  obtain ⟨middle, left, moved, evict, urgent, live, replaySenders,
    evictOpen, urgentOpen, bound, point⟩ := stepped
  obtain ⟨same, atSelect⟩ :=
    finishBurst_sameSignals toMsg outboundReplayBurst left middle
      bound point
  refine ⟨finishBurst toMsg outboundReplayBurst middle, ?_, ?_, ?_⟩
  · rw [iteration, moved]
    rfl
  · exact
      { atSelect := atSelect
        evictSenders := by rw [same.evict, evict, gone.evictSenders]
        urgentSenders := by rw [same.urgent, urgent, gone.urgentSenders]
        replaySenders := by
          rw [same.replaySenders, replaySenders, gone.replaySenders]
        liveSenders := by rw [same.live, live, gone.liveSenders] }
  · rw [same.signalPending_iff]
    rintro (⟨opened, waiting⟩ | ⟨opened, waiting⟩)
    · rw [evict] at waiting
      exact waiting (evictQuiet (evictOpen opened))
    · rw [urgent] at waiting
      exact waiting (urgentQuiet (urgentOpen opened))

/-- A torn-down loop without a pending signal goes round for ever. -/
theorem iterations_of_no_signal
    (toMsg : β → Option μ) (disconnectFrame : β) :
    ∀ (count : Nat) {state : OutboundState β μ},
      TornDown state → ¬ SignalPending state →
        ∃ target,
          iterations toMsg disconnectFrame count state = some target ∧
            target.pc = .select
  | 0, state, gone, _ => ⟨state, rfl, gone.atSelect⟩
  | count + 1, state, gone, quiet => by
      obtain ⟨middle, moved, stillGone, stillQuiet⟩ :=
        iteration_of_no_signal toMsg disconnectFrame gone quiet
      obtain ⟨target, run, atSelect⟩ :=
        iterations_of_no_signal toMsg disconnectFrame count
          stillGone stillQuiet
      refine ⟨target, ?_, atSelect⟩
      rw [iterations, moved]
      exact run

/-! ## With a signal the loop leaves its queues behind -/

private theorem closeWith_shape
    (toMsg : β → Option μ) (state : OutboundState β μ) (payload : β) :
    (closeWith toMsg true state payload).pc = .exited ∧
      queuedFrames (closeWith toMsg true state payload) =
        queuedFrames state ∧
      ∃ written,
        (closeWith toMsg true state payload).socket =
          state.socket ++ written := by
  unfold closeWith writeThen
  split
  · exact ⟨rfl, rfl, [.closing], rfl⟩
  · rename_i message _
    refine ⟨rfl, rfl, [.data message, .closing], ?_⟩
    simp [hangUp, emit, exit]

/-- The last iteration: the signal is taken and the task returns. -/
private def LeavesUnread (state target : OutboundState β μ) : Prop :=
  target.pc = .exited ∧
    queuedFrames target = queuedFrames state ∧
    ∃ written, target.socket = state.socket ++ written

private theorem finishBurst_exited
    (toMsg : β → Option μ) (turns : Nat) {state : OutboundState β μ}
    (ended : state.pc = .exited) :
    finishBurst toMsg turns state = state := by
  cases turns with
  | zero => rfl
  | succ turns =>
      rw [finishBurst]
      simp only [ended]

private theorem iteration_eq_of_step_exited
    (toMsg : β → Option μ) (disconnectFrame : β)
    {state target : OutboundState β μ}
    (moved : step toMsg true disconnectFrame false state = some target)
    (ended : target.pc = .exited) :
    iteration toMsg disconnectFrame state = some target := by
  rw [iteration, moved]
  exact congrArg some (finishBurst_exited toMsg _ ended)

private theorem iteration_of_evict
    (toMsg : β → Option μ) (disconnectFrame : β)
    {state : OutboundState β μ}
    (gone : TornDown state)
    (isOpen : state.evictOpen = true) (waiting : state.evict.buf ≠ []) :
    ∃ target,
      iteration toMsg disconnectFrame state = some target ∧
        LeavesUnread state target := by
  obtain ⟨value, rest, answered, -⟩ := recv_item waiting
  have shape :=
    closeWith_shape toMsg { state with evict := rest } disconnectFrame
  refine ⟨closeWith toMsg true { state with evict := rest }
    disconnectFrame, ?_, shape⟩
  apply iteration_eq_of_step_exited toMsg disconnectFrame _ shape.1
  simp only [step, gone.atSelect, selectStep, isOpen, if_true, answered]

private theorem iteration_of_urgent
    (toMsg : β → Option μ) (disconnectFrame : β)
    {state : OutboundState β μ}
    (gone : TornDown state) (evictShut : state.evictOpen = false)
    (isOpen : state.urgentOpen = true)
    (waiting : state.urgent.buf ≠ []) :
    ∃ target,
      iteration toMsg disconnectFrame state = some target ∧
        LeavesUnread state target := by
  obtain ⟨payload, rest, answered, -⟩ := recv_item waiting
  have shape :=
    closeWith_shape toMsg { state with urgent := rest } payload
  refine ⟨closeWith toMsg true { state with urgent := rest } payload,
    ?_, shape⟩
  apply iteration_eq_of_step_exited toMsg disconnectFrame _ shape.1
  simp [step, gone.atSelect, selectStep, evictShut, urgentBranch, isOpen,
    answered]

/-- With an empty eviction channel the first iteration only switches the
eviction branch off. -/
private theorem iteration_of_evict_closed
    (toMsg : β → Option μ) (disconnectFrame : β)
    {state : OutboundState β μ}
    (gone : TornDown state)
    (isOpen : state.evictOpen = true) (empty : state.evict.buf = []) :
    iteration toMsg disconnectFrame state =
      some { state with evictOpen := false } := by
  have closed := recv_closed empty gone.evictSenders
  have moved :
      step toMsg true disconnectFrame false state =
        some { state with evictOpen := false } := by
    simp [step, gone.atSelect, selectStep, isOpen, closed]
  rw [iteration, moved]
  exact congrArg some (finishBurst_select toMsg _ gone.atSelect)

/-- A pending signal ends the loop within two iterations, and whenever the
loop has ended its queues are as they were. -/
theorem iterations_of_signal
    (toMsg : β → Option μ) (disconnectFrame : β)
    {state : OutboundState β μ}
    (gone : TornDown state) (pending : SignalPending state) :
    (∃ count target,
      count ≤ 2 ∧
        iterations toMsg disconnectFrame count state = some target ∧
        LeavesUnread state target) ∧
      ∀ count target,
        iterations toMsg disconnectFrame count state = some target →
          queuedFrames target = queuedFrames state := by
  -- After the last iteration nothing follows, so any count that succeeds is
  -- one of the first three.
  have afterExit :
      ∀ (count : Nat) {last target : OutboundState β μ},
        last.pc = .exited →
        iterations toMsg disconnectFrame count last = some target →
          target = last := by
    intro count last target ended run
    cases count with
    | zero => exact (Option.some.inj run).symm
    | succ count =>
        simp [iterations, iteration, step, ended] at run
  have single :
      ∀ {source last : OutboundState β μ},
        iteration toMsg disconnectFrame source = some last →
        LeavesUnread source last →
          ∀ count target,
            iterations toMsg disconnectFrame count source = some target →
              queuedFrames target = queuedFrames source := by
    intro source last moved leaves count target run
    cases count with
    | zero =>
        rw [← Option.some.inj run]
    | succ count =>
        rw [iterations, moved] at run
        rw [afterExit count leaves.1 run]
        exact leaves.2.1
  by_cases evictPending :
      state.evictOpen = true ∧ state.evict.buf ≠ []
  · obtain ⟨target, moved, leaves⟩ :=
      iteration_of_evict toMsg disconnectFrame gone
        evictPending.1 evictPending.2
    refine ⟨⟨1, target, by omega, ?_, leaves⟩, single moved leaves⟩
    rw [iterations, moved]
    rfl
  · have urgentPending :
        state.urgentOpen = true ∧ state.urgent.buf ≠ [] :=
      pending.resolve_left evictPending
    by_cases isOpen : state.evictOpen = true
    · have empty : state.evict.buf = [] := by
        by_contra waiting
        exact evictPending ⟨isOpen, waiting⟩
      have first :=
        iteration_of_evict_closed toMsg disconnectFrame gone isOpen empty
      have stillGone :
          TornDown { state with evictOpen := false } :=
        ⟨gone.atSelect, gone.evictSenders, gone.urgentSenders,
          gone.replaySenders, gone.liveSenders⟩
      obtain ⟨target, moved, leaves⟩ :=
        iteration_of_urgent toMsg disconnectFrame stillGone rfl
          urgentPending.1 urgentPending.2
      refine ⟨⟨2, target, by omega, ?_, leaves⟩, ?_⟩
      · simp only [iterations, first, moved, Option.bind_some]
      · intro count last run
        cases count with
        | zero =>
            rw [← Option.some.inj run]
        | succ count =>
            rw [iterations, first] at run
            exact single moved leaves count last run
    · obtain ⟨target, moved, leaves⟩ :=
        iteration_of_urgent toMsg disconnectFrame gone
          (by simpa using isOpen) urgentPending.1 urgentPending.2
      refine ⟨⟨1, target, by omega, ?_, leaves⟩, single moved leaves⟩
      rw [iterations, moved]
      rfl

/-! ## When teardown ends the task -/

/-- For a torn-down loop and any constant from two on: it writes its queued
frames and leaves within the bound exactly when nothing is queued and a
pending eviction or urgent frame takes it out. -/
theorem leavesAfterWritingAll_iff
    (isBinary : Bool) (disconnectFrame : ByteArray)
    (slack : Nat) (roomy : 2 ≤ slack)
    (state : OutboundState ByteArray WsMessage)
    (gone : TornDown state) :
    LeavesAfterWritingAll (bytesToWsMsg isBinary) disconnectFrame
        slack state ↔
      queuedFrames state = [] ∧ SignalPending state := by
  constructor
  · rintro ⟨count, target, -, run, ended, drained, -⟩
    by_cases pending : SignalPending state
    · have unread :=
        (iterations_of_signal (bytesToWsMsg isBinary) disconnectFrame
          gone pending).2 count target run
      exact ⟨unread.symm.trans drained, pending⟩
    · obtain ⟨spinning, sameRun, atSelect⟩ :=
        iterations_of_no_signal (bytesToWsMsg isBinary) disconnectFrame
          count gone pending
      rw [run] at sameRun
      rw [Option.some.inj sameRun, atSelect] at ended
      cases ended
  · rintro ⟨empty, pending⟩
    obtain ⟨⟨count, target, short, run, ended, unread, written, shape⟩,
      -⟩ :=
      iterations_of_signal (bytesToWsMsg isBinary) disconnectFrame
        gone pending
    refine ⟨count, target, by omega, run, ended, unread.trans empty,
      written, shape, ?_⟩
    rw [empty]
    exact List.nil_subperm

/-- A torn-down loop with empty queues and the given pending eviction
signals. -/
def idleTeardown (signals : List Unit) :
    OutboundState ByteArray WsMessage where
  evict := { Channel.new 1 0 with buf := signals }
  urgent := Channel.new 1 0
  replay := Channel.new 4096 0
  live := Channel.new 4096 0
  evictOpen := true
  urgentOpen := true
  pc := .select
  socket := []

theorem idleTeardown_tornDown (signals : List Unit) :
    TornDown (idleTeardown signals) :=
  ⟨rfl, rfl, rfl, rfl, rfl⟩

/-- An evicted connection with nothing queued is the case that does end. -/
theorem leavesAfterWritingAll_evicted :
    LeavesAfterWritingAll (bytesToWsMsg true) ByteArray.empty 2
      (idleTeardown [()]) :=
  (leavesAfterWritingAll_iff true ByteArray.empty 2 (by decide)
    (idleTeardown [()]) (idleTeardown_tornDown [()])).mpr
    ⟨rfl, Or.inl ⟨rfl, by decide⟩⟩

/-- A plain disconnect with nothing queued never ends the task, whatever the
constant. -/
theorem teardown_does_not_end :
    ¬ ∃ slack, ∀ (isBinary : Bool) (disconnectFrame : ByteArray)
        (state : OutboundState ByteArray WsMessage),
      TornDown state →
        LeavesAfterWritingAll (bytesToWsMsg isBinary) disconnectFrame
          slack state := by
  rintro ⟨slack, always⟩
  obtain ⟨count, target, -, run, ended, -⟩ :=
    always true ByteArray.empty (idleTeardown [])
      (idleTeardown_tornDown [])
  have quiet : ¬ SignalPending (idleTeardown []) := by
    rintro (⟨-, waiting⟩ | ⟨-, waiting⟩)
    · exact waiting rfl
    · exact waiting rfl
  obtain ⟨spinning, sameRun, atSelect⟩ :=
    iterations_of_no_signal (bytesToWsMsg true) ByteArray.empty count
      (idleTeardown_tornDown []) quiet
  rw [run] at sameRun
  rw [Option.some.inj sameRun, atSelect] at ended
  cases ended

end TurbocableServer.Connection.OutboundState
