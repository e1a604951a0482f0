import TurbocableServer.Pubsub.Replay

/-!
# The retention window

Before a replay the cursor of the client is checked against the messages the
stream still has.  A cursor can be served when nothing that was stored after it
is lost and it is not ahead of the stream.
-/

namespace TurbocableServer.Pubsub

open Protocol

/-- The state of a JetStream stream.  Sequences are handed out from 1 on, and a
stream keeps what lies between its first and its last sequence.  A stream that
was emptied points behind its last message, one that was never written to may
report zero. -/
structure StreamState where
  messages : Nat
  firstSequence : Nat
  lastSequence : Nat
  window :
    (0 < messages ∧ 0 < firstSequence ∧
        messages + firstSequence = lastSequence + 1) ∨
      (messages = 0 ∧
        (firstSequence = lastSequence + 1 ∨
          (firstSequence = 0 ∧ lastSequence = 0)))
  fits : lastSequence ≤ u64Max

namespace StreamState

variable (state : StreamState)

/-- What `info` reports of it to the checks. -/
def info : StreamInfo where
  messages := state.messages
  firstSequence := state.firstSequence

/-- A message with this sequence was stored at some time. -/
def Stored (sequence : Nat) : Prop :=
  0 < sequence ∧ sequence ≤ state.lastSequence

/-- The message with this sequence is still there. -/
def Retained (sequence : Nat) : Prop :=
  0 < state.messages ∧ state.firstSequence ≤ sequence ∧
    sequence ≤ state.lastSequence

/-- The cursor can be served without loss. -/
def Servable (lastSeq : Nat) : Prop :=
  (∀ sequence, state.Stored sequence → lastSeq < sequence →
      state.Retained sequence) ∧
    lastSeq ≤ state.lastSequence

end StreamState

/-! ## The checks -/

section

variable {streamName : String} {lastSeq : Nat} {info : StreamInfo}

theorem checkWindow_eq_ok_iff :
    checkWindow streamName lastSeq info = .ok () ↔
      (0 < info.messages → info.firstSequence ≤ requestedSeq lastSeq) ∧
        (info.messages = 0 → lastSeq = 0) := by
  unfold checkWindow
  split
  · rename_i tooOld
    simp only [reduceCtorEq, false_iff, not_and]
    intro covered
    exact absurd (covered tooOld.1) (Nat.not_le_of_lt tooOld.2)
  · rename_i recent
    split
    · rename_i purged
      simp only [reduceCtorEq, false_iff, not_and]
      intro _ fresh
      exact absurd (fresh purged.1) (Nat.ne_of_gt purged.2)
    · rename_i unpurged
      simp only [true_iff]
      refine ⟨fun present => ?_, fun empty => ?_⟩
      · exact Nat.le_of_not_lt (fun older => recent ⟨present, older⟩)
      · exact Nat.eq_zero_of_not_pos (fun held => unpurged ⟨empty, held⟩)

/-- The checks refuse with `WindowExceeded` and nothing else. -/
theorem checkWindow_cases :
    checkWindow streamName lastSeq info = .ok () ∨
      ∃ oldest,
        checkWindow streamName lastSeq info =
          .error (.windowExceeded streamName (requestedSeq lastSeq)
            oldest) := by
  unfold checkWindow
  split
  · exact Or.inr ⟨_, rfl⟩
  · split
    · exact Or.inr ⟨_, rfl⟩
    · exact Or.inl rfl

end

/-- The check of the cursor is sound: only a cursor that can be served gets past
it, and with any other one the replay ends in `WindowExceeded`. -/
def WindowSound (decodePayload : ByteArray → Json) (streamName : String)
    (lastSeq : Nat) (state : StreamState) : Prop :=
  (checkWindow streamName lastSeq state.info = .ok () →
      state.Servable lastSeq) ∧
    (¬ state.Servable lastSeq →
      ∃ requested oldest,
        ∀ opened events,
          replaySince decodePayload streamName lastSeq (.ok state.info) opened
              events =
            ([], some (.error
              (.windowExceeded streamName requested oldest))))

variable {decodePayload : ByteArray → Json} {streamName : String}
variable {lastSeq : Nat} {state : StreamState}

/-- A refused cursor ends the replay, so all that matters is who gets past. -/
theorem windowSound_iff_servable :
    WindowSound decodePayload streamName lastSeq state ↔
      (checkWindow streamName lastSeq state.info = .ok () →
        state.Servable lastSeq) := by
  refine ⟨fun sound => sound.1, fun passes => ⟨passes, fun lost => ?_⟩⟩
  rcases checkWindow_cases with isOk | ⟨oldest, refused⟩
  · exact absurd (passes isOk) lost
  · refine ⟨requestedSeq lastSeq, oldest, fun opened events => ?_⟩
    simp only [replaySince, refused]

theorem StreamState.servable_of_covered (present : 0 < state.messages)
    (covered : state.firstSequence ≤ requestedSeq lastSeq)
    (behind : lastSeq ≤ state.lastSequence) : state.Servable lastSeq := by
  refine ⟨fun sequence stored newer => ⟨present, ?_, stored.2⟩, behind⟩
  calc
    state.firstSequence ≤ requestedSeq lastSeq := covered
    _ ≤ lastSeq + 1 := Nat.min_le_left _ _
    _ ≤ sequence := newer

/-- A cursor that is ahead of a stream with messages always gets past. -/
theorem StreamState.covered_of_ahead (present : 0 < state.messages)
    (ahead : state.lastSequence < lastSeq) :
    state.firstSequence ≤ requestedSeq lastSeq := by
  have fits := state.fits
  have window := state.window
  rw [requestedSeq, Nat.le_min]
  omega

/-- The check is sound exactly for cursors that are not ahead of a stream with
messages, and not zero on a stream that has lost all of its messages. -/
theorem windowSound_iff (decodePayload : ByteArray → Json)
    (streamName : String) (lastSeq : Nat) (state : StreamState) :
    WindowSound decodePayload streamName lastSeq state ↔
      (0 < state.messages → lastSeq ≤ state.lastSequence) ∧
        (state.messages = 0 → lastSeq = 0 → state.lastSequence = 0) := by
  rw [windowSound_iff_servable, checkWindow_eq_ok_iff]
  constructor
  · intro sound
    refine ⟨fun present => ?_, fun empty fresh => ?_⟩
    · by_contra ahead
      have newer := Nat.lt_of_not_le ahead
      have servable :=
        sound ⟨fun _ => state.covered_of_ahead present newer, fun empty =>
          absurd empty (Nat.ne_of_gt present)⟩
      exact ahead servable.2
    · have servable :=
        sound ⟨fun present => absurd empty (Nat.ne_of_gt present), fun _ =>
          fresh⟩
      by_contra written
      have positive := Nat.pos_of_ne_zero written
      have retained :=
        servable.1 state.lastSequence ⟨positive, Nat.le_refl _⟩
          (fresh ▸ positive)
      exact Nat.ne_of_gt retained.1 empty
  · rintro ⟨notAhead, notLost⟩ ⟨covered, fresh⟩
    rcases Nat.eq_zero_or_pos state.messages with empty | present
    · have isZero := fresh empty
      have unwritten := notLost empty isZero
      refine ⟨fun sequence stored _ => ?_, by rw [isZero]; exact Nat.zero_le _⟩
      exact absurd stored.2 (Nat.not_le_of_lt (unwritten ▸ stored.1))
    · exact state.servable_of_covered present (covered present)
        (notAhead present)

/-- One message, with sequence 5. -/
def shortWindow : StreamState where
  messages := 1
  firstSequence := 5
  lastSequence := 5
  window := by decide
  fits := by decide

/-- Ten messages were stored and all of them are gone. -/
def purgedWindow : StreamState where
  messages := 0
  firstSequence := 11
  lastSequence := 10
  window := by decide
  fits := by decide

/-- A cursor ahead of the stream gets past the check, and so does a cursor that
has missed everything on a purged stream. -/
theorem unservable_cursors_pass :
    ¬ WindowSound (fun _ => .null) "news" 9 shortWindow ∧
      ¬ WindowSound (fun _ => .null) "news" 0 purgedWindow := by
  constructor
  · intro sound
    have servable := sound.1 (by decide)
    exact absurd servable.2 (by decide)
  · intro sound
    have servable := sound.1 (by decide)
    have retained := servable.1 10 ⟨by decide, by decide⟩ (by decide)
    exact absurd retained.1 (by decide)

end TurbocableServer.Pubsub
