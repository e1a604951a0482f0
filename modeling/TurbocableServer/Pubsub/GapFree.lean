import TurbocableServer.Pubsub.MessageLog

/-!
# Sequences without a gap

A client that resumes by the highest sequence it has seen relies on the order in
which sequences reach it: when one arrives, every message of the stream between
the client's starting point and that sequence has arrived before.
-/

namespace TurbocableServer.Pubsub

universe u

/-- Where an element of a list lies when the list has just been extended. -/
theorem append_singleton_cases {α : Type u} {items before after : List α}
    {last item : α} (split : items ++ [last] = before ++ item :: after) :
    (items = before ∧ last = item ∧ after = []) ∨
      ∃ rest, items = before ++ item :: rest ∧ after = rest ++ [last] := by
  rcases List.eq_nil_or_concat after with rfl | ⟨rest, final, rfl⟩
  · left
    obtain ⟨same, isLast⟩ := List.append_inj' split rfl
    exact ⟨same, (List.cons.inj isLast).1, rfl⟩
  · right
    have regrouped :
        items ++ [last] = (before ++ item :: rest) ++ [final] := by
      simpa using split
    obtain ⟨same, isLast⟩ := List.append_inj' regrouped rfl
    refine ⟨rest, same, ?_⟩
    rw [(List.cons.inj isLast).1, List.concat_eq_append]

/-- Every sequence in the list is preceded by those of all messages of `stream`
between `since` and itself. -/
def GapFree (log : MessageLog) (stream : String) (since : Nat)
    (seqs : List Nat) : Prop :=
  ∀ before seq after, seqs = before ++ seq :: after →
    seq ≤ log.lastSequence ∧
      ∀ message, message ∈ log.messages → message.stream = stream →
        since < message.seq → message.seq < seq → message.seq ∈ before

namespace GapFree

variable {log : MessageLog} {stream : String} {since : Nat}
variable {seqs : List Nat}

theorem nil : GapFree log stream since [] := by
  intro before seq after split
  simp at split

theorem snoc (gapFree : GapFree log stream since seqs) {seq : Nat}
    (inLog : seq ≤ log.lastSequence)
    (preceded :
      ∀ message, message ∈ log.messages → message.stream = stream →
        since < message.seq → message.seq < seq → message.seq ∈ seqs) :
    GapFree log stream since (seqs ++ [seq]) := by
  intro before seq' after split
  rcases append_singleton_cases split with
    ⟨rfl, rfl, -⟩ | ⟨rest, earlier, -⟩
  · exact ⟨inLog, preceded⟩
  · exact gapFree before seq' rest earlier

/-- Messages published later have higher sequences than all in the list. -/
theorem publish (gapFree : GapFree log stream since seqs) (subject : String)
    (payload : ByteArray) :
    GapFree (log.publish subject payload) stream since seqs := by
  obtain ⟨added, extended, newest⟩ := log.publish_messages subject payload
  intro before seq after split
  obtain ⟨inLog, preceded⟩ := gapFree before seq after split
  refine ⟨Nat.le_trans inLog (log.lastSequence_le_publish ..), ?_⟩
  intro message member ofStream newer earlier
  rw [extended] at member
  rcases List.mem_append.mp member with stored | isNew
  · exact preceded message stored ofStream newer earlier
  · have beyond := newest message isNew
    omega

end GapFree

/-- `received` holds the sequences of all messages of `stream` from `position`
(exclusive) to `bound`. -/
def CompleteTo (log : MessageLog) (stream : String) (position bound : Nat)
    (received : List Nat) : Prop :=
  ∀ message, message ∈ log.messages → message.stream = stream →
    position < message.seq → message.seq ≤ bound → message.seq ∈ received

namespace CompleteTo

variable {log : MessageLog} {stream : String} {position bound : Nat}
variable {received : List Nat}

theorem publish (complete : CompleteTo log stream position bound received)
    (reached : bound ≤ position ∨ bound ≤ log.lastSequence)
    (subject : String) (payload : ByteArray) :
    CompleteTo (log.publish subject payload) stream position bound
      received := by
  obtain ⟨added, extended, newest⟩ := log.publish_messages subject payload
  intro message member ofStream newer inBound
  rw [extended] at member
  rcases List.mem_append.mp member with stored | isNew
  · exact complete message stored ofStream newer inBound
  · have beyond := newest message isNew
    omega

theorem append (complete : CompleteTo log stream position bound received)
    (more : List Nat) :
    CompleteTo log stream position bound (received ++ more) := by
  intro message member ofStream newer inBound
  exact List.mem_append_left _
    (complete message member ofStream newer inBound)

/-- The next sequence of a list without a gap is received. -/
theorem receive {before after : List Nat} {since seq : Nat}
    (complete : CompleteTo log stream position since received)
    (gapFree : GapFree log stream since (before ++ seq :: after))
    (known : ∀ earlier, earlier ∈ before → earlier ∈ received) :
    CompleteTo log stream position seq (received ++ [seq]) := by
  obtain ⟨-, preceded⟩ := gapFree before seq after rfl
  intro message member ofStream newer inBound
  rcases Nat.lt_or_eq_of_le inBound with earlier | same
  · apply List.mem_append_left
    by_cases old : message.seq ≤ since
    · exact complete message member ofStream newer old
    · exact known _
        (preceded message member ofStream (Nat.lt_of_not_le old) earlier)
  · exact List.mem_append_right _ (by simp [same])

end CompleteTo

end TurbocableServer.Pubsub
