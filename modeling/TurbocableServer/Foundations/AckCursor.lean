import Mathlib.Data.List.Nodup

/-!
# Cursors with acknowledgements

The place of a durable consumer in a log that grows at its end.  Entries are
handed out in the order of the log.  Those not acknowledged yet are remembered,
so that they can be handed out again, and a window bounds their number.
-/

namespace TurbocableServer.Foundations

/-- `passed` entries were handed out at least once, `unacked` are the positions
of those among them that are not acknowledged.  Without a window their number
is not bounded. -/
structure AckCursor where
  passed : Nat
  unacked : List Nat
  window : Option Nat
  below : ∀ position, position ∈ unacked → position < passed
  distinct : unacked.Nodup
  fits : ∀ limit, window = some limit → unacked.length ≤ limit

namespace AckCursor

/-- A consumer that was just created. -/
def new (window : Option Nat) : AckCursor where
  passed := 0
  unacked := []
  window := window
  below := by simp
  distinct := List.nodup_nil
  fits := by simp

def hasRoom (cursor : AckCursor) : Bool :=
  match cursor.window with
  | none => true
  | some limit => cursor.unacked.length < limit

/-- Hand out the entry at position `passed`. -/
def handOut (cursor : AckCursor) (room : cursor.hasRoom = true) :
    AckCursor where
  passed := cursor.passed + 1
  unacked := cursor.unacked ++ [cursor.passed]
  window := cursor.window
  below := by
    intro position member
    rcases List.mem_append.mp member with before | isLast
    · exact Nat.lt_succ_of_lt (cursor.below position before)
    · rw [List.mem_singleton.mp isLast]
      exact Nat.lt_succ_self _
  distinct := by
    have fresh : cursor.passed ∉ cursor.unacked :=
      fun member => Nat.lt_irrefl _ (cursor.below _ member)
    rw [List.nodup_append]
    refine ⟨cursor.distinct, List.nodup_singleton _, ?_⟩
    intro position member other isLast same
    rw [same, List.mem_singleton.mp isLast] at member
    exact fresh member
  fits := by
    intro limit isLimit
    have smaller : cursor.unacked.length < limit := by
      simpa [hasRoom, isLimit] using room
    rw [List.length_append, List.length_singleton]
    exact smaller

def acknowledge (cursor : AckCursor) (position : Nat) : AckCursor where
  passed := cursor.passed
  unacked := cursor.unacked.erase position
  window := cursor.window
  below := fun other member =>
    cursor.below other (List.mem_of_mem_erase member)
  distinct := cursor.distinct.erase position
  fits := fun limit isLimit =>
    Nat.le_trans List.length_erase_le (cursor.fits limit isLimit)

theorem mem_unacked_acknowledge {cursor : AckCursor} {position other : Nat} :
    other ∈ (cursor.acknowledge position).unacked ↔
      other ≠ position ∧ other ∈ cursor.unacked :=
  cursor.distinct.mem_erase_iff

/-- What leaves the unacknowledged entries was acknowledged. -/
theorem eq_of_not_mem_acknowledge {cursor : AckCursor} {position other : Nat}
    (unacked : other ∈ cursor.unacked)
    (gone : other ∉ (cursor.acknowledge position).unacked) :
    other = position := by
  by_contra different
  exact gone (mem_unacked_acknowledge.mpr ⟨different, unacked⟩)

/-- With nothing outstanding there is room, unless the window is empty. -/
theorem hasRoom_of_unacked_eq_nil {cursor : AckCursor}
    (nothing : cursor.unacked = []) (opened : cursor.window ≠ some 0) :
    cursor.hasRoom = true := by
  unfold hasRoom
  split
  · rfl
  · rename_i limit isLimit
    have positive : limit ≠ 0 := fun isZero => opened (by rw [isLimit, isZero])
    rw [nothing]
    exact decide_eq_true (Nat.pos_of_ne_zero positive)

end AckCursor

end TurbocableServer.Foundations
