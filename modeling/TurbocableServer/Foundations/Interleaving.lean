import Mathlib.Data.List.Basic

/-!
# Interleavings of two lists

`Interleaves left right merged` says that `merged` consists of the items of
`left` and of `right`, each list in its own order.  The relation is built up at
the end of the lists, the way a history grows.
-/

namespace TurbocableServer.Foundations

universe u v

variable {α : Type u} {β : Type v}

inductive Interleaves : List α → List α → List α → Prop
  | nil : Interleaves [] [] []
  | left {left right merged : List α} (item : α) :
      Interleaves left right merged →
      Interleaves (left ++ [item]) right (merged ++ [item])
  | right {left right merged : List α} (item : α) :
      Interleaves left right merged →
      Interleaves left (right ++ [item]) (merged ++ [item])

namespace Interleaves

variable {left right merged : List α}

theorem mem_iff (interleaves : Interleaves left right merged) {item : α} :
    item ∈ merged ↔ item ∈ left ∨ item ∈ right := by
  induction interleaves with
  | nil =>
      simp
  | left last _ ih | right last _ ih =>
      simp only [List.mem_append, ih]
      tauto

theorem map (interleaves : Interleaves left right merged) (f : α → β) :
    Interleaves (left.map f) (right.map f) (merged.map f) := by
  induction interleaves with
  | nil =>
      exact .nil
  | left last _ ih =>
      simp only [List.map_append, List.map_cons, List.map_nil]
      exact .left (f last) ih
  | right last _ ih =>
      simp only [List.map_append, List.map_cons, List.map_nil]
      exact .right (f last) ih

end Interleaves

end TurbocableServer.Foundations
