import Mathlib.Algebra.Order.BigOperators.Group.Finset
import Mathlib.Algebra.Order.Ring.Nat
import Mathlib.Data.Prod.Lex
import Mathlib.Order.WellFounded
import TurbocableServer.Foundations.Reachability

/-!
# Runs that come to an end

A system whose allowed steps all lower a rank cannot go on forever, and every
run of it can be continued to a state without allowed steps.  The ranks of the
parts of a system are added up; a step of one part then lowers the sum.  Where
the steps of one part make work for others, the ranks are compared one after the
other.
-/

namespace TurbocableServer.Foundations

universe u v w

variable {σ : Type u} {α : Type v} {β : Type w}
variable {step : σ → α → Option σ} {allowed : σ → α → Prop}

/-- No allowed step is enabled. -/
def Final (step : σ → α → Option σ) (allowed : σ → α → Prop) (s : σ) :
    Prop :=
  ∀ action, allowed s action → step s action = none

/-- One allowed step leads from `s` to `t`. -/
def Follows (step : σ → α → Option σ) (allowed : σ → α → Prop) (t s : σ) :
    Prop :=
  ∃ action, allowed s action ∧ step s action = some t

/-- If every allowed step keeps `holds` and lowers the rank, no run goes on
forever. -/
theorem acc_follows_of_rank [Preorder β] [WellFoundedLT β] {rank : σ → β}
    {holds : σ → Prop}
    (lowers :
      ∀ s action t,
        allowed s action → step s action = some t → holds s →
          holds t ∧ rank t < rank s)
    {s : σ} (initially : holds s) :
    Acc (Follows step allowed) s := by
  induction isRank : rank s using WellFoundedLT.induction generalizing s with
  | ind value ih =>
      apply Acc.intro
      rintro t ⟨action, guard, moved⟩
      obtain ⟨kept, lower⟩ := lowers s action t guard moved initially
      exact ih (rank t) (isRank ▸ lower) kept rfl

/-- Where no run goes on forever, a final state can be reached. -/
theorem exists_final_of_acc {s : σ} (ends : Acc (Follows step allowed) s) :
    ∃ t, Reaches step allowed s t ∧ Final step allowed t := by
  induction ends with
  | intro s _ ih =>
      by_cases final : Final step allowed s
      · exact ⟨s, Reaches.refl s, final⟩
      · unfold Final at final
        push Not at final
        obtain ⟨action, guard, enabled⟩ := final
        obtain ⟨next, moved⟩ := Option.ne_none_iff_exists'.mp enabled
        obtain ⟨t, run, isFinal⟩ := ih next ⟨action, guard, moved⟩
        exact ⟨t, ((Reaches.refl s).tail guard moved).trans run, isFinal⟩

/-- An `own` step leads from `s` to `t`, after any number of `other` steps. -/
def FollowsAmid (step : σ → α → Option σ) (own other : σ → α → Prop)
    (t s : σ) : Prop :=
  ∃ m, Reaches step other s m ∧ Follows step own t m

/-- If the own steps lower the rank and the others do not raise it, only
finitely many own steps are made, whatever happens in between. -/
theorem acc_followsAmid_of_rank [Preorder β] [WellFoundedLT β] {rank : σ → β}
    {own other : σ → α → Prop} {holds : σ → Prop}
    (keeps :
      ∀ s action t,
        other s action → step s action = some t → holds s →
          holds t ∧ rank t ≤ rank s)
    (lowers :
      ∀ s action t,
        own s action → step s action = some t → holds s →
          holds t ∧ rank t < rank s)
    {s : σ} (initially : holds s) :
    Acc (FollowsAmid step own other) s := by
  induction isRank : rank s using WellFoundedLT.induction generalizing s with
  | ind value ih =>
      apply Acc.intro
      rintro t ⟨m, run, action, guard, moved⟩
      have atMiddle : holds m ∧ rank m ≤ rank s := by
        have kept :
            ∀ source action target,
              other source action → step source action = some target →
                (holds source ∧ rank source ≤ rank s) →
                  holds target ∧ rank target ≤ rank s := by
          rintro source action target guard moved ⟨here, below⟩
          obtain ⟨there, lower⟩ := keeps source action target guard moved here
          exact ⟨there, lower.trans below⟩
        exact run.invariant kept ⟨initially, le_rfl⟩
      obtain ⟨kept, lower⟩ := lowers m action t guard moved atMiddle.1
      have isLower : rank t < value := by
        rw [← isRank]
        exact lower.trans_le atMiddle.2
      exact ih (rank t) isLower kept rfl

/-! ## Ranks of several parts -/

theorem lex_lt_of_fst {α : Type u} {β : Type v} [LT α] [LT β]
    {first first' : α} {rest rest' : β} (lower : first < first') :
    toLex (first, rest) < toLex (first', rest') :=
  Prod.Lex.toLex_lt_toLex.mpr (Or.inl lower)

theorem lex_lt_of_snd {α : Type u} {β : Type v} [LT α] [LT β]
    {first first' : α} {rest rest' : β} (same : first = first')
    (lower : rest < rest') :
    toLex (first, rest) < toLex (first', rest') :=
  Prod.Lex.toLex_lt_toLex.mpr (Or.inr ⟨same, lower⟩)

theorem sum_lt_sum_of_one {ι : Type v} {items : Finset ι}
    {before after : ι → Nat} {moved : ι} (member : moved ∈ items)
    (others : ∀ other, other ≠ moved → after other = before other)
    (lower : after moved < before moved) :
    ∑ item ∈ items, after item < ∑ item ∈ items, before item := by
  apply Finset.sum_lt_sum
  · intro item _
    by_cases same : item = moved
    · rw [same]
      exact Nat.le_of_lt lower
    · exact Nat.le_of_eq (others item same)
  · exact ⟨moved, member, lower⟩

theorem sum_map_set_lt {rank : β → Nat} {items : List β} {index : Nat}
    {before after : β} (present : items[index]? = some before)
    (lower : rank after < rank before) :
    ((items.set index after).map rank).sum < (items.map rank).sum := by
  induction items generalizing index with
  | nil => cases present
  | cons head tail ih =>
      cases index with
      | zero =>
          obtain rfl : head = before := Option.some.inj present
          simpa using lower
      | succ index => simpa using ih present

end TurbocableServer.Foundations
