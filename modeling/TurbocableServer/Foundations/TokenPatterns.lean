import Mathlib.Data.List.Basic

/-!
# Token patterns

Names and patterns as lists of tokens.  In a pattern one token stands for any
single token, and another one, in last place, for any non-empty remainder; all
others stand for themselves.
-/

namespace TurbocableServer.Foundations.TokenPattern

universe u

variable {τ : Type u} [DecidableEq τ] (one rest : τ)

/-- Token-wise matching. -/
def selects : List τ → List τ → Bool
  | [], tokens => tokens.isEmpty
  | _ :: _, [] => false
  | pattern :: patterns, token :: tokens =>
      (pattern == rest && patterns.isEmpty) ||
        ((pattern == one || pattern == token) && selects patterns tokens)

/-- The pattern has a token that does not stand for itself. -/
def IsWild (pattern : List τ) : Prop :=
  one ∈ pattern ∨ pattern.getLast? = some rest

instance (pattern : List τ) : Decidable (IsWild one rest pattern) :=
  inferInstanceAs (Decidable (_ ∨ _))

variable {one rest}

theorem selects_cons_iff
    {pattern token : τ} {patterns tokens : List τ} :
    selects one rest (pattern :: patterns) (token :: tokens) = true ↔
      (pattern = rest ∧ patterns = []) ∨
        ((pattern = one ∨ pattern = token) ∧
          selects one rest patterns tokens = true) := by
  simp [selects]

omit [DecidableEq τ] in
theorem IsWild.of_cons {pattern : τ} {patterns : List τ}
    (wild : IsWild one rest (pattern :: patterns)) :
    pattern = one ∨ (pattern = rest ∧ patterns = []) ∨
      IsWild one rest patterns := by
  rcases wild with member | last
  · rcases List.mem_cons.mp member with same | later
    · exact Or.inl same.symm
    · exact Or.inr (Or.inr (Or.inl later))
  · cases patterns with
    | nil =>
        exact Or.inr (Or.inl ⟨by simpa using last, rfl⟩)
    | cons second others =>
        rw [List.getLast?_cons_cons] at last
        exact Or.inr (Or.inr (Or.inr last))

omit [DecidableEq τ] in
theorem not_isWild_cons {pattern : τ} {patterns : List τ}
    (plain : ¬ IsWild one rest (pattern :: patterns)) :
    pattern ≠ one ∧ ¬ (pattern = rest ∧ patterns = []) ∧
      ¬ IsWild one rest patterns := by
  refine ⟨?_, ?_, ?_⟩
  · intro same
    exact plain (Or.inl (by simp [same]))
  · rintro ⟨same, none⟩
    exact plain (Or.inr (by simp [same, none]))
  · rintro (member | last)
    · exact plain (Or.inl (List.mem_cons_of_mem pattern member))
    · refine plain (Or.inr ?_)
      cases patterns with
      | nil =>
          cases last
      | cons second others =>
          rw [List.getLast?_cons_cons]
          exact last

/-- A pattern without wildcards selects itself and nothing else. -/
theorem selects_iff_eq {pattern : List τ}
    (plain : ¬ IsWild one rest pattern) :
    ∀ tokens, selects one rest pattern tokens = true ↔ tokens = pattern := by
  induction pattern with
  | nil =>
      intro tokens
      simp [selects]
  | cons head patterns ih =>
      obtain ⟨notOne, notRest, plainTail⟩ := not_isWild_cons plain
      intro tokens
      cases tokens with
      | nil =>
          simp [selects]
      | cons token tokens =>
          rw [selects_cons_iff, ih plainTail,
            List.cons.injEq]
          simp only [notRest, notOne, false_or]
          rw [eq_comm]

/-- A wildcard selects more than one name: what it stands for can be exchanged
for one of two given tokens. -/
theorem exists_selects_ne {left right : τ} (different : left ≠ right) :
    ∀ {pattern tokens : List τ},
      IsWild one rest pattern → selects one rest pattern tokens = true →
        ∃ other,
          other ≠ tokens ∧ selects one rest pattern other = true ∧
            ∀ token, token ∈ other →
              token ∈ tokens ∨ token = left ∨ token = right
  | [], tokens, wild, _ => by
      rcases wild with member | last
      · cases member
      · cases last
  | _ :: _, [], _, selected => by
      cases selected
  | pattern :: patterns, token :: tokens, wild, selected => by
      by_cases whole : pattern = rest ∧ patterns = []
      · refine ⟨token :: tokens ++ [left], ?_, ?_, ?_⟩
        · simp
        · exact selects_cons_iff.mpr (Or.inl whole)
        · intro tested member
          simp only [List.mem_append, List.mem_singleton] at member
          tauto
      · obtain ⟨head, tail⟩ :=
          (selects_cons_iff.mp selected).resolve_left whole
        rcases wild.of_cons with isOne | isRest | wildTail
        · obtain ⟨fresh, isFresh, choice⟩ :
              ∃ fresh, fresh ≠ token ∧ (fresh = left ∨ fresh = right) := by
            by_cases same : token = left
            · exact ⟨right, by rw [same]; exact different.symm, Or.inr rfl⟩
            · exact ⟨left, fun equal => same equal.symm, Or.inl rfl⟩
          refine ⟨fresh :: tokens, ?_, ?_, ?_⟩
          · simp [isFresh]
          · exact selects_cons_iff.mpr (Or.inr ⟨Or.inl isOne, tail⟩)
          · intro tested member
            rcases List.mem_cons.mp member with same | later
            · rw [same]
              exact Or.inr choice
            · exact Or.inl (List.mem_cons_of_mem token later)
        · exact absurd isRest whole
        · obtain ⟨other, isOther, selectedOther, fromTokens⟩ :=
            exists_selects_ne different wildTail tail
          refine ⟨token :: other, ?_, ?_, ?_⟩
          · simp [isOther]
          · exact selects_cons_iff.mpr (Or.inr ⟨head, selectedOther⟩)
          · intro tested member
            rcases List.mem_cons.mp member with same | later
            · exact Or.inl (by simp [same])
            · rcases fromTokens tested later with before | added
              · exact Or.inl (List.mem_cons_of_mem token before)
              · exact Or.inr added

end TurbocableServer.Foundations.TokenPattern
