import Mathlib.Data.List.Basic
import TurbocableServer.Foundations.TokenPatterns

/-!
# Subjects

The mapping between stream names and NATS subjects (`pubsub/nats.rs`), and the
selection of subjects by a consumer filter, which works on dot-separated tokens
with `*` and a trailing `>` as wildcards.
-/

namespace TurbocableServer.Pubsub

open Foundations

/-- `SUBJECT_PREFIX`. -/
def subjectPrefix : String := "TURBOCABLE."

/-- The subject of a stream, as built by `publish` and `replay_since`. -/
def subjectOf (streamName : String) : String :=
  subjectPrefix ++ streamName

/-- The stream name in a subject, and the subject itself when it has another
prefix. -/
def extractStreamName (subject : String) : String :=
  if subjectPrefix.toList.isPrefixOf subject.toList then
    String.ofList (subject.toList.drop subjectPrefix.toList.length)
  else
    subject

theorem extractStreamName_subjectOf (streamName : String) :
    extractStreamName (subjectOf streamName) = streamName := by
  have split :
      (subjectOf streamName).toList =
        subjectPrefix.toList ++ streamName.toList := by
    rw [subjectOf, String.toList_append]
  have isPrefix :
      subjectPrefix.toList.isPrefixOf (subjectOf streamName).toList =
        true := by
    rw [split, List.isPrefixOf_iff_prefix]
    exact List.prefix_append _ _
  rw [extractStreamName, if_pos isPrefix, split, List.drop_left,
    String.ofList_toList]

/-! ## Tokens -/

def tokens (subject : String) : List (List Char) :=
  subject.toList.splitOn '.'

theorem tokens_injective {left right : String}
    (same : tokens left = tokens right) : left = right := by
  have chars : left.toList = right.toList := by
    calc
      left.toList = ['.'].intercalate (tokens left) :=
        (List.intercalate_splitOn '.').symm
      _ = ['.'].intercalate (tokens right) := by rw [same]
      _ = right.toList := List.intercalate_splitOn '.'
  exact String.toList_injective chars

theorem tokens_ne_nil (subject : String) : tokens subject ≠ [] :=
  List.splitOnP_ne_nil _ _

theorem tokens_subjectOf (streamName : String) :
    tokens (subjectOf streamName) =
      "TURBOCABLE".toList :: tokens streamName := by
  have split :
      (subjectOf streamName).toList =
        "TURBOCABLE".toList ++ '.' :: streamName.toList := by
    rw [subjectOf, String.toList_append]
    rfl
  have noDot :
      ∀ letter, letter ∈ "TURBOCABLE".toList → (letter == '.') = false := by
    simp
  rw [tokens, split]
  exact List.splitOnP_append_cons_of_forall_mem noDot '.' (by decide) _

private theorem dot_not_mem_splitOn :
    ∀ (chars part : List Char), part ∈ chars.splitOn '.' → '.' ∉ part
  | [], part, member => by
      have empty : part = [] := by simpa using member
      simp [empty]
  | head :: chars, part, member => by
      have later := dot_not_mem_splitOn chars
      rw [List.splitOn_cons_eq_if_modifyHead] at member
      split at member
      · rcases List.mem_cons.mp member with same | inTail
        · simp [same]
        · exact later part inTail
      · rename_i notDot
        cases shape : chars.splitOn '.' with
        | nil =>
            exact absurd shape (List.splitOn_ne_nil _ _)
        | cons first others =>
            rw [shape] at later member
            rcases List.mem_cons.mp member with same | inTail
            · have plain := later first (List.mem_cons_self ..)
              rw [same, List.mem_cons]
              rintro (isHead | inFirst)
              · exact notDot (by rw [← isHead]; rfl)
              · exact plain inFirst
            · exact later part (List.mem_cons_of_mem first inTail)

theorem dot_not_mem_token {subject : String} {part : List Char}
    (member : part ∈ tokens subject) : '.' ∉ part :=
  dot_not_mem_splitOn subject.toList part member

/-- A subject given by its tokens. -/
theorem exists_tokens_eq {parts : List (List Char)}
    (nonempty : parts ≠ [])
    (noDot : ∀ part, part ∈ parts → '.' ∉ part) :
    ∃ subject, tokens subject = parts := by
  refine ⟨String.ofList (['.'].intercalate parts), ?_⟩
  rw [tokens, String.toList_ofList]
  exact List.splitOn_intercalate '.' noDot nonempty

/-! ## Filters -/

/-- A consumer with filter subject `filter` receives messages on `subject`. -/
def filterSelects (filter subject : String) : Bool :=
  TokenPattern.selects ['*'] ['>'] (tokens filter) (tokens subject)

/-- A stream name with a wildcard token. -/
def HasWildcard (streamName : String) : Prop :=
  TokenPattern.IsWild ['*'] ['>'] (tokens streamName)

instance (streamName : String) : Decidable (HasWildcard streamName) :=
  inferInstanceAs (Decidable (TokenPattern.IsWild _ _ _))

/-- A token of a subject that can be published to: not empty, no white space,
no wildcard. -/
def publishableToken (token : List Char) : Bool :=
  !token.isEmpty && token.all (fun char => !char.isWhitespace) &&
    token != ['*'] && token != ['>']

/-- Subjects of retained messages: those of the `TURBOCABLE` stream, whose
subject list is the prefix followed by `>`. -/
def storable (subject : String) : Bool :=
  filterSelects (subjectOf ">") subject &&
    (tokens subject).all publishableToken

theorem filterSelects_subjectOf (streamName tested : String) :
    filterSelects (subjectOf streamName) (subjectOf tested) =
      TokenPattern.selects ['*'] ['>'] (tokens streamName)
        (tokens tested) := by
  rw [filterSelects, tokens_subjectOf, tokens_subjectOf,
    TokenPattern.selects]
  simp

/-- What the filter of a stream name selects is the subject of a stream
name. -/
theorem exists_subjectOf_of_filterSelects {streamName subject : String}
    (selected : filterSelects (subjectOf streamName) subject = true) :
    ∃ tested, subject = subjectOf tested := by
  rw [filterSelects, tokens_subjectOf] at selected
  cases shape : tokens subject with
  | nil =>
      exact absurd shape (tokens_ne_nil subject)
  | cons first others =>
      rw [shape, TokenPattern.selects_cons_iff] at selected
      have notRest : "TURBOCABLE".toList ≠ ['>'] := by decide
      have notOne : "TURBOCABLE".toList ≠ ['*'] := by decide
      simp only [notRest, notOne, false_and, false_or] at selected
      obtain ⟨isPrefix, remainder⟩ := selected
      have someLeft : others ≠ [] := by
        intro none
        rw [none] at remainder
        cases names : tokens streamName with
        | nil =>
            exact tokens_ne_nil streamName names
        | cons name names' =>
            rw [names] at remainder
            cases remainder
      obtain ⟨tested, testedTokens⟩ :=
        exists_tokens_eq someLeft (fun part member =>
          dot_not_mem_token (shape ▸ List.mem_cons_of_mem first member))
      refine ⟨tested, tokens_injective ?_⟩
      rw [shape, tokens_subjectOf, testedTokens, isPrefix]

theorem storable_subjectOf_iff (streamName : String) :
    storable (subjectOf streamName) = true ↔
      (tokens streamName).all publishableToken = true := by
  have inStream :
      filterSelects (subjectOf ">") (subjectOf streamName) = true := by
    rw [filterSelects_subjectOf]
    cases shape : tokens streamName with
    | nil =>
        exact absurd shape (tokens_ne_nil streamName)
    | cons first others =>
        rfl
  have literal : publishableToken "TURBOCABLE".toList = true := by decide
  rw [storable, inStream, tokens_subjectOf, List.all_cons, literal]
  simp

/-- A filter without wildcards selects the subject it is built from and no
other. -/
theorem filterSelects_plain_iff {streamName : String}
    (plain : ¬ HasWildcard streamName) (subject : String) :
    filterSelects (subjectOf streamName) subject = true ↔
      subject = subjectOf streamName := by
  constructor
  · intro selected
    obtain ⟨tested, rfl⟩ := exists_subjectOf_of_filterSelects selected
    rw [filterSelects_subjectOf, TokenPattern.selects_iff_eq plain]
      at selected
    rw [tokens_injective selected]
  · rintro rfl
    rw [filterSelects_subjectOf, TokenPattern.selects_iff_eq plain]

/-- A filter with a wildcard that selects a storable subject selects another
one as well. -/
theorem exists_other_storable {streamName subject : String}
    (wild : HasWildcard streamName)
    (selected : filterSelects (subjectOf streamName) subject = true)
    (canStore : storable subject = true) :
    ∃ other,
      other ≠ subject ∧ storable other = true ∧
        filterSelects (subjectOf streamName) other = true := by
  obtain ⟨tested, rfl⟩ := exists_subjectOf_of_filterSelects selected
  rw [filterSelects_subjectOf] at selected
  rw [storable_subjectOf_iff, List.all_eq_true] at canStore
  have different : ['a'] ≠ ['b'] := by decide
  obtain ⟨parts, isOther, selectedParts, fromTokens⟩ :=
    TokenPattern.exists_selects_ne different wild selected
  have nonempty : parts ≠ [] := by
    rintro rfl
    cases names : tokens streamName with
    | nil =>
        exact tokens_ne_nil streamName names
    | cons name names' =>
        rw [names] at selectedParts
        cases selectedParts
  have noDot : ∀ part, part ∈ parts → '.' ∉ part := by
    intro part member
    rcases fromTokens part member with before | rfl | rfl
    · exact dot_not_mem_token before
    · decide
    · decide
  obtain ⟨other, otherTokens⟩ := exists_tokens_eq nonempty noDot
  refine ⟨subjectOf other, ?_, ?_, ?_⟩
  · intro same
    apply isOther
    have sameTokens := congrArg tokens same
    rw [tokens_subjectOf, tokens_subjectOf, otherTokens] at sameTokens
    exact (List.cons.inj sameTokens).2
  · rw [storable_subjectOf_iff, otherTokens, List.all_eq_true]
    intro part member
    rcases fromTokens part member with before | rfl | rfl
    · exact canStore part before
    · decide
    · decide
  · rw [filterSelects_subjectOf, otherTokens]
    exact selectedParts

end TurbocableServer.Pubsub
