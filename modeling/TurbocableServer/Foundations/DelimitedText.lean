import Mathlib.Data.Finmap
import Mathlib.Data.List.DropRight
import Mathlib.Data.List.TakeWhile

/-!
# Delimited text

Operations on text that is cut at separators: the first separator, the blanks
around a piece, decimal numbers below a limit, and maps collected from keyed
pieces.  Each comes with what it computes in terms of how the text was put
together.
-/

namespace TurbocableServer.Foundations.DelimitedText

universe u v

variable {α : Type u}

/-! ## The first separator -/

section SplitOnce

variable [DecidableEq α]

/-- The text before and after the first separator. -/
def splitOnce (separator : α) : List α → Option (List α × List α)
  | [] => none
  | head :: tail =>
      if head = separator then
        some ([], tail)
      else
        (splitOnce separator tail).map
          (fun (before, after) => (head :: before, after))

theorem splitOnce_append {separator : α} {before : List α}
    (absent : separator ∉ before) (after : List α) :
    splitOnce separator (before ++ separator :: after) =
      some (before, after) := by
  induction before with
  | nil => simp [splitOnce]
  | cons head tail ih =>
      have notHead : head ≠ separator := by
        rintro rfl
        exact absent List.mem_cons_self
      have notTail : separator ∉ tail := fun member =>
        absent (List.mem_cons_of_mem head member)
      rw [List.cons_append, splitOnce, if_neg notHead, ih notTail]
      rfl

theorem eq_append_of_splitOnce {separator : α} {text before after : List α}
    (isSplit : splitOnce separator text = some (before, after)) :
    text = before ++ separator :: after ∧ separator ∉ before := by
  induction text generalizing before with
  | nil => cases isSplit
  | cons head tail ih =>
      rw [splitOnce] at isSplit
      by_cases isSeparator : head = separator
      · rw [if_pos isSeparator] at isSplit
        cases isSplit
        exact ⟨by rw [isSeparator]; rfl, List.not_mem_nil⟩
      · rw [if_neg isSeparator] at isSplit
        obtain ⟨⟨front, rest⟩, isTail, isPair⟩ :=
          Option.map_eq_some_iff.mp isSplit
        cases isPair
        obtain ⟨rfl, absent⟩ := ih isTail
        refine ⟨rfl, ?_⟩
        intro member
        rcases List.mem_cons.mp member with isHead | inFront
        · exact isSeparator isHead.symm
        · exact absent inFront

end SplitOnce

/-! ## Blanks around a piece -/

section Blanks

variable (blank : α → Bool)

def trim (text : List α) : List α :=
  (text.dropWhile blank).rdropWhile blank

/-- The text is the piece with blanks around it. -/
def Padded (text piece : List α) : Prop :=
  ∃ before after, text = before ++ piece ++ after ∧
    (∀ item, item ∈ before → blank item = true) ∧
      ∀ item, item ∈ after → blank item = true

/-- The piece neither starts nor ends with a blank. -/
def Trimmed (piece : List α) : Prop :=
  (∀ item, item ∈ piece.head? → blank item = false) ∧
    ∀ item, item ∈ piece.getLast? → blank item = false

variable {blank} {text piece : List α}

theorem trimmed_of_forall
    (noBlank : ∀ item, item ∈ piece → blank item = false) :
    Trimmed blank piece :=
  ⟨fun item isHead => noBlank item (List.mem_of_mem_head? isHead),
    fun item isLast => noBlank item (List.mem_of_getLast? isLast)⟩

theorem padded_trim (text : List α) : Padded blank text (trim blank text) := by
  refine ⟨text.takeWhile blank, (text.dropWhile blank).rtakeWhile blank, ?_,
    fun item => List.mem_takeWhile_imp, fun item => List.mem_rtakeWhile_imp⟩
  rw [trim, List.append_assoc, List.rdropWhile_append_rtakeWhile,
    List.takeWhile_append_dropWhile]

theorem rdropWhile_append_of_pos {front after : List α}
    (allBlank : ∀ item, item ∈ after → blank item = true) :
    (front ++ after).rdropWhile blank = front.rdropWhile blank := by
  rw [List.rdropWhile, List.rdropWhile, List.reverse_append,
    List.dropWhile_append_of_pos]
  intro item member
  exact allBlank item (List.mem_reverse.mp member)

theorem trim_of_padded (trimmed : Trimmed blank piece)
    (padded : Padded blank text piece) : trim blank text = piece := by
  obtain ⟨before, after, rfl, blankBefore, blankAfter⟩ := padded
  obtain ⟨headNot, lastNot⟩ := trimmed
  rw [trim, List.append_assoc, List.dropWhile_append_of_pos blankBefore]
  cases piece with
  | nil =>
      rw [List.nil_append, List.dropWhile_eq_nil_iff.mpr blankAfter,
        List.rdropWhile_nil]
  | cons head tail =>
      have notBlank : ¬ blank head = true := by
        rw [headNot head rfl]
        exact Bool.false_ne_true
      rw [List.cons_append, List.dropWhile_cons_of_neg notBlank,
        ← List.cons_append, rdropWhile_append_of_pos blankAfter,
        List.rdropWhile_eq_self_iff]
      intro notNil
      have isLast := List.getLast?_eq_some_getLast notNil
      rw [lastNot _ isLast]
      exact Bool.false_ne_true

/-- What is neither a blank nor in the piece is not in the padded piece. -/
theorem Padded.not_mem (padded : Padded blank text piece) {item : α}
    (notBlank : blank item = false) (absent : item ∉ piece) : item ∉ text := by
  obtain ⟨before, after, rfl, blankBefore, blankAfter⟩ := padded
  intro member
  rcases List.mem_append.mp member with inFront | inAfter
  · rcases List.mem_append.mp inFront with inBefore | inPiece
    · have isBlank := blankBefore item inBefore
      rw [notBlank] at isBlank
      cases isBlank
    · exact absent inPiece
  · have isBlank := blankAfter item inAfter
    rw [notBlank] at isBlank
    cases isBlank

end Blanks

/-! ## Decimal numbers below a limit -/

/-- The value so far with the digits after it, as long as it stays below the
limit. -/
def accumulate (limit : Nat) : List Char → Nat → Option Nat
  | [], value => some value
  | digit :: digits, value =>
      if digit.isDigit = true ∧
          10 * value + (digit.toNat - '0'.toNat) < limit then
        accumulate limit digits (10 * value + (digit.toNat - '0'.toNat))
      else
        none

def withoutPlus : List Char → List Char
  | '+' :: digits => digits
  | digits => digits

/-- Digits after an optional plus sign, at least one. -/
def readNumeral (limit : Nat) (text : List Char) : Option Nat :=
  if withoutPlus text = [] then
    none
  else
    accumulate limit (withoutPlus text) 0

/-- The text is a numeral of the value, and the value is below the limit. -/
def Numeral (limit : Nat) (text : List Char) (value : Nat) : Prop :=
  ∃ digits, (text = digits ∨ text = '+' :: digits) ∧ digits ≠ [] ∧
    (∀ digit, digit ∈ digits → digit.isDigit = true) ∧
      Nat.ofDigitChars 10 digits 0 = value ∧ value < limit

theorem le_ofDigitChars (digits : List Char) (value : Nat) :
    value ≤ Nat.ofDigitChars 10 digits value := by
  induction digits generalizing value with
  | nil => rw [Nat.ofDigitChars_nil]
  | cons digit digits ih =>
      rw [Nat.ofDigitChars_cons]
      have later := ih
        (10 * value + (digit.toNat - '0'.toNat))
      omega

theorem accumulate_eq_some_iff {limit : Nat} {digits : List Char}
    {start value : Nat} (below : start < limit) :
    accumulate limit digits start = some value ↔
      (∀ digit, digit ∈ digits → digit.isDigit = true) ∧
        Nat.ofDigitChars 10 digits start = value ∧ value < limit := by
  induction digits generalizing start with
  | nil =>
      rw [accumulate, Nat.ofDigitChars_nil, Option.some.injEq]
      constructor
      · rintro rfl
        exact ⟨fun _ member => (by cases member), rfl, below⟩
      · rintro ⟨-, same, -⟩
        exact same
  | cons digit digits ih =>
      rw [accumulate, Nat.ofDigitChars_cons, List.forall_mem_cons]
      by_cases fits :
          digit.isDigit = true ∧
            10 * start + (digit.toNat - '0'.toNat) < limit
      · rw [if_pos fits, ih fits.2]
        constructor
        · rintro ⟨areDigits, isValue, inLimit⟩
          exact ⟨⟨fits.1, areDigits⟩, isValue, inLimit⟩
        · rintro ⟨⟨-, areDigits⟩, isValue, inLimit⟩
          exact ⟨areDigits, isValue, inLimit⟩
      · rw [if_neg fits]
        constructor
        · intro impossible
          cases impossible
        · rintro ⟨⟨isDigit, -⟩, isValue, inLimit⟩
          -- the value only grows, so it is beyond the limit already
          have grows := le_ofDigitChars digits
            (10 * start + (digit.toNat - '0'.toNat))
          have tooLarge := not_lt.mp (fun small => fits ⟨isDigit, small⟩)
          omega

/-- Digits are what is left of a text without its sign. -/
theorem eq_withoutPlus_iff {text digits : List Char}
    (areDigits : ∀ digit, digit ∈ digits → digit.isDigit = true) :
    (text = digits ∨ text = '+' :: digits) ↔ withoutPlus text = digits := by
  unfold withoutPlus
  split
  · rename_i rest
    constructor
    · rintro (isText | isText)
      · have isPlus := areDigits '+' (isText ▸ List.mem_cons_self)
        cases isPlus
      · exact (List.cons.inj isText).2
    · rintro rfl
      exact Or.inr rfl
  · rename_i noSign
    constructor
    · rintro (isText | isText)
      · exact isText
      · exact absurd isText (noSign digits)
    · intro isText
      exact Or.inl isText

theorem readNumeral_eq_some_iff {limit : Nat} (positive : 0 < limit)
    {text : List Char} {value : Nat} :
    readNumeral limit text = some value ↔ Numeral limit text value := by
  have isNumeral : Numeral limit text value ↔
      withoutPlus text ≠ [] ∧
        (∀ digit, digit ∈ withoutPlus text → digit.isDigit = true) ∧
          Nat.ofDigitChars 10 (withoutPlus text) 0 = value ∧ value < limit := by
    constructor
    · rintro ⟨digits, isText, notEmpty, areDigits, isValue⟩
      rw [(eq_withoutPlus_iff areDigits).mp isText]
      exact ⟨notEmpty, areDigits, isValue⟩
    · rintro ⟨notEmpty, areDigits, isValue⟩
      exact ⟨withoutPlus text, (eq_withoutPlus_iff areDigits).mpr rfl,
        notEmpty, areDigits, isValue⟩
  rw [isNumeral, readNumeral]
  by_cases isEmpty : withoutPlus text = []
  · simp [isEmpty]
  · rw [if_neg isEmpty, accumulate_eq_some_iff positive]
    exact ⟨fun found => ⟨isEmpty, found⟩, fun found => found.2⟩

theorem numeral_toDigits {limit value : Nat} (below : value < limit) :
    Numeral limit (Nat.toDigits 10 value) value := by
  refine ⟨Nat.toDigits 10 value, Or.inl rfl, Nat.toDigits_ne_nil, ?_,
    Nat.ofDigitChars_ten_toDigits, below⟩
  intro digit member
  exact Nat.isDigit_of_mem_toDigits (by omega) (by omega) member

theorem Numeral.isDigit_or_plus {limit value : Nat} {text : List Char}
    (numeral : Numeral limit text value) {character : Char}
    (member : character ∈ text) :
    character.isDigit = true ∨ character = '+' := by
  obtain ⟨digits, isText | isText, -, areDigits, -⟩ := numeral
  · exact Or.inl (areDigits character (isText ▸ member))
  · rw [isText] at member
    rcases List.mem_cons.mp member with isPlus | isDigit
    · exact Or.inr isPlus
    · exact Or.inl (areDigits character isDigit)

/-! ## Maps collected from pieces -/

section Collect

variable {κ : Type u} {ν : Type v} [DecidableEq κ]

/-- The map of keyed values; a later value replaces an earlier one. -/
def collect (pairs : List (κ × ν)) : AList (fun _ : κ => ν) :=
  pairs.foldl (fun map (key, value) => map.insert key value) ∅

theorem lookup_foldl_insert (pairs : List (κ × ν))
    (map : AList (fun _ : κ => ν)) (key : κ) :
    (pairs.foldl (fun map (key, value) => map.insert key value) map).lookup
        key =
      (pairs.reverse.lookup key).or (map.lookup key) := by
  induction pairs using List.reverseRecOn with
  | nil => simp
  | append_singleton pairs pair ih =>
      obtain ⟨last, value⟩ := pair
      rw [List.foldl_append, List.foldl_cons, List.foldl_nil,
        List.reverse_append, List.reverse_singleton, List.singleton_append,
        List.lookup_cons]
      by_cases same : key = last
      · subst same
        simp [AList.lookup_insert]
      · rw [AList.lookup_insert_ne same, ih,
          beq_eq_false_iff_ne.mpr same]

/-- The last value of a key wins. -/
theorem lookup_collect (pairs : List (κ × ν)) (key : κ) :
    (collect pairs).lookup key = pairs.reverse.lookup key := by
  rw [collect, lookup_foldl_insert, AList.lookup_empty, Option.or_none]

/-- Maps of two parts are joined, and the later part wins. -/
theorem toFinmap_collect_append (earlier later : List (κ × ν)) :
    (collect (earlier ++ later)).toFinmap =
      (collect later).toFinmap ∪ (collect earlier).toFinmap := by
  apply Finmap.ext_lookup
  intro key
  have joined :
      (collect (earlier ++ later)).lookup key =
        ((collect later).lookup key).or ((collect earlier).lookup key) := by
    rw [lookup_collect later, collect, List.foldl_append, lookup_foldl_insert]
    rfl
  rw [Finmap.lookup_toFinmap, joined]
  by_cases inLater : key ∈ (collect later).toFinmap
  · rw [Finmap.lookup_union_left inLater, Finmap.lookup_toFinmap]
    rw [← Finmap.lookup_isSome, Finmap.lookup_toFinmap] at inLater
    exact Option.or_of_isSome inLater
  · rw [Finmap.lookup_union_right inLater, Finmap.lookup_toFinmap]
    rw [← Finmap.lookup_isSome, Finmap.lookup_toFinmap,
      Option.not_isSome_iff_eq_none] at inLater
    rw [inLater, Option.none_or]

end Collect

end TurbocableServer.Foundations.DelimitedText
