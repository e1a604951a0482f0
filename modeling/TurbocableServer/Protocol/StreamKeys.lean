import Mathlib.Data.List.Infix
import TurbocableServer.Protocol.Types

/-!
# Stream keys

`stream_key_from_identifier` decodes the `stream` member of an identifier and
then looks for the decoded text in the identifier again.  The slice it takes is
always within the identifier and between characters, and it is the decoded text
whenever this text occurs at all.
-/

namespace TurbocableServer.Protocol

@[simp]
theorem utf8Len_cons (head : Char) (tail : List Char) :
    utf8Len (head :: tail) = head.utf8Size + utf8Len tail := by
  simp [utf8Len]

@[simp]
theorem utf8Len_append (left right : List Char) :
    utf8Len (left ++ right) = utf8Len left + utf8Len right := by
  simp [utf8Len]

/-! ## Searching -/

/-- A search that succeeds has found an occurrence. -/
theorem findFrom_eq_some {needle : List Char} {start : Nat} :
    ∀ {text : List Char} {offset : Nat},
      findFrom needle text offset = some start →
        ∃ before after,
          text = before ++ (needle ++ after) ∧
            start = offset + utf8Len before
  | [], offset, found => by
      rw [findFrom] at found
      split at found
      · rename_i isPrefix
        obtain ⟨after, isText⟩ := List.isPrefixOf_iff_prefix.mp isPrefix
        refine ⟨[], after, isText.symm, ?_⟩
        exact (Option.some.inj found).symm
      · cases found
  | head :: tail, offset, found => by
      rw [findFrom] at found
      split at found
      · rename_i isPrefix
        obtain ⟨after, isText⟩ := List.isPrefixOf_iff_prefix.mp isPrefix
        refine ⟨[], after, isText.symm, ?_⟩
        exact (Option.some.inj found).symm
      · obtain ⟨before, after, isTail, isStart⟩ := findFrom_eq_some found
        refine ⟨head :: before, after, ?_, ?_⟩
        · rw [List.cons_append, isTail]
        · rw [isStart, utf8Len_cons, Nat.add_assoc]

/-- A search that fails means that there is no occurrence. -/
theorem findFrom_eq_none {needle : List Char} :
    ∀ {text : List Char} {offset : Nat},
      findFrom needle text offset = none → ¬ needle <:+: text
  | [], offset, missing => by
      rw [findFrom] at missing
      split at missing
      · cases missing
      · rename_i noPrefix
        rw [List.infix_nil]
        rintro rfl
        exact noPrefix rfl
  | head :: tail, offset, missing => by
      rw [findFrom] at missing
      split at missing
      · cases missing
      · rename_i noPrefix
        rw [List.infix_cons_iff, not_or]
        refine ⟨fun isPrefix => noPrefix ?_, findFrom_eq_none missing⟩
        exact List.isPrefixOf_iff_prefix.mpr isPrefix

theorem findFrom_isSome_iff {needle text : List Char} {offset : Nat} :
    (findFrom needle text offset).isSome ↔ needle <:+: text := by
  cases found : findFrom needle text offset with
  | none =>
      simp [findFrom_eq_none found]
  | some start =>
      obtain ⟨before, after, isText, -⟩ := findFrom_eq_some found
      simp only [Option.isSome_some, true_iff]
      exact ⟨before, after, by rw [isText, List.append_assoc]⟩

/-! ## Slicing -/

/-- The byte offset lies between two characters, or at an end. -/
def IsCharBoundary (text : List Char) (offset : Nat) : Prop :=
  ∃ before after, text = before ++ after ∧ offset = utf8Len before

theorem sliceFrom_of_stop_le {start stop : Nat} :
    ∀ {text : List Char} {offset : Nat},
      stop ≤ offset → sliceFrom start stop text offset = []
  | [], _, _ => rfl
  | head :: tail, offset, past => by
      rw [sliceFrom, if_neg (fun inside => Nat.not_lt_of_le past inside.2)]
      exact sliceFrom_of_stop_le (Nat.le_trans past (Nat.le_add_right _ _))

theorem sliceFrom_append_of_le_start {start stop : Nat} {text : List Char} :
    ∀ {before : List Char} {offset : Nat},
      offset + utf8Len before ≤ start →
        sliceFrom start stop (before ++ text) offset =
          sliceFrom start stop text (offset + utf8Len before)
  | [], _, _ => rfl
  | head :: before, offset, early => by
      have positive := head.utf8Size_pos
      rw [utf8Len_cons] at early
      have outside : ¬ (start ≤ offset ∧ offset < stop) := by omega
      rw [List.cons_append, sliceFrom, if_neg outside,
        sliceFrom_append_of_le_start (by omega), utf8Len_cons, Nat.add_assoc]

theorem sliceFrom_append_of_stop {start : Nat} {after : List Char} :
    ∀ {needle : List Char} {offset : Nat},
      start ≤ offset →
        sliceFrom start (offset + utf8Len needle) (needle ++ after) offset =
          needle
  | [], offset, _ => sliceFrom_of_stop_le (Nat.le_refl _)
  | head :: needle, offset, started => by
      have positive := head.utf8Size_pos
      rw [List.cons_append, sliceFrom, utf8Len_cons,
        if_pos ⟨started, by omega⟩, ← Nat.add_assoc,
        sliceFrom_append_of_stop (Nat.le_trans started (Nat.le_add_right _ _))]

/-- Slicing at an occurrence gives the text that was found. -/
theorem sliceFrom_occurrence (before needle after : List Char) :
    sliceFrom (utf8Len before) (utf8Len before + utf8Len needle)
        (before ++ (needle ++ after)) 0 =
      needle := by
  rw [sliceFrom_append_of_le_start (Nat.le_of_eq (Nat.zero_add _)),
    Nat.zero_add]
  exact sliceFrom_append_of_stop (Nat.le_refl _)

/-! ## The key of an identifier -/

/-- The `stream` member of the parsed identifier, where it is a string. -/
def decodedStream (fromStr : String → Option Json) (identifier : String) :
    Option String :=
  (fromStr identifier).bind
    (fun value => (value.get "stream").bind Json.asStr)

/-- The documented key: the `stream` value when present, otherwise the raw
identifier. -/
def documentedKey (fromStr : String → Option Json) (identifier : String) :
    String :=
  (decodedStream fromStr identifier).getD identifier

/-- The decoded name, where there is one, can be read off the identifier as it
is written. -/
def WrittenLiterally (fromStr : String → Option Json) (identifier : String) :
    Prop :=
  ∀ name, decodedStream fromStr identifier = some name →
    name.toList <:+: identifier.toList

/-- Both ends of the slice that is taken are character boundaries of the
identifier. -/
def SlicesSafely (fromStr : String → Option Json) (identifier : String) :
    Prop :=
  ∀ name start,
    decodedStream fromStr identifier = some name →
    findFrom name.toList identifier.toList 0 = some start →
      IsCharBoundary identifier.toList start ∧
        IsCharBoundary identifier.toList (start + utf8Len name.toList)

theorem slicesSafely (fromStr : String → Option Json) (identifier : String) :
    SlicesSafely fromStr identifier := by
  intro name start _ found
  obtain ⟨before, after, isText, isStart⟩ := findFrom_eq_some found
  rw [Nat.zero_add] at isStart
  refine ⟨⟨before, name.toList ++ after, isText, isStart⟩,
    ⟨before ++ name.toList, after, ?_, ?_⟩⟩
  · rw [isText, List.append_assoc]
  · rw [isStart, utf8Len_append]

theorem streamKeyFromIdentifier_of_none
    {fromStr : String → Option Json} {identifier : String}
    (absent : decodedStream fromStr identifier = none) :
    streamKeyFromIdentifier fromStr identifier = identifier := by
  rw [decodedStream] at absent
  rw [streamKeyFromIdentifier, absent]

/-- What the search and the slice give together: the name if it occurs, and the
whole identifier if it does not. -/
theorem streamKeyFromIdentifier_of_some
    {fromStr : String → Option Json} {identifier name : String}
    (decoded : decodedStream fromStr identifier = some name) :
    (name.toList <:+: identifier.toList ∧
        streamKeyFromIdentifier fromStr identifier = name) ∨
      (¬ name.toList <:+: identifier.toList ∧
        streamKeyFromIdentifier fromStr identifier = identifier) := by
  rw [decodedStream] at decoded
  cases found : findFrom name.toList identifier.toList 0 with
  | none =>
      right
      refine ⟨findFrom_eq_none found, ?_⟩
      simp only [streamKeyFromIdentifier, decoded, found]
  | some start =>
      left
      have occurs : name.toList <:+: identifier.toList :=
        findFrom_isSome_iff.mp (Option.isSome_of_eq_some found)
      obtain ⟨before, after, isText, isStart⟩ := findFrom_eq_some found
      rw [Nat.zero_add] at isStart
      refine ⟨occurs, ?_⟩
      simp only [streamKeyFromIdentifier, decoded, found]
      rw [isStart, isText, sliceFrom_occurrence, String.ofList_toList]

theorem streamKeyFromIdentifier_eq_documentedKey_iff
    (fromStr : String → Option Json) (identifier : String) :
    streamKeyFromIdentifier fromStr identifier =
        documentedKey fromStr identifier ↔
      WrittenLiterally fromStr identifier := by
  cases decoded : decodedStream fromStr identifier with
  | none =>
      have noName : WrittenLiterally fromStr identifier := by
        intro name isName
        rw [decoded] at isName
        cases isName
      rw [streamKeyFromIdentifier_of_none decoded, documentedKey, decoded]
      exact iff_of_true rfl noName
  | some name =>
      have literal_iff : WrittenLiterally fromStr identifier ↔
          name.toList <:+: identifier.toList := by
        simp [WrittenLiterally, decoded]
      rw [literal_iff, documentedKey, decoded, Option.getD_some]
      rcases streamKeyFromIdentifier_of_some decoded with
        ⟨occurs, isKey⟩ | ⟨missing, isKey⟩
      · exact iff_of_true isKey occurs
      · refine iff_of_false ?_ missing
        -- an identifier equal to the name would contain it
        rw [isKey]
        intro isName
        exact missing (isName ▸ List.infix_refl _)

/-- The key is extracted as documented: no slice panics, and the key is the
decoded `stream` value when present and the identifier otherwise. -/
def KeyFaithful (fromStr : String → Option Json) (identifier : String) : Prop :=
  SlicesSafely fromStr identifier ∧
    streamKeyFromIdentifier fromStr identifier =
      documentedKey fromStr identifier

theorem keyFaithful_iff (fromStr : String → Option Json) (identifier : String) :
    KeyFaithful fromStr identifier ↔ WrittenLiterally fromStr identifier := by
  rw [KeyFaithful, streamKeyFromIdentifier_eq_documentedKey_iff]
  exact and_iff_right (slicesSafely fromStr identifier)

/-- Two texts of one value have one key. -/
def SameValueSameKey
    (fromStr : String → Option Json) (left right : String) : Prop :=
  ∀ value,
    fromStr left = some value →
    fromStr right = some value →
      streamKeyFromIdentifier fromStr left =
        streamKeyFromIdentifier fromStr right

/-- The two identifiers are not different texts of one value that names no
stream. -/
def NamelessOnce
    (fromStr : String → Option Json) (left right : String) : Prop :=
  ∀ value,
    fromStr left = some value →
    fromStr right = some value →
    (value.get "stream").bind Json.asStr = none →
      left = right

/-- Faithful keys agree on the texts of a value that names a stream.  Otherwise
the key is the text itself. -/
theorem sameValueSameKey_iff_of_faithful
    {fromStr : String → Option Json} {left right : String}
    (leftFaithful : KeyFaithful fromStr left)
    (rightFaithful : KeyFaithful fromStr right) :
    SameValueSameKey fromStr left right ↔ NamelessOnce fromStr left right := by
  have keyOf {identifier : String} {value : Json}
      (faithful : KeyFaithful fromStr identifier)
      (parsed : fromStr identifier = some value) :
      streamKeyFromIdentifier fromStr identifier =
        ((value.get "stream").bind Json.asStr).getD identifier := by
    rw [faithful.2, documentedKey, decodedStream, parsed, Option.bind_some]
  constructor
  · intro same value parsedLeft parsedRight nameless
    have keys := same value parsedLeft parsedRight
    rw [keyOf leftFaithful parsedLeft, keyOf rightFaithful parsedRight,
      nameless] at keys
    exact keys
  · intro once value parsedLeft parsedRight
    rw [keyOf leftFaithful parsedLeft, keyOf rightFaithful parsedRight]
    cases named : (value.get "stream").bind Json.asStr with
    | none => exact once value parsedLeft parsedRight named
    | some name => rfl

/-- Keys are extracted as documented and agree on texts of one value exactly for
identifiers that spell the decoded stream name out, if they are not different
texts of one value without a name. -/
theorem stream_keys_faithful_iff
    (fromStr : String → Option Json) (left right : String) :
    (KeyFaithful fromStr left ∧ KeyFaithful fromStr right ∧
        SameValueSameKey fromStr left right) ↔
      WrittenLiterally fromStr left ∧ WrittenLiterally fromStr right ∧
        NamelessOnce fromStr left right := by
  rw [← keyFaithful_iff, ← keyFaithful_iff]
  constructor
  · rintro ⟨leftFaithful, rightFaithful, same⟩
    exact ⟨leftFaithful, rightFaithful,
      (sameValueSameKey_iff_of_faithful leftFaithful rightFaithful).mp same⟩
  · rintro ⟨leftFaithful, rightFaithful, once⟩
    exact ⟨leftFaithful, rightFaithful,
      (sameValueSameKey_iff_of_faithful leftFaithful rightFaithful).mpr once⟩

/-! ## An escaped name -/

/-- A name with a letter outside ASCII, written with an escape. -/
def escapedIdentifier : String :=
  "\x7b\"stream\":\"\\u00e9\"\x7d"

/-- The same value, the letter written as itself. -/
def plainIdentifier : String :=
  "\x7b\"stream\":\"é\"\x7d"

/-- The value that both texts stand for. -/
def parseAccented (text : String) : Option Json :=
  if text = escapedIdentifier ∨ text = plainIdentifier then
    some (.object [("stream", .string "é")])
  else
    none

theorem escaped_name_keeps_identifier :
    parseAccented escapedIdentifier = parseAccented plainIdentifier ∧
      decodedStream parseAccented escapedIdentifier = some "é" ∧
      streamKeyFromIdentifier parseAccented escapedIdentifier =
        escapedIdentifier ∧
      streamKeyFromIdentifier parseAccented plainIdentifier = "é" ∧
      ¬ KeyFaithful parseAccented escapedIdentifier ∧
      ¬ SameValueSameKey parseAccented escapedIdentifier plainIdentifier := by
  have escapedValue :
      parseAccented escapedIdentifier =
        some (.object [("stream", .string "é")]) :=
    if_pos (Or.inl rfl)
  have plainValue :
      parseAccented plainIdentifier =
        some (.object [("stream", .string "é")]) :=
    if_pos (Or.inr rfl)
  have escapedName :
      decodedStream parseAccented escapedIdentifier = some "é" := by
    rw [decodedStream, escapedValue]
    rfl
  have plainName : decodedStream parseAccented plainIdentifier = some "é" := by
    rw [decodedStream, plainValue]
    rfl
  have missing : ¬ "é".toList <:+: escapedIdentifier.toList := by
    decide
  have occurs : "é".toList <:+: plainIdentifier.toList := by
    decide
  have escapedKey :
      streamKeyFromIdentifier parseAccented escapedIdentifier =
        escapedIdentifier :=
    ((streamKeyFromIdentifier_of_some escapedName).resolve_left
      (fun found => missing found.1)).2
  have plainKey :
      streamKeyFromIdentifier parseAccented plainIdentifier = "é" :=
    ((streamKeyFromIdentifier_of_some plainName).resolve_right
      (fun lost => lost.1 occurs)).2
  refine ⟨escapedValue.trans plainValue.symm, escapedName, escapedKey,
    plainKey, ?_, ?_⟩
  · rw [keyFaithful_iff]
    intro literal
    exact missing (literal "é" escapedName)
  · intro same
    have keys :=
      same (.object [("stream", .string "é")]) escapedValue plainValue
    rw [escapedKey, plainKey] at keys
    exact absurd keys (by decide)

end TurbocableServer.Protocol
