import TurbocableServer.Foundations.DelimitedText

/-!
# Rates of streams in the configuration

`Config::parse_stream_rate_overrides` of `config.rs`: pairs `name=rps:burst`
separated by semicolons, with whitespace around names and numbers.  What is not
of this form is skipped.
-/

namespace TurbocableServer.Config

open Foundations.DelimitedText

/-! ## The parser -/

/-- `char::is_whitespace`, the Unicode property `White_Space`. -/
def isWhitespace (character : Char) : Bool :=
  let code := character.toNat
  (0x9 ≤ code && code ≤ 0xd) || code == 0x20 || code == 0x85 || code == 0xa0 ||
    code == 0x1680 || (0x2000 ≤ code && code ≤ 0x200a) || code == 0x2028 ||
    code == 0x2029 || code == 0x202f || code == 0x205f || code == 0x3000

/-- `str::parse::<u64>`. -/
def parseU64 (text : List Char) : Option UInt64 :=
  (readNumeral (2 ^ 64) text).map UInt64.ofNat

/-- The closure of the `filter_map`. -/
def parseEntry (entry : List Char) : Option (String × UInt64 × UInt64) := do
  let (name, rest) ← splitOnce '=' entry
  let (rpsText, burstText) ← splitOnce ':' rest
  let rps ← parseU64 (trim isWhitespace rpsText)
  let burst ← parseU64 (trim isWhitespace burstText)
  some (String.ofList (trim isWhitespace name), rps, burst)

/-- Rates and bursts by stream. -/
abbrev StreamRates :=
  AList (fun _ : String => UInt64 × UInt64)

def parseStreamRateOverrides (overrides : String) : StreamRates :=
  if overrides = "" then
    ∅
  else
    collect ((overrides.toList.splitOn ';').filterMap parseEntry)

/-! ## Entries -/

theorem parseU64_eq_some_iff {text : List Char} {value : UInt64} :
    parseU64 text = some value ↔ Numeral (2 ^ 64) text value.toNat := by
  rw [← readNumeral_eq_some_iff (by omega), parseU64, Option.map_eq_some_iff]
  constructor
  · rintro ⟨number, isRead, rfl⟩
    obtain ⟨-, -, -, -, -, below⟩ :=
      (readNumeral_eq_some_iff (by omega)).mp isRead
    rw [isRead, UInt64.toNat_ofNat_of_lt' below]
  · intro isRead
    exact ⟨value.toNat, isRead, UInt64.ofNat_toNat⟩

theorem parseEntry_eq_some_iff {entry : List Char} {name : String}
    {rps burst : UInt64} :
    parseEntry entry = some (name, rps, burst) ↔
      ∃ nameText rpsText burstText,
        entry = nameText ++ '=' :: (rpsText ++ ':' :: burstText) ∧
          '=' ∉ nameText ∧ ':' ∉ rpsText ∧
          parseU64 (trim isWhitespace rpsText) = some rps ∧
          parseU64 (trim isWhitespace burstText) = some burst ∧
          String.ofList (trim isWhitespace nameText) = name := by
  constructor
  · intro isParsed
    simp only [parseEntry, Option.bind_eq_bind, Option.bind_eq_some_iff]
      at isParsed
    obtain ⟨⟨nameText, rest⟩, atEquals, ⟨rpsText, burstText⟩, atColon, foundRps,
      isRps, foundBurst, isBurst, same⟩ := isParsed
    obtain ⟨rfl, noEquals⟩ := eq_append_of_splitOnce atEquals
    obtain ⟨rfl, noColon⟩ := eq_append_of_splitOnce atColon
    cases same
    exact ⟨nameText, rpsText, burstText, rfl, noEquals, noColon, isRps, isBurst,
      rfl⟩
  · rintro ⟨nameText, rpsText, burstText, rfl, noEquals, noColon, isRps, isBurst,
      rfl⟩
    simp [parseEntry, splitOnce_append noEquals, splitOnce_append noColon,
      isRps, isBurst]

theorem isWhitespace_eq_false_of_isDigit {character : Char}
    (isDigit : character.isDigit = true) : isWhitespace character = false := by
  have range : 48 ≤ character.toNat ∧ character.toNat ≤ 57 :=
    Char.isDigit_iff_toNat.mp isDigit
  simp only [isWhitespace, Bool.or_eq_false_iff, Bool.and_eq_false_iff,
    decide_eq_false_iff_not, beq_eq_false_iff_ne]
  omega

theorem trimmed_of_numeral {limit value : Nat} {text : List Char}
    (numeral : Numeral limit text value) : Trimmed isWhitespace text := by
  apply trimmed_of_forall
  intro character member
  rcases numeral.isDigit_or_plus member with isDigit | rfl
  · exact isWhitespace_eq_false_of_isDigit isDigit
  · rfl

/-- A padded numeral is parsed as its value. -/
theorem parseU64_trim {text piece : List Char} {value : UInt64}
    (padded : Padded isWhitespace text piece)
    (numeral : Numeral (2 ^ 64) piece value.toNat) :
    parseU64 (trim isWhitespace text) = some value := by
  rw [trim_of_padded (trimmed_of_numeral numeral) padded]
  exact parseU64_eq_some_iff.mpr numeral

/-! ## The format -/

/-- The text is `name=rps:burst`, with whitespace around the name and the
numbers. -/
def Prints (entry : String × UInt64 × UInt64) (text : List Char) : Prop :=
  ∃ name rps burst, text = name ++ '=' :: (rps ++ ':' :: burst) ∧
    Padded isWhitespace name entry.1.toList ∧
    Padded isWhitespace rps entry.2.1.toNat.repr.toList ∧
    Padded isWhitespace burst entry.2.2.toNat.repr.toList

/-- Names that can be written down. -/
structure Printable (name : String) : Prop where
  noSemicolon : ';' ∉ name.toList
  noEquals : '=' ∉ name.toList
  trimmed : Trimmed isWhitespace name.toList

/-- The text is an entry: a name without `=` and two numbers of 64 bits, with
whitespace around the numbers. -/
def WellFormed (text : List Char) : Prop :=
  ∃ name rps burst, text = name ++ '=' :: (rps ++ ':' :: burst) ∧ '=' ∉ name ∧
    (∃ piece value, Padded isWhitespace rps piece ∧
      Numeral (2 ^ 64) piece value) ∧
    ∃ piece value, Padded isWhitespace burst piece ∧
      Numeral (2 ^ 64) piece value

/-- The pieces are the entries in order, with malformed ones in between. -/
inductive Printout :
    List (String × UInt64 × UInt64) → List String → Prop
  | nil : Printout [] []
  | entry {entry : String × UInt64 × UInt64} {text : String}
      {entries : List (String × UInt64 × UInt64)} {pieces : List String}
      (printable : Printable entry.1) (prints : Prints entry text.toList)
      (later : Printout entries pieces) :
      Printout (entry :: entries) (text :: pieces)
  | malformed {text : String}
      {entries : List (String × UInt64 × UInt64)} {pieces : List String}
      (onePiece : ';' ∉ text.toList) (malformed : ¬ WellFormed text.toList)
      (later : Printout entries pieces) :
      Printout entries (text :: pieces)

theorem numeral_repr (value : UInt64) :
    Numeral (2 ^ 64) value.toNat.repr.toList value.toNat := by
  rw [Nat.toList_repr]
  exact numeral_toDigits value.toNat_lt

/-- A separator is in no padded numeral. -/
theorem not_mem_of_padded_numeral {text piece : List Char}
    {limit value : Nat} (padded : Padded isWhitespace text piece)
    (numeral : Numeral limit piece value) {separator : Char}
    (notBlank : isWhitespace separator = false)
    (notDigit : separator.isDigit = false) (notPlus : separator ≠ '+') :
    separator ∉ text := by
  apply padded.not_mem notBlank
  intro member
  rcases numeral.isDigit_or_plus member with isDigit | isPlus
  · rw [notDigit] at isDigit
    cases isDigit
  · exact notPlus isPlus

theorem parseEntry_of_prints {name : String} {rps burst : UInt64}
    {text : List Char} (printable : Printable name)
    (prints : Prints (name, rps, burst) text) :
    parseEntry text = some (name, rps, burst) := by
  obtain ⟨nameText, rpsText, burstText, rfl, namePadded, rpsPadded,
    burstPadded⟩ := prints
  rw [parseEntry_eq_some_iff]
  refine ⟨nameText, rpsText, burstText, rfl, ?_, ?_, ?_, ?_, ?_⟩
  · exact namePadded.not_mem rfl printable.noEquals
  · exact not_mem_of_padded_numeral rpsPadded (numeral_repr rps) rfl rfl
      (by decide)
  · exact parseU64_trim rpsPadded (numeral_repr rps)
  · exact parseU64_trim burstPadded (numeral_repr burst)
  · rw [trim_of_padded printable.trimmed namePadded, String.ofList_toList]

theorem not_mem_of_prints {name : String} {rps burst : UInt64}
    {text : List Char} (printable : Printable name)
    (prints : Prints (name, rps, burst) text) : ';' ∉ text := by
  obtain ⟨nameText, rpsText, burstText, rfl, namePadded, rpsPadded,
    burstPadded⟩ := prints
  have notName := namePadded.not_mem rfl printable.noSemicolon
  have notRps : ';' ∉ rpsText :=
    not_mem_of_padded_numeral rpsPadded (numeral_repr rps) rfl rfl (by decide)
  have notBurst : ';' ∉ burstText :=
    not_mem_of_padded_numeral burstPadded (numeral_repr burst) rfl rfl
      (by decide)
  simp only [List.mem_append, List.mem_cons, not_or]
  exact ⟨notName, by decide, notRps, by decide, notBurst⟩

/-- The parser accepts the well-formed entries and no others. -/
theorem isSome_parseEntry_iff {text : List Char} :
    (parseEntry text).isSome ↔ WellFormed text := by
  rw [Option.isSome_iff_exists]
  constructor
  · rintro ⟨⟨name, rps, burst⟩, isParsed⟩
    obtain ⟨nameText, rpsText, burstText, isText, noEquals, -, isRps, isBurst,
      -⟩ := parseEntry_eq_some_iff.mp isParsed
    exact ⟨nameText, rpsText, burstText, isText, noEquals,
      ⟨_, _, padded_trim rpsText, parseU64_eq_some_iff.mp isRps⟩,
      ⟨_, _, padded_trim burstText, parseU64_eq_some_iff.mp isBurst⟩⟩
  · rintro ⟨nameText, rpsText, burstText, isText, noEquals,
      ⟨rpsPiece, rps, rpsPadded, rpsNumeral⟩,
      ⟨burstPiece, burst, burstPadded, burstNumeral⟩⟩
    have noColon : ':' ∉ rpsText :=
      not_mem_of_padded_numeral rpsPadded rpsNumeral rfl rfl (by decide)
    have asU64 {piece : List Char} {value : Nat}
        (numeral : Numeral (2 ^ 64) piece value) :
        Numeral (2 ^ 64) piece (UInt64.ofNat value).toNat := by
      obtain ⟨-, -, -, -, -, below⟩ := id numeral
      rw [UInt64.toNat_ofNat_of_lt' below]
      exact numeral
    exact ⟨_, parseEntry_eq_some_iff.mpr ⟨nameText, rpsText, burstText, isText,
      noEquals, noColon, parseU64_trim rpsPadded (asU64 rpsNumeral),
      parseU64_trim burstPadded (asU64 burstNumeral), rfl⟩⟩

theorem Printout.filterMap_parseEntry
    {entries : List (String × UInt64 × UInt64)} {pieces : List String}
    (printout : Printout entries pieces) :
    (pieces.map String.toList).filterMap parseEntry = entries := by
  induction printout with
  | nil => rfl
  | @entry entry text entries pieces printable prints later ih =>
      rw [List.map_cons, List.filterMap_cons,
        parseEntry_of_prints printable prints, ih]
  | @malformed text entries pieces onePiece malformed later ih =>
      have skipped : parseEntry text.toList = none := by
        rw [← isSome_parseEntry_iff] at malformed
        exact Option.not_isSome_iff_eq_none.mp malformed
      rw [List.map_cons, List.filterMap_cons, skipped, ih]

theorem Printout.not_mem {entries : List (String × UInt64 × UInt64)}
    {pieces : List String} (printout : Printout entries pieces) :
    ∀ piece, piece ∈ pieces.map String.toList → ';' ∉ piece := by
  induction printout with
  | nil =>
      intro piece member
      cases member
  | @entry entry text entries pieces printable prints later ih =>
      intro piece member
      rcases List.mem_cons.mp member with rfl | isLater
      · exact not_mem_of_prints printable prints
      · exact ih piece isLater
  | malformed onePiece malformed later ih =>
      intro piece member
      rcases List.mem_cons.mp member with rfl | isLater
      · exact onePiece
      · exact ih piece isLater

/-! ## Whole texts -/

/-- The empty text needs no case of its own. -/
theorem parseStreamRateOverrides_eq (overrides : String) :
    parseStreamRateOverrides overrides =
      collect ((overrides.toList.splitOn ';').filterMap parseEntry) := by
  rw [parseStreamRateOverrides]
  split
  · rename_i isEmpty
    rw [isEmpty]
    rfl
  · rfl

/-- The parser maps concatenation to the union in which the later text wins, and
reads every printout back, malformed entries and whitespace included. -/
theorem overrides_compose_and_round_trip :
    (∀ a b : String,
      (parseStreamRateOverrides (a ++ ";" ++ b)).toFinmap =
        (parseStreamRateOverrides b).toFinmap ∪
          (parseStreamRateOverrides a).toFinmap) ∧
    ∀ (entries : List (String × UInt64 × UInt64)) (pieces : List String),
      Printout entries pieces →
        ∀ name,
          (parseStreamRateOverrides (";".intercalate pieces)).lookup name =
            entries.reverse.lookup name := by
  constructor
  · intro a b
    have isText : (a ++ ";" ++ b).toList = a.toList ++ ';' :: b.toList := by
      simp
    rw [parseStreamRateOverrides_eq, parseStreamRateOverrides_eq a,
      parseStreamRateOverrides_eq b, isText, List.splitOn_append_cons_self,
      List.filterMap_append, toFinmap_collect_append]
  · intro entries pieces printout name
    have isParsed :
        ((";".intercalate pieces).toList.splitOn ';').filterMap parseEntry =
          entries := by
      rw [String.toList_intercalate]
      by_cases isEmpty : pieces = []
      · subst isEmpty
        rw [← printout.filterMap_parseEntry]
        rfl
      · have notEmpty : pieces.map String.toList ≠ [] := by
          simpa using isEmpty
        have isSplit := List.splitOn_intercalate ';' printout.not_mem notEmpty
        rw [← printout.filterMap_parseEntry, ← isSplit]
        simp
    rw [parseStreamRateOverrides_eq, isParsed, lookup_collect]

/-- An entry is printed twice, the second time with other rates, and what is in
between is no entry. -/
theorem overrides_compose_and_round_trip_alerts :
    Printout [("alerts", 100, 200), ("alerts", 5, 0)]
        [" alerts\t= 100:200 ", "alerts=many:1", "", "alerts=5:0"] ∧
      (parseStreamRateOverrides
        " alerts\t= 100:200 ;alerts=many:1;;alerts=5:0").lookup "alerts" =
          some (5, 0) := by
  have printable : Printable "alerts" := by
    refine ⟨by decide, by decide, ?_, ?_⟩
    · intro item isHead
      cases isHead
      rfl
    · intro item isLast
      cases isLast
      rfl
  have space : ∀ item, item ∈ [' '] → isWhitespace item = true := by
    intro item member
    rw [List.mem_singleton.mp member]
    rfl
  have tab : ∀ item, item ∈ ['\t'] → isWhitespace item = true := by
    intro item member
    rw [List.mem_singleton.mp member]
    rfl
  have nothing : ∀ item, item ∈ ([] : List Char) → isWhitespace item = true := by
    intro item member
    cases member
  have first : Prints ("alerts", 100, 200) " alerts\t= 100:200 ".toList :=
    ⟨" alerts\t".toList, " 100".toList, "200 ".toList, by decide,
      ⟨[' '], ['\t'], by decide, space, tab⟩,
      ⟨[' '], [], by decide, space, nothing⟩,
      ⟨[], [' '], by decide, nothing, space⟩⟩
  have last : Prints ("alerts", 5, 0) "alerts=5:0".toList :=
    ⟨"alerts".toList, "5".toList, "0".toList, by decide,
      ⟨[], [], by decide, nothing, nothing⟩,
      ⟨[], [], by decide, nothing, nothing⟩,
      ⟨[], [], by decide, nothing, nothing⟩⟩
  have notNumber : ¬ WellFormed "alerts=many:1".toList := by
    rw [← isSome_parseEntry_iff]
    decide
  have notEntry : ¬ WellFormed "".toList := by
    rw [← isSome_parseEntry_iff]
    decide
  have printout : Printout [("alerts", 100, 200), ("alerts", 5, 0)]
      [" alerts\t= 100:200 ", "alerts=many:1", "", "alerts=5:0"] :=
    .entry printable first (.malformed (by decide) notNumber
      (.malformed (by decide) notEntry (.entry printable last .nil)))
  refine ⟨printout, ?_⟩
  exact overrides_compose_and_round_trip.2 _ _ printout "alerts"

end TurbocableServer.Config
