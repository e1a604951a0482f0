import Mathlib.Data.List.Basic

/-!
# JSON texts

The grammar of JSON over characters, and its texts as bytes: a value with white
space around it, in UTF-8.  A text begins with a byte of ASCII, and the only
texts of one byte are the digits.
-/

namespace TurbocableServer.Foundations.JsonText

def isBlank (character : Char) : Bool :=
  character == ' ' || character == '\t' || character == '\n' ||
    character == '\r'

def Blank (text : List Char) : Prop :=
  ∀ character ∈ text, isBlank character = true

def Digits (text : List Char) : Prop :=
  text ≠ [] ∧ ∀ character ∈ text, character.isDigit = true

/-- Without leading zeros. -/
def IntegerPart (text : List Char) : Prop :=
  Digits text ∧ (text = ['0'] ∨ text.head? ≠ some '0')

def Fraction (text : List Char) : Prop :=
  text = [] ∨ ∃ digits, text = '.' :: digits ∧ Digits digits

def Exponent (text : List Char) : Prop :=
  text = [] ∨ ∃ letter sign digits,
    text = letter :: (sign ++ digits) ∧ (letter = 'e' ∨ letter = 'E') ∧
      (sign = [] ∨ sign = ['+'] ∨ sign = ['-']) ∧ Digits digits

def Number (text : List Char) : Prop :=
  ∃ sign digits fraction exponent,
    text = sign ++ (digits ++ (fraction ++ exponent)) ∧
      (sign = [] ∨ sign = ['-']) ∧ IntegerPart digits ∧ Fraction fraction ∧
      Exponent exponent

def isHex (character : Char) : Bool :=
  character.isDigit || ('a' ≤ character && character ≤ 'f') ||
    ('A' ≤ character && character ≤ 'F')

/-- What stands between the quotes of a string. -/
inductive Characters : List Char → Prop where
  | nil : Characters []
  | plain {character : Char} {rest : List Char} :
      0x20 ≤ character.toNat → character ≠ '"' → character ≠ '\\' →
        Characters rest → Characters (character :: rest)
  | escaped {letter : Char} {rest : List Char} :
      letter ∈ ['"', '\\', '/', 'b', 'f', 'n', 'r', 't'] →
        Characters rest → Characters ('\\' :: letter :: rest)
  | unicode {first second third fourth : Char} {rest : List Char} :
      (∀ digit ∈ [first, second, third, fourth], isHex digit = true) →
        Characters rest →
          Characters ('\\' :: 'u' :: first :: second :: third :: fourth :: rest)

def Quoted (text : List Char) : Prop :=
  ∃ characters, text = '"' :: (characters ++ ['"']) ∧ Characters characters

mutual

inductive Value : List Char → Prop where
  | nullLiteral : Value ['n', 'u', 'l', 'l']
  | trueLiteral : Value ['t', 'r', 'u', 'e']
  | falseLiteral : Value ['f', 'a', 'l', 's', 'e']
  | number {text : List Char} : Number text → Value text
  | string {text : List Char} : Quoted text → Value text
  | emptyArray {blank : List Char} :
      Blank blank → Value ('[' :: (blank ++ [']']))
  | array {items : List Char} : Items items → Value ('[' :: (items ++ [']']))
  | emptyObject {blank : List Char} :
      Blank blank → Value ('\x7b' :: (blank ++ ['\x7d']))
  | object {members : List Char} :
      Members members → Value ('\x7b' :: (members ++ ['\x7d']))

/-- One value or more, separated by commas. -/
inductive Items : List Char → Prop where
  | last {before value after : List Char} :
      Blank before → Value value → Blank after →
        Items (before ++ (value ++ after))
  | more {before value after rest : List Char} :
      Blank before → Value value → Blank after → Items rest →
        Items (before ++ (value ++ (after ++ ',' :: rest)))

/-- One name and value or more, separated by commas. -/
inductive Members : List Char → Prop where
  | last {before name between beforeValue value after : List Char} :
      Blank before → Quoted name → Blank between → Blank beforeValue →
        Value value → Blank after →
          Members (before ++ (name ++ (between ++
            ':' :: (beforeValue ++ (value ++ after)))))
  | more {before name between beforeValue value after rest : List Char} :
      Blank before → Quoted name → Blank between → Blank beforeValue →
        Value value → Blank after → Members rest →
          Members (before ++ (name ++ (between ++
            ':' :: (beforeValue ++ (value ++ (after ++ ',' :: rest))))))

end

def Text (text : List Char) : Prop :=
  ∃ before value after,
    text = before ++ (value ++ after) ∧ Blank before ∧ Value value ∧
      Blank after

/-- The bytes are a complete JSON text, with nothing left over. -/
def IsText (bytes : List UInt8) : Prop :=
  ∃ text, bytes = text.flatMap String.utf8EncodeChar ∧ Text text

/-! ## The first character -/

/-- The characters a text can begin with. -/
def canStart (character : Char) : Bool :=
  isBlank character || character.isDigit ||
    ['-', '"', '[', '\x7b', 'n', 't', 'f'].contains character

theorem canStart_ascii {character : Char}
    (starts : canStart character = true) : character.toNat < 128 := by
  simp only [canStart, isBlank, List.contains_cons, List.contains_nil,
    Bool.or_eq_true, beq_iff_eq] at starts
  rcases starts with (((((rfl | rfl) | rfl) | rfl) | isDigit) |
      rfl | rfl | rfl | rfl | rfl | rfl | rfl | impossible)
  case inl.inr =>
    have range : 48 ≤ character.toNat ∧ character.toNat ≤ 57 :=
      Char.isDigit_iff_toNat.mp isDigit
    omega
  case inr.inr.inr.inr.inr.inr.inr.inr => cases impossible
  all_goals decide

theorem Value.head_canStart {text : List Char} (isValue : Value text) :
    ∃ head tail, text = head :: tail ∧ canStart head = true := by
  cases isValue with
  | nullLiteral | trueLiteral | falseLiteral => exact ⟨_, _, rfl, by decide⟩
  | number isNumber =>
      obtain ⟨sign, digits, fraction, exponent, rfl, isSign, isInteger, -, -⟩ :=
        isNumber
      obtain ⟨⟨notEmpty, areDigits⟩, -⟩ := isInteger
      rcases isSign with rfl | rfl
      · cases digits with
        | nil => exact absurd rfl notEmpty
        | cons digit rest =>
            refine ⟨digit, rest ++ (fraction ++ exponent), rfl, ?_⟩
            simp [canStart, areDigits digit List.mem_cons_self]
      · exact ⟨'-', digits ++ (fraction ++ exponent), rfl, by decide⟩
  | string isQuoted =>
      obtain ⟨characters, rfl, -⟩ := isQuoted
      exact ⟨'"', characters ++ ['"'], rfl, by decide⟩
  | emptyArray | array | emptyObject | object => exact ⟨_, _, rfl, by decide⟩

/-- A value of one character is a digit. -/
theorem Value.isDigit_of_singleton {character : Char}
    (isValue : Value [character]) : character.isDigit = true := by
  generalize isText : [character] = text at isValue
  cases isValue with
  | nullLiteral | trueLiteral | falseLiteral => cases isText
  | number isNumber =>
      obtain ⟨sign, digits, fraction, exponent, rfl, isSign, isInteger, -, -⟩ :=
        isNumber
      obtain ⟨⟨notEmpty, areDigits⟩, -⟩ := isInteger
      cases digits with
      | nil => exact absurd rfl notEmpty
      | cons digit rest =>
          rcases isSign with rfl | rfl
          · rw [List.nil_append, List.cons_append] at isText
            rw [(List.cons.inj isText).1]
            exact areDigits digit List.mem_cons_self
          · cases isText
  | string isQuoted =>
      obtain ⟨characters, rfl, -⟩ := isQuoted
      have tooLong := congrArg List.length isText
      simp at tooLong
  | emptyArray | array | emptyObject | object =>
      have tooLong := congrArg List.length isText
      simp at tooLong

theorem Text.head_canStart {text : List Char} (isText : Text text) :
    ∃ head tail, text = head :: tail ∧ canStart head = true := by
  obtain ⟨before, value, after, rfl, isBefore, isValue, -⟩ := isText
  cases before with
  | nil =>
      obtain ⟨head, tail, rfl, starts⟩ := isValue.head_canStart
      exact ⟨head, tail ++ after, rfl, starts⟩
  | cons head tail =>
      refine ⟨head, tail ++ (value ++ after), rfl, ?_⟩
      simp [canStart, isBefore head List.mem_cons_self]

theorem Text.isDigit_of_singleton {character : Char}
    (isText : Text [character]) : character.isDigit = true := by
  obtain ⟨before, value, after, split, -, isValue, -⟩ := isText
  obtain ⟨head, tail, rfl, -⟩ := isValue.head_canStart
  have lengths := congrArg List.length split
  simp only [List.length_append, List.length_cons, List.length_nil] at lengths
  have noBefore : before = [] := List.eq_nil_of_length_eq_zero (by omega)
  have noTail : tail = [] := List.eq_nil_of_length_eq_zero (by omega)
  subst noBefore noTail
  have isHead : character = head := (List.cons.inj split).1
  rw [isHead]
  exact isValue.isDigit_of_singleton

/-! ## The first byte -/

theorem utf8EncodeChar_ascii {character : Char}
    (ascii : character.toNat < 128) :
    String.utf8EncodeChar character = [character.val.toUInt8] := by
  apply String.utf8EncodeChar_eq_singleton
  rw [Char.utf8Size_eq_one_iff, UInt32.le_iff_toNat_le]
  have code : character.toNat = character.val.toNat := rfl
  have limit : (127 : UInt32).toNat = 127 := rfl
  omega

/-- A JSON text begins with the byte of a character it can begin with. -/
theorem IsText.head_canStart {bytes : List UInt8} (isText : IsText bytes) :
    ∃ head tail character, bytes = head :: tail ∧
      head.toNat = character.toNat ∧ canStart character = true := by
  obtain ⟨text, rfl, grammatical⟩ := isText
  obtain ⟨head, tail, rfl, starts⟩ := grammatical.head_canStart
  have ascii := canStart_ascii starts
  refine ⟨head.val.toUInt8, tail.flatMap String.utf8EncodeChar, head, ?_, ?_,
    starts⟩
  · rw [List.flatMap_cons, utf8EncodeChar_ascii ascii, List.singleton_append]
  · rw [UInt32.toNat_toUInt8]
    exact Nat.mod_eq_of_lt (Nat.lt_trans ascii (by decide))

theorem IsText.head_ascii {bytes : List UInt8} (isText : IsText bytes) :
    ∃ head tail, bytes = head :: tail ∧ head.toNat < 128 := by
  obtain ⟨head, tail, character, isBytes, code, starts⟩ :=
    isText.head_canStart
  refine ⟨head, tail, isBytes, ?_⟩
  rw [code]
  exact canStart_ascii starts

/-- Bytes that begin with another character are no text. -/
theorem not_isText_of_head {head : UInt8} {tail : List UInt8}
    (cannotStart : canStart (Char.ofNat head.toNat) = false) :
    ¬ IsText (head :: tail) := by
  intro isText
  obtain ⟨other, rest, character, isBytes, code, starts⟩ :=
    isText.head_canStart
  rw [(List.cons.inj isBytes).1, code, Char.ofNat_toNat, starts] at cannotStart
  cases cannotStart

/-- A JSON text of one byte is a digit. -/
theorem IsText.isDigit_of_singleton {byte : UInt8} (isText : IsText [byte]) :
    48 ≤ byte.toNat ∧ byte.toNat ≤ 57 := by
  obtain ⟨text, isBytes, grammatical⟩ := isText
  obtain ⟨head, tail, rfl, starts⟩ := grammatical.head_canStart
  have ascii := canStart_ascii starts
  rw [List.flatMap_cons, utf8EncodeChar_ascii ascii, List.singleton_append]
    at isBytes
  obtain ⟨isHead, isTail⟩ := List.cons.inj isBytes
  have noTail : tail = [] := by
    cases tail with
    | nil => rfl
    | cons next rest =>
        have empty := congrArg List.length isTail
        have size := next.utf8Size_pos
        rw [List.flatMap_cons, List.length_append,
          String.length_utf8EncodeChar, List.length_nil] at empty
        omega
  subst noTail
  have range : 48 ≤ head.toNat ∧ head.toNat ≤ 57 :=
    Char.isDigit_iff_toNat.mp grammatical.isDigit_of_singleton
  have code : head.toNat = head.val.toNat := rfl
  rw [isHead, UInt32.toNat_toUInt8]
  omega

theorem isText_digit {digit : Nat} (small : digit < 10) :
    IsText [UInt8.ofNat (48 + digit)] := by
  have isDigit : ∀ tested < 10, (Char.ofNat (48 + tested)).isDigit = true := by
    decide
  have isByte : ∀ tested < 10,
      String.utf8EncodeChar (Char.ofNat (48 + tested)) =
        [UInt8.ofNat (48 + tested)] := by
    decide
  have digits : Digits [Char.ofNat (48 + digit)] := by
    refine ⟨by simp, ?_⟩
    intro character member
    rw [List.mem_singleton.mp member]
    exact isDigit digit small
  have noZero : [Char.ofNat (48 + digit)] = ['0'] ∨
      [Char.ofNat (48 + digit)].head? ≠ some '0' := by
    by_cases isZero : Char.ofNat (48 + digit) = '0'
    · exact Or.inl (by rw [isZero])
    · exact Or.inr (by simpa using isZero)
  refine ⟨[Char.ofNat (48 + digit)], ?_, [], [Char.ofNat (48 + digit)], [],
    rfl, by simp [Blank], ?_, by simp [Blank]⟩
  · rw [List.flatMap_singleton, isByte digit small]
  · exact .number ⟨[], [Char.ofNat (48 + digit)], [], [], rfl, Or.inl rfl,
      ⟨digits, noZero⟩, Or.inl rfl, Or.inl rfl⟩

end TurbocableServer.Foundations.JsonText
