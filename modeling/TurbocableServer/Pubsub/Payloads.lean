import TurbocableServer.Foundations.JsonText
import TurbocableServer.Foundations.MessagePack
import TurbocableServer.Protocol.Serde
import TurbocableServer.Pubsub.Replay

/-!
# Payloads of messages

`process_nats_message` and `replay_since` read a payload as JSON first, falling
back to MessagePack, then null.  The two readers are those of `serde_json`, which
accepts only complete texts, and of `rmp_serde`, which decodes the first value of
its input and does not look at what is left.
-/

namespace TurbocableServer.Pubsub

open Foundations
open Foundations.JsonText (IsText)
open Protocol

/-! ## The readers -/

/-- `serde_json` and `rmp_serde`.  `visit` is the `Value` that deserialization
makes of one MessagePack value, if it is one it accepts, and `f64Bits` are the
bits of a number that is no integer of 64 bits. -/
structure PayloadReaders where
  jsonFromSlice : ByteArray → Option Json
  visit : MessagePack.Value → Option Json
  f64Bits : String → UInt64
  json_text :
    ∀ payload value, jsonFromSlice payload = some value →
      IsText payload.data.toList
  json_digit :
    ∀ digit, digit < 10 →
      jsonFromSlice ⟨#[UInt8.ofNat (48 + digit)]⟩ = some (.ofU64 digit)

namespace PayloadReaders

/-- `rmp_serde::from_slice`. -/
def rmpFromSlice (readers : PayloadReaders) (payload : ByteArray) :
    Option Json :=
  (MessagePack.first payload.data.toList).bind
    (fun (value, _) => readers.visit value)

/-- The `message` field of a frame. -/
def decodePayload (readers : PayloadReaders) (payload : ByteArray) : Json :=
  ((readers.jsonFromSlice payload).or (readers.rmpFromSlice payload)).getD .null

/-- The frames made of a payload carry this value, live and replayed. -/
def Delivers (readers : PayloadReaders) (payload : ByteArray) (value : Json) :
    Prop :=
  (∀ message : StoredMessage, message.payload = payload →
    liveFrame readers.decodePayload message =
      .message message.stream value none (some message.seq)) ∧
  ∀ streamName sequence,
    replayedFrame readers.decodePayload streamName sequence payload =
      .message streamName value (some true) (some sequence)

theorem delivers_iff {readers : PayloadReaders} {payload : ByteArray}
    {value : Json} :
    readers.Delivers payload value ↔ readers.decodePayload payload = value := by
  constructor
  · rintro ⟨-, replayed⟩
    have frame := replayed "" 0
    rw [replayedFrame] at frame
    exact (ServerMessage.message.inj frame).2.1
  · rintro rfl
    constructor
    · rintro message rfl
      rfl
    · intro streamName sequence
      rfl

theorem jsonFromSlice_eq_none {readers : PayloadReaders} {payload : ByteArray}
    (notText : ¬ IsText payload.data.toList) :
    readers.jsonFromSlice payload = none := by
  cases isRead : readers.jsonFromSlice payload with
  | none => rfl
  | some value => exact absurd (readers.json_text payload value isRead) notText

/-- What is not JSON is read as its first MessagePack value. -/
theorem decodePayload_of_not_text {readers : PayloadReaders}
    {payload : ByteArray} (notText : ¬ IsText payload.data.toList) :
    readers.decodePayload payload =
      (readers.rmpFromSlice payload).getD .null := by
  rw [decodePayload, jsonFromSlice_eq_none notText, Option.none_or]

theorem rmpFromSlice_of_complete {readers : PayloadReaders}
    {payload : ByteArray} {value : MessagePack.Value}
    (complete : MessagePack.Complete payload.data.toList value) :
    readers.rmpFromSlice payload = readers.visit value := by
  rw [rmpFromSlice, complete, Option.bind_some]

end PayloadReaders

/-! ## MessagePack of a value -/

/-- A negative integer of 64 bits. -/
def asNegative (literal : String) : Option Nat :=
  let magnitude := Nat.ofDigitChars 10 (literal.toList.drop 1) 0
  if "-" ++ magnitude.repr = literal ∧ 0 < magnitude ∧ magnitude ≤ 2 ^ 63 then
    some (magnitude - 1)
  else
    none

/-- A number is serialized as `u64`, as `i64` or as `f64`. -/
def numberToMsgpack (f64Bits : String → UInt64) (literal : String) :
    MessagePack.Value :=
  match (Json.number literal).asU64 with
  | some number => .integer number
  | none =>
      match asNegative literal with
      | some magnitude => .integer (.negSucc magnitude)
      | none => .float64 (f64Bits literal)

mutual

/-- `Value::serialize`. -/
def toMsgpack (f64Bits : String → UInt64) : Json → MessagePack.Value
  | .null => .nil
  | .bool value => .bool value
  | .number literal => numberToMsgpack f64Bits literal
  | .string value => .str value.toUTF8.data.toList
  | .array items => .array (itemsToMsgpack f64Bits items)
  | .object members => .map (membersToMsgpack f64Bits members)

def itemsToMsgpack (f64Bits : String → UInt64) :
    List Json → List MessagePack.Value
  | [] => []
  | head :: tail => toMsgpack f64Bits head :: itemsToMsgpack f64Bits tail

def membersToMsgpack (f64Bits : String → UInt64) :
    List (String × Json) → List (MessagePack.Value × MessagePack.Value)
  | [] => []
  | (name, value) :: tail =>
      (.str name.toUTF8.data.toList, toMsgpack f64Bits value) ::
        membersToMsgpack f64Bits tail

end

theorem repr_of_asU64 {literal : String} {number : Nat}
    (isU64 : (Json.number literal).asU64 = some number) :
    number.repr = literal := by
  simp only [Json.asU64] at isU64
  split at isU64
  · rename_i canonical
    obtain rfl := Option.some.inj isU64
    exact canonical.1
  · cases isU64

/-- Only an unsigned number is serialized as one. -/
theorem eq_ofU64_of_toMsgpack {f64Bits : String → UInt64} {value : Json}
    {number : Nat} (isInteger : toMsgpack f64Bits value = .integer number) :
    value = .ofU64 number := by
  cases value with
  | number literal =>
      rw [toMsgpack, numberToMsgpack] at isInteger
      split at isInteger
      · rename_i found isU64
        have sameNumber : found = number :=
          Int.ofNat.inj (MessagePack.Value.integer.inj isInteger)
        rw [Json.ofU64, ← sameNumber, repr_of_asU64 isU64]
      · split at isInteger
        · have negative := MessagePack.Value.integer.inj isInteger
          cases negative
        · cases isInteger
  | null | bool value | string value | array items | object members =>
      cases isInteger

theorem toMsgpack_ofU64 {f64Bits : String → UInt64} {number : Nat}
    (inRange : number < 2 ^ 64) :
    toMsgpack f64Bits (.ofU64 number) = .integer number := by
  have isU64 := Json.asU64_ofU64 inRange
  rw [Json.ofU64] at isU64 ⊢
  rw [toMsgpack, numberToMsgpack, isU64]

/-! ## Payloads in MessagePack -/

/-- A payload that is one MessagePack value and a JSON text as well is a digit,
which stands for a number from 48 to 57. -/
theorem digit_of_text {payload : ByteArray} {value : MessagePack.Value}
    (complete : MessagePack.Complete payload.data.toList value)
    (isText : IsText payload.data.toList) :
    ∃ digit, digit < 10 ∧ value = .integer (48 + digit : Nat) ∧
      payload = ⟨#[UInt8.ofNat (48 + digit)]⟩ := by
  obtain ⟨head, tail, isBytes, ascii⟩ := isText.head_ascii
  rw [isBytes] at complete isText
  obtain ⟨isInteger, rfl⟩ := complete.integer_of_ascii ascii
  obtain ⟨low, high⟩ := isText.isDigit_of_singleton
  have code : 48 + (head.toNat - 48) = head.toNat := by
    omega
  refine ⟨head.toNat - 48, by omega, ?_, ?_⟩
  · rw [code]
    exact isInteger
  · rw [code, UInt8.ofNat_toNat]
    have isData : payload.data = #[head] := Array.toList_inj.mp isBytes
    exact ByteArray.ext isData

theorem encode_small {number : Nat} (small : number < 128) :
    MessagePack.encode (.integer number) = some [UInt8.ofNat number] := by
  have isSmall : MessagePack.fixedOrSized 128 0 MessagePack.unsignedSizes
      number = some [UInt8.ofNat number] := by
    rw [MessagePack.fixedOrSized, if_pos small, Nat.zero_add]
  exact isSmall

/-- A payload that is the MessagePack encoding of a value is delivered as the
value, but for the numbers from 48 to 57: their encoding is a JSON digit, and
they are delivered as that digit. -/
theorem msgpack_payload_delivered (readers : PayloadReaders) (value : Json)
    (payload : ByteArray)
    (carried :
      MessagePack.encode (toMsgpack readers.f64Bits value) =
        some payload.data.toList)
    (decoded : readers.visit (toMsgpack readers.f64Bits value) = some value) :
    ((∀ digit, digit < 10 → value ≠ .ofU64 (48 + digit)) →
        readers.Delivers payload value) ∧
      ∀ digit, digit < 10 → value = .ofU64 (48 + digit) →
        readers.Delivers payload (.ofU64 digit) := by
  constructor
  · intro noDigit
    have complete := MessagePack.complete_encode carried
    have notText : ¬ IsText payload.data.toList := by
      intro isText
      obtain ⟨digit, small, isInteger, -⟩ := digit_of_text complete isText
      exact noDigit digit small (eq_ofU64_of_toMsgpack isInteger)
    rw [PayloadReaders.delivers_iff,
      PayloadReaders.decodePayload_of_not_text notText,
      PayloadReaders.rmpFromSlice_of_complete complete, decoded,
      Option.getD_some]
  · rintro digit small rfl
    rw [toMsgpack_ofU64 (by omega), encode_small (by omega)] at carried
    have isData : payload.data = #[UInt8.ofNat (48 + digit)] :=
      Array.toList_inj.mp (Option.some.inj carried).symm
    have isPayload : payload = ⟨#[UInt8.ofNat (48 + digit)]⟩ :=
      ByteArray.ext isData
    rw [PayloadReaders.delivers_iff, PayloadReaders.decodePayload, isPayload,
      readers.json_digit digit small, Option.some_or, Option.getD_some]

/-- Readers that know the digits of JSON, and null, truth values and unsigned
numbers of MessagePack. -/
def plainReaders : PayloadReaders where
  jsonFromSlice payload :=
    match payload.data.toList with
    | [byte] =>
        if 48 ≤ byte.toNat ∧ byte.toNat < 58 then
          some (.ofU64 (byte.toNat - 48))
        else
          none
    | _ => none
  visit
    | .nil => some .null
    | .bool value => some (.bool value)
    | .integer (.ofNat number) => some (.ofU64 number)
    | _ => none
  f64Bits _ := 0
  json_text := by
    intro payload value isRead
    split at isRead
    · rename_i byte isByte
      split at isRead
      · rename_i inRange
        have isText := JsonText.isText_digit
          (show byte.toNat - 48 < 10 by omega)
        rw [show 48 + (byte.toNat - 48) = byte.toNat by omega,
          UInt8.ofNat_toNat] at isText
        rw [isByte]
        exact isText
      · cases isRead
    · cases isRead
  json_digit := by
    intro digit small
    have code : (UInt8.ofNat (48 + digit)).toNat = 48 + digit :=
      MessagePack.toNat_ofNat_of_lt (by omega)
    have inRange : 48 ≤ 48 + digit ∧ 48 + digit < 58 := by
      omega
    simp only [code, if_pos inRange, Nat.add_sub_cancel_left]

theorem msgpack_payload_delivered_true :
    plainReaders.Delivers ⟨#[0xc3]⟩ (.bool true) := by
  refine (msgpack_payload_delivered plainReaders (.bool true) ⟨#[0xc3]⟩ rfl
    rfl).1 ?_
  intro digit _ isDigit
  cases isDigit

/-- The number 48 is delivered as zero. -/
theorem forty_eight_delivered_as_zero :
    MessagePack.encode (toMsgpack plainReaders.f64Bits (.ofU64 48)) =
        some (ByteArray.mk #[48]).data.toList ∧
      plainReaders.visit (toMsgpack plainReaders.f64Bits (.ofU64 48)) =
        some (.ofU64 48) ∧
      plainReaders.Delivers ⟨#[48]⟩ (.ofU64 0) ∧
      ¬ plainReaders.Delivers ⟨#[48]⟩ (.ofU64 48) := by
  have isInteger : toMsgpack plainReaders.f64Bits (.ofU64 48) = .integer 48 :=
    toMsgpack_ofU64 (by decide)
  have asZero : plainReaders.decodePayload ⟨#[48]⟩ = .ofU64 0 := rfl
  rw [isInteger]
  refine ⟨rfl, rfl, PayloadReaders.delivers_iff.mpr asZero, ?_⟩
  rw [PayloadReaders.delivers_iff, asZero]
  intro same
  exact absurd (Json.number.inj same) (by decide)

/-! ## Payloads in neither format -/

theorem rmpFromSlice_getD_eq_null_iff (readers : PayloadReaders)
    (payload : ByteArray) :
    (readers.rmpFromSlice payload).getD .null = .null ↔
      ∀ value rest,
        MessagePack.first payload.data.toList = some (value, rest) →
          readers.visit value = none ∨ readers.visit value = some .null := by
  rw [PayloadReaders.rmpFromSlice]
  cases isFirst : MessagePack.first payload.data.toList with
  | none => simp
  | some found =>
      obtain ⟨value, rest⟩ := found
      simp only [Option.bind_some]
      constructor
      · intro isNull other otherRest same
        obtain ⟨rfl, -⟩ := Prod.mk.inj (Option.some.inj same)
        cases isVisited : readers.visit value with
        | none => exact Or.inl rfl
        | some json =>
            rw [isVisited, Option.getD_some] at isNull
            exact Or.inr (by rw [isNull])
      · intro nothing
        rcases nothing value rest rfl with isNone | isNull
        · rw [isNone, Option.getD_none]
        · rw [isNull, Option.getD_some]

/-- A payload that is neither a JSON text nor one MessagePack value is delivered
as null exactly if no front of it is a MessagePack value of anything but
null. -/
theorem undecodable_payload_null_iff (readers : PayloadReaders)
    (payload : ByteArray) (notText : ¬ IsText payload.data.toList)
    (notValue : ∀ value, ¬ MessagePack.Complete payload.data.toList value) :
    readers.Delivers payload .null ↔
      ∀ front rest value, payload.data.toList = front ++ rest → rest ≠ [] →
        MessagePack.Complete front value →
          readers.visit value = none ∨ readers.visit value = some .null := by
  rw [PayloadReaders.delivers_iff,
    PayloadReaders.decodePayload_of_not_text notText,
    rmpFromSlice_getD_eq_null_iff]
  constructor
  · intro nothing front rest value isFront _ complete
    exact nothing value rest
      (MessagePack.first_eq_some_iff.mpr ⟨front, isFront, complete⟩)
  · intro nothing value rest isFirst
    obtain ⟨front, isFront, complete⟩ :=
      MessagePack.first_eq_some_iff.mp isFirst
    have leftOver : rest ≠ [] := by
      rintro rfl
      rw [List.append_nil] at isFront
      rw [← isFront] at complete
      exact notValue value complete
    exact nothing front rest value isFront leftOver complete

/-- An array of two that has only one item. -/
theorem undecodable_payload_null_iff_cut :
    plainReaders.Delivers ⟨#[0x92, 0x01]⟩ .null := by
  have noFirst :
      MessagePack.first (ByteArray.mk #[0x92, 0x01]).data.toList = none :=
    Option.isNone_iff_eq_none.mp (by decide)
  refine (undecodable_payload_null_iff plainReaders ⟨#[0x92, 0x01]⟩ ?_ ?_).mpr
    ?_
  · exact JsonText.not_isText_of_head (by decide)
  · intro value complete
    rw [MessagePack.Complete, noFirst] at complete
    cases complete
  · intro front rest value isFront _ complete
    have isFirst := MessagePack.first_eq_some_iff.mpr ⟨front, isFront, complete⟩
    rw [noFirst] at isFirst
    cases isFirst

/-- Text is read as the number of its first character, if that is one of ASCII
and there are more. -/
theorem decodePayload_of_ascii {readers : PayloadReaders}
    {payload : ByteArray} {head : UInt8} {tail : List UInt8}
    (isBytes : payload.data.toList = head :: tail)
    (ascii : head.toNat < 128) (notText : ¬ IsText payload.data.toList) :
    readers.decodePayload payload =
      (readers.visit (.integer head.toNat)).getD .null := by
  rw [PayloadReaders.decodePayload_of_not_text notText,
    PayloadReaders.rmpFromSlice, isBytes,
    MessagePack.first_of_ascii ascii tail, Option.bind_some]

/-- The text of a client's command. -/
def freeText : ByteArray :=
  "hello".toUTF8

/-- Free text is delivered as the number of its first letter. -/
theorem free_text_delivered_as_number :
    ¬ IsText freeText.data.toList ∧
      (∀ value, ¬ MessagePack.Complete freeText.data.toList value) ∧
      plainReaders.Delivers freeText (.ofU64 104) ∧
      ¬ plainReaders.Delivers freeText .null := by
  have isBytes : freeText.data.toList = [104, 101, 108, 108, 111] := by
    decide
  have notText : ¬ IsText freeText.data.toList := by
    rw [isBytes]
    exact JsonText.not_isText_of_head (by decide)
  have asNumber : plainReaders.decodePayload freeText = .ofU64 104 :=
    decodePayload_of_ascii isBytes (by decide) notText
  refine ⟨notText, ?_, PayloadReaders.delivers_iff.mpr asNumber, ?_⟩
  · intro value complete
    rw [isBytes] at complete
    cases (complete.integer_of_ascii (by decide)).2
  · rw [PayloadReaders.delivers_iff, asNumber]
    intro same
    cases same

end TurbocableServer.Pubsub
