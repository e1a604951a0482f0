import TurbocableServer.Foundations.NamedFields
import TurbocableServer.Protocol.Codec

/-!
# Serialization of the frames

What the derived `Serialize` and `Deserialize` of `protocol/types.rs` do, between
frames and trees of values: the untagged `ClientFrame`, the internally tagged
commands and messages, renamed tags, defaults, and fields left out when they are
absent.  Trees are read in the shape in which they are written, maps with names
and tags as strings; `serde_json` and `rmp_serde` carry them over the wire.
-/

namespace TurbocableServer.Protocol

open Foundations.NamedFields

/-! ## Values -/

namespace Json

/-- An unsigned integer. -/
def ofU64 (number : Nat) : Json :=
  .number number.repr

/-- `u64`: a decimal without a sign, in range. -/
def asU64 : Json → Option Nat
  | .number literal =>
      let number := Nat.ofDigitChars 10 literal.toList 0
      if number.repr = literal ∧ number < 2 ^ 64 then some number else none
  | _ => none

def asBool : Json → Option Bool
  | .bool value => some value
  | _ => none

/-- `Option<T>`: null stands for `None`. -/
def asOption {α : Type} (read : Json → Option α) : Json → Option (Option α)
  | .null => some none
  | value => (read value).map some

/-- `Vec<String>`. -/
def asStrings : Json → Option (List String)
  | .array items => items.mapM asStr
  | _ => none

mutual

/-- `Value::deserialize`: the tree itself, with every map collected into a
`BTreeMap`. -/
def deserialize : Json → Json
  | .null => .null
  | .bool value => .bool value
  | .number literal => .number literal
  | .string value => .string value
  | .array items => .array (deserializeItems items)
  | .object members => .object (collect (deserializeMembers members))

def deserializeItems : List Json → List Json
  | [] => []
  | head :: tail => head.deserialize :: deserializeItems tail

def deserializeMembers : List (String × Json) → List (String × Json)
  | [] => []
  | (name, value) :: tail =>
      (name, value.deserialize) :: deserializeMembers tail

end

mutual

/-- The tree of a `Value`: its maps are in the order of a `BTreeMap`. -/
def Ordered : Json → Prop
  | .array items => OrderedItems items
  | .object members => Sorted members ∧ OrderedMembers members
  | _ => True

def OrderedItems : List Json → Prop
  | [] => True
  | head :: tail => head.Ordered ∧ OrderedItems tail

def OrderedMembers : List (String × Json) → Prop
  | [] => True
  | (_, value) :: tail => value.Ordered ∧ OrderedMembers tail

end

theorem asOption_null {α : Type} (read : Json → Option α) :
    asOption read .null = some none :=
  rfl

theorem asOption_bool (value : Bool) :
    asOption asBool (.bool value) = some (some value) :=
  rfl

theorem asU64_ofU64 {number : Nat} (inRange : number < 2 ^ 64) :
    (ofU64 number).asU64 = some number := by
  have digits :
      Nat.ofDigitChars 10 number.repr.toList 0 = number := by
    simp [Nat.repr]
  simp only [ofU64, asU64, digits]
  exact if_pos ⟨trivial, inRange⟩

theorem asOption_ofU64 {number : Nat} (inRange : number < 2 ^ 64) :
    asOption asU64 (ofU64 number) = some (some number) := by
  have read := asU64_ofU64 inRange
  rw [ofU64] at read ⊢
  simp [asOption, read]

theorem asStrings_array (strings : List String) :
    asStrings (.array (strings.map .string)) = some strings := by
  rw [asStrings, List.mapM_map]
  induction strings with
  | nil => rfl
  | cons head tail ih =>
      simp only [List.mapM_cons, ih]
      rfl

mutual

/-- A `Value` is read back as it was. -/
theorem deserialize_of_ordered :
    ∀ {value : Json}, value.Ordered → value.deserialize = value
  | .null, _ => by rw [deserialize]
  | .bool _, _ => by rw [deserialize]
  | .number _, _ => by rw [deserialize]
  | .string _, _ => by rw [deserialize]
  | .array items, ordered => by
      rw [Ordered] at ordered
      rw [deserialize, deserializeItems_of_ordered ordered]
  | .object members, ordered => by
      rw [Ordered] at ordered
      rw [deserialize, deserializeMembers_of_ordered ordered.2,
        collect_of_sorted ordered.1]

theorem deserializeItems_of_ordered :
    ∀ {items : List Json}, OrderedItems items → deserializeItems items = items
  | [], _ => by rw [deserializeItems]
  | head :: tail, ordered => by
      rw [OrderedItems] at ordered
      rw [deserializeItems, deserialize_of_ordered ordered.1,
        deserializeItems_of_ordered ordered.2]

theorem deserializeMembers_of_ordered :
    ∀ {members : List (String × Json)},
      OrderedMembers members → deserializeMembers members = members
  | [], _ => by rw [deserializeMembers]
  | (name, value) :: tail, ordered => by
      rw [OrderedMembers] at ordered
      rw [deserializeMembers, deserialize_of_ordered ordered.1,
        deserializeMembers_of_ordered ordered.2]

end

end Json

/-! ## Frames from the client -/

/-- `HelloTag`, which deserializes only from the string `"hello"`. -/
def helloTag : Json → Option Unit
  | .string "hello" => some ()
  | _ => none

namespace HelloCommand

def serialize (hello : HelloCommand) : Json :=
  .object
    [("type", .string "hello"),
      ("last_seq", (hello.lastSeq.map Json.ofU64).getD .null),
      ("capabilities", .array (hello.capabilities.map .string))]

def deserialize : Json → Option HelloCommand
  | .object members => do
      let _ ← required members "type" helloTag
      let lastSeq ←
        defaulted members "last_seq" none (Json.asOption Json.asU64)
      let capabilities ← defaulted members "capabilities" [] Json.asStrings
      return { lastSeq := lastSeq, capabilities := capabilities }
  | _ => none

end HelloCommand

namespace ClientCommand

def serialize : ClientCommand → Json
  | .subscribe identifier =>
      .object
        [("command", .string "subscribe"),
          ("identifier", .string identifier)]
  | .unsubscribe identifier =>
      .object
        [("command", .string "unsubscribe"),
          ("identifier", .string identifier)]
  | .message identifier data =>
      .object
        [("command", .string "message"),
          ("identifier", .string identifier),
          ("data", .string data)]

/-- The variant with the name, from the members next to the tag. -/
def deserializeVariant (members : List (String × Json)) :
    String → Option ClientCommand
  | "subscribe" => do
      let identifier ← required members "identifier" Json.asStr
      return .subscribe identifier
  | "unsubscribe" => do
      let identifier ← required members "identifier" Json.asStr
      return .unsubscribe identifier
  | "message" => do
      let identifier ← required members "identifier" Json.asStr
      let data ← required members "data" Json.asStr
      return .message identifier data
  | _ => none

def deserialize : Json → Option ClientCommand
  | .object members => do
      let (variant, rest) ← tagged "command" members Json.asStr
      deserializeVariant rest variant
  | _ => none

end ClientCommand

namespace ClientFrame

def serialize : ClientFrame → Json
  | .hello body => body.serialize
  | .command body => body.serialize

/-- The variants are tried in order. -/
def deserialize (tree : Json) : Option ClientFrame :=
  ((HelloCommand.deserialize tree).map .hello).or
    ((ClientCommand.deserialize tree).map .command)

/-- The sequence of a hello is a `u64`. -/
def InRange : ClientFrame → Prop
  | .hello body => ∀ seq ∈ body.lastSeq, seq < 2 ^ 64
  | .command _ => True

end ClientFrame

/-! ## Messages from the server -/

namespace ServerMessage

def serialize : ServerMessage → Json
  | .welcome => .object [("type", .string "welcome")]
  | .ping time =>
      .object [("type", .string "ping"), ("message", .ofU64 time)]
  | .confirmSubscription identifier =>
      .object
        [("type", .string "confirm_subscription"),
          ("identifier", .string identifier)]
  | .rejectSubscription identifier =>
      .object
        [("type", .string "reject_subscription"),
          ("identifier", .string identifier)]
  | .disconnect reason reconnect =>
      .object
        ([("type", .string "disconnect"), ("reason", .string reason)] ++
          skipNone "reconnect" .bool reconnect)
  | .message identifier payload replayed seq =>
      .object
        ([("type", .string "message"), ("identifier", .string identifier),
            ("message", payload)] ++
          skipNone "replayed" .bool replayed ++
          skipNone "seq" .ofU64 seq)

/-- The variant with the name, from the members next to the tag. -/
def deserializeVariant (members : List (String × Json)) :
    String → Option ServerMessage
  | "welcome" => some .welcome
  | "ping" => do
      let time ← required members "message" Json.asU64
      return .ping time
  | "confirm_subscription" => do
      let identifier ← required members "identifier" Json.asStr
      return .confirmSubscription identifier
  | "reject_subscription" => do
      let identifier ← required members "identifier" Json.asStr
      return .rejectSubscription identifier
  | "disconnect" => do
      let reason ← required members "reason" Json.asStr
      let reconnect ←
        defaulted members "reconnect" none (Json.asOption Json.asBool)
      return .disconnect reason reconnect
  | "message" => do
      let identifier ← required members "identifier" Json.asStr
      let payload ←
        required members "message" (fun value => some value.deserialize)
      let replayed ←
        defaulted members "replayed" none (Json.asOption Json.asBool)
      let seq ← defaulted members "seq" none (Json.asOption Json.asU64)
      return .message identifier payload replayed seq
  | _ => none

def deserialize : Json → Option ServerMessage
  | .object members => do
      let (variant, rest) ← tagged "type" members Json.asStr
      deserializeVariant rest variant
  | _ => none

/-- Integers are `u64`, and the payload is a `Value`. -/
def InRange : ServerMessage → Prop
  | .ping time => time < 2 ^ 64
  | .message _ payload _ seq => payload.Ordered ∧ ∀ n ∈ seq, n < 2 ^ 64
  | _ => True

end ServerMessage

/-! ## Round trips -/

theorem HelloCommand.deserialize_serialize (hello : HelloCommand)
    (inRange : ∀ seq ∈ hello.lastSeq, seq < 2 ^ 64) :
    HelloCommand.deserialize hello.serialize = some hello := by
  cases hello with
  | mk lastSeq capabilities =>
      cases lastSeq with
      | none =>
          simp [serialize, deserialize, helloTag, Json.asOption_null,
            Json.asStrings_array]
      | some seq =>
          simp [serialize, deserialize, helloTag,
            Json.asOption_ofU64 (inRange seq rfl), Json.asStrings_array]

theorem ClientCommand.deserialize_serialize (command : ClientCommand) :
    ClientCommand.deserialize command.serialize = some command := by
  cases command <;>
    simp [serialize, deserialize, deserializeVariant, Json.asStr]

/-- A command has no `type`. -/
theorem HelloCommand.deserialize_command (command : ClientCommand) :
    HelloCommand.deserialize command.serialize = none := by
  cases command <;> simp [ClientCommand.serialize, deserialize]

/-- A hello has no `command`. -/
theorem ClientCommand.deserialize_hello (hello : HelloCommand) :
    ClientCommand.deserialize hello.serialize = none := by
  simp [HelloCommand.serialize, deserialize, tagged]

theorem ClientFrame.deserialize_serialize (frame : ClientFrame)
    (inRange : frame.InRange) :
    ClientFrame.deserialize frame.serialize = some frame := by
  cases frame with
  | hello body =>
      rw [serialize, deserialize, HelloCommand.deserialize_serialize body inRange]
      rfl
  | command body =>
      rw [serialize, deserialize, HelloCommand.deserialize_command,
        ClientCommand.deserialize_serialize]
      rfl

theorem ServerMessage.deserialize_serialize (message : ServerMessage)
    (inRange : message.InRange) :
    ServerMessage.deserialize message.serialize = some message := by
  cases message with
  | welcome | confirmSubscription identifier | rejectSubscription identifier =>
      simp [serialize, deserialize, deserializeVariant, Json.asStr]
  | ping time =>
      simp [serialize, deserialize, deserializeVariant, Json.asStr,
        Json.asU64_ofU64 inRange]
  | disconnect reason reconnect =>
      cases reconnect <;>
        simp [serialize, deserialize, deserializeVariant, Json.asStr,
          Json.asOption_bool]
  | message identifier payload replayed seq =>
      have samePayload := Json.deserialize_of_ordered inRange.1
      cases seq with
      | none =>
          cases replayed <;>
            simp [serialize, deserialize, deserializeVariant, Json.asStr,
              Json.asOption_bool, samePayload]
      | some number =>
          have sameSeq := Json.asOption_ofU64 (inRange.2 number rfl)
          cases replayed <;>
            simp [serialize, deserialize, deserializeVariant, Json.asStr,
              Json.asOption_bool, samePayload, sameSeq]

/-! ## On the wire -/

/-- `serde_json` and `rmp_serde`, between trees and what goes over the wire. -/
structure Serializers where
  jsonText : Json → String
  jsonTree : ByteArray → Option Json
  msgpackBytes : Json → ByteArray
  msgpackTree : ByteArray → Option Json

namespace Serializers

def write (serializers : Serializers) : Codec → Json → ByteArray
  | .json, tree => (serializers.jsonText tree).toUTF8
  | .msgpack, tree => serializers.msgpackBytes tree

def read (serializers : Serializers) : Codec → ByteArray → Option Json
  | .json, bytes => serializers.jsonTree bytes
  | .msgpack, bytes => serializers.msgpackTree bytes

/-- The tree arrives as it was sent. -/
def Carries (serializers : Serializers) (codec : Codec) (tree : Json) : Prop :=
  serializers.read codec (serializers.write codec tree) = some tree

/-- The serializers of messages that the codecs use. -/
def wireFormat (serializers : Serializers) : WireFormat where
  jsonText := fun message => serializers.jsonText message.serialize
  msgpackBytes := fun message => serializers.msgpackBytes message.serialize

theorem encode_wireFormat (serializers : Serializers) (codec : Codec)
    (message : ServerMessage) :
    codec.encode serializers.wireFormat message =
      serializers.write codec message.serialize := by
  cases codec <;> rfl

end Serializers

/-- `Codec::decode`; the text of an error is not represented. -/
def Codec.decode (serializers : Serializers) (codec : Codec)
    (bytes : ByteArray) : Option ClientFrame :=
  (serializers.read codec bytes).bind ClientFrame.deserialize

/-- A client reads a message. -/
def Codec.receive (serializers : Serializers) (codec : Codec)
    (bytes : ByteArray) : Option ServerMessage :=
  (serializers.read codec bytes).bind ServerMessage.deserialize

/-- Frames and messages come back from their trees, neither kind of frame is
read as the other, and whatever carries the trees brings the frames and messages
over the wire in both codecs. -/
theorem wire_frames_round_trip
    (frame : ClientFrame) (frameInRange : frame.InRange)
    (message : ServerMessage) (messageInRange : message.InRange) :
    ClientFrame.deserialize frame.serialize = some frame ∧
      (∀ command : ClientCommand,
        HelloCommand.deserialize command.serialize = none) ∧
      (∀ hello : HelloCommand,
        ClientCommand.deserialize hello.serialize = none) ∧
      ServerMessage.deserialize message.serialize = some message ∧
      (∀ (serializers : Serializers) (codec : Codec),
        serializers.Carries codec frame.serialize →
          codec.decode serializers
            (serializers.write codec frame.serialize) = some frame) ∧
      ∀ serializers : Serializers,
        (∀ codec, serializers.Carries codec message.serialize) →
          Codec.receive serializers .json
              (Codec.encode serializers.wireFormat .json message) =
            some message ∧
          Codec.receive serializers .msgpack
              (Codec.encode serializers.wireFormat .msgpack message) =
            some message := by
  have frameBack := frame.deserialize_serialize frameInRange
  have messageBack := message.deserialize_serialize messageInRange
  refine ⟨frameBack, HelloCommand.deserialize_command,
    ClientCommand.deserialize_hello, messageBack, ?_, ?_⟩
  · intro serializers codec carried
    rw [Codec.decode, carried]
    exact frameBack
  · intro serializers carried
    have received : ∀ codec : Codec,
        codec.receive serializers
          (codec.encode serializers.wireFormat message) = some message := by
      intro codec
      rw [Codec.receive, serializers.encode_wireFormat, carried codec]
      exact messageBack
    exact ⟨received .json, received .msgpack⟩

/-! ## A subscription and a message -/

def chatFrame : ClientFrame :=
  .command (.subscribe "chat")

def chatMessage : ServerMessage :=
  .message "chat" (.object [("text", .string "hi")]) none (some 7)

def chatFrameText : String :=
  "\x7b\"command\":\"subscribe\",\"identifier\":\"chat\"\x7d"

def chatMessageText : String :=
  "\x7b\"type\":\"message\",\"identifier\":\"chat\"," ++
    "\"message\":\x7b\"text\":\"hi\"\x7d,\"seq\":7\x7d"

def chatFrameBytes : ByteArray :=
  ⟨#[
    0x82, 0xa7, 0x63, 0x6f, 0x6d, 0x6d, 0x61, 0x6e, 0x64, 0xa9, 0x73, 0x75,
    0x62, 0x73, 0x63, 0x72, 0x69, 0x62, 0x65, 0xaa, 0x69, 0x64, 0x65, 0x6e,
    0x74, 0x69, 0x66, 0x69, 0x65, 0x72, 0xa4, 0x63, 0x68, 0x61, 0x74]⟩

def chatMessageBytes : ByteArray :=
  ⟨#[
    0x84, 0xa4, 0x74, 0x79, 0x70, 0x65, 0xa7, 0x6d, 0x65, 0x73, 0x73, 0x61,
    0x67, 0x65, 0xaa, 0x69, 0x64, 0x65, 0x6e, 0x74, 0x69, 0x66, 0x69, 0x65,
    0x72, 0xa4, 0x63, 0x68, 0x61, 0x74, 0xa7, 0x6d, 0x65, 0x73, 0x73, 0x61,
    0x67, 0x65, 0x81, 0xa4, 0x74, 0x65, 0x78, 0x74, 0xa2, 0x68, 0x69, 0xa3,
    0x73, 0x65, 0x71, 0x07]⟩

/-- A reader of the two trees. -/
def chatTree (frameBytes messageBytes bytes : ByteArray) : Option Json :=
  if bytes = frameBytes then
    some chatFrame.serialize
  else if bytes = messageBytes then
    some chatMessage.serialize
  else
    none

theorem chatTree_frame (frameBytes messageBytes : ByteArray) :
    chatTree frameBytes messageBytes frameBytes = some chatFrame.serialize :=
  if_pos rfl

theorem chatTree_message {frameBytes messageBytes : ByteArray}
    (different : messageBytes ≠ frameBytes) :
    chatTree frameBytes messageBytes messageBytes =
      some chatMessage.serialize := by
  rw [chatTree, if_neg different, if_pos rfl]

/-- What the two libraries make of the two trees. -/
def chatSerializers : Serializers where
  jsonText
    | .object (("command", _) :: _) => chatFrameText
    | _ => chatMessageText
  jsonTree := chatTree chatFrameText.toUTF8 chatMessageText.toUTF8
  msgpackBytes
    | .object (("command", _) :: _) => chatFrameBytes
    | _ => chatMessageBytes
  msgpackTree := chatTree chatFrameBytes chatMessageBytes

/-- The frame on the wire. -/
def chatFrameWire : Codec → ByteArray
  | .json => chatFrameText.toUTF8
  | .msgpack => chatFrameBytes

/-- The message on the wire. -/
def chatMessageWire : Codec → ByteArray
  | .json => chatMessageText.toUTF8
  | .msgpack => chatMessageBytes

theorem chatSerializers_write_frame (codec : Codec) :
    chatSerializers.write codec chatFrame.serialize = chatFrameWire codec := by
  cases codec <;> rfl

theorem chatSerializers_write_message (codec : Codec) :
    chatSerializers.write codec chatMessage.serialize =
      chatMessageWire codec := by
  cases codec <;> rfl

theorem chatSerializers_read (codec : Codec) (bytes : ByteArray) :
    chatSerializers.read codec bytes =
      chatTree (chatFrameWire codec) (chatMessageWire codec) bytes := by
  cases codec <;> rfl

theorem chatWire_ne (codec : Codec) :
    chatMessageWire codec ≠ chatFrameWire codec := by
  cases codec with
  | json =>
      intro same
      have sameText : chatMessageText = chatFrameText :=
        String.toByteArray_inj.mp same
      exact absurd sameText (by decide)
  | msgpack => decide

theorem chatSerializers_carries_frame (codec : Codec) :
    chatSerializers.Carries codec chatFrame.serialize := by
  rw [Serializers.Carries, chatSerializers_write_frame, chatSerializers_read]
  exact chatTree_frame _ _

theorem chatSerializers_carries_message (codec : Codec) :
    chatSerializers.Carries codec chatMessage.serialize := by
  rw [Serializers.Carries, chatSerializers_write_message,
    chatSerializers_read]
  exact chatTree_message (chatWire_ne codec)

theorem chatMessage_inRange : chatMessage.InRange := by
  refine ⟨?_, ?_⟩
  · simp [Json.Ordered, Json.OrderedMembers, Sorted]
  · intro seq isSeq
    rw [← Option.some.inj isSeq]
    decide

theorem wire_frames_round_trip_chat :
    ClientFrame.deserialize chatFrame.serialize = some chatFrame ∧
      ServerMessage.deserialize chatMessage.serialize = some chatMessage ∧
      Codec.decode chatSerializers .msgpack chatFrameBytes =
        some chatFrame ∧
      Codec.receive chatSerializers .json chatMessageText.toUTF8 =
        some chatMessage ∧
      Codec.receive chatSerializers .msgpack chatMessageBytes =
        some chatMessage := by
  obtain ⟨frameBack, -, -, messageBack, decoded, received⟩ :=
    wire_frames_round_trip chatFrame trivial chatMessage chatMessage_inRange
  have read := decoded chatSerializers .msgpack
    (chatSerializers_carries_frame .msgpack)
  have both := received chatSerializers chatSerializers_carries_message
  rw [chatSerializers_write_frame, chatFrameWire] at read
  rw [Serializers.encode_wireFormat, Serializers.encode_wireFormat,
    chatSerializers_write_message, chatSerializers_write_message,
    chatMessageWire, chatMessageWire] at both
  exact ⟨frameBack, messageBack, read, both.1, both.2⟩

end TurbocableServer.Protocol
