import Mathlib.Algebra.GroupWithZero.Nat
import Mathlib.Data.List.Basic

/-!
# Protocol message types

The frames exchanged with a WebSocket client (`protocol/types.rs`), the JSON
values they carry, and the extraction of a stream name from an ActionCable
identifier (`stream_key_from_identifier` in `connection/handler.rs`).

Strings are read as lists of Unicode scalar values; offsets into them are
UTF-8 byte offsets, as in the source.
-/

namespace TurbocableServer.Protocol

/-- Payloads are compared by the core instance, whatever else is imported. -/
instance payloadDecidableEq : DecidableEq ByteArray :=
  ByteArray.instDecidableEq

/-- A `serde_json::Value`.  Numbers keep their literal, so that integers and
floats are transported unchanged. -/
inductive Json where
  | null
  | bool (value : Bool)
  | number (literal : String)
  | string (value : String)
  | array (items : List Json)
  | object (members : List (String × Json))

namespace Json

/-- `Value::get` with a string index. -/
def get : Json → String → Option Json
  | .object members, key => members.lookup key
  | _, _ => none

/-- `Value::as_str`. -/
def asStr : Json → Option String
  | .string value => some value
  | _ => none

end Json

/-- Body of a hello frame.  The `type` tag is fixed and carries no data. -/
structure HelloCommand where
  lastSeq : Option Nat
  capabilities : List String
  deriving DecidableEq, Repr

/-- The client advertised the `replay_v1` capability. -/
def HelloCommand.isReplayCapable (hello : HelloCommand) : Bool :=
  hello.capabilities.any (fun capability => capability == "replay_v1")

inductive ClientCommand where
  | subscribe (identifier : String)
  | unsubscribe (identifier : String)
  | message (identifier : String) (data : String)
  deriving DecidableEq, Repr

inductive ClientFrame where
  | hello (command : HelloCommand)
  | command (command : ClientCommand)
  deriving DecidableEq, Repr

/-- Outbound frames.  In `message`, `replayed` is `some true` on catch-up
frames and absent on live ones, and `seq` is the JetStream sequence. -/
inductive ServerMessage where
  | welcome
  | ping (message : Nat)
  | confirmSubscription (identifier : String)
  | rejectSubscription (identifier : String)
  | disconnect (reason : String) (reconnect : Option Bool)
  | message (identifier : String) (message : Json)
      (replayed : Option Bool) (seq : Option Nat)

/-- The `identifier` field of a message frame. -/
def identifierField : ServerMessage → Option String
  | .message identifier _ _ _ => some identifier
  | _ => none

/-- A live frame of `stream`. -/
def isLiveOf (stream : String) : ServerMessage → Bool
  | .message identifier _ none _ => identifier == stream
  | _ => false

/-- A catch-up frame of `stream`. -/
def isReplayedOf (stream : String) : ServerMessage → Bool
  | .message identifier _ (some true) _ => identifier == stream
  | _ => false

/-- Length of a string in UTF-8 bytes (`str::len`). -/
def utf8Len (text : List Char) : Nat :=
  (text.map Char.utf8Size).sum

/-- `str::find`: byte offset of the first occurrence of `needle`, the search
having reached `offset`. -/
def findFrom (needle : List Char) : List Char → Nat → Option Nat
  | [], offset => if needle.isPrefixOf [] then some offset else none
  | head :: tail, offset =>
      if needle.isPrefixOf (head :: tail) then
        some offset
      else
        findFrom needle tail (offset + head.utf8Size)

/-- The characters whose byte offset lies in `start..stop`; the text given
begins at `offset`. -/
def sliceFrom (start stop : Nat) : List Char → Nat → List Char
  | [], _ => []
  | head :: tail, offset =>
      if start ≤ offset ∧ offset < stop then
        head :: sliceFrom start stop tail (offset + head.utf8Size)
      else
        sliceFrom start stop tail (offset + head.utf8Size)

/-- The stream name named by an identifier.  `fromStr` is
`serde_json::from_str::<Value>`. -/
def streamKeyFromIdentifier
    (fromStr : String → Option Json) (identifier : String) : String :=
  match (fromStr identifier).bind
      (fun value => (value.get "stream").bind Json.asStr) with
  | none => identifier
  | some name =>
      match findFrom name.toList identifier.toList 0 with
      | none => identifier
      | some start =>
          String.ofList
            (sliceFrom start (start + utf8Len name.toList)
              identifier.toList 0)

/-- The identifier of the doc comment of `stream_key_from_identifier`. -/
def benchIdentifier : String :=
  "\x7b\"channel\":\"BenchmarkChannel\",\"stream\":\"bench\"\x7d"

/-- A parser that knows this one text. -/
def benchFromStr (text : String) : Option Json :=
  if text = benchIdentifier then
    some (.object
      [("channel", .string "BenchmarkChannel"), ("stream", .string "bench")])
  else
    none

end TurbocableServer.Protocol
