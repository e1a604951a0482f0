import Mathlib.Data.List.Basic
import TurbocableServer.Protocol.Types

/-!
# Wire formats

The sub-protocol negotiation of `ws_upgrade` and `negotiate_protocol`
(`connection/handler.rs`) and the two codecs of `protocol/mod.rs`, as far as
they encode.  The serializers themselves are parameters: `serde_json` produces
text, which is where its output is known to be UTF-8, and `rmp_serde` produces
bytes.  Neither fails on a server message.
-/

namespace TurbocableServer.Protocol

def subProtocolJson : String := "actioncable-v1-json"

def subProtocolMsgpack : String := "turbocable-v1-msgpack"

inductive Codec where
  | json
  | msgpack
  deriving DecidableEq, Repr

def codecForProtocol (protocol : String) : Option Codec :=
  if protocol = subProtocolJson then
    some .json
  else if protocol = subProtocolMsgpack then
    some .msgpack
  else
    none

/-- `str::trim`; a header value has no whitespace beyond ASCII. -/
def trim (text : List Char) : List Char :=
  ((text.dropWhile Char.isWhitespace).reverse.dropWhile
    Char.isWhitespace).reverse

/-- The loop of `negotiate_protocol` over the parts of the header. -/
def negotiateParts : List (List Char) → String
  | [] => subProtocolJson
  | part :: rest =>
      if trim part = subProtocolMsgpack.toList then
        subProtocolMsgpack
      else if trim part = subProtocolJson.toList then
        subProtocolJson
      else
        negotiateParts rest

def negotiateProtocol (header : String) : String :=
  negotiateParts (header.toList.splitOn ',')

/-- The sub-protocol of a connection; a header that is absent or unreadable
means JSON. -/
def upgradeProtocol : Option String → String
  | some header => negotiateProtocol header
  | none => subProtocolJson

theorem negotiateParts_cases (parts : List (List Char)) :
    negotiateParts parts = subProtocolJson ∨
      negotiateParts parts = subProtocolMsgpack := by
  induction parts with
  | nil =>
      exact Or.inl rfl
  | cons part rest ih =>
      unfold negotiateParts
      split
      · exact Or.inr rfl
      · split
        · exact Or.inl rfl
        · exact ih

theorem upgradeProtocol_cases (header : Option String) :
    upgradeProtocol header = subProtocolJson ∨
      upgradeProtocol header = subProtocolMsgpack := by
  cases header with
  | none =>
      exact Or.inl rfl
  | some header =>
      exact negotiateParts_cases _

/-- The codec of a negotiated protocol exists, and it is the binary one exactly
for the binary protocol. -/
theorem codecForProtocol_upgradeProtocol (header : Option String) :
    ∃ codec,
      codecForProtocol (upgradeProtocol header) = some codec ∧
        (codec = .msgpack ↔ upgradeProtocol header = subProtocolMsgpack) := by
  have different : subProtocolMsgpack ≠ subProtocolJson := by decide
  rcases upgradeProtocol_cases header with isJson | isMsgpack
  · exact ⟨.json, by simp [codecForProtocol, isJson], by
      simp [isJson, different.symm]⟩
  · exact ⟨.msgpack, by simp [codecForProtocol, isMsgpack, different], by
      simp [isMsgpack]⟩

example : negotiateProtocol "soap, turbocable-v1-msgpack , x" =
    subProtocolMsgpack := by
  decide

/-- The serializers. -/
structure WireFormat where
  jsonText : ServerMessage → String
  msgpackBytes : ServerMessage → ByteArray

/-- `Codec::encode`. -/
def Codec.encode (format : WireFormat) :
    Codec → ServerMessage → ByteArray
  | .json, frame => (format.jsonText frame).toUTF8
  | .msgpack, frame => format.msgpackBytes frame

end TurbocableServer.Protocol
