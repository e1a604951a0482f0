import Mathlib.Data.List.Basic

/-!
# Stream-level authorization

The glob patterns of a token and the check `is_allowed` (`auth/jwt.rs`).
-/

namespace TurbocableServer.Auth

/-- `str::strip_suffix('*')`. -/
def stripSuffixStar (pattern : List Char) : Option (List Char) :=
  if pattern.getLast? = some '*' then some pattern.dropLast else none

/-- One pattern against one stream name: everything, a prefix, or the exact
name. -/
def patternAllows (pattern stream : String) : Bool :=
  if pattern == "*" then
    true
  else
    match stripSuffixStar pattern.toList with
    | some stem => stem.isPrefixOf stream.toList
    | none => pattern == stream

/-- Whether `stream` matches any of the allowed patterns. -/
def isAllowed (allowed : List String) (stream : String) : Bool :=
  allowed.any (fun pattern => patternAllows pattern stream)

end TurbocableServer.Auth
