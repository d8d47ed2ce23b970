import RingIdentity.Json.Value
import RingIdentity.Decode.Error
/-!
Requests and replies of scenarios.

A scenario is a request: a JSON object naming an operation and its inputs. Its reply is a JSON
value, or an error object `{"error": kind, "message": text}` when the request as a whole fails:
kind `Deserialize` when a section embedded in the request does not read, kind `driver` when
the request itself is malformed (an unknown operation or type, a missing input), and kind `panic`
when the program stops while serving it. For the
request's own inputs `null` counts as absent; an embedded section keeps its nulls and its
repeated keys, since it is read as a document of its own.
-/
namespace RingIdentity

namespace Scenario

/-- A computation of a reply that may fail with an error object. -/
abbrev Reply := Except Json

/-- An error object of a kind with a message. -/
def failure (kind message : String) : Json :=
  .obj [("error", .str kind), ("message", .str message)]

/-- The error object of a request during which the program stopped. -/
def halted : Json := failure "panic" "the driver panicked"

/-- The error object of a malformed request. -/
def malformed (message : String) : Json := failure "driver" message

/-- A required input. -/
def need (req : Json) (key : String) : Reply Json :=
  match req.field? key with
  | some v => .ok v
  | none => .error (malformed ("missing field `" ++ key ++ "`"))

/-- A required text input. -/
def needText (req : Json) (key : String) : Reply String := do
  match ← need req key with
  | .str s => .ok s
  | _ => .error (malformed ("invalid type for field `" ++ key ++ "`, expected a string"))

/-- A required count input. -/
def needNat (req : Json) (key : String) : Reply Nat := do
  match ← need req key with
  | .int i =>
    if i ≥ 0 then .ok i.toNat
    else .error (malformed ("invalid value for field `" ++ key ++ "`, expected a count"))
  | _ => .error (malformed ("invalid type for field `" ++ key ++ "`, expected a count"))

/-- An optional text input. -/
def text? (req : Json) (key : String) : Option String := (req.field? key).bind Json.asString?

/-- A text input with a default. -/
def textD (req : Json) (key : String) (dflt : String) : String := (text? req key).getD dflt

/-- An optional count input. -/
def nat? (req : Json) (key : String) : Option Nat :=
  match req.field? key with
  | some (.int i) => if i ≥ 0 then some i.toNat else none
  | _ => none

/-- A count input with a default. -/
def natD (req : Json) (key : String) (dflt : Nat) : Nat := (nat? req key).getD dflt

/-- An optional boolean input. -/
def bool? (req : Json) (key : String) : Option Bool := (req.field? key).bind Json.asBool?

/-- A boolean input with a default. -/
def boolD (req : Json) (key : String) (dflt : Bool) : Bool := (bool? req key).getD dflt

/-- The items of an optional array input; absent is empty. -/
def items (req : Json) (key : String) : List Json := ((req.field? key).bind Json.asArray?).getD []

/-- The texts of an optional array input; absent is empty. -/
def texts (req : Json) (key : String) : List String := (items req key).filterMap Json.asString?

/-- Reads an embedded section; a failure is a `Deserialize` error object. -/
def embedded {α : Type} (read : Node → Except DecodeError α) (j : Json) : Reply α :=
  match read (Node.ofJson j) with
  | .ok v => .ok v
  | .error e => .error (if e.halts then halted else failure "Deserialize" e.message)

/-- Reads a required embedded section; a `null` there is read as a document of its own. -/
def needEmbedded {α : Type} (read : Node → Except DecodeError α) (req : Json) (key : String) :
    Reply α :=
  match req.get? key with
  | some j => embedded read j
  | none => .error (malformed ("missing field `" ++ key ++ "`"))

/-- A required input given as a document of its own, `null` included. -/
def needDocument (req : Json) (key : String) : Reply Json :=
  match req.get? key with
  | some j => .ok j
  | none => .error (malformed ("missing field `" ++ key ++ "`"))

/-- Reads an optional embedded section. -/
def embedded? {α : Type} (read : Node → Except DecodeError α) (req : Json) (key : String) :
    Reply (Option α) :=
  match req.field? key with
  | some j => some <$> embedded read j
  | none => .ok none

/-- The reply as a JSON value: the value itself, or the error object. -/
def Reply.merge : Reply Json → Json
  | .ok j => j
  | .error e => e

end Scenario

end RingIdentity
