import RingIdentity.Decode.Error
import RingIdentity.Number.Binary64
import RingIdentity.Text.Case
/-!
Reading scalars and maps from a document node.

From a JSON document a value answers only a request for its own kind: a string for a string, a
boolean for a boolean, an integer in range for a count. Layered settings convert: a number or a
boolean is spelled when text is wanted, the words `yes`, `on`, `true` and `1` (and their
opposites) are booleans, a text of digits is a count, and a float rounds to the nearest count.
What does not convert is an `unconvertible` error naming the source of the value.
-/
namespace RingIdentity

/-- The members of a map as a reader visits them: its entries in order, then the fault of a
key that does not read, when the map ends in one. -/
structure Members where
  entries : List (String × Node)
  keyFault : Option String := none

/-- Visits the key that ends the members: its fault, if it does not read. -/
def Members.finish (m : Members) : Except DecodeError Unit :=
  match m.keyFault with
  | some f => .error (.refused f)
  | none => .ok ()

namespace Node

/-- A scalar spelled as settings convert it to text. -/
def convertText : Node → Except DecodeError String
  | .leaf _ (.str s) => .ok s
  | .leaf _ (.bool b) => .ok (toString b)
  | .leaf _ (.int i) => .ok (toString i)
  | .leaf _ (.float d) => .ok (Spelling.plain.spell d)
  | n => .error (.unconvertible n.origin n.found "a string")

/-- Text for a reader that accepts nothing else; `expecting` names what it wants. -/
def readText (d : Dialect) (n : Node) (expecting : String) : Except DecodeError String :=
  match d, n with
  | .json, .leaf _ (.str s) => .ok s
  | .json, n => .error (.mismatch n.found expecting)
  | .settings, n => n.convertText

/-- A string value. -/
def readString (d : Dialect) (n : Node) : Except DecodeError String := n.readText d "a string"

/-- An optional string: null is absent. -/
def readOptString (d : Dialect) (n : Node) : Except DecodeError (Option String) :=
  match n with
  | .leaf _ .nil => .ok none
  | n => some <$> n.readString d

/-- A boolean value. Settings take nonzero numbers as true and the words `1`, `true`, `on`,
`yes` and `0`, `false`, `off`, `no` in any case. -/
def readBool (d : Dialect) (n : Node) : Except DecodeError Bool :=
  match d, n with
  | .json, .leaf _ (.bool b) => .ok b
  | .json, n => .error (.mismatch n.found "a boolean")
  | .settings, .leaf _ (.bool b) => .ok b
  | .settings, .leaf _ (.int i) => .ok (i != 0)
  | .settings, .leaf _ (.float x) => .ok (!x.isZero)
  | .settings, .leaf o (.str s) =>
    let l := Text.lower s
    if ["1", "true", "on", "yes"].contains l then .ok true
    else if ["0", "false", "off", "no"].contains l then .ok false
    else .error (.unconvertible o (.str l) "a boolean")
  | .settings, n => .error (.unconvertible n.origin n.found "a boolean")

/-- The greatest unsigned 64-bit number. -/
def u64Max : Nat := Nat.pow 2 64 - 1

/-- A text of decimal digits, with an optional `+`, as an unsigned 64-bit number. -/
def parseUnsigned (s : String) : Option Nat :=
  let cs := match s.toList with
    | '+' :: rest => rest
    | cs => cs
  if cs.isEmpty ∨ ¬cs.all Char.isDigit then none
  else
    let n := cs.foldl (fun n c => n * 10 + (c.toNat - 48)) 0
    if n ≤ u64Max then some n else none

/-- A binary64 value rounded to the nearest natural, halves away from zero, and held to the
unsigned 64-bit range: negative values and values that are not numbers give zero, values past
the range (an infinity among them) its greatest value. -/
def roundToUnsigned : Binary64 → Nat
  | .finite true _ _ => 0
  | .finite false m e =>
    let n := if e ≥ 0 then m * Nat.pow 2 e.toNat
      else (2 * m + Nat.pow 2 (-e).toNat) / Nat.pow 2 ((-e).toNat + 1)
    min n u64Max
  | .infinite negative => if negative then 0 else u64Max
  | .nan => 0

/-- A setting converted to an unsigned 64-bit number. -/
def convertUnsigned : Node → Except DecodeError Nat
  | .leaf o (.int i) =>
    if i ≥ 0 then .ok i.toNat
    else .error (.unconvertible o (.int i) "an unsigned 64 bit or less integer")
  | .leaf o (.str s) =>
    let l := Text.lower s
    if ["true", "on", "yes"].contains l then .ok 1
    else if ["false", "off", "no"].contains l then .ok 0
    else match parseUnsigned s with
      | some n => .ok n
      | none => .error (.unconvertible o (.str s) "an integer")
  | .leaf _ (.bool b) => .ok (if b then 1 else 0)
  | .leaf _ (.float x) => .ok (roundToUnsigned x)
  | n => .error (.unconvertible n.origin n.found "an integer")

/-- An unsigned 32-bit count. -/
def readU32 (d : Dialect) (n : Node) : Except DecodeError Nat :=
  match d, n with
  | .json, .leaf _ (.int i) =>
    if 0 ≤ i ∧ i < Int.pow 2 32 then .ok i.toNat else .error (.outOfRange (.int i) "u32")
  | .json, n => .error (.mismatch n.found "u32")
  | .settings, n => do
    let v ← n.convertUnsigned
    if v < Nat.pow 2 32 then .ok v
    else .error (.unconvertible none (.unsigned v) "an unsigned 32 bit integer")

/-- The members of a map; `expecting` names the section that wanted one. -/
def readMap (n : Node) (expecting : String) : Except DecodeError Members :=
  match n with
  | .map _ entries keyFault => .ok ⟨entries, keyFault⟩
  | n => .error (.mismatch n.found expecting)

end Node

end RingIdentity
