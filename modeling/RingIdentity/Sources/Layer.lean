import RingIdentity.Decode.Node
import RingIdentity.Text.Position
/-!
Layered settings: the tree that configuration files, the environment and explicit overrides are
merged into, one source after another.

A source sets values under key paths such as `identity.new_token_retry.attempts` or `racs[0]`:
a key of ASCII letters, digits, `_` and `-`, then steps, each a dot and a key or a position in
brackets (an integer of 64 bits, blanks around it allowed). A text that is not a key path is
reported with a caret under the byte where reading stopped (`KeyPath.Error.message`).
Setting a value walks the path, turning whatever is in the way into a map (or, for a position,
a sequence). A position past the end pads the sequence with nulls after its items; a negative
position counts from the end, and one that reaches before the start pads with nulls in front,
so that it names the first item. A map is merged into what is there key by key, so a later
source changes only the keys it names; any other value replaces what was there. Keys keep their
case. Maps built by merging remember no source; scalars and sequences keep the source they came
from, which messages about them name.
-/
namespace RingIdentity

/-- A step of a key path: a map key or a position in a sequence. -/
inductive KeyStep where
  | key (name : String)
  | index (position : Int)
  deriving DecidableEq, Repr, Inhabited

namespace KeyPath

/-- Whether a character may stand in a key of a path. -/
def isKeyChar (c : Char) : Bool := c.isAlphanum || c = '_' || c = '-'

/-- Whether a character is a blank that may stand around a position: a space or a tab. -/
def isPositionBlank (c : Char) : Bool := c = ' ' || c = '\t'

/-- Why a text is not a key path. -/
inductive Fault where
  /-- No key where one must stand: at the start, or after a dot. -/
  | key
  /-- A character after a key or a position that starts no further step. -/
  | step
  /-- No integer after an opening bracket. -/
  | position
  /-- An integer after an opening bracket beyond the 64-bit range, above it or below it. -/
  | positionRange (below : Bool)
  /-- No closing bracket after a position. -/
  | closing
  deriving DecidableEq, Repr, Inhabited

/-- The explanation of a fault: what was being read, then what was expected. -/
def Fault.text : Fault → String
  | .key => "invalid identifier\nexpected ASCII alphanumeric, `_`, `-`"
  | .step => "invalid postfix\nexpected `[`, `.`"
  | .position => "invalid subscript\nexpected integer"
  | .positionRange false =>
    "invalid subscript\nexpected integer\nnumber too large to fit in target type"
  | .positionRange true =>
    "invalid subscript\nexpected integer\nnumber too small to fit in target type"
  | .closing => "invalid subscript\nexpected `]`"

/-- A text that is not a key path, the byte offset at which reading stopped, and why. -/
structure Error where
  text : String
  offset : Nat
  fault : Fault
  deriving DecidableEq, Repr, Inhabited

/-- The natural number of a list of decimal digits. -/
def natOfDigits (ds : List Char) : Nat := ds.foldl (fun n c => n * 10 + (c.toNat - 48)) 0

/-- A reading step of a key path: a result, the characters after it and their byte offset, or
the offset of a fault. -/
abbrev Reading (α : Type) := Except (Nat × Fault) (α × List Char × Nat)

/-- A key pos the front of `cs`, which stands pos byte offset `pos`: the longest run of key
characters, of which there must be one. -/
def readKey (cs : List Char) (pos : Nat) : Reading String :=
  let name := cs.takeWhile isKeyChar
  if name.isEmpty then .error (pos, .key)
  else .ok (String.ofList name, cs.dropWhile isKeyChar, pos + name.length)

/-- A position after an opening bracket: blanks, an optional minus, digits within the 64-bit
range, blanks and the closing bracket. -/
def readPosition (cs : List Char) (pos : Nat) : Reading Int :=
  let lead := cs.takeWhile isPositionBlank
  let cs := cs.dropWhile isPositionBlank
  let start := pos + lead.length
  let (below, cs, pos) := match cs with
    | '-' :: rest => (true, rest, start + 1)
    | _ => (false, cs, start)
  let digits := cs.takeWhile Char.isDigit
  if digits.isEmpty then .error (pos, .position)
  else
    let n := natOfDigits digits
    if (below ∧ n > Nat.pow 2 63) ∨ (¬below ∧ n ≥ Nat.pow 2 63) then .error (start, .positionRange below)
    else
      let cs := cs.dropWhile Char.isDigit
      let pos := pos + digits.length
      let trail := cs.takeWhile isPositionBlank
      let pos := pos + trail.length
      match cs.dropWhile isPositionBlank with
      | ']' :: rest => .ok (if below then -(n : Int) else n, rest, pos + 1)
      | _ => .error (pos, .closing)

/-- The steps after the first key, each `.key` or `[position]`, to the end of the text; the fuel
is the number of characters left, of which each step reads pos least one. -/
def readSteps : Nat → List Char → Nat → Except (Nat × Fault) (List KeyStep)
  | _, [], _ => .ok []
  | 0, _ :: _, pos => .error (pos, .step)
  | fuel + 1, '.' :: rest, pos => do
    let (name, rest, pos) ← readKey rest (pos + 1)
    (KeyStep.key name :: ·) <$> readSteps fuel rest pos
  | fuel + 1, '[' :: rest, pos => do
    let (n, rest, pos) ← readPosition rest (pos + 1)
    (KeyStep.index n :: ·) <$> readSteps fuel rest pos
  | _ + 1, c :: _, pos => .error (pos + c.utf8Size, .step)

/-- Reads a key path: a key, then steps. -/
def read (s : String) : Except Error (List KeyStep) :=
  let cs := s.toList
  let steps : Except (Nat × Fault) (List KeyStep) := do
    let (first, rest, pos) ← readKey cs 0
    (KeyStep.key first :: ·) <$> readSteps rest.length rest pos
  steps.mapError fun (offset, fault) => ⟨s, offset, fault⟩

/-- Reads a key path, `none` when it does not read. -/
def parse? (s : String) : Option (List KeyStep) :=
  match read s with
  | .ok steps => some steps
  | .error _ => none

/-- The report of a key path that does not read: the text, a caret under the byte where reading
stopped, and the fault. A text of several lines is shown by the line of the caret, numbered. -/
def Error.message (e : Error) : String :=
  let spaces := Text.spaces
  if e.text.contains '\n' then
    let (line, column) := Text.linePosition e.text.toUTF8 e.offset
    let number := toString (line + 1)
    let gutter := spaces number.length
    let content := (e.text.splitOn "\n").getD line ""
    "parse error at line " ++ number ++ ", column " ++ toString (column + 1) ++ "\n" ++
      gutter ++ " |\n" ++ number ++ " | " ++ content ++ "\n" ++
      gutter ++ " | " ++ spaces column ++ "^\n" ++ e.fault.text
  else e.text ++ "\n" ++ spaces e.offset ++ "^\n" ++ e.fault.text

/-- The path a source key sets: the key read as a path, or else the whole key as one step. -/
def ofSourceKey (s : String) : List KeyStep := (parse? s).getD [.key s]

end KeyPath

namespace Node

/-- The null node, with no source. -/
def none_ : Node := .leaf none .nil

/-- The entries of a map node; nothing for any other node. -/
def entriesOf : Node → List (String × Node)
  | .map _ es _ => es
  | _ => []

/-- A node as a map: a map stays as it is, anything else becomes an empty map. -/
def asMap : Node → Node
  | .map o es _ => .map o es none
  | _ => .map none [] none

/-- Changes the entry of a key with `f`, starting from null when the key is new (it is then
added last). -/
def updateEntry (k : String) (f : Node → Node) : List (String × Node) → List (String × Node)
  | [] => [(k, f none_)]
  | (k', v) :: rest => if k' = k then (k', f v) :: rest else (k', v) :: updateEntry k f rest

/-- Changes the child of a map under a key; anything else becomes a map first. -/
def updateChild (n : Node) (k : String) (f : Node → Node) : Node :=
  match asMap n with
  | .map o es _ => .map o (updateEntry k f es) none
  | other => other

mutual
/-- Puts a value where a node is: a map merges into it key by key, anything else replaces it. -/
def place : Node → Node → Node
  | target, .map _ entries _ => placeEntries (asMap target) entries
  | _, v => v

/-- Merges entries into a map, one key after another. -/
def placeEntries : Node → List (String × Node) → Node
  | target, [] => target
  | target, (k, v) :: rest => placeEntries (updateChild target k fun child => place child v) rest
end

/-- The items of a sequence padded so that a position names one of them, and that item's index:
a position past the end pads after the items, a negative one counts from the end, and one
before the start pads in front and names the first item. -/
def padFor (items : List Node) (i : Int) : List Node × Nat :=
  if i ≥ 0 then (items ++ List.replicate (i.toNat + 1 - items.length) none_, i.toNat)
  else if i.natAbs ≤ items.length then (items, items.length - i.natAbs)
  else (List.replicate (i.natAbs - items.length) none_ ++ items, 0)

/-- Sets the item at a position of a sequence node; anything else becomes an empty sequence
first. -/
def updateItem (n : Node) (i : Int) (f : Node → Node) : Node :=
  let (o, items) := match n with
    | .seq o items => (o, items)
    | _ => (none, [])
  let (padded, p) := padFor items i
  .seq o (padded.set p (f (padded.getD p none_)))

/-- Sets a value under a key path. -/
def setPath (root : Node) (v : Node) : List KeyStep → Node
  | [] => place root v
  | .key k :: rest => updateChild root k fun child => setPath child v rest
  | .index i :: rest => updateItem root i fun child => setPath child v rest

end Node

/-- The merged tree of settings. -/
structure Layered where
  root : Node := .map none [] none
  deriving Repr, Inhabited

namespace Layered

/-- Sets a value under a key path. -/
def set (t : Layered) (path : List KeyStep) (v : Node) : Layered := ⟨t.root.setPath v path⟩

/-- Sets an explicit override: its key must read as a key path. -/
def override (t : Layered) (key : String) (v : Node) : Except KeyPath.Error Layered :=
  (t.set · v) <$> KeyPath.read key

/-- Adds a source's top-level entries, each key read as a path. -/
def addSource (t : Layered) (entries : List (String × Node)) : Layered :=
  entries.foldl (fun t (k, v) => t.set (KeyPath.ofSourceKey k) v) t

end Layered

end RingIdentity
