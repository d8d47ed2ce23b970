import RingIdentity.Json.Value
/-!
The documents that configuration sections are read from: a JSON document, or the layered tree
that configuration files, environment variables and overrides merge into. Both are trees of
scalars, sequences and maps whose members keep their order; a node of the layered tree also
remembers the source it came from (a file, the environment), which messages name.

`Found` describes what a node is when a reader refuses it.
-/
namespace RingIdentity

/-- The scalar values of a document; integers are kept whole. -/
inductive Scalar where
  | nil
  | bool (value : Bool)
  | int (value : Int)
  | float (value : Binary64)
  | str (value : String)
  /-- A value that a document holds but that stands for nothing, with the fault to report when
  it is read. -/
  | unreadable (fault : String)
  deriving Inhabited, Repr, DecidableEq

/-- A node of a document, with the source it came from when that is known. A map may end in a
key that does not read (in a JSON document only): a reader that visits the keys reports its
fault after the entries before it. -/
inductive Node where
  | leaf (origin : Option String) (value : Scalar)
  | seq (origin : Option String) (items : List Node)
  | map (origin : Option String) (entries : List (String × Node)) (keyFault : Option String)
  deriving Inhabited, Repr

/-- What a refused node was, for messages. -/
inductive Found where
  | nil
  | bool (value : Bool)
  | int (value : Int)
  | unsigned (value : Nat)
  | float (value : Binary64)
  | str (value : String)
  | unreadable (fault : String)
  | seq
  | map
  deriving Inhabited, Repr, DecidableEq

namespace Node

/-- The source a node came from. -/
def origin : Node → Option String
  | .leaf o _ => o
  | .seq o _ => o
  | .map o _ _ => o

/-- What a node is, as a message describes it. -/
def found : Node → Found
  | .leaf _ .nil => .nil
  | .leaf _ (.bool b) => .bool b
  | .leaf _ (.int i) => .int i
  | .leaf _ (.float d) => .float d
  | .leaf _ (.str s) => .str s
  | .leaf _ (.unreadable f) => .unreadable f
  | .seq _ _ => .seq
  | .map _ _ _ => .map

/-- The least integer a JSON reader keeps as an integer: `-2^63`. -/
def intLow : Int := -Int.pow 2 63

/-- One past the greatest integer a JSON reader keeps as an integer: `2^64`. -/
def intHigh : Int := Int.pow 2 64

mutual
/-- A JSON value as a document node. A JSON reader keeps integers from `-2^63` to `2^64 - 1`
as integers and reads any other integer as a floating point number. -/
def ofJson : Json → Node
  | .null => .leaf none .nil
  | .bool b => .leaf none (.bool b)
  | .int i => if intLow ≤ i ∧ i < intHigh then .leaf none (.int i)
      else .leaf none (.float (Binary64.ofInt i))
  | .float d => .leaf none (.float d)
  | .str s => .leaf none (.str s)
  | .broken f => .leaf none (.unreadable f)
  | .arr items => .seq none (ofJsonItems items)
  | .obj members => .map none (ofJsonMembers members) none
  | .keyBroken members f => .map none (ofJsonMembers members) (some f)

/-- Array items as nodes. -/
def ofJsonItems : List Json → List Node
  | [] => []
  | j :: rest => ofJson j :: ofJsonItems rest

/-- Object members as node entries. -/
def ofJsonMembers : List (String × Json) → List (String × Node)
  | [] => []
  | (k, j) :: rest => (k, ofJson j) :: ofJsonMembers rest
end

end Node

end RingIdentity
