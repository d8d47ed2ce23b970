import RingIdentity.Sources.Yaml.Value
import RingIdentity.Decode.Error
/-!
# YAML configuration files

A YAML file read into the top-level entries of a settings tree.

The file holds at most one document, and it must be a mapping; an empty file has no entries.
String, integer, boolean and real keys are taken as text (an integer in decimal, a real as
written); a key of another type is a fault. Reals are read as binary64 numbers, and a real that does not read as one (`.inf`) is a
fault; null, bad values and the like are nil. Every node remembers the file it came from.
-/
namespace RingIdentity

namespace Yaml

/-- Puts an entry in a map's entries, replacing an entry of the same key in its place. -/
def putEntry (es : List (String × Node)) (k : String) (v : Node) : List (String × Node) :=
  if es.any (·.1 == k) then es.map fun (k', x) => if k' = k then (k', v) else (k', x)
  else es ++ [(k, v)]

mutual
/-- A value as a settings node from a source, or why it cannot be one. -/
def Value.toNode (origin : Option String) : Value → Except String Node
  | .string s => pure (.leaf origin (.str s))
  | .integer i => pure (.leaf origin (.int i))
  | .boolean b => pure (.leaf origin (.bool b))
  | .real t =>
    match readFloat? t with
    | some f => pure (.leaf origin (.float f))
    | none => throw ("Parsing " ++ t ++ " as floating point number failed")
  | .array items => .seq origin <$> Value.toNodes origin items
  | .hash es => (.map origin · none) <$> Value.toEntries origin es []
  | .null | .badValue => pure (.leaf origin .nil)

/-- Values as settings nodes. -/
def Value.toNodes (origin : Option String) : List Value → Except String (List Node)
  | [] => pure []
  | v :: vs => do
    let n ← Value.toNode origin v
    pure (n :: (← Value.toNodes origin vs))

/-- The entries of a mapping as settings entries, after `acc`. -/
def Value.toEntries (origin : Option String) :
    List (Value × Value) → List (String × Node) → Except String (List (String × Node))
  | [], acc => pure acc
  | (k, v) :: es, acc => do
    let key ← match k with
      | .string s => pure s
      | .integer i => pure (toString i)
      | .boolean b => pure (toString b)
      | .real t => pure t
      | other => throw ("Cannot parse " ++ other.debug ++ " because it is an unsupported hash key type")
    let n ← Value.toNode origin v
    Value.toEntries origin es (putEntry acc key n)
end

/-- The top-level entries of a YAML file named `uri`, or why it does not read. -/
def read (uri : String) (text : String) : Except String (List (String × Node)) :=
  match load text with
  | .error e => throw e.render
  | .ok [] => pure []
  | .ok [doc] =>
    match doc.toNode (some uri) with
    | .error m => throw m
    | .ok (.map _ entries _) => pure entries
    | .ok other => throw ("invalid type: " ++ other.found.settingText ++ ", expected a map in " ++ uri)
  | .ok docs => throw ("Got " ++ toString docs.length ++ " YAML documents, expected 1")

end Yaml

end RingIdentity
