import RingIdentity.Decode.Read
import RingIdentity.Text.Slug
/-!
Sections of configuration: maps whose keys name fields by slug.

A section declares its fields in order, each with a primary name and aliases. A key names the
first declared field one of whose names it matches as a slug; other keys are ignored. The
entries are read in written order: a field that a second key names is refused with
``duplicate field `primary` ``, unless the field is `repeatable`, where the last value wins.
A field's value is read when its key is met, so an error in an earlier value wins over a later
repetition; a key that does not read is reported once the entries before it are read.
`Layout.collect` returns the fields met, with their values, in order; the section then builds
itself from them.
-/
namespace RingIdentity

/-- The fields of a section, in declared order, with their names. -/
structure Layout (F : Type) where
  /-- Every field, in declared order. -/
  fields : List F
  /-- The names of a field: the primary name first, then the aliases. -/
  names : F → List String
  /-- Fields that may be named more than once; the last value wins. -/
  repeatable : F → Bool := fun _ => false

namespace Layout

variable {F V : Type}

/-- The primary name of a field. -/
def primary (l : Layout F) (f : F) : String := (l.names f).headD ""

/-- The field a key names: the first declared field with a name of the same slug. -/
def classify (l : Layout F) (key : String) : Option F :=
  l.fields.find? fun f => (l.names f).any (Slug.same key)

/-- Reads the entries of a section in order, keeping the fields met with their values, in
order. `read f key node` reads the value of field `f` written under `key`. -/
def collectEntries [BEq F] (l : Layout F) (read : F → String → Node → Except DecodeError V) :
    List (String × Node) → List (F × V) → Except DecodeError (List (F × V))
  | [], acc => .ok acc.reverse
  | (key, node) :: rest, acc =>
    match l.classify key with
    | none => l.collectEntries read rest acc
    | some f =>
      if !l.repeatable f && acc.any (·.1 == f) then .error (.duplicateField (l.primary f))
      else match read f key node with
        | .error e => .error e
        | .ok v => l.collectEntries read rest ((f, v) :: acc)

/-- Reads the members of a section: its entries in order, then a key that does not read. -/
def collect [BEq F] (l : Layout F) (read : F → String → Node → Except DecodeError V)
    (m : Members) : Except DecodeError (List (F × V)) := do
  let met ← l.collectEntries read m.entries []
  m.finish
  pure met

end Layout

/-- The last value of the fields met that a projection accepts. -/
def lastValue {F V T : Type} (met : List (F × V)) (proj : V → Option T) : Option T :=
  met.foldl (fun found (_, v) => (proj v).or found) none

end RingIdentity
