import RingIdentity.Decode.Node
import RingIdentity.Sources.Toml.Bare
import RingIdentity.Sources.Toml.Datetime
/-!
TOML documents read into a settings node.

Reading goes in three passes. The text is cut into tokens and the tokens are read into events,
which checks the grammar and the characters of comments and line breaks: a fault of the grammar
is reported after any such fault in the lines before it. The events then build the document's
tables: each key and value is decoded when its event comes, and each key must fit the tables
already built. Last the numbers are worked out, table by table with the keys in byte order.

The rules of tables: a table is defined by one header only, and a key once in its table. A
header may name a table that only the headers below it created; it may not reopen a table that
dotted keys made, nor one written inline. Dotted keys may extend the tables that other dotted
keys of the same table made, but not a table of a header, an inline table, or a value. The
element of an array of tables that a key extends is its last one.

Everything read from a document remembers the document it came from.
-/
namespace RingIdentity

namespace Toml

/-- A key as written, with its byte span. -/
structure Key where
  name : String
  start : Nat
  stop : Nat
  deriving DecidableEq, Repr, Inhabited

/-- A value of a document while it is read; numbers keep their text. A table remembers
whether only the headers below it created it, whether dotted keys made it, and whether it is
written inline. -/
inductive Item where
  | str (s : String)
  | int (text : List Char) (radix : Nat)
  | float (text : List Char)
  | bool (b : Bool)
  | datetime (text : String)
  | array (items : List Item) (ofTables : Bool)
  | table (entries : List (Key × Item)) (implicit dotted inline : Bool)
  deriving Repr, Inhabited

/-- How a fault names the type of a value. -/
def Item.typeName : Item → String
  | .str _ => "string"
  | .int _ _ => "integer"
  | .float _ => "float"
  | .bool _ => "boolean"
  | .datetime _ => "datetime"
  | .array _ _ => "array"
  | .table _ _ _ _ => "table"

/-- A table being built. -/
structure Table where
  entries : List (Key × Item) := []
  implicit : Bool := false
  dotted : Bool := false
  inline : Bool := false
  deriving Repr, Inhabited

namespace Table

/-- A table as a value. -/
def toItem (t : Table) : Item := .table t.entries t.implicit t.dotted t.inline

/-- The entry under a name. -/
def find? (t : Table) (name : String) : Option (Key × Item) :=
  t.entries.find? (·.1.name == name)

/-- Adds an entry last. -/
def push (t : Table) (k : Key) (v : Item) : Table := { t with entries := t.entries ++ [(k, v)] }

/-- Replaces the value under a name. -/
def set (t : Table) (name : String) (v : Item) : Table :=
  { t with entries := t.entries.map fun (k, x) => if k.name = name then (k, v) else (k, x) }

/-- Removes the entry under a name. -/
def erase (t : Table) (name : String) : Table :=
  { t with entries := t.entries.filter (·.1.name != name) }

end Table

/-- The fault of a key that runs into a value it cannot extend. -/
def extendFault (k : Key) (typeName : String) : Fault :=
  Fault.at k.start k.stop ("cannot extend value of type " ++ typeName ++ " with a dotted key") none

/-- The fault of a key defined twice. -/
def duplicateKey (k : Key) : Fault := Fault.at k.start k.stop "duplicate key" none

/-- Changes the table at a path below a table, creating the tables missing on the way (made by
dotted keys when `dotted`); the path goes through the last element of an array of tables. -/
def descend {α : Type} (dotted : Bool) (f : Table → Except Fault (Table × α)) :
    Table → List Key → Except Fault (Table × α)
  | t, [] => f t
  | t, k :: rest =>
    match t.find? k.name with
    | none => do
      let (child, a) ← descend dotted f { implicit := true, dotted } rest
      pure (t.push k child.toItem, a)
    | some (_, .array items true) =>
      match items.getLast? with
      | some (.table es i d n) => do
        let (child, a) ← descend dotted f ⟨es, i, d, n⟩ rest
        pure (t.set k.name (.array (items.dropLast ++ [child.toItem]) true), a)
      | _ => throw (extendFault k "array")
    | some (_, .table es i d n) =>
      if n then throw (extendFault k "inline table")
      else if dotted ∧ !i then throw (duplicateKey k)
      else do
        let (child, a) ← descend dotted f ⟨es, i, d, n⟩ rest
        pure (t.set k.name child.toItem, a)
    | some (_, v) => throw (extendFault k v.typeName)

/-- Puts a key/value pair into a table: a dotted key's value into the tables it names. -/
def capture (t : Table) (keys : List Key) (v : Item) : Except Fault Table :=
  match keys.getLast? with
  | none => pure t
  | some k =>
    let path := keys.dropLast
    Prod.fst <$> descend (!path.isEmpty) (fun parent =>
      if parent.dotted = path.isEmpty then throw (duplicateKey k)
      else match parent.find? k.name with
        | some _ => throw (duplicateKey k)
        | none => pure (parent.push k v, ())) t path

/-- The state of a document being read: the root table, the table of the last header and its
path, and whether that header names an array of tables. -/
structure Reading where
  root : Table := {}
  current : Table := {}
  path : List Key := []
  isArray : Bool := false
  deriving Inhabited

/-- Puts the table of the last header in its place. -/
def Reading.finish (r : Reading) : Except Fault Table :=
  match r.path.getLast? with
  | none => pure r.current
  | some k =>
    Prod.fst <$> descend false (fun parent =>
      if r.isArray then
        match parent.find? k.name with
        | some (_, .array items true) =>
          pure (parent.set k.name (.array (items ++ [r.current.toItem]) true), ())
        | _ => pure (parent, ())
      else pure (parent.push k r.current.toItem, ())) r.root r.path.dropLast

/-- Opens the table of a header. -/
def Reading.start (root : Table) (path : List Key) (isArray : Bool) : Except Fault Reading :=
  match path.getLast? with
  | none => pure { root }
  | some k =>
    if isArray then do
      let (root, ()) ← descend false (fun parent =>
        match parent.find? k.name with
        | none => pure (parent.push k (.array [] true), ())
        | some (_, .array _ true) => pure (parent, ())
        | some _ => throw (duplicateKey k)) root path.dropLast
      pure { root, path, isArray := true }
    else do
      let (root, current) ← descend false (fun parent =>
        match parent.find? k.name with
        | none => pure (parent, ({} : Table))
        | some (_, .table es true false false) =>
          pure (parent.erase k.name, ⟨es, false, false, false⟩)
        | some _ => throw (duplicateKey k)) root path.dropLast
      pure { root, current, path }

/-- A step of building a document from its events. -/
abbrev Build := StateT (List Event) (Except Fault)

/-- The next event, left unread. -/
def peekEvent : Build (Option Event) := do
  pure (← get).head?

/-- Drops the next event. -/
def skipEvent : Build Unit := modify List.tail

/-- The value of a scalar event. -/
def scalarItem (q : Option Quoting) (e : Event) : Except Fault Item :=
  (match q with
   | some q => Item.str <$> decodeString q e.text
   | none => do
     match ← decodeBare e.text with
     | .boolean b => pure (.bool b)
     | .integer text radix => pure (.int text radix)
     | .float text => pure (.float text)
     | .datetime text =>
       match Datetime.parse (String.ofList text) with
       | .ok d => pure (.datetime d.render)
       | .error f => throw (Fault.at 0 (Text.byteWidth text) f.message none)).mapError
    fun (f : Fault) => f.shift e.start

/-- The keys of a key path, decoded. -/
def readPath : Nat → List Key → Build (List Key)
  | 0, acc => pure acc.reverse
  | fuel + 1, acc => do
    match ← peekEvent with
    | some e =>
      match e.kind with
      | .key q => do
        skipEvent
        let name ← StateT.lift ((decodeKey q e.text).mapError (·.shift e.start))
        readPath fuel (⟨name, e.start, e.stop⟩ :: acc)
      | .keySep | .blank => do
        skipEvent
        readPath fuel acc
      | _ => pure acc.reverse
    | none => pure acc.reverse

/-- Drops blanks and the key/value separator after a key path. -/
def skipSeparator : Nat → Build Unit
  | 0 => pure ()
  | fuel + 1 => do
    match ← peekEvent with
    | some e =>
      if e.kind = .blank then do
        skipEvent
        skipSeparator fuel
      else if e.kind = .keyValSep then skipEvent
      else pure ()
    | none => pure ()

/-- Checks a layout event and drops it. -/
def layout (e : Event) : Build Unit := do
  skipEvent
  StateT.lift e.checkLayout

mutual
/-- A value. -/
def readValue : Nat → Build Item
  | 0 => pure (.str "")
  | fuel + 1 => do
    match ← peekEvent with
    | none => pure (.str "")
    | some e => do
      skipEvent
      match e.kind with
      | .blank => readValue fuel
      | .scalar q => StateT.lift (scalarItem q e)
      | .arrayOpen => readItems fuel []
      | .inlineOpen => readInline fuel { inline := true }
      | _ => pure (.str "")

/-- The elements of an array after its opening. -/
def readItems : Nat → List Item → Build Item
  | 0, acc => pure (.array acc.reverse false)
  | fuel + 1, acc => do
    match ← peekEvent with
    | none => pure (.array acc.reverse false)
    | some e =>
      match e.kind with
      | .arrayClose => do
        skipEvent
        pure (.array acc.reverse false)
      | .blank | .comment | .newline => do
        layout e
        readItems fuel acc
      | .valueSep => do
        skipEvent
        readItems fuel acc
      | _ => do
        let v ← readValue fuel
        readItems fuel (v :: acc)

/-- The pairs of an inline table after its opening. -/
def readInline : Nat → Table → Build Item
  | 0, t => pure t.toItem
  | fuel + 1, t => do
    match ← peekEvent with
    | none => pure t.toItem
    | some e =>
      match e.kind with
      | .inlineClose => do
        skipEvent
        pure t.toItem
      | .blank | .comment | .newline => do
        layout e
        readInline fuel t
      | .key _ => do
        let keys ← readPath fuel []
        skipSeparator fuel
        let v ← readValue fuel
        let t ← StateT.lift (capture t keys v)
        readInline fuel t
      | _ => do
        skipEvent
        readInline fuel t
end

/-- The lines of a document. -/
def readLines : Nat → Reading → Build Table
  | 0, r => StateT.lift r.finish
  | fuel + 1, r => do
    match ← peekEvent with
    | none => StateT.lift r.finish
    | some e =>
      match e.kind with
      | .tableOpen | .arrayTableOpen => do
        skipEvent
        let root ← StateT.lift r.finish
        let path ← readPath fuel []
        let r ← StateT.lift (Reading.start root path (e.kind = .arrayTableOpen))
        readLines fuel r
      | .key _ => do
        let keys ← readPath fuel []
        skipSeparator fuel
        let v ← readValue fuel
        let current ← StateT.lift (capture r.current keys v)
        readLines fuel { r with current }
      | .blank | .comment | .newline => do
        layout e
        readLines fuel r
      | _ => do
        skipEvent
        readLines fuel r

/-- The value of an integer's text in a radix, as a 64-bit signed integer. The digits are read
from the left, and the first that is not a digit of the radix, or that takes the value out of
range, ends the reading with its fault; so a text that overflows before its first wrong digit
is too large or too small rather than wrongly written. -/
def intValue (text : List Char) (radix : Nat) : Except String Int := do
  let (negative, digits) := match text with
    | '-' :: ds => (true, ds)
    | '+' :: ds => (false, ds)
    | ds => (false, ds)
  if text.isEmpty then throw "cannot parse integer from empty string"
  if digits.isEmpty then throw "invalid digit found in string"
  let bound : Nat := if negative then Nat.pow 2 63 else Nat.pow 2 63 - 1
  let overflow := if negative then "number too small to fit in target type"
    else "number too large to fit in target type"
  let step (n : Nat) (c : Char) : Except String Nat :=
    match (hexDigit? c).filter (· < radix) with
    | none => throw "invalid digit found in string"
    | some d => if radix * n + d > bound then throw overflow else pure (radix * n + d)
  let n ← digits.foldlM step 0
  pure (if negative then -(n : Int) else n)

/-- The value of a float's text, rounded to binary64; a finite text whose value overflows does
not read. -/
def floatValue (text : List Char) : Except String Binary64 := do
  let (negative, body) := match text with
    | '-' :: cs => (true, cs)
    | '+' :: cs => (false, cs)
    | cs => (false, cs)
  if body = "inf".toList then pure (.infinite negative)
  else if body = "nan".toList then pure .nan
  else
    let whole := body.takeWhile Char.isDigit
    let rest := body.drop whole.length
    let fraction := match rest with
      | '.' :: cs => cs.takeWhile Char.isDigit
      | _ => []
    let rest := match rest with
      | '.' :: cs => cs.drop fraction.length
      | cs => cs
    let exponent : Int := match rest with
      | _ :: '-' :: ds => -(digitsValue ds : Int)
      | _ :: '+' :: ds => digitsValue ds
      | _ :: ds => digitsValue ds
      | [] => 0
    let f := Binary64.ofDecimal ⟨negative, digitsValue (whole ++ fraction), exponent - fraction.length⟩
    if f.isInfinite then throw "floating-point number overflowed" else pure f

/-- A document value as a settings node from a source; the entries of a table come in byte
order of their keys, and the first number that does not fit in that order stops the
reading. -/
def Item.toNode (origin : Option String) : Item → Except String Node
  | .str s => pure (.leaf origin (.str s))
  | .int text radix => do pure (.leaf origin (.int (← intValue text radix)))
  | .float text => do pure (.leaf origin (.float (← floatValue text)))
  | .bool b => pure (.leaf origin (.bool b))
  | .datetime s => pure (.leaf origin (.str s))
  | .array items _ => .seq origin <$> items.attach.mapM fun ⟨x, _⟩ => Item.toNode origin x
  | .table es _ _ _ =>
    (.map origin · none) <$> (es.attach.mergeSort fun a b => a.1.1.name ≤ b.1.1.name).mapM
      fun ⟨(k, x), _⟩ => do pure (k.name, ← Item.toNode origin x)
termination_by i => sizeOf i
decreasing_by
  all_goals simp_wf
  · have := List.sizeOf_lt_of_mem ‹_›; omega
  · rename_i h; have := List.sizeOf_lt_of_mem h; simp at this; omega

/-- Reads a document into its top-level entries, in byte order of their keys, each remembering
`origin`. -/
def read (origin : Option String) (text : String) : Except ReadError (List (String × Node)) := do
  let (evs, fault) := events (lex text)
  (evs.forM Event.checkLayout).mapError ReadError.placed
  if let some f := fault then throw (ReadError.placed f)
  let (root, _) ← ((readLines (2 * evs.length + 2) {}).run evs).mapError ReadError.placed
  match Item.toNode origin root.toItem with
  | .ok (.map _ entries _) => pure entries
  | .ok _ => pure []
  | .error m => throw (.unplaced m)

end Toml

end RingIdentity
