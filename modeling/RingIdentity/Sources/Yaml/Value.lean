import RingIdentity.Sources.Yaml.Event
import RingIdentity.Text.Quoted
import RingIdentity.Number.Binary64
/-!
# YAML values

The documents of a YAML stream as values, built from its events.

**Scalars** follow the core schema. A quoted or block scalar is a string. A plain scalar is an
integer when it is `0x` or `0o` followed by a signed hexadecimal or octal number, or a signed
decimal number, that fits 64 bits; it is null when it is `~` or `null`, a boolean when it is
`true`, `True`, `TRUE`, `false`, `False` or `FALSE`, and a real when it holds a digit and reads
as a floating point number (`1e5`, `1.5`) or is one of the YAML infinities and NaNs (`.inf`,
`-.Inf`, `.NaN`, …); a real keeps its text. Anything else is a string, `Null`, `inf` and `nan`
among them. The tags `!!bool`, `!!int`, `!!float` and `!!null` demand their type and give a bad
value when the scalar is not of it; other tags leave the scalar a string.

**Collections** keep the order of their entries. A key given twice in a mapping is a fault at
the second value, reported once the whole stream has read (a fault of the stream itself comes
first). An alias stands for its anchor's node as it was when complete, or for a bad value while
that node is still being read.
-/
namespace RingIdentity

namespace Yaml

/-- A YAML value. -/
inductive Value where
  | real (text : String)
  | integer (value : Int)
  | string (text : String)
  | boolean (value : Bool)
  | array (items : List Value)
  | hash (entries : List (Value × Value))
  | null
  | badValue
  deriving Repr, Inhabited

mutual
/-- Equality of values. -/
def Value.beq : Value → Value → Bool
  | .real a, .real b => a == b
  | .integer a, .integer b => a == b
  | .string a, .string b => a == b
  | .boolean a, .boolean b => a == b
  | .array a, .array b => Value.beqList a b
  | .hash a, .hash b => Value.beqPairs a b
  | .null, .null => true
  | .badValue, .badValue => true
  | _, _ => false

/-- Equality of lists of values. -/
def Value.beqList : List Value → List Value → Bool
  | [], [] => true
  | a :: as, b :: bs => Value.beq a b && Value.beqList as bs
  | _, _ => false

/-- Equality of lists of pairs of values. -/
def Value.beqPairs : List (Value × Value) → List (Value × Value) → Bool
  | [], [] => true
  | (a, x) :: as, (b, y) :: bs => Value.beq a b && Value.beq x y && Value.beqPairs as bs
  | _, _ => false
end

instance : BEq Value := ⟨Value.beq⟩

mutual
/-- A value as a debugging text shows it: `String("a")`, `Integer(1)`, `Hash({…})`. -/
def Value.debug : Value → String
  | .real t => "Real(" ++ Text.quoted t ++ ")"
  | .integer i => "Integer(" ++ toString i ++ ")"
  | .string t => "String(" ++ Text.quoted t ++ ")"
  | .boolean b => "Boolean(" ++ toString b ++ ")"
  | .array items => "Array([" ++ Value.debugList items ++ "])"
  | .hash es => "Hash(\x7b" ++ Value.debugPairs es ++ "\x7d)"
  | .null => "Null"
  | .badValue => "BadValue"

/-- Values shown one after another. -/
def Value.debugList : List Value → String
  | [] => ""
  | [a] => Value.debug a
  | a :: as => Value.debug a ++ ", " ++ Value.debugList as

/-- Pairs shown one after another. -/
def Value.debugPairs : List (Value × Value) → String
  | [] => ""
  | [(k, v)] => Value.debug k ++ ": " ++ Value.debug v
  | (k, v) :: es => Value.debug k ++ ": " ++ Value.debug v ++ ", " ++ Value.debugPairs es
end

/-! ## The core schema -/

/-- The value of digits in a radix, none when a character is not one of its digits or there is
none. -/
def digitsIn (radix : Nat) (cs : List Char) : Option Nat :=
  if cs.isEmpty then none
  else cs.foldlM (fun n c => (hexValue? c).filter (· < radix) |>.map (radix * n + ·)) 0

/-- A signed integer in a radix that fits 64 bits, with an optional `+` or `-`. -/
def signedIn (radix : Nat) (cs : List Char) : Option Int :=
  let (negative, ds) := match cs with
    | '-' :: ds => (true, ds)
    | '+' :: ds => (false, ds)
    | ds => (false, ds)
  match digitsIn radix ds with
  | some n =>
    let i : Int := if negative then -(n : Int) else n
    if -Int.pow 2 63 ≤ i ∧ i < Int.pow 2 63 then some i else none
  | none => none

/-- Whether a text is a decimal floating point number: digits with an optional point and
fraction (at least one digit in all), then an optional exponent. -/
def isDecimalFloat (cs : List Char) : Bool :=
  let whole := cs.takeWhile Char.isDigit
  let rest := cs.drop whole.length
  let (fraction, rest) := match rest with
    | '.' :: more => (more.takeWhile Char.isDigit, more.drop (more.takeWhile Char.isDigit).length)
    | _ => ([], rest)
  let mantissa := whole.length + fraction.length > 0
  let exponentOk := match rest with
    | [] => true
    | e :: more =>
      (e = 'e' || e = 'E') &&
        let ds := match more with
          | '+' :: ds => ds
          | '-' :: ds => ds
          | ds => ds
        !ds.isEmpty && ds.all Char.isDigit
  mantissa && exponentOk

/-- A text as a binary64 number, when it reads as one: an optional sign, then `inf`,
`infinity` or `nan` in any case, or a decimal number. -/
def readFloat? (text : String) : Option Binary64 :=
  let cs := text.toList
  let (negative, body) := match cs with
    | '-' :: rest => (true, rest)
    | '+' :: rest => (false, rest)
    | rest => (false, rest)
  let lower := String.ofList (body.map Char.toLower)
  if lower = "inf" ∨ lower = "infinity" then some (.infinite negative)
  else if lower = "nan" then some .nan
  else if isDecimalFloat body then
    let whole := body.takeWhile Char.isDigit
    let rest := body.drop whole.length
    let fraction := match rest with
      | '.' :: more => more.takeWhile Char.isDigit
      | _ => []
    let afterFraction := match rest with
      | '.' :: more => more.drop fraction.length
      | more => more
    let exponent : Int := match afterFraction with
      | _ :: '-' :: ds => -(digitsValue ds : Int)
      | _ :: '+' :: ds => digitsValue ds
      | _ :: ds => digitsValue ds
      | [] => 0
    some (Binary64.ofDecimal ⟨negative, digitsValue (whole ++ fraction), exponent - fraction.length⟩)
  else none
where
  /-- The value of decimal digits. -/
  digitsValue (ds : List Char) : Nat := ds.foldl (fun n c => 10 * n + (c.toNat - '0'.toNat)) 0

/-- The YAML spellings of infinity and NaN. -/
def yamlSpecialFloats : List String :=
  [".inf", ".Inf", ".INF", "+.inf", "+.Inf", "+.INF", "-.inf", "-.Inf", "-.INF", ".nan", ".NaN",
    ".NAN"]

/-- Whether a text is a real of the core schema: a YAML infinity or NaN, or a floating point
number with a digit in it. -/
def isReal (text : String) : Bool :=
  yamlSpecialFloats.contains text || (text.any Char.isDigit && (readFloat? text).isSome)

/-- The value of a plain scalar without a tag. -/
def Value.ofPlain (v : String) : Value :=
  let cs := v.toList
  let special : Option Int :=
    if v.startsWith "0x" then signedIn 16 (cs.drop 2)
    else if v.startsWith "0o" then signedIn 8 (cs.drop 2)
    else if v.startsWith "+" then signedIn 10 (cs.drop 1)
    else none
  match special with
  | some i => .integer i
  | none =>
    if v = "~" ∨ v = "null" then .null
    else if v = "true" ∨ v = "True" ∨ v = "TRUE" then .boolean true
    else if v = "false" ∨ v = "False" ∨ v = "FALSE" then .boolean false
    else match signedIn 10 cs with
      | some i => .integer i
      | none => if isReal v then .real v else .string v

/-- The value of a scalar event. -/
def Value.ofScalar (v : String) (style : ScalarStyle) (tag : Option Tag) : Value :=
  if style ≠ .plain then .string v
  else match tag with
    | some t =>
      if t.handle = "tag:yaml.org,2002:" then
        if t.suffix = "bool" then
          if v = "true" ∨ v = "True" ∨ v = "TRUE" then .boolean true
          else if v = "false" ∨ v = "False" ∨ v = "FALSE" then .boolean false
          else .badValue
        else if t.suffix = "int" then
          match signedIn 10 v.toList with
          | some i => .integer i
          | none => .badValue
        else if t.suffix = "float" then if isReal v then .real v else .badValue
        else if t.suffix = "null" then if v = "~" ∨ v = "null" then .null else .badValue
        else .string v
      else .string v
    | none => Value.ofPlain v

/-! ## Building documents -/

/-- The state of building documents from events: the documents so far (last first), the nodes
being built with their anchors (innermost first), the pending key of each mapping being built,
the nodes of the anchors, and the first duplicated key. -/
structure Loader where
  docs : List Value := []
  stack : List (Value × Nat) := []
  keys : List Value := []
  anchored : List (Nat × Value) := []
  duplicate : Option ScanError := none
  deriving Inhabited

/-- Puts a complete node in its place: a document, an item of a sequence, or a key or value
of a mapping. -/
def Loader.insert (l : Loader) (v : Value) (anchor : Nat) (m : Mark) : Loader :=
  let l := if anchor > 0 then { l with anchored := (anchor, v) :: l.anchored } else l
  match l.stack with
  | [] => { l with stack := [(v, anchor)] }
  | (.array items, a) :: rest => { l with stack := (.array (items ++ [v]), a) :: rest }
  | (.hash es, a) :: rest =>
    match l.keys with
    | .badValue :: ks => { l with keys := v :: ks }
    | k :: ks =>
      if es.any (·.1 == k) then
        { l with keys := .badValue :: ks,
                 duplicate := some ⟨m, k.debug ++ ": duplicated key in mapping"⟩ }
      else { l with stack := (.hash (es ++ [(k, v)]), a) :: rest, keys := .badValue :: ks }
    | [] => l
  | _ :: _ => l

/-- Takes an event; after a duplicated key, events are ignored. -/
def Loader.onEvent (l : Loader) (ev : Event) (m : Mark) : Loader :=
  if l.duplicate.isSome then l
  else match ev with
    | .documentEnd =>
      match l.stack with
      | (v, _) :: _ => { l with docs := v :: l.docs, stack := [] }
      | [] => { l with docs := .badValue :: l.docs }
    | .sequenceStart anchor _ => { l with stack := (.array [], anchor) :: l.stack }
    | .mappingStart anchor _ =>
      { l with stack := (.hash [], anchor) :: l.stack, keys := .badValue :: l.keys }
    | .sequenceEnd =>
      match l.stack with
      | (v, a) :: rest => { l with stack := rest }.insert v a m
      | [] => l
    | .mappingEnd =>
      match l.stack with
      | (v, a) :: rest => { l with stack := rest, keys := l.keys.drop 1 }.insert v a m
      | [] => l
    | .scalar v style anchor tag => l.insert (Value.ofScalar v style tag) anchor m
    | .alias id => l.insert ((l.anchored.lookup id).getD .badValue) 0 m
    | _ => l

/-- Reads events up to the stream's end; anchor names are forgotten at each document. -/
def loadEvents : Nat → Loader → Parse Loader
  | 0, l => pure l
  | fuel + 1, l => do
    let (ev, m) ← Parse.nextEvent
    match ev with
    | .streamEnd => pure l
    | .documentStart _ => do
      modify fun p => { p with anchors := [] }
      loadEvents fuel (l.onEvent ev m)
    | _ => loadEvents fuel (l.onEvent ev m)

/-- The documents of a YAML text; a fault of the stream comes before a duplicated key. -/
def load (text : String) : Except ScanError (List Value) := do
  let input := text.toList.toArray
  let (l, _) ← (loadEvents (8 * input.size + 16) {}).run { scanner := { input } }
  match l.duplicate with
  | some e => throw e
  | none => pure l.docs.reverse

end Yaml

end RingIdentity
