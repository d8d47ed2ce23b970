import RingIdentity.Number.Binary64
/-!
JSON documents as their text holds them. Object members keep the order in which they are
written, and a key written twice is kept twice: the readers of configuration sections visit
every member in turn and decide themselves what a repeated field means. Integers are kept
exactly, at any size, and other numbers as the binary64 values a reader rounds them to. A string whose
escapes form no character is kept as a broken value with its fault, so that only a reader that
needs it fails; so is an object with such a key, up to that key.

`Json.render` writes a document compactly, escaping in strings only the quote, the backslash and
control characters.
-/
namespace RingIdentity

/-- A JSON value with members in written order, repeated keys included. -/
inductive Json where
  | null
  | bool (value : Bool)
  | int (value : Int)
  | float (value : Binary64)
  | str (value : String)
  | arr (items : List Json)
  | obj (members : List (String × Json))
  /-- A value that reads but stands for nothing: a string whose escapes form no character.
  It carries the fault, for a reader that needs the value to report. -/
  | broken (fault : String)
  /-- An object with a key whose escapes form no character: the members before that key, and
  its fault, for a reader that visits the keys to report. -/
  | keyBroken (members : List (String × Json)) (fault : String)
  deriving Inhabited, Repr

namespace Json

/-- The four hexadecimal digits of a code unit below `0x10000`, lower case. -/
def hex4 (n : Nat) : List Char :=
  let digit := fun (k : Nat) => if k < 10 then Char.ofNat (48 + k) else Char.ofNat (87 + k)
  [digit (n / 4096 % 16), digit (n / 256 % 16), digit (n / 16 % 16), digit (n % 16)]

/-- One character of a string body as JSON text writes it. -/
def escapeChar (c : Char) : List Char :=
  if c = '"' then ['\\', '"']
  else if c = '\\' then ['\\', '\\']
  else if c = '\n' then ['\\', 'n']
  else if c = '\r' then ['\\', 'r']
  else if c = '\t' then ['\\', 't']
  else if c.toNat = 8 then ['\\', 'b']
  else if c.toNat = 12 then ['\\', 'f']
  else if c.toNat < 32 then '\\' :: 'u' :: hex4 c.toNat
  else [c]

/-- A string as a quoted JSON string. -/
def quote (s : String) : String :=
  String.ofList ('"' :: (s.toList.flatMap escapeChar ++ ['"']))

/-- The text of a binary64 value in a written document: the shortest decimal that reads back,
as digits, then `e` and the exponent; a value that JSON cannot write is `null`. -/
def floatText (x : Binary64) : String :=
  match Binary64.shortestOf x with
  | some d =>
    (if d.negative then "-" else "") ++ toString d.digits ++
      (if d.exponent = 0 then "" else "e" ++ toString d.exponent)
  | none => "null"

mutual
/-- The compact text of a value. -/
def render : Json → String
  | .null => "null"
  | .bool true => "true"
  | .bool false => "false"
  | .int i => toString i
  | .float x => floatText x
  | .str s => quote s
  | .arr items => "[" ++ renderItems items ++ "]"
  | .obj members => "\x7b" ++ renderMembers members ++ "\x7d"
  | .broken _ => "null"
  | .keyBroken members _ => "\x7b" ++ renderMembers members ++ "\x7d"

/-- Array items separated by commas. -/
def renderItems : List Json → String
  | [] => ""
  | [j] => render j
  | j :: rest => render j ++ "," ++ renderItems rest

/-- Object members separated by commas. -/
def renderMembers : List (String × Json) → String
  | [] => ""
  | [(k, j)] => quote k ++ ":" ++ render j
  | (k, j) :: rest => quote k ++ ":" ++ render j ++ "," ++ renderMembers rest
end

/-- The value of the first member named `key`, if the value is an object that has one. -/
def get? (j : Json) (key : String) : Option Json :=
  match j with
  | .obj members | .keyBroken members _ => (members.find? (·.1 == key)).map (·.2)
  | _ => none

/-- Like `get?`, with `null` counted as absent. -/
def field? (j : Json) (key : String) : Option Json :=
  match j.get? key with
  | some .null => none
  | other => other

/-- A string value. -/
def asString? : Json → Option String
  | .str s => some s
  | _ => none

/-- An integer value. -/
def asInt? : Json → Option Int
  | .int i => some i
  | _ => none

/-- A boolean value. -/
def asBool? : Json → Option Bool
  | .bool b => some b
  | _ => none

/-- The items of an array. -/
def asArray? : Json → Option (List Json)
  | .arr items => some items
  | _ => none

/-- An object of the given members. -/
def record (members : List (String × Json)) : Json := .obj members

/-- A string, or `null` when absent. -/
def optStr : Option String → Json
  | some s => .str s
  | none => .null

/-- A natural number. -/
def nat (n : Nat) : Json := .int n

/-- An array of strings. -/
def strs (xs : List String) : Json := .arr (xs.map .str)

/-- An object with more members after its own; any other value stays as it is. -/
def withMembers (j : Json) (more : List (String × Json)) : Json :=
  match j with
  | .obj fields => .obj (fields ++ more)
  | j => j

end Json

end RingIdentity
