import RingIdentity.Sources.Toml.Event
/-!
The characters of keys, strings, comments and line breaks, checked and decoded.

A bare key holds ASCII letters, digits, `-` and `_`, and at least one of them. A literal string
holds its characters as written: tabs and visible characters other than its quote. A basic
string holds the same characters and escapes: `\b`, `\e`, `\f`, `\n`, `\r`, `\t`, `\\`, `\"`, and
`\x`, `\u` and `\U` with two, four and eight hexadecimal digits naming a Unicode scalar value.
The multi-line forms also hold line breaks (a carriage return only before a line feed, and a
line break right after the opening quotes is dropped), and in a multi-line basic string a
backslash at the end of a line drops the line break and all blanks after it. A comment holds
tabs and visible characters.

Faults point into the token, in bytes from its start.
-/
namespace RingIdentity

namespace Toml

/-- Whether a character may stand unescaped in a basic string: a space, a tab, or a visible
character other than `"` and `\`. -/
def isBasicChar (c : Char) : Bool :=
  c = ' ' || c = '\t' || c = '!' || (0x23 ≤ c.toNat && c.toNat ≤ 0x5B) ||
    (0x5D ≤ c.toNat && c.toNat ≤ 0x7E) || c.toNat ≥ 0x80

/-- Whether a character may stand in a literal string: a tab, or a visible character other
than `'`. -/
def isLiteralChar (c : Char) : Bool :=
  c = '\t' || (0x20 ≤ c.toNat && c.toNat ≤ 0x26) || (0x28 ≤ c.toNat && c.toNat ≤ 0x7E) ||
    c.toNat ≥ 0x80

/-- Whether a character may stand in a comment: a tab or a visible character. -/
def isCommentChar (c : Char) : Bool :=
  c = '\t' || (0x20 ≤ c.toNat && c.toNat ≤ 0x7E) || c.toNat ≥ 0x80

/-- Whether a character may stand in a bare key. -/
def isBareKeyChar (c : Char) : Bool := c.isAlphanum || c = '-' || c = '_'

/-- The value of a hexadecimal digit. -/
def hexDigit? (c : Char) : Option Nat :=
  if c.isDigit then some (c.toNat - '0'.toNat)
  else if 'a' ≤ c ∧ c ≤ 'f' then some (c.toNat - 'a'.toNat + 10)
  else if 'A' ≤ c ∧ c ≤ 'F' then some (c.toNat - 'A'.toNat + 10)
  else none

/-- The value of hexadecimal digits. -/
def hexValue (cs : List Char) : Nat :=
  cs.foldl (fun n c => 16 * n + (hexDigit? c).getD 0) 0

/-- What may follow a backslash. -/
def escapeExpected : List Expect :=
  ["b", "e", "f", "n", "r", "\\", "\"", "x", "u", "U"].map Expect.literal

/-- The character that a one-letter escape stands for. -/
def simpleEscape : Char → Option Char
  | 'b' => some '\x08'
  | 'e' => some '\x1b'
  | 'f' => some '\x0c'
  | 'n' => some '\n'
  | 'r' => some '\r'
  | 't' => some '\t'
  | '\\' => some '\\'
  | '"' => some '"'
  | _ => none

/-- How many hexadecimal digits an escape letter takes. -/
def escapeWidth (c : Char) : Nat :=
  if c = 'x' then 2 else if c = 'u' then 4 else if c = 'U' then 8 else 0

/-- The escape after a backslash, whose next character is at byte `pos`: the character it
stands for, the characters after it and their byte offset. -/
def escape (pos : Nat) : List Char → Except Fault (Char × List Char × Nat)
  | [] => throw (Fault.at pos pos "missing escaped value" (some escapeExpected))
  | c :: rest =>
    match simpleEscape c with
    | some e => pure (e, rest, pos + 1)
    | none =>
      let width := escapeWidth c
      if width = 0 then throw (Fault.at pos pos "missing escaped value" (some escapeExpected))
      else
        let digits := (rest.take width).takeWhile fun d => (hexDigit? d).isSome
        let expected := some [Expect.description "unicode hexadecimal value"]
        if digits.length < width then
          throw (Fault.at (pos + 1 + digits.length) (pos + 1 + digits.length)
            "too few unicode value digits" expected)
        else
          let n := hexValue digits
          if n.isValidChar then pure (Char.ofNat n, rest.drop width, pos + 1 + width)
          else throw (Fault.at (pos + 1) (pos + 1) "invalid value" expected)

/-- The body of a basic string from byte `pos`, decoded onto `acc` (reversed). -/
def basicBody : Nat → List Char → Nat → List Char → Except Fault (List Char)
  | 0, _, _, acc => pure acc.reverse
  | _ + 1, [], _, acc => pure acc.reverse
  | fuel + 1, c :: rest, pos, acc =>
    if c = '\\' then do
      let (e, rest, pos) ← escape (pos + 1) rest
      basicBody fuel rest pos (e :: acc)
    else if isBasicChar c then basicBody fuel rest (pos + c.utf8Size) (c :: acc)
    else
      let bad := (c :: rest).takeWhile fun d => !isBasicChar d && d ≠ '\\'
      throw (Fault.at pos (pos + Text.byteWidth bad) "invalid basic string"
        (some [.description "non-double-quote visible characters", .literal "\\"]))

/-- The body between a string's quotes `q`, or a fault at the missing quote. -/
def between (description q : String) (raw : List Char) : Except Fault (List Char) := do
  let qs := q.toList
  if raw.take qs.length ≠ qs then throw (Fault.at 0 0 description (some [.literal q]))
  let body := raw.drop qs.length
  if body.length < qs.length ∨ body.drop (body.length - qs.length) ≠ qs then
    let n := Text.byteWidth raw
    throw (Fault.at n n description (some [.literal q]))
  pure (body.take (body.length - qs.length))

/-- Decodes a basic string. -/
def decodeBasic (raw : List Char) : Except Fault String := do
  let body ← between "invalid basic string" "\"" raw
  String.ofList <$> basicBody body.length body 1 []

/-- Checks the characters of a literal string's body from byte `pos`. -/
def checkLiteral (description : String) (pos : Nat) : List Char → Except Fault Unit
  | [] => pure ()
  | c :: rest =>
    if isLiteralChar c then checkLiteral description (pos + c.utf8Size) rest
    else throw (Fault.at pos pos description (some [.description "non-single-quote visible characters"]))

/-- Decodes a literal string. -/
def decodeLiteral (raw : List Char) : Except Fault String := do
  let body ← between "invalid literal string" "'" raw
  checkLiteral "invalid literal string" 1 body
  pure (String.ofList body)

/-- A multi-line body without the line break right after its opening quotes, and that break's
width. -/
def dropFirstBreak : List Char → List Char × Nat
  | '\n' :: rest => (rest, 1)
  | '\r' :: '\n' :: rest => (rest, 2)
  | cs => (cs, 0)

/-- The fault of a carriage return that no line feed follows, the return at byte `pos`. -/
def loneReturn (pos : Nat) : Fault :=
  Fault.at (pos + 1) (pos + 1) "carriage return must be followed by newline" (some [.literal "\n"])

/-- The body of a multi-line literal string from byte `pos`, decoded onto `acc` (reversed). -/
def literalBlockBody : List Char → Nat → List Char → Except Fault (List Char)
  | [], _, acc => pure acc.reverse
  | '\r' :: '\n' :: rest, pos, acc => literalBlockBody rest (pos + 2) ('\n' :: acc)
  | '\r' :: _, pos, _ => throw (loneReturn pos)
  | c :: rest, pos, acc =>
    if isLiteralChar c || c = '\'' || c = '\n' then literalBlockBody rest (pos + c.utf8Size) (c :: acc)
    else throw (Fault.at pos pos "invalid multi-line literal string"
      (some [.description "non-single-quote visible characters"]))

/-- Decodes a multi-line literal string. -/
def decodeLiteralBlock (raw : List Char) : Except Fault String := do
  let body ← between "invalid multi-line literal string" "'''" raw
  let (body, skipped) := dropFirstBreak body
  String.ofList <$> literalBlockBody body (3 + skipped) []

/-- Whether a character is a blank or a line break character. -/
def isBlankOrBreak (c : Char) : Bool := c = ' ' || c = '\t' || c = '\n' || c = '\r'

/-- Skips the blanks and line breaks after a line-ending backslash, from byte `pos`; a carriage
return must come before a line feed. Gives the characters after them and their byte offset. -/
def skipGap : List Char → Nat → Except Fault (List Char × Nat)
  | '\r' :: '\n' :: rest, pos => skipGap rest (pos + 2)
  | '\r' :: _, pos => throw (loneReturn pos)
  | c :: rest, pos =>
    if c = ' ' || c = '\t' || c = '\n' then skipGap rest (pos + 1) else pure (c :: rest, pos)
  | [], pos => pure ([], pos)

/-- The body of a multi-line basic string from byte `pos`, decoded onto `acc` (reversed). A
backslash followed by blanks must end its line. -/
def basicBlockBody : Nat → List Char → Nat → List Char → Except Fault (List Char)
  | 0, _, _, acc => pure acc.reverse
  | _ + 1, [], _, acc => pure acc.reverse
  | fuel + 1, c :: rest, pos, acc =>
    if c = '\\' then
      let blanks := rest.takeWhile fun d => d = ' ' || d = '\t'
      let after := pos + 1 + blanks.length
      match rest.drop blanks.length with
      | '\n' :: _ | '\r' :: _ => do
        let (rest, pos) ← skipGap (rest.drop blanks.length) after
        basicBlockBody fuel rest pos acc
      | _ =>
        if blanks.isEmpty then do
          let (e, rest, pos) ← escape (pos + 1) rest
          basicBlockBody fuel rest pos (e :: acc)
        else throw (Fault.at after after "invalid multi-line basic string" (some [.literal "\n"]))
    else if c = '\r' then
      match rest with
      | '\n' :: more => basicBlockBody fuel more (pos + 2) ('\n' :: acc)
      | _ => throw (loneReturn pos)
    else if isBasicChar c || c = '"' || c = '\n' then
      basicBlockBody fuel rest (pos + c.utf8Size) (c :: acc)
    else
      let bad := (c :: rest).takeWhile fun d =>
        !(isBasicChar d || d = '"' || d = '\n' || d = '\r' || d = '\\')
      throw (Fault.at pos (pos + Text.byteWidth bad) "invalid multi-line basic string"
        (some [.literal "\\", .description "characters"]))

/-- Decodes a multi-line basic string. -/
def decodeBasicBlock (raw : List Char) : Except Fault String := do
  let body ← between "invalid multi-line basic string" "\"\"\"" raw
  let (body, skipped) := dropFirstBreak body
  String.ofList <$> basicBlockBody body.length body (3 + skipped) []

/-- Decodes a string of a given quoting. -/
def decodeString (q : Quoting) (raw : List Char) : Except Fault String :=
  match q with
  | .literal => decodeLiteral raw
  | .basic => decodeBasic raw
  | .literalBlock => decodeLiteralBlock raw
  | .basicBlock => decodeBasicBlock raw

/-- What a bare key may hold. -/
def bareKeyExpected : List Expect :=
  [.description "letters", .description "numbers", .literal "-", .literal "_"]

/-- Checks a bare key from byte `pos`; a fault covers a whole run of characters that may not
stand in it. -/
def checkBareKey (pos : Nat) : List Char → Except Fault Unit
  | [] => pure ()
  | c :: rest =>
    if isBareKeyChar c then checkBareKey (pos + c.utf8Size) rest
    else
      let bad := (c :: rest).takeWhile fun d => !isBareKeyChar d
      throw (Fault.at pos (pos + Text.byteWidth bad) "invalid unquoted key" (some bareKeyExpected))

/-- Decodes a key: a bare key, or a one-line string. -/
def decodeKey (q : Option Quoting) (raw : List Char) : Except Fault String :=
  match q with
  | none =>
    if raw.isEmpty then throw (Fault.at 0 0 "unquoted keys cannot be empty" (some bareKeyExpected))
    else do
      checkBareKey 0 raw
      pure (String.ofList raw)
  | some .literal => decodeLiteral raw
  | some .basic => decodeBasic raw
  | some _ =>
    throw (Fault.at 0 (Text.byteWidth raw) "multi-line strings are not allowed for keys"
      (some [.description "literal string", .description "basic string"]))

/-- Checks the characters of a comment from byte `pos`. -/
def checkComment (pos : Nat) : List Char → Except Fault Unit
  | [] => pure ()
  | c :: rest =>
    if isCommentChar c then checkComment (pos + c.utf8Size) rest
    else throw (Fault.at pos pos "invalid comment character" (some [.description "printable characters"]))

/-- Checks a line break: a carriage return alone is a fault. -/
def checkNewline (raw : List Char) : Except Fault Unit :=
  if raw = ['\r'] then throw (loneReturn 0) else pure ()

/-- Checks the characters of a layout event: a comment or a line break. -/
def Event.checkLayout (e : Event) : Except Fault Unit :=
  match e.kind with
  | .comment => (checkComment 0 e.text).mapError (·.shift e.start)
  | .newline => (checkNewline e.text).mapError (·.shift e.start)
  | _ => pure ()

end Toml

end RingIdentity
