import RingIdentity.Sources.Toml.Quoted
/-!
Bare values: booleans, integers, floats and dates written without quotes.

The first characters choose the kind. A sign may lead a number. A `0` followed by `x`, `o` or `b`
starts an integer in base 16, 8 or 2, which may not be signed, and whose prefix must be lower
case. Digits followed by `-` or `:` start a date or time; digits followed by a fraction or an
exponent make a float; other digits make a decimal integer, which may not start with a
redundant zero. `true`, `false`, `inf` and `nan` stand alone. Anything else is a string that
lacks its quotes; one that ends in a quote lacks its opening quote. A value with a space in it
can only be a date and time, and is a string that lacks its quotes otherwise.

An underscore may only stand between two digits, where any hexadecimal digit counts as a digit
of an integer; the integer's own digits are checked when the number is worked out. The value
keeps the number's text without its underscores, for the number itself is worked out later. An
integer with a radix may not start with a sign, and any other character that is not one of its
digits is a fault at that character.
-/
namespace RingIdentity

namespace Toml

/-- What a bare value is: its kind, with the text of a number or date. -/
inductive Bare where
  | boolean (b : Bool)
  | integer (text : List Char) (radix : Nat)
  | float (text : List Char)
  | datetime (text : List Char)
  deriving DecidableEq, Repr, Inhabited

/-- The kinds of number whose digits are checked: a float, or an integer of a radix. -/
inductive NumberKind where
  | float
  | integer (radix : Nat)
  deriving DecidableEq, Repr, Inhabited

/-- Whether a character is a digit of a kind of number. -/
def NumberKind.isDigit (k : NumberKind) (c : Char) : Bool :=
  match k with
  | .float | .integer 10 => c.isDigit
  | .integer 16 => (hexDigit? c).isSome
  | .integer 8 => '0' ≤ c && c ≤ '7'
  | .integer 2 => c = '0' || c = '1'
  | .integer _ => c.isDigit

/-- Whether a character counts as a digit next to an underscore: a decimal digit in a float, any
hexadecimal digit in an integer. -/
def NumberKind.isNearDigit (k : NumberKind) (c : Char) : Bool :=
  match k with
  | .float => c.isDigit
  | .integer _ => (hexDigit? c).isSome

/-- How the digits of a radix are named when one is wrong. -/
def radixFault (radix : Nat) : String :=
  if radix = 16 then "invalid hexadecimal number"
  else if radix = 8 then "invalid octal number"
  else "invalid binary number"

/-- A fault at a span of a bare value given in characters. -/
def bareFault (raw : List Char) (i j : Nat) (description : String)
    (expected : Option (List Expect)) : Fault :=
  Fault.at (Text.byteWidth (raw.take i)) (Text.byteWidth (raw.take j)) description expected

/-- The closing quotes a text ends with, longest first. -/
def closingQuote? (raw : List Char) : Option String :=
  ["\x27\x27\x27", "\x27", "\"\"\"", "\""].find? fun q => q.toList.isSuffixOf raw

/-- A bare value that should have been quoted: one that ends in a quote misses its opening
quote. -/
def unquoted {α : Type} (raw : List Char) : Except Fault α :=
  match closingQuote? raw with
  | some q => throw (Fault.at 0 0 "missing opening quote" (some [.literal q]))
  | none =>
    throw (bareFault raw 0 raw.length "string values must be quoted"
      (some [.description "literal string"]))

/-- Whether a bare value starts as a date or a time: digits, then `-` or `:`. -/
def startsDateOrTime (raw : List Char) : Bool :=
  let digits := raw.takeWhile Char.isDigit
  !digits.isEmpty && match raw.drop digits.length with
    | c :: _ => c = '-' || c = ':'
    | [] => false

/-- The parts of a text between underscores, each with the index where it starts; `part` is
the current part so far (reversed), which starts at `start`. -/
def underscoreParts (start : Nat) (part : List Char) : List Char → List (List Char × Nat)
  | [] => [(part.reverse, start)]
  | c :: rest =>
    if c = '_' then (part.reverse, start) :: underscoreParts (start + part.length + 1) [] rest
    else underscoreParts start (c :: part) rest

/-- The fault of a misplaced underscore, over characters `i` to `j`. -/
def underscoreFault (raw : List Char) (i j : Nat) : Fault :=
  bareFault raw i j "`_` may only go between digits" (some [])

/-- Checks that every underscore of a number stands between two digits, the number starting at
index `s` of the bare value: no part between underscores is empty, the parts after the first
start with a digit, and the parts before the last end with one. -/
def checkUnderscores (raw : List Char) (s : Nat) (kind : NumberKind) : Except Fault Unit := do
  let stream := raw.drop s
  if stream.contains '_' then
    if stream.head? = some '_' then throw (underscoreFault raw s (s + 1))
    if stream.length > 1 ∧ stream.getLast? = some '_' then
      throw (underscoreFault raw (raw.length - 1) raw.length)
    for (part, start) in underscoreParts s [] stream do
      let stop := start + part.length
      if start > 0 ∧ !kind.isNearDigit (part.head?.getD '_') then
        throw (underscoreFault raw (start - 1) start)
      if part.length > 0 ∧ stop < raw.length ∧ !kind.isNearDigit (part.getLast?.getD '_') then
        throw (underscoreFault raw stop (stop + 1))

/-- A number from index `s` of a bare value, its underscores checked and dropped. -/
def number (raw : List Char) (s : Nat) (kind : NumberKind) : Except Fault Bare := do
  checkUnderscores raw s kind
  let text := (raw.drop s).filter (· ≠ '_')
  match kind with
  | .float => pure (.float text)
  | .integer radix => pure (.integer text radix)

/-- Checks the digits of a part of a float from index `i`: at least one, and no redundant
leading zero unless `zeros` allows it; gives the index after them. -/
def floatDigits (raw : List Char) (i : Nat) (zeros : Bool) (description : String) :
    Except Fault Nat := do
  let run := (raw.drop i).takeWhile fun c => c.isDigit || c = '_'
  let count := (run.filter Char.isDigit).length
  if count = 0 then throw (bareFault raw i i description (some [.description "digits"]))
  if count ≥ 2 ∧ run.head? = some '0' ∧ !zeros then
    throw (bareFault raw i (i + 1) "unexpected leading zero" (some []))
  pure (i + run.length)

/-- Checks the shape of a float from index `i`: a mantissa, then an optional fraction and an
optional exponent, and nothing after. -/
def checkFloat (raw : List Char) (i : Nat) : Except Fault Unit := do
  let i ← floatDigits raw i false "invalid mantissa"
  let i ← if raw[i]? = some '.' then floatDigits raw (i + 1) true "invalid fraction" else pure i
  let i ← if raw[i]? = some 'e' ∨ raw[i]? = some 'E' then
      let j := if raw[i + 1]? = some '+' ∨ raw[i + 1]? = some '-' then i + 2 else i + 1
      floatDigits raw j true "invalid exponent"
    else pure i
  if i < raw.length then throw (bareFault raw i raw.length "invalid float" (some []))

/-- A decimal integer must not start with a redundant zero. -/
def checkLeadingZero (raw : List Char) (i : Nat) : Except Fault Unit :=
  if raw[i]? = some '0' then throw (bareFault raw i (i + 1) "unexpected leading zero" (some []))
  else pure ()

/-- A value from index `i` that starts with a digit or an underscore: a date or time, a float or
a decimal integer. -/
def dateOrNumber (raw : List Char) (i : Nat) : Except Fault Bare := do
  let value := raw.drop i
  let digits := value.takeWhile Char.isDigit
  let rest := value.drop digits.length
  match rest with
  | [] => do
    checkLeadingZero raw i
    number raw 0 (.integer 10)
  | c :: _ =>
    if c = '-' ∨ c = ':' then pure (.datetime raw)
    else if rest.contains ' ' then unquoted raw
    else if rest.any (fun d => d = '.' || d = 'e' || d = 'E') then do
      checkFloat raw i
      number raw 0 .float
    else if c = '_' then do
      checkLeadingZero raw i
      number raw 0 (.integer 10)
    else unquoted raw

/-- The radix that a prefix letter names. -/
def prefixRadix (c : Char) : Option Nat :=
  if c = 'x' ∨ c = 'X' then some 16
  else if c = 'o' ∨ c = 'O' then some 8
  else if c = 'b' ∨ c = 'B' then some 2
  else if c = 'd' ∨ c = 'D' then some 10
  else none

/-- Checks the digits of an integer with a radix from index `s`: a sign before them is a fault
at the value's first sign, and so is any character that is neither a digit nor an
underscore. -/
def checkRadixDigits (raw : List Char) (s : Nat) (radix : Nat) : Except Fault Unit := do
  let stream := raw.drop s
  if stream.head? = some '+' ∨ stream.head? = some '-' then
    let i := raw.findIdx fun c => c = '+' || c = '-'
    throw (bareFault raw i (i + 1) "unexpected sign" (some []))
  match stream.findIdx? fun c => !((NumberKind.integer radix).isDigit c || c = '_') with
  | some k => throw (bareFault raw (s + k) (s + k) (radixFault radix) none)
  | none => pure ()

/-- A value from index `i` that starts with `0`, after a sign when `signed`. -/
def zeroPrefix (raw : List Char) (i : Nat) (signed : Bool) : Except Fault Bare := do
  match (raw.drop i).tail with
  | [] => pure (.integer (raw.filter (· ≠ '_')) 10)
  | c :: _ =>
    match prefixRadix c with
    | none => dateOrNumber raw i
    | some radix =>
      if signed then throw (bareFault raw 0 1 "integers with a radix cannot be signed" (some []))
      if radix = 10 then
        throw (bareFault raw i (i + 2) "redundant integer number prefix" (some []))
      if c.isUpper then
        throw (bareFault raw i (i + 2) "radix must be lowercase"
          (some [.literal (String.ofList ['0', c.toLower])]))
      checkRadixDigits raw (i + 2) radix
      number raw (i + 2) (.integer radix)

/-- A word standing alone: `true`, `false`, `inf` or `nan`. -/
def symbol (raw : List Char) (word : String) (description : String) (value : Bare) :
    Except Fault Bare :=
  if raw = word.toList then pure value
  else if raw.contains ' ' then unquoted raw
  else throw (bareFault raw 0 raw.length description (some [.literal word]))

/-- A signed float word: `inf` or `nan` after the sign. -/
def signedSymbol (raw : List Char) (word : String) : Except Fault Bare :=
  if raw.drop 1 = word.toList then pure (.float raw)
  else throw (bareFault raw 1 raw.length "invalid float" (some [.literal word]))

/-- A value after a leading sign. -/
def signed (raw : List Char) : Except Fault Bare :=
  match raw.drop 1 with
  | [] => unquoted raw
  | c :: _ =>
    if c = '+' ∨ c = '-' then throw (bareFault raw 1 2 "redundant numeric sign" (some []))
    else if c = '0' then zeroPrefix raw 1 true
    else if c = '_' ∨ c.isDigit then dateOrNumber raw 1
    else if c = '.' then do
      checkFloat raw 0
      number raw 0 .float
    else if c = 'i' ∨ c = 'I' then signedSymbol raw "inf"
    else if c = 'n' ∨ c = 'N' then signedSymbol raw "nan"
    else unquoted raw

/-- Decodes a bare value. -/
def decodeBare (raw : List Char) : Except Fault Bare :=
  match raw with
  | [] => unquoted raw
  | c :: _ =>
    if raw.contains ' ' && !startsDateOrTime raw then unquoted raw
    else if c = '+' ∨ c = '-' then signed raw
    else if c = '0' then zeroPrefix raw 0 false
    else if c = '_' ∨ c.isDigit then dateOrNumber raw 0
    else if c = '.' then do
      checkFloat raw 0
      number raw 0 .float
    else if c = 't' ∨ c = 'T' then symbol raw "true" "invalid boolean" (.boolean true)
    else if c = 'f' ∨ c = 'F' then symbol raw "false" "invalid boolean" (.boolean false)
    else if c = 'i' ∨ c = 'I' then symbol raw "inf" "invalid float" (.float raw)
    else if c = 'n' ∨ c = 'N' then symbol raw "nan" "invalid float" (.float raw)
    else unquoted raw

end Toml

end RingIdentity
