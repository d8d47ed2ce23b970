import RingIdentity.Json.Number
/-!
Reading a JSON text into a `Json` value. Object members are kept in order with repeated keys,
and numbers take the values `WrittenNumber.value` gives them.

The grammar is the strict one of RFC 8259, and a text that breaks it is refused with the first
fault in reading order, worded as `ReadError.message` does (`expected value`, `invalid number`,
`EOF while parsing a string`, ...). A string whose `\u` escapes do not form a character (a low
surrogate first, a high surrogate without a low one after it) still reads, as a `Json.broken`
value that carries the fault: a reader that only skips the value never sees it, one that reads
the string reports it. An object key of that kind makes the object a `Json.keyBroken`, which
keeps the members before the key.

The reader descends one value at a time; every value it enters consumes at least one character,
so the length of the text bounds the depth, and that bound is the reader's fuel.
-/
namespace RingIdentity

namespace Json

/-- Why a JSON text does not read. -/
inductive ReadError where
  | eofValue
  | eofString
  | eofList
  | eofObject
  | expectedValue
  | expectedIdent
  | expectedColon
  | expectedListEnd
  | expectedObjectEnd
  | keyMustBeString
  | trailingComma
  | invalidNumber
  | invalidEscape
  | controlCharacter
  | trailingCharacters
  | tooDeep
  deriving DecidableEq, Repr, Inhabited

/-- The wording of a read error. -/
def ReadError.message : ReadError → String
  | .eofValue => "EOF while parsing a value"
  | .eofString => "EOF while parsing a string"
  | .eofList => "EOF while parsing a list"
  | .eofObject => "EOF while parsing an object"
  | .expectedValue => "expected value"
  | .expectedIdent => "expected ident"
  | .expectedColon => "expected `:`"
  | .expectedListEnd => "expected `,` or `]`"
  | .expectedObjectEnd => "expected `,` or `\x7d`"
  | .keyMustBeString => "key must be a string"
  | .trailingComma => "trailing comma"
  | .invalidNumber => "invalid number"
  | .invalidEscape => "invalid escape"
  | .controlCharacter => "control character (\\u0000-\\u001F) found while parsing a string"
  | .trailingCharacters => "trailing characters"
  | .tooDeep => "recursion limit exceeded"

/-- Skips the blanks JSON allows between tokens. -/
def skipBlank : List Char → List Char
  | c :: rest => if c = ' ' ∨ c = '\t' ∨ c = '\n' ∨ c = '\r' then skipBlank rest else c :: rest
  | [] => []

/-- The value of a hexadecimal digit. -/
def hexValue (c : Char) : Option Nat :=
  if '0' ≤ c ∧ c ≤ '9' then some (c.toNat - 48)
  else if 'a' ≤ c ∧ c ≤ 'f' then some (c.toNat - 87)
  else if 'A' ≤ c ∧ c ≤ 'F' then some (c.toNat - 55)
  else none

/-- Four hexadecimal digits at the front of a text as one code unit, with the rest: a text that
ends first is an unfinished string, a character that is no digit an invalid escape. -/
def hexUnit : List Char → Except ReadError (Nat × List Char)
  | a :: b :: c :: d :: rest =>
    match hexValue a, hexValue b, hexValue c, hexValue d with
    | some va, some vb, some vc, some vd => .ok (((va * 16 + vb) * 16 + vc) * 16 + vd, rest)
    | _, _, _, _ => .error .invalidEscape
  | cs => if cs.all (fun c => (hexValue c).isSome) then .error .eofString else .error .invalidEscape

theorem hexUnit_length {cs r : List Char} {u : Nat} (h : hexUnit cs = .ok (u, r)) :
    r.length + 4 ≤ cs.length := by
  unfold hexUnit at h
  split at h
  · split at h
    · simp only [Except.ok.injEq, Prod.mk.injEq] at h
      obtain ⟨-, rfl⟩ := h
      simp
    · simp at h
  · split at h <;> simp at h

/-- The character a simple escape `\c` stands for. -/
def simpleEscape (c : Char) : Option Char :=
  if c = 'n' then some '\n' else if c = 't' then some '\t'
  else if c = 'r' then some '\r' else if c = 'b' then some (Char.ofNat 8)
  else if c = 'f' then some (Char.ofNat 12) else if c = '/' then some '/'
  else if c = '\\' then some '\\' else if c = '"' then some '"' else none

/-- Whether a code unit is a high (leading) surrogate. -/
def isHighSurrogate (u : Nat) : Bool := 0xD800 ≤ u && u < 0xDC00

/-- Whether a code unit is a low (trailing) surrogate. -/
def isLowSurrogate (u : Nat) : Bool := 0xDC00 ≤ u && u < 0xE000

/-- The fault of a string whose escapes do not form a character. -/
def loneSurrogate : String := "lone leading surrogate in hex escape"

/-- The fault of a high surrogate that no escaped low surrogate follows. -/
def unfinishedSurrogate : String := "unexpected end of hex escape"

/-- What a `\u` escape with code unit `u` contributes, given the text after it: a character and
the text after what it consumed, or the fault of a lone surrogate with the text to go on from. -/
def unitEscape (u : Nat) (rest : List Char) : Except String (Char × List Char) :=
  if isLowSurrogate u then .error loneSurrogate
  else if isHighSurrogate u then
    match rest with
    | '\\' :: 'u' :: more =>
      match hexUnit more with
      | .ok (v, after) =>
        if isLowSurrogate v then
          .ok (Char.ofNat (0x10000 + (u - 0xD800) * 0x400 + (v - 0xDC00)), after)
        else .error loneSurrogate
      | .error _ => .error unfinishedSurrogate
    | _ => .error unfinishedSurrogate
  else .ok (Char.ofNat u, rest)

theorem unitEscape_length {u : Nat} {rest r : List Char} {c : Char}
    (h : unitEscape u rest = .ok (c, r)) : r.length ≤ rest.length := by
  unfold unitEscape at h
  split at h
  · simp at h
  split at h
  · split at h
    · rename_i more
      split at h
      · rename_i v after hh
        split at h
        · simp only [Except.ok.injEq, Prod.mk.injEq] at h
          obtain ⟨-, rfl⟩ := h
          have := hexUnit_length hh
          simp only [List.length_cons]; omega
        · simp at h
      · simp at h
    · simp at h
  · simp only [Except.ok.injEq, Prod.mk.injEq] at h
    obtain ⟨-, rfl⟩ := h
    omega

/-- The body of a string after its opening quote, up to and without the closing quote, with
characters read so far in `acc`, last first, and the first fault of its escapes. -/
def readStringBody : List Char → List Char → Option String → Except ReadError ((String ⊕ String) × List Char)
  | [], _, _ => .error .eofString
  | '"' :: rest, acc, fault =>
    match fault with
    | some f => .ok (.inr f, rest)
    | none => .ok (.inl (String.ofList acc.reverse), rest)
  | '\\' :: 'u' :: rest, acc, fault =>
    match h : hexUnit rest with
    | .error e => .error e
    | .ok (u, r) =>
      have := hexUnit_length h
      match fault with
      | some _ => readStringBody r acc fault
      | none =>
        match h2 : unitEscape u r with
        | .ok (c, r2) =>
          have := unitEscape_length h2
          readStringBody r2 (c :: acc) none
        | .error f => readStringBody r acc (some f)
  | '\\' :: c :: rest, acc, fault =>
    match simpleEscape c with
    | some ch => readStringBody rest (ch :: acc) fault
    | none => .error .invalidEscape
  | ['\\'], _, _ => .error .eofString
  | c :: rest, acc, fault =>
    if c.toNat < 0x20 then .error .controlCharacter else readStringBody rest (c :: acc) fault
termination_by cs => cs.length
decreasing_by all_goals (simp_wf; try omega)

/-- The digits at the front of a text, and the rest. -/
def spanDigits (cs : List Char) : List Char × List Char :=
  (cs.takeWhile Char.isDigit, cs.dropWhile Char.isDigit)

/-- The values of a list of decimal digits. -/
def digitValues (ds : List Char) : List Nat := ds.map (fun c => c.toNat - 48)

/-- A number: an optional minus, integral digits without a leading zero, an optional fraction
and exponent, each with at least one digit; its value is `WrittenNumber.value`. -/
def readNumber (cs : List Char) : Except ReadError (Json × List Char) := do
  let (negative, cs) := match cs with
    | '-' :: rest => (true, rest)
    | _ => (false, cs)
  let (whole, cs) := spanDigits cs
  match whole with
  | [] => throw .invalidNumber
  | '0' :: _ :: _ => throw .invalidNumber
  | _ => pure ()
  let (fraction, cs) ← match cs with
    | '.' :: rest =>
      let (f, r) := spanDigits rest
      if f.isEmpty then throw .invalidNumber else pure (some (digitValues f), r)
    | _ => pure (none, cs)
  let (ex, cs) ← match cs with
    | e :: rest =>
      if e = 'e' ∨ e = 'E' then
        let (minus, rest) : Bool × List Char := match rest with
          | '+' :: r => (false, r)
          | '-' :: r => (true, r)
          | _ => (false, rest)
        let (ds, r) := spanDigits rest
        if ds.isEmpty then throw .invalidNumber else pure (some (minus, digitValues ds), r)
      else pure (none, cs)
    | [] => pure (none, cs)
  pure ((WrittenNumber.mk negative (digitValues whole) fraction ex).value, cs)

/-- Reads the letters of a literal after its first one. -/
def readWord (word : List Char) (value : Json) (cs : List Char) : Except ReadError (Json × List Char) :=
  let rec go : List Char → List Char → Except ReadError (Json × List Char)
    | [], rest => .ok (value, rest)
    | w :: ws, c :: rest => if c = w then go ws rest else .error .expectedIdent
    | _ :: _, [] => .error .eofValue
  go word cs

/-- A string value after its opening quote: the string, or a broken value with its fault. -/
def readString (cs : List Char) : Except ReadError (Json × List Char) := do
  let (body, rest) ← readStringBody cs [] none
  match body with
  | .inl s => pure (.str s, rest)
  | .inr f => pure (.broken f, rest)

mutual
/-- One value after optional blanks. -/
def readValue : Nat → List Char → Except ReadError (Json × List Char)
  | 0, _ => .error .tooDeep
  | fuel + 1, cs =>
    match skipBlank cs with
    | [] => .error .eofValue
    | 'n' :: rest => readWord ['u', 'l', 'l'] .null rest
    | 't' :: rest => readWord ['r', 'u', 'e'] (.bool true) rest
    | 'f' :: rest => readWord ['a', 'l', 's', 'e'] (.bool false) rest
    | '"' :: rest => readString rest
    | '[' :: rest =>
      match skipBlank rest with
      | ']' :: after => .ok (.arr [], after)
      | [] => .error .eofList
      | _ => readItems fuel rest []
    | '\x7b' :: rest =>
      match skipBlank rest with
      | '\x7d' :: after => .ok (.obj [], after)
      | _ => readMembers fuel rest [] none
    | c :: rest =>
      if c = '-' ∨ c.isDigit then readNumber (c :: rest) else .error .expectedValue

/-- Array items after `[` or a comma, up to the closing `]`. -/
def readItems : Nat → List Char → List Json → Except ReadError (Json × List Char)
  | 0, _, _ => .error .tooDeep
  | fuel + 1, cs, acc => do
    let (j, rest) ← readValue fuel cs
    match skipBlank rest with
    | ',' :: more => readItems fuel more (j :: acc)
    | ']' :: more => .ok (.arr (j :: acc).reverse, more)
    | [] => .error .eofList
    | _ => .error .expectedListEnd

/-- Object members from a key on, up to the closing brace. Once a key does not read, the members
after it are read but not kept. -/
def readMembers : Nat → List Char → List (String × Json) → Option String →
    Except ReadError (Json × List Char)
  | 0, _, _, _ => .error .tooDeep
  | fuel + 1, cs, acc, fault =>
    match skipBlank cs with
    | '"' :: rest => do
      let (key, rest) ← readStringBody rest [] none
      let (acc, fault) := match fault, key with
        | some f, _ => (acc, some f)
        | none, .inl _ => (acc, none)
        | none, .inr f => (acc, some f)
      match skipBlank rest with
      | ':' :: rest =>
        let (j, rest) ← readValue fuel rest
        let acc := match fault, key with
          | none, .inl k => (k, j) :: acc
          | _, _ => acc
        match skipBlank rest with
        | ',' :: more => readMembers fuel more acc fault
        | '\x7d' :: more =>
          match fault with
          | some f => .ok (.keyBroken acc.reverse f, more)
          | none => .ok (.obj acc.reverse, more)
        | [] => .error .eofObject
        | _ => .error .expectedObjectEnd
      | [] => .error .eofObject
      | _ => .error .expectedColon
    | [] => .error .eofObject
    | _ => .error .keyMustBeString
end

/-- Reads a whole text as one JSON value, refusing anything but blanks after it. -/
def parse? (text : String) : Except ReadError Json := do
  let cs := text.toList
  let (j, rest) ← readValue (cs.length + 1) cs
  if skipBlank rest = [] then pure j else throw .trailingCharacters

/-- Reads a whole text as one JSON value; `none` when it does not read. -/
def parse (text : String) : Option Json :=
  match parse? text with
  | .ok j => some j
  | .error _ => none

end Json

end RingIdentity
