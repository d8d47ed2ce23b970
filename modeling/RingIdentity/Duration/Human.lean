import RingIdentity.Duration
import RingIdentity.Text.Quoted
/-!
Human-readable durations such as `250ms`, `1s 500ms`, `2h` or `1.5s`: numbers, each followed by
a unit, added up. Blanks may stand between a number and its unit and between the parts, and
inside a number. The units and their lengths:

| unit | spellings |
|---|---|
| nanosecond | `nanos`, `nsec`, `ns` |
| microsecond | `usec`, `us`, `µs` (with the micro sign) |
| millisecond | `millis`, `msec`, `ms` |
| second | `seconds`, `second`, `secs`, `sec`, `s` |
| minute | `minutes`, `minute`, `min`, `mins`, `m` |
| hour | `hours`, `hour`, `hr`, `hrs`, `h` |
| day | `days`, `day`, `d` |
| week | `weeks`, `week`, `wks`, `wk`, `w` |
| month (30.44 days) | `months`, `month`, `M` |
| year (365.25 days) | `years`, `year`, `yrs`, `yr`, `y` |

A whole number times its unit must stay within 64 bits (counted in nanoseconds for units below a
second, in seconds otherwise). A number may have a fraction of at most nineteen digits after a
point; a twentieth digit is an overflow as soon as it is read, before the unit. The fraction
counts in a grain of the unit: nanoseconds for microseconds, milliseconds, seconds and minutes,
whole seconds for hours and the longer units, while nanoseconds take no fraction. Its digits,
read as a whole number, times the grains in one unit must stay within 64 bits, and the product
must come to a whole number of grains once the point is put back. So `1.5s`, `1.01m` (60.6
seconds) and `0.05y` read, while `1.0ns`, `0.001d` (86.4 seconds) and `0.1234567891m` (whose
digits times the sixty billion nanoseconds of a minute pass 64 bits) do not. A point must be
followed by a digit. Offsets in errors count bytes of the text.

The parts are added as seconds and nanoseconds, each sum within 64 bits, with no carry between
them; the finished duration carries the whole seconds of the nanoseconds, and a carry that takes
the seconds past 64 bits is `HumanDurationError.unrepresentable`, where every sum past 64 bits
is an overflow.
-/
namespace RingIdentity

/-- Why a text is not a human-readable duration. -/
inductive HumanDurationError where
  /-- A character that belongs neither to a number nor to a unit, at a byte offset. -/
  | invalidCharacter (offset : Nat)
  /-- A part that does not start with a number, from a byte offset. -/
  | numberExpected (offset : Nat)
  /-- A unit that is not known, or missing, after the number `value`. -/
  | unknownUnit (unit : String) (value : Nat)
  /-- A number too large, or a fraction finer than a nanosecond. -/
  | overflow
  /-- A text of blanks only. -/
  | empty
  /-- Parts whose sum carries the seconds past 64 bits when the duration is finished. -/
  | unrepresentable
  deriving DecidableEq, Repr, Inhabited

namespace HumanDurationError

/-- The message of an error. -/
def message : HumanDurationError → String
  | .invalidCharacter o => "invalid character at " ++ toString o
  | .numberExpected o => "expected number at " ++ toString o
  | .unknownUnit u v =>
    if u.isEmpty then
      "time unit needed, for example " ++ toString v ++ "sec or " ++ toString v ++ "ms"
    else
      "unknown time unit " ++ Text.quoted u ++ ", supported units: ns, us/µs, ms, sec, min, " ++
        "hours, days, weeks, months, years (and few variations)"
  | .overflow =>
    "number is too large or cannot be represented without a lack of precision " ++
      "(values below 1ns are not supported)"
  | .empty => "value was empty"
  | .unrepresentable => "overflow in Duration::new"

end HumanDurationError

namespace HumanDuration

/-- The greatest unsigned 64-bit number. -/
def limit : Nat := Nat.pow 2 64 - 1

/-- The length of a unit, and the grain its fractions count in. -/
inductive UnitLength where
  /-- A unit below a second, of `n` nanoseconds; fractions count in nanoseconds. -/
  | nanos (n : Nat)
  /-- A unit of `n` seconds whose fractions count in nanoseconds. -/
  | fineSeconds (n : Nat)
  /-- A unit of `n` seconds whose fractions count in whole seconds. -/
  | seconds (n : Nat)

/-- The length of a unit spelling. -/
def unitLength (u : String) : Option UnitLength :=
  if ["nanos", "nsec", "ns"].contains u then some (.nanos 1)
  else if ["usec", "us", "µs"].contains u then some (.nanos 1000)
  else if ["millis", "msec", "ms"].contains u then some (.nanos 1000000)
  else if ["seconds", "second", "secs", "sec", "s"].contains u then some (.fineSeconds 1)
  else if ["minutes", "minute", "min", "mins", "m"].contains u then some (.fineSeconds 60)
  else if ["hours", "hour", "hr", "hrs", "h"].contains u then some (.seconds 3600)
  else if ["days", "day", "d"].contains u then some (.seconds 86400)
  else if ["weeks", "week", "wks", "wk", "w"].contains u then some (.seconds 604800)
  else if ["months", "month", "M"].contains u then some (.seconds 2630016)
  else if ["years", "year", "yrs", "yr", "y"].contains u then some (.seconds 31557600)
  else none

/-- A number as read: its whole part, the digits after a point, and, while a point has no digit
after it yet, the offset an error there reports. -/
structure Amount where
  whole : Nat
  fraction : List Nat := []
  pointed : Bool := false
  pointAt : Nat := 0

/-- The number the digits of a fraction spell, as if there were no point before them. -/
def digitsValue (digits : List Nat) : Nat :=
  digits.foldl (fun acc d => acc * 10 + d) 0

/-- The part of a unit that a fraction stands for, in a grain of `grain` per unit: the digits'
number times the grain stays within 64 bits and comes to a whole number of grains. -/
def fractionGrains (digits : List Nat) (grain : Nat) : Except HumanDurationError Nat :=
  let value := digitsValue digits * grain
  let scale := Nat.pow 10 digits.length
  if value ≤ limit ∧ value % scale = 0 then .ok (value / scale) else .error .overflow

/-- A sum within 64 bits, or an overflow. -/
def bounded (n : Nat) : Except HumanDurationError Nat :=
  if n ≤ limit then .ok n else .error .overflow

/-- The seconds and nanoseconds of a number of a unit. -/
def amountParts (a : Amount) : UnitLength → Except HumanDurationError (Nat × Nat)
  | .nanos 1 => if a.fraction.isEmpty then .ok (0, a.whole) else .error .overflow
  | .nanos n => do
    let whole ← bounded (a.whole * n)
    pure (0, ← bounded (whole + (← fractionGrains a.fraction n)))
  | .fineSeconds n => do
    let whole ← bounded (a.whole * n)
    pure (whole, ← fractionGrains a.fraction (n * Duration.nanosPerSec))
  | .seconds n => do
    let whole ← bounded (a.whole * n)
    pure (← bounded (whole + (← fractionGrains a.fraction n)), 0)

/-- Whether a character may stand in a unit: an ASCII letter or the micro sign. -/
def isUnitChar (c : Char) : Bool := c.isAlpha || c = 'µ'

/-- Whether a character is blank in the sense of Unicode `White_Space`. -/
def isSpace (c : Char) : Bool :=
  let n := c.toNat
  (0x09 ≤ n && n ≤ 0x0D) || n == 0x20 || n == 0x85 || n == 0xA0 || n == 0x1680 ||
    (0x2000 ≤ n && n ≤ 0x200A) || n == 0x2028 || n == 0x2029 || n == 0x202F ||
    n == 0x205F || n == 0x3000

/-- A character with the byte offset at which it starts. -/
abbrev Located := Nat × Char

/-- The characters of a text with their byte offsets. -/
def locate (s : String) : List Located :=
  (s.toList.foldl (fun (acc : List Located × Nat) c => ((acc.2, c) :: acc.1, acc.2 + c.utf8Size))
    ([], 0)).1.reverse

/-- The offset of the first character of a rest of text, or the text's length at its end. -/
def offsetOf (total : Nat) : List Located → Nat
  | (o, _) :: _ => o
  | [] => total

/-- Skips blanks to the first digit of the next part: `none` at the end of the text. A part that
starts with anything else fails with the offset at which the skipping began. -/
def firstDigit (total : Nat) (cs : List Located) : Except HumanDurationError (Option (Nat × List Located)) :=
  let start := offsetOf total cs
  let rest := cs.dropWhile fun (_, c) => isSpace c
  match rest with
  | [] => .ok none
  | (_, c) :: more =>
    if c.isDigit then .ok (some (c.toNat - 48, more)) else .error (.numberExpected start)

/-- Whether a point has been read with no digit after it yet. -/
def Amount.bare (a : Amount) : Bool := a.pointed && a.fraction.isEmpty

/-- Reads the rest of a number after its first digit: digits, blanks and one point, up to the
first letter of the unit. Returns the number, the unit's first letter and the text after it;
`none` in place of the letter when the text ends first. A point with no digit after it fails at
the point, or past the blanks that follow it, whatever comes next; a twentieth digit after the
point is an overflow. -/
def readAmount (total : Nat) : Amount → List Located →
    Except HumanDurationError (Amount × Option Located × List Located)
  | a, [] => if a.bare then .error (.invalidCharacter a.pointAt) else .ok (a, none, [])
  | a, (o, c) :: rest =>
    if c.isDigit then
      let d := c.toNat - 48
      if a.pointed then
        if a.fraction.length < 19 then readAmount total { a with fraction := a.fraction ++ [d] } rest
        else .error .overflow
      else if a.whole * 10 + d ≤ limit then readAmount total { a with whole := a.whole * 10 + d } rest
      else .error .overflow
    else if isSpace c then
      readAmount total (if a.bare then { a with pointAt := offsetOf total rest } else a) rest
    else if a.bare then .error (.invalidCharacter a.pointAt)
    else if c = '.' ∧ ¬a.pointed then readAmount total { a with pointed := true, pointAt := o } rest
    else if isUnitChar c then .ok (a, some (o, c), rest)
    else .error (.invalidCharacter o)

/-- How a unit ends: at a digit that starts the next number, at a blank, or at the end. -/
inductive UnitEnd where
  | digit (value : Nat) (rest : List Located)
  | blank (rest : List Located)
  | finish

/-- Reads the rest of a unit after its first letter: its letters, and how it ends. -/
def readUnit (total : Nat) : List Char → List Located →
    Except HumanDurationError (String × Nat × UnitEnd)
  | acc, [] => .ok (String.ofList acc.reverse, total, .finish)
  | acc, (o, c) :: rest =>
    if c.isDigit then .ok (String.ofList acc.reverse, o, .digit (c.toNat - 48) rest)
    else if isSpace c then .ok (String.ofList acc.reverse, o, .blank rest)
    else if isUnitChar c then readUnit total (c :: acc) rest
    else .error (.invalidCharacter o)

/-- Seconds and nanoseconds added up so far. -/
abbrev Tally := Nat × Nat

/-- Adds a number of a unit to the sum so far: seconds to seconds and nanoseconds to
nanoseconds, each within 64 bits. -/
def addPart (sum : Tally) (a : Amount) (unit : String) : Except HumanDurationError Tally :=
  match unitLength unit with
  | none => .error (.unknownUnit unit a.whole)
  | some len => do
    let (secs, nanos) ← amountParts a len
    pure (← bounded (sum.1 + secs), ← bounded (sum.2 + nanos))

/-- The duration of a finished sum, which carries the whole seconds of its nanoseconds. -/
def Tally.finish (sum : Tally) : Except HumanDurationError Duration :=
  let secs := sum.1 + sum.2 / Duration.nanosPerSec
  if secs ≤ limit then .ok ⟨secs, sum.2 % Duration.nanosPerSec⟩ else .error .unrepresentable

/-- Reads parts from a number's first digit on, adding them to `sum`; every part consumes at
least one character, so the length of the text bounds the parts. -/
def readParts (total : Nat) : Nat → Tally → Nat → List Located → Except HumanDurationError Tally
  | 0, _, _, _ => .error .overflow
  | fuel + 1, sum, first, cs => do
    let (a, letter, rest) ← readAmount total { whole := first } cs
    match letter with
    | none => addPart sum a ""
    | some (_, c) =>
      let (unit, _, ending) ← readUnit total [c] rest
      let sum ← addPart sum a unit
      match ending with
      | .finish => .ok sum
      | .digit d more => readParts total fuel sum d more
      | .blank more =>
        match ← firstDigit total more with
        | none => .ok sum
        | some (d, after) => readParts total fuel sum d after

end HumanDuration

/-- Reads a human-readable duration. -/
def Duration.parseHuman (s : String) : Except HumanDurationError Duration := do
  let cs := HumanDuration.locate s
  let total := s.utf8ByteSize
  match ← HumanDuration.firstDigit total cs with
  | none => .error .empty
  | some (d, rest) =>
    let sum ← HumanDuration.readParts total (cs.length + 1) (0, 0) d rest
    sum.finish

end RingIdentity
