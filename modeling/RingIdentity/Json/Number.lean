import RingIdentity.Json.Value
/-!
The value a JSON reader gives a written number.

An integer without fraction or exponent stays an integer when it fits the 64-bit ranges (zero up
to `2^64 - 1`, or down to `-2^63` for a minus); `-0` is the negative floating point zero, and a
negative integer below `-2^63` that still fits 64 bits is the negated binary64 value of its
magnitude.

Any other number is read in two roundings, not one. The decimal digits, integral and fractional
in turn, accumulate into a significand for as long as it stays within 64 bits; once a digit would
pass that bound, the remaining integral digits only raise the exponent, and the remaining
fraction digits are dropped. The significand is then rounded to binary64 and scaled once by a
power of ten (itself rounded to binary64): a rounded product for a nonnegative exponent, a
rounded quotient for a negative one. An exponent beyond `10^308` divides by `10^308` until it is
in reach or the value has vanished. So `2.8963919929099546` reads as `2.896391992909954`, one
unit in the last place from the nearest value.

A number whose product overflows, or whose exponent passes `2^31 - 1` while it would make a
nonzero value larger, does not read: it is a broken value with the fault `number out of range`.
-/
namespace RingIdentity

namespace Json

/-- The greatest significand a reader accumulates: `2^64 - 1`. -/
def significandLimit : Nat := Nat.pow 2 64 - 1

/-- The greatest exponent a reader accumulates: `2^31 - 1`. -/
def exponentLimit : Nat := Nat.pow 2 31 - 1

/-- The least exponent a reader keeps: `-2^31`. -/
def exponentFloor : Int := -Int.pow 2 31

/-- The fault of a number the reader cannot represent. -/
def outOfRange : String := "number out of range"

/-- A number as it is written: a sign, the integral digits, the fraction digits after a point,
and the exponent's sign (`true` for a minus) and digits after an `e`. -/
structure WrittenNumber where
  negative : Bool
  whole : List Nat
  fraction : Option (List Nat) := none
  exponent : Option (Bool × List Nat) := none
  deriving Repr, Inhabited

/-- Digits accumulated into `s` while the result stays within `limit`: the result, and the
digits from the first one that would pass it. -/
def accumulate (limit : Nat) (s : Nat) : List Nat → Nat × List Nat
  | [] => (s, [])
  | d :: ds => if s * 10 + d > limit then (s, d :: ds) else accumulate limit (s * 10 + d) ds

/-- `10^k` rounded to binary64, the scale of a reader. -/
def powerOfTen (k : Nat) : Binary64 := Binary64.ofDecimal ⟨false, 1, k⟩

/-- Scales `f` by `10^e` as a reader does: one rounded product or quotient when `|e| ≤ 308`,
otherwise, for a negative `e`, a quotient by `10^308` and another try, until the exponent is in
reach or the value is zero. `none` means out of range: a product that overflows, or a positive
exponent beyond reach for a nonzero value. The fuel is the number of divisions by `10^308` that
the exponent allows. -/
def scale (f : Binary64) (e : Int) : Nat → Option Binary64
  | 0 => some f
  | fuel + 1 =>
    if e.natAbs ≤ 308 then
      if e ≥ 0 then
        let g := f.mul (powerOfTen e.natAbs)
        if g.isInfinite then none else some g
      else some (f.div (powerOfTen e.natAbs))
    else if f.isZero then some f
    else if e ≥ 0 then none
    else scale (f.div (powerOfTen 308)) (e + 308) fuel

/-- The value of a significand times a power of ten, with a sign. -/
def fromParts (negative : Bool) (significand : Nat) (e : Int) : Json :=
  match scale (Binary64.ofNat significand) e (e.natAbs / 308 + 1) with
  | some f => .float (if negative then f.neg else f)
  | none => .broken outOfRange

/-- Clamps an exponent to the range the reader keeps, `-2^31` to `2^31 - 1`. -/
def clampExponent (e : Int) : Int :=
  if e > exponentLimit then exponentLimit else if e < exponentFloor then exponentFloor else e

/-- The value of a number with significand `s` and exponent `start` so far, once its written
exponent is applied. Exponent digits past `2^31 - 1` give zero, unless they would make a nonzero
value larger. -/
def withExponent (negative : Bool) (s : Nat) (start : Int) :
    Option (Bool × List Nat) → Json
  | none => fromParts negative s start
  | some (minus, ds) =>
    match ds with
    | [] => fromParts negative s start
    | d :: rest =>
      match accumulate exponentLimit d rest with
      | (x, []) => fromParts negative s (clampExponent (if minus then start - x else start + x))
      | (_, _ :: _) =>
        if s ≠ 0 ∧ ¬minus then .broken outOfRange
        else .float (.finite negative 0 0)

/-- The value of a written number. -/
def WrittenNumber.value (w : WrittenNumber) : Json :=
  let (s, extra) := accumulate significandLimit 0 w.whole
  match w.fraction, w.exponent with
  | none, none =>
    if !extra.isEmpty then fromParts w.negative s extra.length
    else if !w.negative then .int s
    else if s = 0 then .float (.finite true 0 0)
    else if s ≤ Nat.pow 2 63 then .int (-(s : Int))
    else .float (Binary64.ofNat s).neg
  | some fraction, exp =>
    let (s', dropped) := accumulate significandLimit s fraction
    let taken := fraction.length - dropped.length
    withExponent w.negative s' ((extra.length : Int) - taken) exp
  | none, exp => withExponent w.negative s extra.length exp

end Json

end RingIdentity
