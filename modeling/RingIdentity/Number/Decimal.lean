/-!
Decimal numbers as documents write them: a sign, a natural number of digits and a power of ten.
A JSON or TOML text that writes `1.50` gives the decimal `150 × 10^-2`; nothing is rounded here.
The binary value a reader would round such a number to, and its shortest spelling, live in
`Number.Binary64`.
-/
namespace RingIdentity

/-- The number `(-1)^negative * digits * 10^exponent`, kept exactly as written. -/
structure Decimal where
  negative : Bool
  digits : Nat
  exponent : Int
  deriving DecidableEq, Repr, Inhabited

namespace Decimal

/-- An integer as a decimal with exponent zero. -/
def ofInt (i : Int) : Decimal := ⟨i < 0, i.natAbs, 0⟩

/-- Whether the number is zero, of either sign. -/
def isZero (d : Decimal) : Bool := d.digits == 0

/-- Drops trailing zero digits into the exponent, so that equal numbers have one form
(zero apart, whose exponent becomes zero). -/
def normalize (d : Decimal) : Decimal :=
  if d.digits = 0 then ⟨d.negative, 0, 0⟩ else go d.digits d.exponent d.digits
where
  /-- At most `fuel` zeros are dropped; the digit count bounds how many there are. -/
  go (m : Nat) (e : Int) : Nat → Decimal
    | 0 => ⟨d.negative, m, e⟩
    | fuel + 1 => if m % 10 = 0 ∧ m ≠ 0 then go (m / 10) (e + 1) fuel else ⟨d.negative, m, e⟩

/-- The decimal digits of a natural number, most significant first. -/
def digitsOf (n : Nat) : List Char := Nat.toDigits 10 n

/-- `k` copies of the digit zero. -/
def zeros (k : Nat) : List Char := List.replicate k '0'

/-- The positional spelling of a nonnegative `digits × 10^exponent`, without exponent marks:
`15 × 10^-1` is `1.5`, `1 × 10^20` is twenty zeros after a one, `1 × 10^-7` is `0.0000001`.
Integers get no point. -/
def positional (digits : Nat) (exponent : Int) : String :=
  let ds := digitsOf digits
  if exponent ≥ 0 then
    String.ofList (ds ++ zeros exponent.toNat)
  else
    let point : Int := ds.length + exponent
    if point > 0 then
      String.ofList (ds.take point.toNat ++ '.' :: ds.drop point.toNat)
    else
      String.ofList ('0' :: '.' :: zeros (-point).toNat ++ ds)

end Decimal

end RingIdentity
