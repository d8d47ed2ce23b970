import RingIdentity.Number.Decimal
/-!
The binary64 number a decimal rounds to, the rounded products and quotients of such numbers, and
the shortest decimal that rounds back to one.

A reader of a document turns `1.5` or `1e20` into the nearest binary64 value; when a message or a
converted setting spells that value again, it writes the fewest significant digits that read
back as the same value, and of two such spellings the nearer. Both steps are exact arithmetic on
natural numbers here: a finite value is `mantissa × 2^exponent` with a mantissa below `2^53` and
an exponent of at least `-1074`.
-/
namespace RingIdentity

/-- A binary64 value: `(-1)^negative × mantissa × 2^exponent`, an infinity, or not a number. -/
inductive Binary64 where
  | finite (negative : Bool) (mantissa : Nat) (exponent : Int)
  | infinite (negative : Bool)
  | nan
  deriving DecidableEq, Repr, Inhabited

namespace Binary64

/-- Numerator and denominator of a nonnegative rational as two naturals. -/
structure Ratio where
  num : Nat
  den : Nat

/-- `a × 2^e` as a ratio of naturals. -/
def scaleTwo (a : Nat) (e : Int) : Ratio :=
  if e ≥ 0 then ⟨a * Nat.pow 2 e.toNat, 1⟩ else ⟨a, Nat.pow 2 (-e).toNat⟩

/-- Whether `x ≤ y` for two ratios with positive denominators. -/
def Ratio.le (x y : Ratio) : Bool := x.num * y.den ≤ y.num * x.den

/-- Whether `x < y` for two ratios with positive denominators. -/
def Ratio.lt (x y : Ratio) : Bool := x.num * y.den < y.num * x.den

/-- `num / den` rounded to the nearest natural, a tie going to the even one. -/
def roundHalfEven (num den : Nat) : Nat :=
  let q := num / den
  let r := num % den
  if 2 * r < den then q
  else if 2 * r > den then q + 1
  else if q % 2 = 0 then q else q + 1

/-- The greatest `l` with `2^l ≤ num / den`, for positive `num` and `den`. -/
def floorLog2 (num den : Nat) : Int :=
  let l : Int := (Nat.log2 num : Int) - (Nat.log2 den : Int)
  if (Ratio.lt ⟨num, den⟩ (scaleTwo 1 l)) then l - 1 else l

/-- The binary64 value nearest to `num / den`, with a sign, ties to an even mantissa; a
quotient beyond the largest finite value is infinite. -/
def ofRatio (negative : Bool) (num den : Nat) : Binary64 :=
  if num = 0 ∨ den = 0 then .finite negative 0 0
  else
    let k := max (floorLog2 num den - 52) (-1074)
    let scaled : Ratio :=
      if k ≤ 0 then ⟨num * Nat.pow 2 (-k).toNat, den⟩ else ⟨num, den * Nat.pow 2 k.toNat⟩
    let n := roundHalfEven scaled.num scaled.den
    let (n, k) := if n = Nat.pow 2 53 then (Nat.pow 2 52, k + 1) else (n, k)
    if k > 971 then .infinite negative else .finite negative n k

/-- The binary64 value nearest to a decimal, ties to an even mantissa; decimals beyond the
largest finite value become infinite. Decimals far outside the range are settled by their
digit count alone, before any power of ten is formed. -/
def ofDecimal (d : Decimal) : Binary64 :=
  let width := (Decimal.digitsOf d.digits).length
  if d.digits = 0 then .finite d.negative 0 0
  else if (width : Int) + d.exponent > 310 then .infinite d.negative
  else if (width : Int) + d.exponent < -330 then .finite d.negative 0 0
  else
    let num := if d.exponent ≥ 0 then d.digits * Nat.pow 10 d.exponent.toNat else d.digits
    let den := if d.exponent ≥ 0 then 1 else Nat.pow 10 (-d.exponent).toNat
    ofRatio d.negative num den

/-- The binary64 value nearest to a natural number. -/
def ofNat (n : Nat) : Binary64 := ofRatio false n 1

/-- The binary64 value nearest to an integer. -/
def ofInt (i : Int) : Binary64 := ofRatio (i < 0) i.natAbs 1

/-- The sign and the exact magnitude of a finite value. -/
def toRatio? : Binary64 → Option (Bool × Ratio)
  | .finite negative m e => some (negative, scaleTwo m e)
  | _ => none

/-- The product of two values, rounded to nearest; an infinity times a finite value stays
infinite, and anything else that is not finite is not a number. -/
def mul (x y : Binary64) : Binary64 :=
  match x.toRatio?, y.toRatio? with
  | some (sx, rx), some (sy, ry) => ofRatio (sx != sy) (rx.num * ry.num) (rx.den * ry.den)
  | none, some (sy, _) =>
    match x with
    | .infinite sx => .infinite (sx != sy)
    | _ => .nan
  | some (sx, _), none =>
    match y with
    | .infinite sy => .infinite (sx != sy)
    | _ => .nan
  | none, none =>
    match x, y with
    | .infinite sx, .infinite sy => .infinite (sx != sy)
    | _, _ => .nan

/-- The quotient of a finite value by a finite nonzero value, rounded to nearest; any other
division is left to the callers, which never make one. -/
def div (x y : Binary64) : Binary64 :=
  match x.toRatio?, y.toRatio? with
  | some (sx, rx), some (sy, ry) =>
    if ry.num = 0 then .nan else ofRatio (sx != sy) (rx.num * ry.den) (rx.den * ry.num)
  | _, _ => .nan

/-- Whether a value is an infinity. -/
def isInfinite : Binary64 → Bool
  | .infinite _ => true
  | _ => false

/-- Whether a value is zero, of either sign. -/
def isZero : Binary64 → Bool
  | .finite _ 0 _ => true
  | _ => false

/-- The value with the opposite sign. -/
def neg : Binary64 → Binary64
  | .finite negative m e => .finite (!negative) m e
  | .infinite negative => .infinite (!negative)
  | .nan => .nan

/-- The greatest `D` with `10^D ≤ num / den`, for positive `num` and `den`; the search is
bounded by the 400 powers of ten a binary64 value can span. -/
def floorLog10 (num den : Nat) : Int :=
  if num ≥ den then ((Decimal.digitsOf (num / den)).length : Int) - 1
  else go 1 400
where
  go (j : Nat) : Nat → Int
    | 0 => -(j : Int)
    | fuel + 1 => if num * Nat.pow 10 j ≥ den then -(j : Int) else go (j + 1) fuel

/-- `c × 10^e` as a ratio of naturals. -/
def scaleTen (c : Nat) (e : Int) : Ratio :=
  if e ≥ 0 then ⟨c * Nat.pow 10 e.toNat, 1⟩ else ⟨c, Nat.pow 10 (-e).toNat⟩

/-- The distance between two ratios, as a ratio. -/
def Ratio.dist (x y : Ratio) : Ratio :=
  let a := x.num * y.den
  let b := y.num * x.den
  ⟨if a ≥ b then a - b else b - a, x.den * y.den⟩

/-- The shortest decimal `digits × 10^exponent` that rounds to the positive value
`mantissa × 2^exponent`: the first count of significant digits from one up whose grid holds a
point that rounds back, and of two such points the nearer (a tie to the even one). The rounding
interval around the value reaches half the gap to each neighbour and holds its ends exactly when
the mantissa is even; below a power of two the lower gap is half as wide. -/
def shortest (mantissa : Nat) (exponent : Int) : Nat × Int :=
  let value := scaleTwo mantissa exponent
  let lowerGap : Nat := if mantissa = Nat.pow 2 52 ∧ exponent > -1074 then 1 else 2
  let low := scaleTwo (4 * mantissa - lowerGap) (exponent - 2)
  let high := scaleTwo (4 * mantissa + 2) (exponent - 2)
  let closed := mantissa % 2 = 0
  let inside (x : Ratio) : Bool :=
    if closed then low.le x && x.le high else low.lt x && x.lt high
  let top := floorLog10 value.num value.den
  let pick (count : Nat) : Option (Nat × Int) :=
    let e := top - count + 1
    let grid := scaleTen 1 e
    let c := (value.num * grid.den) / (value.den * grid.num)
    let below := scaleTen c e
    let above := scaleTen (c + 1) e
    match inside below, inside above with
    | true, true =>
      let db := below.dist value
      let da := above.dist value
      if db.lt da then some (c, e)
      else if da.lt db then some (c + 1, e)
      else if c % 2 = 0 then some (c, e) else some (c + 1, e)
    | true, false => some (c, e)
    | false, true => some (c + 1, e)
    | false, false => none
  let found := (List.range 17).findSome? fun i => pick (i + 1)
  let (c, e) := found.getD (roundHalfEven value.num value.den, 0)
  let n := Decimal.normalize ⟨false, c, e⟩
  (n.digits, n.exponent)

/-- The shortest decimal that reads back as a finite value: `none` for an infinity or a value
that is not a number. -/
def shortestOf : Binary64 → Option Decimal
  | .finite negative 0 _ => some ⟨negative, 0, 0⟩
  | .finite negative m e =>
    let (digits, exponent) := shortest m e
    some ⟨negative, digits, exponent⟩
  | _ => none

end Binary64

end RingIdentity
