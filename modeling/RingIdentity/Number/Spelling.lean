import RingIdentity.Number.Binary64
/-!
How messages and converted settings spell a binary64 value. All spellings start from the
shortest decimal that reads back (`Binary64.shortestOf`) and differ only in layout: whether an
integral value gets a `.0`, and which powers of ten are written with an exponent.
-/
namespace RingIdentity

/-- The layout of a spelled number. -/
structure Spelling where
  /-- Whether a value written without a point gets `.0`. -/
  markWhole : Bool
  /-- With `some (lo, hi)`, a value whose leading digit stands at power `p` with
  `lo < p + 1 ≤ hi` is written positionally and others with an exponent; with `none` every
  value is written positionally. -/
  positional : Option (Int × Int)
  /-- Whether a positive exponent is written with a `+`. -/
  plusExponent : Bool

namespace Spelling

/-- Decoding messages about a document's number: positional from `0.0001` up to sixteen integral
digits, `.0` on integral values, `1e+20` beyond. -/
def diagnostic : Spelling := ⟨true, some (-5, 16), true⟩

/-- A number converted to text: positional always, no `.0` (`1`, `1.5`, `0.0000001`). -/
def plain : Spelling := ⟨false, none, false⟩

/-- Positional always, and `.0` on integral values (`1.0`, `100000000000000000000.0`). -/
def pointed : Spelling := ⟨true, none, false⟩

/-- The exponent mark and digits for `10^k`. -/
def exponentText (s : Spelling) (k : Int) : String :=
  if k < 0 then "e-" ++ toString k.natAbs
  else if s.plusExponent then "e+" ++ toString k else "e" ++ toString k

/-- Spells a nonnegative `digits × 10^exponent` with no trailing zero digits. -/
def layout (s : Spelling) (digits : Nat) (exponent : Int) : String :=
  let ds := Decimal.digitsOf digits
  let n : Int := ds.length
  let kk := n + exponent
  let whole := fun (t : String) => if s.markWhole && !t.contains '.' then t ++ ".0" else t
  match s.positional with
  | none => whole (Decimal.positional digits exponent)
  | some (lo, hi) =>
    if digits = 0 then whole "0"
    else if lo < kk ∧ kk ≤ hi then whole (Decimal.positional digits exponent)
    else
      let mantissa := match ds with
        | [d] => String.ofList [d]
        | d :: rest => String.ofList (d :: '.' :: rest)
        | [] => "0"
      mantissa ++ s.exponentText (kk - 1)

/-- Spells a binary64 value: an infinity is `inf` or `-inf`, a value that is not a number `NaN`. -/
def spell (s : Spelling) : Binary64 → String
  | .nan => "NaN"
  | .infinite negative => if negative then "-inf" else "inf"
  | .finite negative m e =>
    match Binary64.shortestOf (.finite negative m e) with
    | some v => (if v.negative then "-" else "") ++ s.layout v.digits v.exponent
    | none => "NaN"

end Spelling

end RingIdentity
