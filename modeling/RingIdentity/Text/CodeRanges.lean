/-!
Looking up Unicode tables. A property of characters is a table of closed code point ranges, and a
case map a table of runs; both are sorted by their first code point and never overlap, so the
one entry that may hold a code point is the last one that starts at or below it. `lastAtMost`
finds that entry by halving the table.
-/
namespace RingIdentity

namespace Text

/-- The last entry, among indices `lo` up to (without) `hi` of a table sorted by `key`, whose key
is at most `n`; `best` when there is none. -/
def lastAtMost {α : Type} (table : Array α) (key : α → Nat) (n : Nat) (lo hi : Nat)
    (best : Option α) : Option α :=
  if _h : lo < hi then
    let mid := (lo + hi) / 2
    match table[mid]? with
    | none => best
    | some x =>
      if key x ≤ n then lastAtMost table key n (mid + 1) hi (some x)
      else lastAtMost table key n lo mid best
  else best
termination_by hi - lo

/-- Whether a code point lies in one of the closed ranges of a table sorted by their first
code point. -/
def inRanges (table : Array (Nat × Nat)) (n : Nat) : Bool :=
  match lastAtMost table (·.1) n 0 table.size none with
  | some (_, last) => n ≤ last
  | none => false

end Text

end RingIdentity
