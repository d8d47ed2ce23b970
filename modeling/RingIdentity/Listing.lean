import RingIdentity.Text.Blank
import RingIdentity.Decode.Read
/-!
Listings: lists of names such as racks, seeds or sibling groups, configured either as a sequence
of strings or as one comma-separated string. Every entry is trimmed of blanks and empty entries
are dropped, so `"a, b,,c "` and `["a", " b", ""]`-like inputs give the same kind of list.
-/
namespace RingIdentity

/-- A list of trimmed, nonblank names. -/
structure Listing where
  items : List String
  deriving DecidableEq, Repr, Inhabited

namespace Listing

/-- The listing of some entries: each trimmed, the empty ones dropped. -/
def ofEntries (entries : List String) : Listing :=
  ⟨(entries.map Text.trim).filter (· ≠ "")⟩

/-- The listing of a comma-separated text. -/
def ofCsv (s : String) : Listing := ofEntries (s.splitOn ",")

/-- The empty listing. -/
def empty : Listing := ⟨[]⟩

/-- How many names a listing holds. -/
def length (l : Listing) : Nat := l.items.length

/-- What a listing is read from: text, a sequence of strings, or null for none. -/
def expecting : String := "a sequence of strings or a comma-separated string"

/-- Reads the strings of a sequence in order; in settings an error is placed at its index. -/
def readItems (d : Dialect) : Nat → List Node → Except DecodeError (List String)
  | _, [] => .ok []
  | i, n :: rest => do
    let s ← d.under (.index i) (n.readString d)
    let more ← readItems d (i + 1) rest
    .ok (s :: more)

/-- Reads a listing from a node: a string is split at commas, a sequence holds strings, and null
is the empty listing. -/
def read (d : Dialect) (n : Node) : Except DecodeError Listing :=
  match n with
  | .leaf _ (.str s) => .ok (ofCsv s)
  | .leaf _ .nil => .ok empty
  | .seq _ items => ofEntries <$> readItems d 0 items
  | n => .error (.mismatch n.found expecting)

end Listing

end RingIdentity
