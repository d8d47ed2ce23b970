import RingIdentity.Decode.Section
/-!
Log line flavors: `full` (alias `default`), a single line with every field; `compact`, a single
line without the spans; and `pretty`, an event over several lines. Flavors are named by slug.
-/
namespace RingIdentity

/-- The shape of log lines. -/
inductive Flavor where
  | full
  | compact
  | pretty
  deriving DecidableEq, Repr, Inhabited

namespace Flavor

/-- The name of a flavor. -/
def name : Flavor → String
  | .full => "full"
  | .compact => "compact"
  | .pretty => "pretty"

/-- The flavor a name stands for, by slug. -/
def ofName? (s : String) : Option Flavor :=
  if Slug.same s "full" || Slug.same s "default" then some .full
  else if Slug.same s "compact" then some .compact
  else if Slug.same s "pretty" then some .pretty
  else none

/-- What a flavor is read from. -/
def expecting : String := "a log format flavor"

/-- Reads a flavor from its name. -/
def read (d : Dialect) (n : Node) : Except DecodeError Flavor := do
  let s ← n.readText d expecting
  match ofName? s with
  | some f => .ok f
  | none => .error (.refused ("unknown log format flavor `" ++ s ++ "`"))

end Flavor

end RingIdentity
