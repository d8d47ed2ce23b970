import RingIdentity.Text.Blank
import RingIdentity.Text.Case
/-!
Runtime profiles, such as `prod` or `dev`, that pick the configuration files meant for one kind
of deployment.

A profile's name is trimmed of blanks and lower-cased in ASCII; a blank name is `dev`. Profiles
are compared with names up to the case of ASCII letters (`named`), so a profile always bears
its own name (`named_name`).
-/
namespace RingIdentity

/-- A runtime profile, named in ASCII lower case. -/
structure Profile where
  /-- The normalized name. -/
  name : String
  deriving DecidableEq, Repr, Inhabited

namespace Profile

/-- The profile of a blank name. -/
def fallback : String := "dev"

/-- The profile of a name: trimmed, `dev` when blank, lower-cased in ASCII. -/
def ofName (raw : String) : Profile :=
  let t := Text.trim raw
  ⟨Text.lowerAscii (if t.isEmpty then fallback else t)⟩

/-- Whether the profile has a name, up to the case of ASCII letters. -/
def named (p : Profile) (name : String) : Bool := Text.sameAsciiCase p.name name

/-- A profile is the profile of its own name. -/
theorem named_name (p : Profile) : p.named p.name = true := by
  simp [named, Text.sameAsciiCase]

end Profile

end RingIdentity
