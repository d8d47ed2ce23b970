import RingIdentity.Ring.Instance
import RingIdentity.Text.Blank
/-!
How a node came by its identity, and the claims token strategies make.

A node reclaims its own record from a previous life, takes over the token of a dead peer, claims
a pre-generated slot, or mints a new token. A strategy that wins a record answers a claim: the
record, and the address of the node it replaces when it took over a dead peer's token. A blank
address is no address.
-/
namespace RingIdentity

/-- How a node came by its identity. -/
inductive Acquisition where
  /-- It found its own record from a previous life. -/
  | reclaimed
  /-- It took over the token of a dead peer. -/
  | dead
  /-- It claimed a pre-generated slot. -/
  | preGenerated
  /-- It minted a new token. -/
  | new
  deriving DecidableEq, Repr, Inhabited

namespace Acquisition

/-- The name of an acquisition. -/
def name : Acquisition → String
  | .reclaimed => "reclaimed"
  | .dead => "dead token"
  | .preGenerated => "pre-generated token"
  | .new => "new token"

end Acquisition

/-- A record a token strategy won, with the address of the node it replaces, if any. -/
structure TokenClaim where
  inst : RingInstance
  replacedIp : Option String := none
  deriving DecidableEq, Repr, Inhabited

namespace TokenClaim

/-- A claim of a record, replacing nobody. -/
def ofInstance (r : RingInstance) : TokenClaim := { inst := r }

/-- The claim replacing a node at an address; a blank address replaces nobody. -/
def replacing (c : TokenClaim) (ip : String) : TokenClaim :=
  { c with replacedIp := if Text.isBlankText ip then none else some ip }

end TokenClaim

end RingIdentity
