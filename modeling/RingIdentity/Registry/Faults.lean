import RingIdentity.Registry.Access
/-!
A registry with injected faults, for exercising the failure paths of the identity logic.

Listings of a namespace are numbered from zero over the registry's life. A listing fails as
unavailable (`connection refused`) while the registry is down, when its namespace is one of the
down namespaces, or when its number is one of the failing calls. Every other operation fails the
same way only while the registry is down.
-/
namespace RingIdentity

/-- Which registry calls fail. -/
structure RegistryFaults where
  down : Bool := false
  downNamespaces : List String := []
  failCalls : List Nat := []
  deriving DecidableEq, Repr, Inhabited

namespace RegistryFaults

/-- The failure of an unreachable registry. -/
def refused : RegistryError := .unavailable "connection refused"

/-- Whether the listing numbered `n` of a namespace fails. -/
def listingFails (f : RegistryFaults) (app : String) (n : Nat) : Bool :=
  f.down || f.downNamespaces.contains app || f.failCalls.contains n

end RegistryFaults

/-- A registry whose calls fail as the faults say; `nextListing` numbers the listings. -/
def RegistryAccess.withFaults {m : Type → Type} [Monad m] (inner : RegistryAccess m)
    (faults : m RegistryFaults) (nextListing : m Nat) : RegistryAccess m where
  allIds app := do
    let n ← nextListing
    if (← faults).listingFails app n then return .error RegistryFaults.refused
    inner.allIds app
  get app rac id := do
    if (← faults).down then return .error RegistryFaults.refused
    inner.get app rac id
  register r := do
    if (← faults).down then return .error RegistryFaults.refused
    inner.register r
  update c r := do
    if (← faults).down then return .error RegistryFaults.refused
    inner.update c r
  delete r := do
    if (← faults).down then return .error RegistryFaults.refused
    inner.delete r

end RingIdentity
