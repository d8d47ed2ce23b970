import RingIdentity.Membership.Error
import RingIdentity.Ring.Instance
/-!
Membership as the identity logic sees it: whether a record's instance is alive, the declared
capacity of the local rack, how many racks the cluster spans, and the ingress rules of the
cluster's security group.
-/
namespace RingIdentity

/-- The operations of a membership. -/
structure MembershipAccess (m : Type → Type) where
  /-- Whether the instance holding a record is alive. -/
  isInstanceAlive : RingInstance → m (Except MembershipError Bool)
  /-- The declared capacity of the local rack. -/
  racMembershipSize : m (Except MembershipError Nat)
  /-- How many racks the cluster spans. -/
  racCount : Nat
  /-- Admits some address ranges to a range of ports. -/
  addAcl : List String → Nat → Nat → m (Except MembershipError Unit)
  /-- Stops admitting some address ranges to a range of ports. -/
  removeAcl : List String → Nat → Nat → m (Except MembershipError Unit)
  /-- The address ranges admitted to exactly a range of ports, sorted and each once. -/
  listAcl : Nat → Nat → m (Except MembershipError (List String))

/-- A membership of fixed answers: a number of racks, a rack capacity (or the failure of asking
for it), every non-placeholder alive, and rule changes that do nothing. -/
def MembershipAccess.fixed {m : Type → Type} [Monad m] (racCount : Nat)
    (capacity : Except MembershipError Nat) : MembershipAccess m where
  isInstanceAlive r := pure (.ok !r.isPlaceholder)
  racMembershipSize := pure capacity
  racCount := racCount
  addAcl _ _ _ := pure (.ok ())
  removeAcl _ _ _ := pure (.ok ())
  listAcl _ _ := pure (.ok [])

end RingIdentity
