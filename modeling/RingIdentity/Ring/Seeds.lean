import RingIdentity.Ring.RackMap
/-!
Seed selection: which peers a node names as seeds to join the ring, and by which address.

Placeholders never seed. When the node joins a running cluster (`auto_bootstrap`), a peer on the
node's own host never seeds it either; a freshly provisioned cluster instead needs some nodes to
seed from themselves. Peers are named by host name within one region and by address across
regions.

Every rack offers its first admitted record, racks in order. For a cluster of a single rack the
declared capacity of the rack is given: no seed is named until the rack holds exactly that many
records, and the rack's anchor, when it runs on the local address, first names the rack's second
record. A seed named twice is kept once, where it first appeared.
-/
namespace RingIdentity

/-- Which address of a peer names it as a seed. -/
inductive AddressForm where
  /-- The host name, within one region. -/
  | hostName
  /-- The network address, across regions. -/
  | hostIp
  deriving DecidableEq, Repr, Inhabited

namespace AddressForm

/-- Host addresses for a multi-region cluster, host names otherwise. -/
def ofMultiDc (multiDc : Bool) : AddressForm := if multiDc then .hostIp else .hostName

/-- The address of a record in this form. -/
def addressOf : AddressForm → RingInstance → String
  | .hostName, r => r.hostName
  | .hostIp, r => r.hostIp

/-- The name of a form. -/
def name : AddressForm → String
  | .hostName => "host_name"
  | .hostIp => "host_ip"

end AddressForm

/-- Which peers may seed a node, and how they are named. -/
structure SeedPolicy where
  excludesLocalHost : Bool
  addressForm : AddressForm := .hostName
  deriving DecidableEq, Repr, Inhabited

namespace SeedPolicy

/-- The policy for an `auto_bootstrap` setting: a joining node never seeds from its own host. -/
def ofAutoBootstrap (autoBootstrap : Bool) : SeedPolicy := { excludesLocalHost := autoBootstrap }

/-- The policy with another address form. -/
def withAddressForm (p : SeedPolicy) (f : AddressForm) : SeedPolicy := { p with addressForm := f }

/-- Whether a record may seed the local node `node`. -/
def admits (p : SeedPolicy) (candidate node : RingInstance) : Bool :=
  !candidate.isPlaceholder && !(p.excludesLocalHost && candidate.hostName == node.hostName)

/-- Adds the address of a record to the seeds unless it is there already. -/
def push (p : SeedPolicy) (seeds : List String) (r : RingInstance) : List String :=
  let a := p.addressForm.addressOf r
  if seeds.contains a then seeds else seeds ++ [a]

/-- The seeds a single-rack cluster names before the racks' own: the second record of the
rack when the anchor runs on the local address. `none` when the rack is not yet full. -/
def rackFill (p : SeedPolicy) (m : RackMap) (node : RingInstance) (capacity : Nat) :
    Option (List String) :=
  let rack := m.rack node.rac
  if capacity ≠ rack.length then none
  else match rack with
    | anchor :: second :: _ =>
      if anchor.hostIp == node.hostIp && !second.isPlaceholder then some (p.push [] second)
      else some []
    | _ => some []

/-- The seeds of a rack map for the local node `node`; `capacity` is the declared
capacity of the local rack, given only for a single-rack cluster. -/
def select (p : SeedPolicy) (m : RackMap) (node : RingInstance) (capacity : Option Nat) :
    List String :=
  let start := match capacity with
    | some c => p.rackFill m node c
    | none => some []
  match start with
  | none => []
  | some seeds =>
    m.racks.foldl (fun seeds (_, members) =>
      match members.find? (p.admits · node) with
      | some first => p.push seeds first
      | none => seeds) seeds

end SeedPolicy

end RingIdentity
