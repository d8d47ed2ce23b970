import RingIdentity.Ring.Instance
/-!
Rack maps: a snapshot of one registry namespace, its records grouped by rack.

Racks are kept in byte order of their names, and the records of a rack in ascending slot id;
records of equal id keep the order in which they were listed (the sort is stable). The first
record of a rack is its anchor and the last holds its highest id. Only racks with a record are
kept, so the map is empty exactly when no record was listed. A map is rebuilt from a fresh
listing whenever a new view is needed, never patched.
-/
namespace RingIdentity

/-- The records of a namespace, grouped by rack. -/
structure RackMap where
  /-- Each rack with its records, racks in byte order, records by ascending id. -/
  racks : List (String × List RingInstance)
  deriving DecidableEq, Repr, Inhabited

namespace RackMap

/-- Adds a record at the end of its rack's group, opening the group in rack order when it is
new. -/
def addToGroup (r : RingInstance) : List (String × List RingInstance) → List (String × List RingInstance)
  | [] => [(r.rac, [r])]
  | (k, ms) :: rest =>
    if r.rac = k then (k, ms ++ [r]) :: rest
    else if r.rac < k then (r.rac, [r]) :: (k, ms) :: rest
    else (k, ms) :: addToGroup r rest

/-- Sorts records by ascending id, equal ids in their given order. -/
def byId (ms : List RingInstance) : List RingInstance := ms.mergeSort fun a b => a.id ≤ b.id

/-- Groups records by rack. -/
def ofInstances (xs : List RingInstance) : RackMap :=
  ⟨(xs.foldl (fun g r => addToGroup r g) []).map fun (k, ms) => (k, byId ms)⟩

/-- The empty map. -/
def empty : RackMap := ⟨[]⟩

/-- The records of a rack, anchor first; none for an unknown rack. -/
def rack (m : RackMap) (rac : String) : List RingInstance :=
  ((m.racks.find? (·.1 == rac)).map (·.2)).getD []

/-- The anchor of a rack: its record of lowest id. -/
def anchor (m : RackMap) (rac : String) : Option RingInstance := (m.rack rac).head?

/-- Every record, rack by rack. -/
def instances (m : RackMap) : List RingInstance := m.racks.flatMap (·.2)

/-- How many racks hold a record. -/
def rackCount (m : RackMap) : Nat := m.racks.length

/-- How many records the map holds. -/
def size (m : RackMap) : Nat := m.instances.length

/-- Whether the map holds no record. -/
def isEmpty (m : RackMap) : Bool := m.racks.isEmpty

/-- The record a cloud instance holds, first in rack order. -/
def findInstance (m : RackMap) (instanceId : String) : Option RingInstance :=
  m.instances.find? (·.instanceId == instanceId)

/-- The highest slot id taken in a rack. -/
def maxId (m : RackMap) (rac : String) : Option Nat := (m.rack rac).getLast?.map (·.id)

/-- Whether some record holds a token. -/
def holdsToken (m : RackMap) (token : String) : Bool :=
  m.instances.any (·.token == some token)

end RackMap

end RingIdentity
