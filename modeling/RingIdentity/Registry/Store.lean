import RingIdentity.Registry.Error
import RingIdentity.Ring.Instance
/-!
The registry of ring records, kept in memory and partitioned into namespaces, one per
application.

Writes are conditional. A record is stored only when no record of its namespace holds its slot
(rack and id) or, when it carries one, its token; a record is replaced only by one of the same
slot and namespace, only while the stored record is still the one the writer read, and only when
no other record holds the new record's slot or token; a record is removed only when the stored
record equals it. A write that fails changes nothing. Of several writers racing for one slot or
token, at most one therefore wins.
-/
namespace RingIdentity

/-- The records of every namespace, each namespace in storing order. -/
structure Registry where
  namespaces : List (String × List RingInstance)
  deriving DecidableEq, Repr, Inhabited

namespace Registry

/-- The registry with no records. -/
def empty : Registry := ⟨[]⟩

/-- The records of a namespace, in storing order. -/
def records (reg : Registry) (app : String) : List RingInstance :=
  ((reg.namespaces.find? (·.1 == app)).map (·.2)).getD []

/-- The registry with the records of a namespace replaced. -/
def setRecords (reg : Registry) (app : String) (rs : List RingInstance) : Registry :=
  if reg.namespaces.any (·.1 == app) then
    ⟨reg.namespaces.map fun (k, v) => if k == app then (k, rs) else (k, v)⟩
  else ⟨reg.namespaces ++ [(app, rs)]⟩

/-- Whether two records hold the same slot: the same rack and id. -/
def sameSlot (a b : RingInstance) : Bool := a.rac == b.rac && a.id == b.id

/-- Whether a record stands in the way of a candidate: it holds the candidate's slot, or the
token the candidate carries. -/
def blocks (candidate r : RingInstance) : Bool :=
  sameSlot r candidate || (candidate.token.isSome && r.token == candidate.token)

/-- The first record, other than `exempt`, that stands in the way of a candidate. -/
def findConflict (rs : List RingInstance) (candidate : RingInstance)
    (exempt : Option RingInstance) : Option RingInstance :=
  (rs.filter fun r => exempt != some r).find? (blocks candidate)

/-- The conflict of a candidate. -/
def conflictOf (r : RingInstance) : RegistryError := .conflict r.app r.rac r.id

/-- The failure of a missing record. -/
def notFoundOf (r : RingInstance) : RegistryError := .notFound r.app r.rac r.id

/-- The records of a namespace. -/
def allIds (reg : Registry) (app : String) : List RingInstance := reg.records app

/-- The record holding a slot. -/
def get (reg : Registry) (app rac : String) (id : Nat) : Option RingInstance :=
  (reg.records app).find? fun r => r.rac == rac && r.id == id

/-- Stores a new record, unless its slot or token is held. -/
def register (reg : Registry) (r : RingInstance) : Except RegistryError RingInstance × Registry :=
  let rs := reg.records r.app
  match findConflict rs r none with
  | some _ => (.error (conflictOf r), reg)
  | none => (.ok r, reg.setRecords r.app (rs ++ [r]))

/-- Replaces the stored record `current` by `replacement` in the same slot. -/
def update (reg : Registry) (current replacement : RingInstance) :
    Except RegistryError RingInstance × Registry :=
  if !(sameSlot current replacement) || current.app != replacement.app then
    (.error (conflictOf replacement), reg)
  else if !reg.namespaces.any (·.1 == current.app) then (.error (notFoundOf current), reg)
  else
    let rs := reg.records current.app
    match rs.find? (sameSlot · current) with
    | none => (.error (notFoundOf current), reg)
    | some stored =>
      if stored != current then (.error (conflictOf replacement), reg)
      else match findConflict rs replacement (some current) with
        | some _ => (.error (conflictOf replacement), reg)
        | none =>
          let i := rs.findIdx (sameSlot · current)
          (.ok replacement, reg.setRecords current.app (rs.set i replacement))

/-- Removes a record equal to the given one. -/
def delete (reg : Registry) (r : RingInstance) : Except RegistryError Unit × Registry :=
  if !reg.namespaces.any (·.1 == r.app) then (.error (notFoundOf r), reg)
  else
    let rs := reg.records r.app
    if rs.contains r then (.ok (), reg.setRecords r.app (rs.eraseIdx (rs.idxOf r)))
    else (.error (notFoundOf r), reg)

/-- A registry holding some records, in order; a record that conflicts with an earlier one is
skipped. -/
def ofRecords (rs : List RingInstance) : Registry :=
  rs.foldl (fun reg r => (reg.register r).2) empty

/-- How many records a namespace holds. -/
def size (reg : Registry) (app : String) : Nat := (reg.records app).length

end Registry

end RingIdentity
