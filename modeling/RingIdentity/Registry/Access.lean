import RingIdentity.Registry.Store
import RingIdentity.Logging.Event
/-!
A registry as the identity logic sees it: five operations that may fail, in some monad. The
in-memory registry is one; a registry with injected faults wraps another.
-/
namespace RingIdentity

/-- The operations of a registry. -/
structure RegistryAccess (m : Type → Type) where
  /-- The records of a namespace, in no particular order. -/
  allIds : String → m (Except RegistryError (List RingInstance))
  /-- The record holding slot `id` of rack `rac`. -/
  get : String → String → Nat → m (Except RegistryError (Option RingInstance))
  /-- Stores a new record. -/
  register : RingInstance → m (Except RegistryError RingInstance)
  /-- Swaps a stored record for another of the same slot. -/
  update : RingInstance → RingInstance → m (Except RegistryError RingInstance)
  /-- Removes a stored record. -/
  delete : RingInstance → m (Except RegistryError Unit)

/-- The event of a lost claim on a held slot. -/
def Registry.rejectedEvent (r : RingInstance) : Event :=
  { level := .debug, target := "ringside_identity::registry",
    message := "Rejected a claim on a held slot",
    fields := [Event.text "app" r.app, Event.text "rac" r.rac, Event.num "id" r.id] }

/-- The in-memory registry held in a state, reached through `get` and `set`; a lost claim is
logged at debug level. -/
def Registry.access {m : Type → Type} [Monad m] (load : m Registry) (store : Registry → m Unit)
    (log : Logger m) : RegistryAccess m where
  allIds app := do return .ok ((← load).allIds app)
  get app rac id := do return .ok ((← load).get app rac id)
  register r := do
    let (res, reg) := (← load).register r
    store reg
    if res matches .error _ then log (Registry.rejectedEvent r)
    return res
  update cur rep := do
    let (res, reg) := (← load).update cur rep
    store reg
    return res
  delete r := do
    let (res, reg) := (← load).delete r
    store reg
    return res

end RingIdentity
