import RingIdentity.Identity.Bootstrap
/-!
Scripted token strategies, for exercising bootstrap.

A script is a list of steps; its `n`-th call plays step `n`, or the last step once the list is
exhausted, and an empty script never has anything to offer. A step may first store a record on
the side, as another node would; then it has nothing to offer, fails, claims a given record
(storing it first when asked to), or mints: it stores the next slot of the local rack, after the
rack's highest id (slot 0 for an empty rack), for the local instance, with the token
`256 · id + b`, `b` the last byte of the rack's name (0 for an empty name). A failure to store a
record is the step's failure.
-/
namespace RingIdentity

/-- What a step of a script does. -/
inductive ScriptAction where
  /-- Offers nothing. -/
  | nothing
  /-- Claims a record, storing it first when asked to, replacing a node at an address. -/
  | claim (inst : RingInstance) (replacedIp : Option String) (store : Bool)
  /-- Stores and claims the next slot of the local rack. -/
  | mint
  /-- Fails. -/
  | fail (e : RetrieverError)
  deriving DecidableEq, Repr, Inhabited

/-- A step of a script. -/
structure ScriptStep where
  action : ScriptAction
  /-- A record stored before the action, as another node would. -/
  sideRecord : Option RingInstance := none
  deriving DecidableEq, Repr, Inhabited

namespace ScriptStep

/-- The token minted for a slot of a rack. -/
def mintedToken (rac : String) (id : Nat) : String :=
  toString (id * 256 + (rac.toUTF8.toList.getLast?.map (·.toNat)).getD 0)

/-- The record minted for the local instance on a rack map: the next slot of its rack. -/
def mintedRecord (app : String) (info : InstanceInfo) (map : RackMap) : RingInstance :=
  let id := match map.maxId info.rac with
    | some i => i + 1
    | none => 0
  ((((RingInstance.make app id info.instanceId).withRac info.rac).withDc info.region).withHost
    info.hostName info.hostIp).withToken (mintedToken info.rac id)

variable {m : Type → Type} [Monad m]

/-- Plays the action of a step. -/
def play (reg : RegistryAccess m) (app : String) (info : InstanceInfo) (map : RackMap) :
    ScriptAction → m (Except RetrieverError (Option TokenClaim))
  | .nothing => return .ok none
  | .fail e => return .error e
  | .claim r ip store => do
    if store then
      if let .error e ← reg.register r then return .error (.registry e)
    let c := TokenClaim.ofInstance r
    return .ok (some (match ip with | some a => c.replacing a | none => c))
  | .mint => do
    match ← reg.register (mintedRecord app info map) with
    | .error e => return .error (.registry e)
    | .ok stored => return .ok (some (TokenClaim.ofInstance stored))

/-- Plays a step: the side record first, then the action. -/
def run (s : ScriptStep) (reg : RegistryAccess m) (app : String) (info : InstanceInfo)
    (map : RackMap) : m (Except RetrieverError (Option TokenClaim)) := do
  if let some r := s.sideRecord then
    if let .error e ← reg.register r then return .error (.registry e)
  play reg app info map s.action

end ScriptStep

/-- A scripted token strategy; `count` records the size of each rack map handed to it and
answers how many calls came before. -/
def scripted {m : Type → Type} [Monad m] (steps : List ScriptStep) (reg : RegistryAccess m)
    (app : String) (info : InstanceInfo) (count : Nat → m Nat) : TokenRetriever m :=
  fun map => do
    let n ← count map.size
    match steps[min n (steps.length - 1)]? with
    | none => return .ok none
    | some s => s.run reg app info map

end RingIdentity
