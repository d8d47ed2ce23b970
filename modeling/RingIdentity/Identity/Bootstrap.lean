import RingIdentity.Identity.Error
import RingIdentity.Identity.Settings
import RingIdentity.Registry.Access
import RingIdentity.Membership.Access
import RingIdentity.Ring.Seeds
import RingIdentity.Ring.Info
import RingIdentity.Retry.Run
/-!
Resolving a node's identity: its place in the token ring.

A node first looks for its own record from a previous life, among the dead records
(`app-dead`) and then among the live ones (`app`): a record found among the dead puts the node
out of service. Failing that, it asks three token strategies in turn: to take over the token of
a dead peer, to claim a pre-generated slot, and to mint a new token. Each is handed a rack map
freshly read from the live namespace. The first claim wins; a strategy with nothing to offer
passes on to the next, and a failing one ends the resolution. Minting alone is retried, under
the configured policy, with a fresh rack map for every attempt; it is refused outright when new
tokens are forbidden.

The resolved identity keeps its record for good. Only the address of the node it replaces and
its backup identifier change later; setting a nonblank replaced address makes the node a
replacement, and it stays one.
-/
namespace RingIdentity

/-- A token strategy: handed a fresh rack map, it claims a record, has nothing to offer, or
fails. -/
abbrev TokenRetriever (m : Type → Type) := RackMap → m (Except RetrieverError (Option TokenClaim))

/-- What resolving an identity works with. -/
structure IdentityContext (m : Type → Type) where
  settings : IdentitySettings
  info : InstanceInfo
  registry : RegistryAccess m
  membership : MembershipAccess m
  dead : TokenRetriever m
  preGenerated : TokenRetriever m
  new : TokenRetriever m
  log : Logger m

/-- A node's resolved identity. -/
structure Identity where
  inst : RingInstance
  info : InstanceInfo
  settings : IdentitySettings
  acquisition : Acquisition
  outOfService : Bool
  isReplace : Bool
  replacedIp : String
  backupIdentifier : String
  deriving DecidableEq, Repr

namespace Identity

variable {m : Type → Type} [Monad m]

/-- The target of identity events. -/
def target : String := "ringside_identity::identity"

/-- Reads a rack map of a namespace. -/
def loadRackMap (reg : RegistryAccess m) (app : String) : m (Except RegistryError RackMap) := do
  return RackMap.ofInstances <$> (← reg.allIds app)

/-- Reads a rack map of a namespace; a failure names the namespace. -/
def rackMapOf (reg : RegistryAccess m) (app : String) : m (Except IdentityError RackMap) := do
  return (← loadRackMap reg app).mapError (.registry app)

/-- Looks for the node's own record in one namespace. -/
def scan (ctx : IdentityContext m) (space : String) (dead : Bool) :
    m (Except IdentityError (Option RingInstance)) := do
  match ← ctx.registry.allIds space with
  | .error e => return .error (.registry space e)
  | .ok records =>
    ctx.log { level := .debug, target, message := "Scanning registry namespace for own record",
              fields := [Event.shown "namespace" space, Event.num "records" records.length,
                Event.text "instance_id" ctx.info.instanceId] }
    match records.find? (·.instanceId == ctx.info.instanceId) with
    | none => return .ok none
    | some r =>
      ctx.log { level := .info, target, message := "Found own record",
                fields := [Event.shown "namespace" space, Event.text "app" r.app,
                  Event.num "id" r.id, Event.text "instance_id" r.instanceId, Event.text "dc" r.dc,
                  Event.text "rac" r.rac, Event.text "host_ip" r.hostIp,
                  Event.text "host_name" r.hostName, Event.optText "token" r.token,
                  Event.flag "dead" dead] }
      return .ok (some r)

/-- Looks for the node's own record among the dead, then among the live; with whether it was
found among the dead. -/
def reclaim (ctx : IdentityContext m) : m (Except IdentityError (Option (RingInstance × Bool))) := do
  match ← scan ctx ctx.settings.deadApp true with
  | .error e => return .error e
  | .ok (some r) => return .ok (some (r, true))
  | .ok none =>
    match ← scan ctx ctx.settings.app false with
    | .error e => return .error e
    | .ok (some r) => return .ok (some (r, false))
    | .ok none => return .ok none

/-- Asks a single-shot strategy, with a fresh rack map. -/
def claim (ctx : IdentityContext m) (acq : Acquisition) (retriever : TokenRetriever m) :
    m (Except IdentityError (Option TokenClaim)) := do
  match ← rackMapOf ctx.registry ctx.settings.app with
  | .error e => return .error e
  | .ok map => return (← retriever map).mapError (.retriever acq)

/-- One attempt at minting: a fresh rack map, then the strategy; a failure of the strategy is
logged as a warning. -/
def mintAttempt (ctx : IdentityContext m) (attempt : Nat) :
    m (Except RetrieverError (Option TokenClaim)) := do
  match ← loadRackMap ctx.registry ctx.settings.app with
  | .error e => return .error (.registry e)
  | .ok map =>
    let r ← ctx.new map
    if let .error e := r then
      ctx.log { level := .warn, target, message := "Failed to mint a new token",
                fields := [Event.text "app" ctx.settings.app, Event.text "rac" ctx.info.rac,
                  Event.num "attempt" attempt, Event.shown "error" e.message] }
    return r

/-- Mints a new token under the retry policy, unless new tokens are forbidden. -/
def mint (ctx : IdentityContext m) : m (Except IdentityError (Option TokenClaim)) := do
  if !ctx.settings.createNewToken then return .error .newTokenForbidden
  let r ← ctx.settings.newTokenRetry.run (mintAttempt ctx)
  return r.mapError fun x => .mintExhausted x.attempts x.lastError

/-- The key of a node's backups: its token, or `virtual` and its id for a node without one. -/
def backupOf (r : RingInstance) : String :=
  match r.token with
  | some t => if t.isEmpty then "virtual" ++ toString r.id else t
  | none => "virtual" ++ toString r.id

/-- The identity of a won record; logs it. -/
def resolve (ctx : IdentityContext m) (r : RingInstance) (acq : Acquisition) (outOfService : Bool)
    (replacedIp : Option String) : m Identity := do
  ctx.log { level := .info, target, message := "Resolved instance identity",
            fields := [Event.text "app" r.app, Event.text "rac" r.rac, Event.num "id" r.id,
              Event.optText "token" r.token, Event.shown "strategy" acq.name,
              Event.flag "out_of_service" outOfService] }
  return { inst := r, info := ctx.info, settings := ctx.settings, acquisition := acq,
           outOfService, isReplace := acq == .dead, replacedIp := replacedIp.getD "",
           backupIdentifier := backupOf r }

/-- The strategies in the order they are asked. -/
def strategies (ctx : IdentityContext m) : List (Acquisition × TokenRetriever m) :=
  [(.dead, ctx.dead), (.preGenerated, ctx.preGenerated), (.new, ctx.new)]

/-- Asks the strategies in turn, from the given one on. -/
def tryStrategies (ctx : IdentityContext m) :
    List (Acquisition × TokenRetriever m) → m (Except IdentityError Identity)
  | [] => return .error .exhausted
  | (acq, retriever) :: rest => do
    let answer ← if acq == .new then mint ctx else claim ctx acq retriever
    match answer with
    | .error e => return .error e
    | .ok (some c) => return .ok (← resolve ctx c.inst acq false c.replacedIp)
    | .ok none =>
      ctx.log { level := .debug, target, message := "Token strategy had nothing to offer",
                fields := [Event.text "app" ctx.settings.app, Event.text "rac" ctx.info.rac,
                  Event.shown "strategy" acq.name] }
      tryStrategies ctx rest

/-- Resolves a node's identity. -/
def bootstrap (ctx : IdentityContext m) : m (Except IdentityError Identity) := do
  match ← reclaim ctx with
  | .error e => return .error e
  | .ok (some (r, dead)) => return .ok (← resolve ctx r .reclaimed dead none)
  | .ok none => tryStrategies ctx (strategies ctx)

/-- The seed policy of the node. -/
def seedPolicy (i : Identity) : SeedPolicy :=
  (SeedPolicy.ofAutoBootstrap i.settings.autoBootstrap).withAddressForm
    (AddressForm.ofMultiDc i.settings.multiDc)

/-- A fresh rack map of the live namespace. -/
def rackMap (i : Identity) (reg : RegistryAccess m) : m (Except IdentityError RackMap) :=
  rackMapOf reg i.settings.app

/-- The seeds of the node: the static ones when configured, else those of a fresh rack map,
asking membership for the rack's capacity in a single-rack cluster. -/
def seeds (i : Identity) (reg : RegistryAccess m) (mem : MembershipAccess m) (log : Logger m) :
    m (Except IdentityError (List String)) := do
  if !i.settings.seeds.items.isEmpty then return .ok i.settings.seeds.items
  match ← i.rackMap reg with
  | .error e => return .error e
  | .ok map =>
    let capacity ← if mem.racCount == 1 then
        (fun r => (Except.mapError IdentityError.membership r).map some) <$> mem.racMembershipSize
      else pure (.ok none)
    match capacity with
    | .error e => return .error e
    | .ok cap =>
      let seeds := i.seedPolicy.select map i.inst cap
      log { level := .debug, target, message := "Computed seeds",
            fields := [Event.text "rac" i.inst.rac, Event.texts "seeds" seeds] }
      return .ok seeds

/-- Whether the node is the anchor of its rack, on a fresh rack map. -/
def isSeed (i : Identity) (reg : RegistryAccess m) : m (Except IdentityError Bool) := do
  return (← i.rackMap reg).map fun map =>
    match map.anchor i.inst.rac with
    | some a => a.hostName == i.inst.hostName
    | none => false

/-- Records the address of the node replaced; a nonblank one makes the node a replacement. -/
def setReplacedIp (i : Identity) (ip : String) : Identity :=
  { i with replacedIp := ip, isReplace := i.isReplace || !ip.isEmpty }

/-- Overrides the backup key. -/
def setBackupIdentifier (i : Identity) (b : String) : Identity := { i with backupIdentifier := b }

/-- Whether the node claimed a pre-generated token. -/
def isTokenPregenerated (i : Identity) : Bool := i.acquisition == .preGenerated

/-- Whether the record carries a nonblank token. -/
def isExternallyDefinedToken (i : Identity) : Bool :=
  match i.inst.token with
  | some t => !Text.isBlankText t
  | none => false

end Identity

end RingIdentity
