import RingIdentity.Scenario.Steps
/-!
Scenarios that run against the world: a registry alone, a membership, resolving one identity,
many nodes resolving theirs at once, and launching the sidecar.
-/
namespace RingIdentity

namespace Scenario

/-- Credentials for an access key, with a fixed secret. -/
def keyCredentials (key : String) : Credentials := ⟨key, "secret", none⟩

/-- `registry`: registry steps against a registry with records and faults. -/
def registry (req : Json) : Reply Json := do
  let (reg, faults) ← registrySpec req
  let run : Sim (List Json) := (items req "ops").mapM fun s =>
    let op := textD s "op" ""
    match registryStep op s with
    | some r => r
    | none => pure (malformed ("unknown op `" ++ op ++ "`"))
  .ok (.arr ((run.run { registry := reg, faults }).1))

/-- Reads the parts of a cloud membership from a spec: settings, instance facts, cloud and
credentials. -/
def cloudMembershipSpec (spec : Json) : Reply (MembershipSettings × InstanceInfo × MemoryCloud ×
    Credentials × Option Credentials) := do
  let settings := (← embedded? (MembershipSettings.read .json) spec "config").getD {}
  let info ← needEmbedded (InstanceInfo.read .json) spec "info"
  let cloud := match spec.field? "cloud" with
    | some c => cloudSpec c
    | none => {}
  let own := keyCredentials (textD spec "own_key" "AKIAOWN")
  let cross := if boolD spec "cross" true then some (keyCredentials (textD spec "cross_key" "AKIACROSS"))
    else none
  .ok (settings, info, cloud, own, cross)

/-- `membership`: membership steps against a cloud; each step shows the calls it made and the
clients it opened. -/
def membership (req : Json) : Reply Json := do
  let (settings, info, cloud, own, cross) ← cloudMembershipSpec req
  let run : Sim (List Json) := do
    let c ← CloudMembership.create World.log settings.kind settings info (.fixed own)
      (cross.map .fixed)
    (items req "ops").mapM fun s => do
      let op := textD s "op" ""
      let w ← get
      let (callsBefore, clientsBefore) := (w.cloud.calls.length, w.cloud.clientsOpened)
      let j ← match membershipStep (.cloud c) op s <|> cloudStep op s with
        | some r => r
        | none => pure (malformed ("unknown op `" ++ op ++ "`"))
      let (calls, opened) := (← get).cloudSince callsBefore clientsBefore
      return .obj [("result", j), ("calls", .arr (calls.map callJson)),
        ("clients_created", Json.nat opened), ("clients_open", Json.nat 0)]
  .ok (.arr ((run.run { cloud }).1))

/-- Reads a membership spec: fixed answers by default, or a cloud membership with its cloud. -/
def membersSpec (req : Json) : Reply (Sim Members × MemoryCloud) := do
  match req.field? "membership" with
  | none => .ok (pure (.fixed 3 (.ok 0)), {})
  | some spec =>
    match spec.field? "cloud" with
    | some c =>
      let (settings, info, cloud, own, cross) ← cloudMembershipSpec c
      .ok ((Members.cloud ·) <$> CloudMembership.create World.log settings.kind settings info
        (.fixed own) (cross.map .fixed), cloud)
    | none =>
      let f := (spec.field? "fixed").getD (.obj [])
      let capacity := match f.field? "capacity_error" with
        | some e => .error (membershipErrorSpec e)
        | none => .ok (natD f "capacity" 0)
      .ok (pure (.fixed (natD f "rac_count" 3) capacity), {})

/-- The sizes of the rack maps handed to each strategy. -/
def strategyCallsJson (w : World) : Json :=
  .obj [("dead", .arr (w.deadCalls.reverse.map Json.nat)),
    ("pre_generated", .arr (w.preGeneratedCalls.reverse.map Json.nat)),
    ("new", .arr (w.newCalls.reverse.map Json.nat))]

/-- `bootstrap`: resolves one identity, then runs the after-steps against it. -/
def bootstrap (req : Json) : Reply Json := do
  let settings := (← embedded? (IdentitySettings.read .json) req "config").getD {}
  let info ← needEmbedded (InstanceInfo.read .json) req "info"
  let (reg, faults) ← match req.field? "registry" with
    | some spec => registrySpec spec
    | none => .ok (Registry.empty, {})
  let (members, cloud) ← membersSpec req
  let dead ← scriptSpec req "dead"
  let pre ← scriptSpec req "pre_generated"
  let new ← scriptSpec req "new"
  let run : Sim Json := do
    let members ← members
    let ctx : IdentityContext Sim :=
      { settings, info, registry := World.registryAccess, membership := members.access,
        dead := World.strategy .dead dead settings.app info,
        preGenerated := World.strategy .preGenerated pre settings.app info,
        new := World.strategy .new new settings.app info, log := World.log }
    let r ← Identity.bootstrap ctx
    let (after, r) ← match r with
      | .ok i => do
        let (after, last) ← afterSteps (stepEntry members.showsCalls) { members, identity := some i } (items req "after")
        pure (after, .ok (last.identity.getD i))
      | .error e => pure ([], .error e)
    let w ← get
    return .obj [("result", resultJson IdentityError.toJson identityJson r),
      ("strategy_calls", strategyCallsJson w), ("after", .arr after),
      ("registry", .obj [("live", .arr ((w.registry.records settings.app).map RingInstance.toJson)),
        ("dead", .arr ((w.registry.records settings.deadApp).map RingInstance.toJson))])]
  .ok ((run.run { registry := reg, faults, cloud }).1)

/-- A strategy that never has anything to offer. -/
def noToken : TokenRetriever Sim := fun _ => pure (.ok none)

/-- `concurrent_bootstrap`: nodes resolving their identities against one registry, each minting
the next slot of its rack. The outcome does not depend on how the nodes interleave while their
attempts suffice, so they run one after another. -/
def concurrentBootstrap (req : Json) : Reply Json := do
  let settings := (← embedded? (IdentitySettings.read .json) req "config").getD {}
  let (reg, faults) ← match req.field? "registry" with
    | some spec => registrySpec spec
    | none => .ok (Registry.empty, {})
  let nodes ← (items req "nodes").mapM (embedded (InstanceInfo.read .json))
  let run : Sim Json := do
    let results ← nodes.mapM fun info =>
      Identity.bootstrap
        { settings, info, registry := World.registryAccess, membership := MembershipAccess.fixed 3 (.ok 0),
          dead := noToken, preGenerated := noToken,
          new := scripted [{ action := .mint }] World.registryAccess settings.app info (fun _ => pure 0),
          log := World.log }
    let won := results.filterMap fun r => match r with | .ok i => some i | .error _ => none
    let slots := (won.map fun i => (i.inst.rac, i.inst.id, i.inst.token)).mergeSort fun a b =>
      a.1 < b.1 || (a.1 == b.1 && (a.2.1 < b.2.1 || (a.2.1 == b.2.1 && (a.2.2.getD "") ≤ (b.2.2.getD ""))))
    return .obj [("succeeded", Json.nat won.length), ("failed", Json.nat (results.length - won.length)),
      ("slots", .arr (slots.map fun (r, id, t) => .arr [.str r, Json.nat id, Json.optStr t])),
      ("registry_len", Json.nat ((← get).registry.size settings.app))]
  .ok ((run.run { registry := reg, faults }).1)

/-- The reply form of a launched sidecar: its identity, the configured name and the rack count. -/
def sidecarJson (sc : Sidecar Sim) : Json :=
  match identityJson sc.identity with
  | .obj fields => .obj (fields ++ [("config_name", .str sc.settings.name),
      ("rac_count", Json.nat sc.settings.membership.racs.length)])
  | j => j

/-- The collaborators of a launch in the world. -/
def collaborators (req : Json) (instanceInfo : Option InstanceInfo)
    (dead pre new : List ScriptStep) (mintApp : String) (mintInfo : InstanceInfo) :
    Collaborators Sim :=
  { connector := World.connector, registry := World.registryAccess,
    dead := World.strategy .dead dead mintApp mintInfo,
    preGenerated := World.strategy .preGenerated pre mintApp mintInfo,
    new := World.strategy .new new mintApp mintInfo,
    instanceInfo, own := (text? req "own_key").map (CredentialProvider.fixed ∘ keyCredentials),
    cross := (text? req "cross_key").map (CredentialProvider.fixed ∘ keyCredentials) }

/-- `launch`: launches the sidecar, then runs the after-steps against it. -/
def launch (req : Json) : Reply Json := do
  let settings := (← embedded? (AppSettings.read .json) req "config").getD {}
  let (reg, faults) ← match req.field? "registry" with
    | some spec => registrySpec spec
    | none => .ok (Registry.empty, {})
  let cloud := match req.field? "cloud" with
    | some c => cloudSpec c
    | none => {}
  let instanceInfo ← embedded? (InstanceInfo.read .json) req "instance_info"
  let dead ← scriptSpec req "dead"
  let pre ← scriptSpec req "pre_generated"
  let new ← scriptSpec req "new"
  let mintInfo := (instanceInfo <|> settings.instanceInfo).getD (InstanceInfo.make "" "" "")
  let collab := collaborators req instanceInfo dead pre new settings.identity.app mintInfo
  let run : Sim Json := do
    let r ← Sidecar.launch World.log collab settings
    let launchCalls := (← get).cloud.calls.reverse
    let (after, r) ← match r with
      | .ok sc => do
        let stage : Stage :=
          { members := .cloud sc.membership, identity := some sc.identity, settings := some settings }
        let (after, last) ← afterSteps (stepEntry true) stage (items req "after")
        pure (after, .ok { sc with identity := last.identity.getD sc.identity })
      | .error e => pure ([], .error e)
    let w ← get
    return .obj [("result", resultJson LaunchError.toJson sidecarJson r),
      ("launch_calls", .arr (launchCalls.map callJson)), ("strategy_calls", strategyCallsJson w),
      ("after", .arr after),
      ("registry", .arr ((w.registry.records settings.identity.app).map RingInstance.toJson))]
  .ok ((run.run { registry := reg, faults, cloud }).1)

end Scenario

end RingIdentity
