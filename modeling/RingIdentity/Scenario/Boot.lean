import RingIdentity.Scenario.Runs
import RingIdentity.Scenario.Config
import RingIdentity.App.Boot
/-!
The boot scenario: the sidecar process started in a working directory of files and an
environment, then the after-steps against the launched sidecar, with everything the process
logged.
-/
namespace RingIdentity

namespace Scenario

/-- The logging of the world. -/
def worldConsole : Console Sim := { install := World.install, log := World.log }

/-- The choices a boot request makes. -/
def bootChoices (req : Json) : BootChoices :=
  { configDir := textD req "config_dir" "config",
    envEnabled := boolD req "env_enabled" true,
    envPrefix := textD req "env_prefix" "APP",
    envSeparator := textD req "env_separator" "__",
    loadDotEnv := !boolD req "skip_dotenv" false,
    installLogging := !boolD req "skip_tracing" false }

/-- The reply form of a booted sidecar: its identity, its settings and the rack count. -/
def bootedJson (sc : Sidecar Sim) : Json :=
  (identityJson sc.identity).withMembers
    [("config", sc.settings.toJson), ("rac_count", Json.nat sc.settings.membership.racs.length)]

/-- `boot`: the process started, the after-steps run, and the log lines written. The sidecar
is shown as the boot left it, before the after-steps. A process that fails to start exits with
status 1, one that stops while loading its settings with status 101. -/
def boot (req : Json) : Reply Json := do
  let host : Host := { disk := { files := pairs req "files" }, env := pairs req "env" }
  let preinstalled ← embedded? (LogSettings.read .json) req "preinstall_tracing"
  let (reg, faults) ← match req.field? "registry" with
    | some spec => registrySpec spec
    | none => .ok (Registry.empty, {})
  let cloud := match req.field? "cloud" with
    | some c => cloudSpec c
    | none => {}
  let instanceInfo ← embedded? (InstanceInfo.read .json) req "instance_info"
  let mintInfo ← embedded? (InstanceInfo.read .json) req "mint_info"
  let dead ← scriptSpec req "dead"
  let pre ← scriptSpec req "pre_generated"
  let new ← scriptSpec req "new"
  let collab := collaborators req instanceInfo dead pre new (textD req "mint_app" "cass_cluster")
    ((mintInfo <|> instanceInfo).getD (InstanceInfo.make "" "" ""))
  let run : Sim Json := do
    let r ← Sidecar.boot worldConsole host (bootChoices req) collab
    let result ← match r with
      | .error _ => pure Json.null
      | .ok sc => do
        let stage : Stage :=
          { members := .cloud sc.membership, identity := some sc.identity, settings := some sc.settings }
        let shown := bootedJson sc
        let (after, _) ← afterSteps (fun j _ => j) stage (items req "after")
        pure (.obj [("sidecar", shown), ("strategy_calls", strategyCallsJson (← get)),
          ("after", .arr after)])
    let w ← get
    let code := match r with
      | .ok _ => 0
      | .error e => if e.halts then 101 else 1
    return .obj [("exit_code", Json.nat code),
      ("result", result), ("logs", Json.strs w.journal.lines)]
  .ok ((run.run { registry := reg, faults, cloud, journal := { writer := preinstalled } }).1)

end Scenario

end RingIdentity
