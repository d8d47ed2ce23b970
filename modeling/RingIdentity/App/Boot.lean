import RingIdentity.App.Launch
import RingIdentity.App.Assemble
import RingIdentity.Sources.DotEnv
/-!
Booting the sidecar process: from the working directory and the environment to a launched
sidecar, with its logging installed.

Booting first loads `.env.local`, then `.env`, from the working directory into the environment,
never replacing a variable already set. The running profile is `APP_PROFILE` (blank is `dev`).
The configuration directory is `APP_CONFIG_DIR` when that is not blank, else the chosen
directory when not blank, else `config`, taken relative to the working directory. The settings
are assembled from the directory's files for the profile and, when enabled, the environment
variables under the chosen prefix.

A configuration that does not load installs the default logging and fails the boot, unless
loading it stopped the process, which then logs nothing more. Otherwise
the configured logging is installed (a writer installed before is kept, with a warning), the
start is announced with the profile and the instance, and the sidecar is launched. A failed boot
is logged as such.
-/
namespace RingIdentity

/-- The logging of a process: one writer may be installed; events go to it. -/
structure Console (m : Type → Type) where
  /-- Installs a writer; false when one was installed before, which then stays. -/
  install : LogSettings → m Bool
  /-- Writes an event. -/
  log : Logger m

/-- How a boot finds its configuration and wires the process. -/
structure BootChoices where
  configDir : String := "config"
  envEnabled : Bool := true
  envPrefix : String := "APP"
  envSeparator : String := "__"
  /-- Whether environment files are loaded. -/
  loadDotEnv : Bool := true
  /-- Whether the configured logging is installed. -/
  installLogging : Bool := true
  deriving Repr, Inhabited

/-- What a process boots in: its working directory and its environment. -/
structure Host where
  disk : Disk
  env : DotEnv.Environment
  deriving Repr, Inhabited

namespace Host

/-- The environment files, the first winning. -/
def dotEnvFiles : List String := [".env.local", ".env"]

/-- The environment with the environment files of the working directory loaded. -/
def preparedEnvironment (h : Host) : DotEnv.Environment :=
  dotEnvFiles.foldl (fun env f =>
    match h.disk.read? [f] with
    | some text => DotEnv.load env text
    | none => env) h.env

end Host

namespace BootChoices

/-- The running profile of an environment. -/
def profileOf (env : DotEnv.Environment) : Profile :=
  Profile.ofName ((DotEnv.lookup env "APP_PROFILE").getD "")

/-- The configuration directory below the working directory, by its names; none for an
absolute directory, which lies outside it. -/
def configDirIn (c : BootChoices) (env : DotEnv.Environment) : Option (List String) :=
  let fromEnv := (DotEnv.lookup env "APP_CONFIG_DIR").filter fun v => !Text.isBlankText v
  let chosen := Text.trim c.configDir
  let path := fromEnv.getD (if chosen.isEmpty then "config" else chosen)
  if path.startsWith "/" then none else some (Disk.names path)

/-- The configuration sources of a boot, in order. -/
def sources (c : BootChoices) (h : Host) (env : DotEnv.Environment) :
    List (Except SettingError (List (String × Node))) :=
  let files := match c.configDirIn env with
    | some dir => h.disk.configFiles dir ("/".intercalate dir) (profileOf env)
    | none => []
  fileSources h.disk files "" ++
    (if c.envEnabled then [.ok (environmentEntries env c.envPrefix c.envSeparator)] else [])

end BootChoices

namespace Sidecar

variable {m : Type → Type} [Monad m]

/-- The target of start-up events. -/
def preflightTarget : String := "ringside::launchpad::wiring::preflight"

/-- Why a writer could not be installed over another. -/
def alreadyInstalled : String := "a global default trace dispatcher has already been set"

/-- Logs a failed boot and gives its error. -/
def failBoot (console : Console m) (e : LaunchError) : m (Except LaunchError (Sidecar m)) := do
  console.log { level := .error, target, message := "Failed to start the sidecar",
                fields := [Event.shown "error" e.message] }
  return .error e

/-- Boots the sidecar in a host. -/
def boot (console : Console m) (h : Host) (choices : BootChoices) (c : Collaborators m) :
    m (Except LaunchError (Sidecar m)) := do
  let env := if choices.loadDotEnv then h.preparedEnvironment else h.env
  match AppSettings.assemble (choices.sources h env) with
  | .error e =>
    if e.halts then return .error (.config e)
    let _ ← console.install LogSettings.default
    failBoot console (.config e)
  | .ok s =>
    if choices.installLogging then
      if !(← console.install s.log) then
        console.log { level := .warn, target := preflightTarget,
                      message := "Kept the already installed tracing subscriber",
                      fields := [Event.shown "error" alreadyInstalled] }
    let place := match s.instanceInfo with
      | some i => [Event.text "instance_id" i.instanceId, Event.text "rac" i.rac]
      | none => []
    console.log { level := .info, target := preflightTarget, message := "Starting " ++ s.name,
                  fields := Event.text "profile" (BootChoices.profileOf env).name :: place }
    match ← launch console.log c s with
    | .error e => failBoot console e
    | .ok sc => return .ok sc

end Sidecar

end RingIdentity
