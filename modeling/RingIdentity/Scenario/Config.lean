import RingIdentity.Scenario.Request
import RingIdentity.Sources.Disk
import RingIdentity.App.Assemble
/-!
Scenarios over configuration sources: profiles, file names, the precedence of files and the
files found in a directory.
-/
namespace RingIdentity

namespace Scenario

/-- `profile`: a profile's name and whether it bears other names. -/
def profile (req : Json) : Reply Json := do
  let p := Profile.ofName (← needText req "name")
  .ok (.obj [("name", .str p.name), ("is", .arr ((texts req "checks").map fun n => .bool (p.named n)))])

/-- The directory that configuration files are named in. -/
def configHome : String := "/etc/ringside"

/-- `config_file`: a file name recognized in the configuration directory, and the profiles it
applies to. -/
def configFile (req : Json) : Reply Json := do
  let path := PathName.join configHome (← needText req "name")
  match ConfigFile.recognize path (text? req "dir_profile") with
  | none => .ok .null
  | some f =>
    .ok (.obj [("path", .str f.path), ("format", .str f.format.name),
      ("profile", Json.optStr f.profile), ("is_generic", .bool f.isGeneric),
      ("applies", .arr ((texts req "profiles").map fun p => .bool (f.appliesTo (Profile.ofName p))))])

/-- A list of files as `[path, profile]` pairs. -/
def filesJson (fs : List ConfigFile) : Json :=
  .arr (fs.map fun f => .arr [.str f.path, Json.optStr f.profile])

/-- `config_sort`: recognized files in precedence order. -/
def configSort (req : Json) : Reply Json :=
  .ok (filesJson (ConfigFile.sort ((items req "files").filterMap fun f =>
    ConfigFile.recognize (textD f "path" "") (text? f "dir_profile"))))

/-- `scanner`: the configuration files of a directory that apply to a profile. -/
def scanner (req : Json) : Reply Json := do
  let disk : Disk := { files := (texts req "files").map (·, ""), dirs := texts req "dirs" }
  .ok (filesJson (disk.configFiles [] "" (Profile.ofName (← needText req "profile"))))

/-- The reply form of loaded settings: the settings, or the error object. -/
def loadedJson (r : Except AppConfigError AppSettings) : Json :=
  match r with
  | .ok s => s.toJson
  | .error e => e.toJson

/-- Loaded settings, unless loading stopped the program. -/
def loaded (r : Except AppConfigError AppSettings) : Reply (Except AppConfigError AppSettings) :=
  match r with
  | .error e => if e.halts then .error halted else .ok r
  | .ok _ => .ok r

/-- The least and one past the greatest integer an override keeps as an integer. -/
def overrideIntLow : Int := -Int.pow 2 63

/-- One past the greatest integer an override keeps as an integer. -/
def overrideIntHigh : Int := Int.pow 2 63

mutual
/-- An override value as a settings node: strings, booleans, numbers and arrays of them;
integers beyond 64 signed bits become floating point numbers. Anything else is refused with its
JSON text. -/
def overrideNode : Json → Except String Node
  | .bool b => .ok (.leaf none (.bool b))
  | .int i =>
    if overrideIntLow ≤ i ∧ i < overrideIntHigh then .ok (.leaf none (.int i))
    else .ok (.leaf none (.float (Binary64.ofInt i)))
  | .float x => .ok (.leaf none (.float x))
  | .str s => .ok (.leaf none (.str s))
  | .arr items => (.seq none) <$> overrideNodes items
  | other => .error other.render

/-- Override values of an array. -/
def overrideNodes : List Json → Except String (List Node)
  | [] => .ok []
  | j :: rest => do
    let n ← overrideNode j
    let ns ← overrideNodes rest
    .ok (n :: ns)
end

/-- Sets overrides in turn, each value read before its key; the first key that is not a key
path stops the settings with its report. -/
def applyOverrides (t : Layered) : List Json → Reply (Except KeyPath.Error Layered)
  | [] => .ok (.ok t)
  | .arr [.str k, v] :: rest =>
    match overrideNode v with
    | .error text => .error (malformed ("unsupported override value " ++ text))
    | .ok n =>
      match t.override k n with
      | .ok t => applyOverrides t rest
      | .error e => .ok (.error e)
  | _ :: rest => applyOverrides t rest

/-- `app_config_overrides`: settings assembled from explicit overrides alone. -/
def appConfigOverrides (req : Json) : Reply Json := do
  match ← applyOverrides {} (items req "overrides") with
  | .ok t => loadedJson <$> loaded (AppSettings.ofLayered t)
  | .error e => .ok (failure "ConfigError" e.message)

/-- Name/value pairs listed as two-element arrays. -/
def pairs (req : Json) (key : String) : List (String × String) :=
  (items req key).filterMap fun p =>
    match p with
    | .arr [.str a, .str b] => some (a, b)
    | _ => none

/-- `assemble`: settings assembled from the configuration files of a directory for the `prod`
profile, then the environment. -/
def assemble (req : Json) : Reply Json := do
  let disk : Disk := { files := pairs req "files" }
  let env := pairs req "env"
  let found := disk.configFiles [] "" (Profile.ofName "prod")
  let envSource := if boolD req "env_enabled" !env.isEmpty then
      [.ok (environmentEntries env (textD req "env_prefix" "RSORACLE") (textD req "env_separator" "__"))]
    else []
  let r ← loaded (AppSettings.assemble (fileSources disk found "<dir>" ++ envSource))
  .ok (.obj [("files", filesJson found), ("config", loadedJson r)])

end Scenario

end RingIdentity
