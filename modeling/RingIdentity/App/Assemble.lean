import RingIdentity.App.Settings
import RingIdentity.App.Error
import RingIdentity.Sources.Layer
import RingIdentity.Sources.Toml.Document
import RingIdentity.Sources.Yaml.Document
import RingIdentity.Sources.Disk
/-!
Assembling the application settings from layered sources: configuration files in precedence
order, then the environment, then explicit overrides. A source that cannot be read fails the
assembly; a merged tree that does not fit the settings fails the reading, at the key where it
does not fit.

A file's keys are taken as written, and each of its values remembers the file. The environment
contributes the variables whose lower-cased names start with the lower-cased prefix and `_`:
the rest of the name, with each separator turned into a dot, is the key path, and the value is
text that remembers `the environment`.
-/
namespace RingIdentity

/-- The source that environment variables come from, as messages name it. -/
def environmentOrigin : String := "the environment"

/-- The top-level entries of a configuration file, or why it does not read. -/
def fileEntries (format : ConfigFormat) (uri : String) (text : String) :
    Except SettingError (List (String × Node)) :=
  let entries : Except SettingError (List (String × Node)) := match format with
    | .toml => (Toml.read (some uri) text).mapError fun f =>
      SettingError.unparsable (some uri) (f.render text)
    | .yaml => (Yaml.read uri text).mapError fun m => SettingError.unparsable (some uri) m
  entries

/-- The entries environment variables contribute under a prefix and a separator. -/
def environmentEntries (vars : List (String × String)) (pre separator : String) :
    List (String × Node) :=
  let pattern := Text.lower (pre ++ "_")
  vars.filterMap fun (name, value) =>
    let key := Text.lower name
    if key.startsWith pattern then
      let rest := String.ofList (key.toList.drop pattern.length)
      let path := if separator.isEmpty then rest else rest.replace separator "."
      some (path, .leaf (some environmentOrigin) (.str value))
    else none

/-- The sources of configuration files found in a directory, in order, each named by its path
joined to `uriBase`. -/
def fileSources (disk : Disk) (found : List ConfigFile) (uriBase : String) :
    List (Except SettingError (List (String × Node))) :=
  found.map fun f => fileEntries f.format (PathName.join uriBase f.path)
    ((disk.read? (Disk.names f.path)).getD "")

namespace AppSettings

/-- Reads the settings from a merged tree. -/
def ofLayered (t : Layered) : Except AppConfigError AppSettings :=
  (read .settings t.root).mapError fun e => .parse e.toSetting

/-- Merges sources in order, then reads the settings; the first source that does not read
fails the assembly. -/
def assemble (sources : List (Except SettingError (List (String × Node)))) :
    Except AppConfigError AppSettings := do
  let t ← sources.foldlM (fun (t : Layered) s =>
    match s with
    | .ok entries => .ok (t.addSource entries)
    | .error e => .error (.build e)) {}
  ofLayered t

end AppSettings

end RingIdentity
