import RingIdentity.Sources.Profile
import RingIdentity.Sources.PathName
/-!
Configuration files, recognized by name.

A file `name.ext` applies to every profile, and `name.profile.ext` only to the profile it names;
the extension `toml` marks TOML and `yaml` or `yml` YAML, in any ASCII case. A file inside a
profile's directory belongs to that profile, and a different profile in its own name rejects
it. Profile names are lower-cased in ASCII.

Files are ordered for precedence, later ones overriding earlier ones: files for every profile
first, then profile files by profile name, each group by path.
-/
namespace RingIdentity

/-- The formats of configuration files. -/
inductive ConfigFormat where
  | toml
  | yaml
  deriving DecidableEq, Repr, Inhabited

namespace ConfigFormat

/-- The format an extension marks, in any ASCII case. -/
def ofExtension? (ext : String) : Option ConfigFormat :=
  let e := Text.lowerAscii ext
  if e = "toml" then some .toml
  else if e = "yaml" ∨ e = "yml" then some .yaml
  else none

/-- The name of a format. -/
def name : ConfigFormat → String
  | .toml => "toml"
  | .yaml => "yaml"

end ConfigFormat

/-- A recognized configuration file. -/
structure ConfigFile where
  path : String
  format : ConfigFormat
  /-- The profile the file is for; none for a file of every profile. -/
  profile : Option String
  deriving DecidableEq, Repr, Inhabited

namespace ConfigFile

/-- The profile a file's name carries, and its extension, when the name has the shape
`stem.ext` or `stem.profile.ext` with a non-empty stem. -/
def nameShape? (fileName : String) : Option (Option String × String) :=
  match fileName.splitOn "." with
  | [stem, ext] => if stem.isEmpty then none else some (none, ext)
  | [stem, profile, ext] => if stem.isEmpty then none else some (some profile, ext)
  | _ => none

/-- Recognizes the file at a path, inside the directory of a profile when one is given. -/
def recognize (path : String) (dirProfile : Option String) : Option ConfigFile := do
  let fileName ← PathName.fileName? path
  let (named, ext) ← nameShape? fileName
  let format ← ConfigFormat.ofExtension? ext
  let profile ← match dirProfile, named with
    | some dir, some n => if Text.sameAsciiCase dir n then some (some (Text.lowerAscii dir)) else none
    | some dir, none => some (some (Text.lowerAscii dir))
    | none, n => some (n.map Text.lowerAscii)
  return { path, format, profile }

/-- Whether the file applies to every profile. -/
def isGeneric (f : ConfigFile) : Bool := f.profile.isNone

/-- Whether the file applies to a profile. -/
def appliesTo (f : ConfigFile) (p : Profile) : Bool :=
  match f.profile with
  | none => true
  | some name => p.named name

/-- The order of optional profile names: none first, then names in byte order. -/
def compareProfiles : Option String → Option String → Ordering
  | none, none => .eq
  | none, some _ => .lt
  | some _, none => .gt
  | some a, some b => Ord.compare a b

/-- The precedence order of files: generic files first, then by profile, then by path. -/
def compare (a b : ConfigFile) : Ordering :=
  (Ord.compare b.isGeneric a.isGeneric).then
    ((compareProfiles a.profile b.profile).then (PathName.compare a.path b.path))

/-- Files sorted for precedence; files that compare equal keep their order. -/
def sort (fs : List ConfigFile) : List ConfigFile :=
  fs.mergeSort fun a b => compare a b != .gt

end ConfigFile

end RingIdentity
