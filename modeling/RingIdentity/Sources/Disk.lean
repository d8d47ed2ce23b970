import RingIdentity.Sources.ConfigFile
/-!
A directory of files held in memory: every file by its path below the directory, with its text,
and directories that hold no file. A path names a directory when something lies below it, and a
file when a file is stored under exactly that path.

Configuration files are found in a directory and in its immediate subdirectories, whose names
are profile names; deeper files are not looked at. Of those, the files that apply to the running
profile are kept, in precedence order.
-/
namespace RingIdentity

/-- Files and empty directories below one directory. -/
structure Disk where
  /-- Each file's path below the directory, with its text. -/
  files : List (String × String)
  /-- Directories that are there even when no file lies below them. -/
  dirs : List String := []
  deriving Repr, Inhabited

namespace Disk

/-- The names along a relative path. -/
def names (p : String) : List String :=
  (PathName.parts p).filterMap fun
    | .name n => some n
    | _ => none

/-- The name paths of everything stored: files and directories. -/
def stored (d : Disk) : List (List String) := d.files.map (names ·.1) ++ d.dirs.map names

/-- Whether a path names a directory: something lies strictly below it. -/
def isDir (d : Disk) (spot : List String) : Bool :=
  d.dirs.any (names · == spot) || d.stored.any fun p => spot.length < p.length && p.take spot.length == spot

/-- The text of the file at a path. -/
def read? (d : Disk) (spot : List String) : Option String :=
  if d.isDir spot then none else (d.files.find? (names ·.1 == spot)).map (·.2)

/-- Whether a path names a file. -/
def isFile (d : Disk) (spot : List String) : Bool := (d.read? spot).isSome

/-- The names directly inside a directory, in byte order. -/
def entries (d : Disk) (spot : List String) : List String :=
  let below := d.stored.filterMap fun p =>
    if spot.length < p.length && p.take spot.length == spot then p[spot.length]? else none
  (below.eraseDups).mergeSort fun a b => a ≤ b

/-- The configuration files directly inside a directory and its immediate subdirectories that
apply to a profile, in precedence order; `base` is the path the directory is shown as. -/
def configFiles (d : Disk) (dir : List String) (base : String) (p : Profile) : List ConfigFile :=
  let shown (ns : List String) : String := PathName.join base ("/".intercalate ns)
  let found := (d.entries dir).flatMap fun e =>
    let spot := dir ++ [e]
    if d.isDir spot then
      ((d.entries spot).filter fun f => d.isFile (spot ++ [f])).filterMap fun f =>
        ConfigFile.recognize (shown [e, f]) (some e)
    else (ConfigFile.recognize (shown [e]) none).toList
  ConfigFile.sort (found.filter (·.appliesTo p))

end Disk

end RingIdentity
