/-!
Path names of files and directories, as text with `/` between the parts.

A path is read as a list of parts: a leading `/` is the root; empty parts and `.` parts are
dropped, except a `.` that begins a relative path; `..` steps up; every other part is a name.
Paths are ordered by their parts (the root first, then `.`, then `..`, then names in byte order),
a path that is a proper prefix of another coming first. The file name of a path is its last
part when that is a name.
-/
namespace RingIdentity

/-- A part of a path. -/
inductive PathPart where
  /-- The root, for an absolute path. -/
  | root
  /-- `.` at the start of a relative path. -/
  | here
  /-- `..`. -/
  | up
  /-- A named file or directory. -/
  | name (text : String)
  deriving DecidableEq, Repr, Inhabited

namespace PathPart

/-- The rank of a part's kind in the order of parts. -/
def rank : PathPart → Nat
  | .root => 0
  | .here => 1
  | .up => 2
  | .name _ => 3

/-- The order of two parts: by kind, and names in byte order. -/
def compare (a b : PathPart) : Ordering :=
  match a, b with
  | .name x, .name y => Ord.compare x y
  | a, b => Ord.compare a.rank b.rank

end PathPart

namespace PathName

/-- The parts of the segments after the first, where `.` and empty segments drop out. -/
def laterParts (segments : List String) : List PathPart :=
  segments.filterMap fun s =>
    if s = "" ∨ s = "." then none else if s = ".." then some .up else some (.name s)

/-- The parts of a path. -/
def parts (p : String) : List PathPart :=
  match p.splitOn "/" with
  | [] => []
  | first :: rest =>
    if p.startsWith "/" then .root :: laterParts rest
    else if first = "." then .here :: laterParts rest
    else laterParts (first :: rest)

/-- Lexicographic order of part lists, a proper prefix first. -/
def compareParts : List PathPart → List PathPart → Ordering
  | [], [] => .eq
  | [], _ :: _ => .lt
  | _ :: _, [] => .gt
  | a :: as, b :: bs =>
    match a.compare b with
    | .eq => compareParts as bs
    | other => other

/-- The order of two paths, part by part. -/
def compare (a b : String) : Ordering := compareParts (parts a) (parts b)

/-- The file name of a path: its last part, when that is a name. -/
def fileName? (p : String) : Option String :=
  match (parts p).getLast? with
  | some (.name n) => some n
  | _ => none

/-- A path joined to a base: an absolute path stands alone; otherwise it follows the base and
a `/`, which is not doubled. -/
def join (base p : String) : String :=
  if p.startsWith "/" then p
  else if base.isEmpty ∨ base.endsWith "/" then base ++ p
  else base ++ "/" ++ p

/-- The text of parts, with `/` between them and after the root. -/
def render (ps : List PathPart) : String :=
  let text : PathPart → String
    | .root => ""
    | .here => "."
    | .up => ".."
    | .name n => n
  match ps with
  | .root :: rest => "/" ++ "/".intercalate (rest.map text)
  | ps => "/".intercalate (ps.map text)

/-- The path with its parts written plainly: `.` and empty parts dropped. -/
def normalize (p : String) : String := render (parts p)

end PathName

end RingIdentity
