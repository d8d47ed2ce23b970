import RingIdentity.Logging.Level
import RingIdentity.Logging.Flavor
import RingIdentity.Json.Value
/-!
Log settings: the verbosity kept everywhere, the flavor of lines, whether lines are colored and
carry a timestamp, the event's target, its source location and its thread, and verbosities for
single targets.

A target's verbosity applies to every target it is a prefix of; the per-target table is kept
sorted by target, a target set twice keeping the later verbosity.

As a section, the settings are a map with the fields `verbosity` (alias `level`), `flavor`
(`flavour`, `format`), `color` (`colour`, `with_color`, `ansi`), `show_timestamp`
(`with_timestamp`, `timestamp`), `show_target` (`with_target`), `show_location`
(`with_location`, `show_file`, `show_line_number`), `show_thread_id` (`with_thread_id`) and
`targets` (`target_verbosity`), a map from target to verbosity. By default the verbosity is
`info`, the flavor `full`, lines are colored with timestamp and target, and no target has a
verbosity of its own.
-/
namespace RingIdentity

/-- Per-target verbosities, sorted by target, each target once. -/
abbrev TargetTable := List (String × Verbosity)

namespace TargetTable

/-- Sets the verbosity of a target, keeping the table sorted. -/
def set (t : String) (v : Verbosity) : TargetTable → TargetTable
  | [] => [(t, v)]
  | (u, w) :: rest =>
    if t = u then (t, v) :: rest
    else if t < u then (t, v) :: (u, w) :: rest
    else (u, w) :: set t v rest

/-- What a target table is read from. -/
def expecting : String := "a map"

/-- Reads a table: a map from target to verbosity, read in order. -/
def read (d : Dialect) (n : Node) : Except DecodeError TargetTable := do
  let m ← n.readMap expecting
  let table ← m.entries.foldlM (fun (table : TargetTable) (t, v) => do
    let level ← d.under (.key t) (Verbosity.read v)
    .ok (table.set t level)) []
  m.finish
  pure table

end TargetTable

/-- How the log is written. -/
structure LogSettings where
  verbosity : Verbosity := .info
  flavor : Flavor := .full
  color : Bool := true
  showTimestamp : Bool := true
  showTarget : Bool := true
  showLocation : Bool := false
  showThreadId : Bool := false
  targets : TargetTable := []
  deriving DecidableEq, Repr, Inhabited

namespace LogSettings

/-- The default settings. -/
def default : LogSettings := {}

/-- The settings with another verbosity. -/
def withVerbosity (s : LogSettings) (v : Verbosity) : LogSettings := { s with verbosity := v }

/-- The settings with a verbosity for one target. -/
def withTarget (s : LogSettings) (t : String) (v : Verbosity) : LogSettings :=
  { s with targets := s.targets.set t v }

/-- The JSON form of the settings. -/
def toJson (s : LogSettings) : Json :=
  .obj [("verbosity", .str s.verbosity.name), ("flavor", .str s.flavor.name),
    ("color", .bool s.color), ("show_timestamp", .bool s.showTimestamp),
    ("show_target", .bool s.showTarget), ("show_location", .bool s.showLocation),
    ("show_thread_id", .bool s.showThreadId),
    ("targets", .arr (s.targets.map fun (t, v) => .arr [.str t, .str v.name]))]

/-- The fields of the log section. -/
inductive Field where
  | verbosity | flavor | color | showTimestamp | showTarget | showLocation | showThreadId
  | targets
  deriving DecidableEq, Repr

instance : BEq Field := ⟨fun a b => decide (a = b)⟩

/-- The layout of the log section. -/
def layout : Layout Field where
  fields := [.verbosity, .flavor, .color, .showTimestamp, .showTarget, .showLocation,
    .showThreadId, .targets]
  names
    | .verbosity => ["verbosity", "level"]
    | .flavor => ["flavor", "flavour", "format"]
    | .color => ["color", "colour", "with_color", "ansi"]
    | .showTimestamp => ["show_timestamp", "with_timestamp", "timestamp"]
    | .showTarget => ["show_target", "with_target"]
    | .showLocation => ["show_location", "with_location", "show_file", "show_line_number"]
    | .showThreadId => ["show_thread_id", "with_thread_id"]
    | .targets => ["targets", "target_verbosity"]

/-- A value of a log field. -/
inductive Value where
  | level (v : Verbosity)
  | flavor (f : Flavor)
  | flag (b : Bool)
  | table (t : TargetTable)

/-- Reads the value of one field. -/
def readField (d : Dialect) : Field → String → Node → Except DecodeError Value
  | .verbosity, key, n => Value.level <$> d.under (.key key) (Verbosity.read n)
  | .flavor, key, n => Value.flavor <$> d.under (.key key) (Flavor.read d n)
  | .targets, key, n => Value.table <$> d.under (.key key) (TargetTable.read d n)
  | _, key, n => Value.flag <$> d.under (.key key) (n.readBool d)

/-- What the log section is read from. -/
def expecting : String := "a map of tracing (logging) configuration"

/-- The flag given for a field, or its default. -/
def flagOf (met : List (Field × Value)) (f : Field) (dflt : Bool) : Bool :=
  match met.find? (·.1 == f) with
  | some (_, .flag b) => b
  | _ => dflt

/-- Reads the log section. -/
def read (d : Dialect) (n : Node) : Except DecodeError LogSettings := do
  let met ← layout.collect (readField d) (← n.readMap expecting)
  let verbosity := match met.find? (·.1 == .verbosity) with
    | some (_, .level v) => v
    | _ => .info
  let flavor := match met.find? (·.1 == .flavor) with
    | some (_, .flavor f) => f
    | _ => .full
  let targets := match met.find? (·.1 == .targets) with
    | some (_, .table t) => t
    | _ => []
  .ok { verbosity, flavor, targets,
        color := flagOf met .color true,
        showTimestamp := flagOf met .showTimestamp true,
        showTarget := flagOf met .showTarget true,
        showLocation := flagOf met .showLocation false,
        showThreadId := flagOf met .showThreadId false }

end LogSettings

end RingIdentity
