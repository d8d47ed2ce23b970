import RingIdentity.Decode.Section
/-!
Verbosity levels and event levels.

An event is logged at one of five levels, from `error` (the most severe) to `trace`. A verbosity
is the threshold a log keeps: `off` keeps nothing, `trace` keeps everything, and in between a
verbosity keeps the events at its own level and the more severe ones. Verbosities are named by
slug (`WARNING`, `warn` and `w-a-r-n` are one), with the spellings `off`, `no`, `none`,
`silent`; `error`, `err`; `warn`, `warning`; `info`; `debug`; `trace`, `all`. A boolean is a
verbosity too: `true` keeps everything and `false` nothing, so that a bare `off` read as a
boolean by a document format still means `off`.
-/
namespace RingIdentity

/-- The level of a logged event, most severe first. -/
inductive Level where
  | error
  | warn
  | info
  | debug
  | trace
  deriving DecidableEq, Repr, Inhabited

namespace Level

/-- The rank of a level: the more verbose, the higher. -/
def rank : Level → Nat
  | .error => 1
  | .warn => 2
  | .info => 3
  | .debug => 4
  | .trace => 5

/-- The name of a level in capitals, as a log line shows it. -/
def label : Level → String
  | .error => "ERROR"
  | .warn => "WARN"
  | .info => "INFO"
  | .debug => "DEBUG"
  | .trace => "TRACE"

end Level

/-- A threshold of logging, from keeping nothing to keeping everything. -/
inductive Verbosity where
  | off
  | error
  | warn
  | info
  | debug
  | trace
  deriving DecidableEq, Repr, Inhabited

namespace Verbosity

/-- The rank of a verbosity: `off` is 0 and each level keeps the events of rank at most its own. -/
def rank : Verbosity → Nat
  | .off => 0
  | .error => 1
  | .warn => 2
  | .info => 3
  | .debug => 4
  | .trace => 5

/-- Whether a verbosity keeps events of a level. -/
def keeps (v : Verbosity) (l : Level) : Bool := l.rank ≤ v.rank

/-- The name of a verbosity. -/
def name : Verbosity → String
  | .off => "off"
  | .error => "error"
  | .warn => "warn"
  | .info => "info"
  | .debug => "debug"
  | .trace => "trace"

/-- The spellings of each verbosity, in the order they are tried. -/
def spellings : List (Verbosity × List String) :=
  [(.off, ["off", "no", "none", "silent"]), (.error, ["error", "err"]),
    (.warn, ["warn", "warning"]), (.info, ["info"]), (.debug, ["debug"]),
    (.trace, ["trace", "all"])]

/-- The verbosity a name stands for, by slug. -/
def ofName? (s : String) : Option Verbosity :=
  (spellings.find? fun (_, names) => names.any (Slug.same s)).map (·.1)

/-- The verbosity of a boolean: `true` keeps everything and `false` nothing. -/
def ofBool (b : Bool) : Verbosity := if b then .trace else .off

/-- What a verbosity is read from. -/
def expecting : String := "a verbosity level such as `info` or `debug`"

/-- Reads a verbosity: a name or a boolean. -/
def read (n : Node) : Except DecodeError Verbosity :=
  match n with
  | .leaf _ (.str s) =>
    match ofName? s with
    | some v => .ok v
    | none => .error (.refused ("unknown verbosity level `" ++ s ++ "`"))
  | .leaf _ (.bool b) => .ok (ofBool b)
  | n => .error (.mismatch n.found expecting)

end Verbosity

end RingIdentity
