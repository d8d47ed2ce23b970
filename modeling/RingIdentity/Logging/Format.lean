import RingIdentity.Logging.Settings
import RingIdentity.Logging.Event
/-!
Writing events as log lines, and which events a log keeps.

A log keeps an event when the verbosity that applies to its target keeps the event's level: the
verbosity of the longest configured target that is a prefix of the event's target, else the
general one.

A `full` or `compact` line is the timestamp (when shown), the level right-aligned in five
columns, the target and a colon (when shown), the message and the fields as `name=value`, all
separated by single blanks. A `pretty` event starts with two blanks, the timestamp and the level,
then the target and a colon, the message and the fields as `name: value` after commas, and is
followed by a blank line. Colored lines dim the timestamp and the target, color the level (trace
purple, debug blue, info green, warn yellow, error red) and set field names in italics; a pretty
event is all in its level's color, with the target and field names in bold. Timestamps are
written `<time>`. A value spanning several lines spans several lines of the log.

The message and the field values cannot drive the terminal: the escape, bell, backspace, form
feed and delete characters are written as `\x1b`, `\x07`, `\x08`, `\x0c` and `\x7f`, and the C1
control characters (`U+0080` to `U+009F`) as `\u{hex}`; every other character, other controls
included, is written as it is.
-/
namespace RingIdentity

namespace Level

/-- The color code of a level. -/
def color : Level → String
  | .trace => "35"
  | .debug => "34"
  | .info => "32"
  | .warn => "33"
  | .error => "31"

/-- The level right-aligned in five columns. -/
def padded (l : Level) : String :=
  String.ofList (List.replicate (5 - l.label.length) ' ') ++ l.label

end Level

namespace Text

/-- One character of logged text, with the characters that start terminal control sequences
written as escapes. -/
def terminalSafeChar (c : Char) : List Char :=
  let n := c.toNat
  if n = 0x1b ∨ n = 0x07 ∨ n = 0x08 ∨ n = 0x0c ∨ n = 0x7f then
    ['\\', 'x'] ++ (if n < 16 then ['0'] else []) ++ hexDigits n
  else if 0x80 ≤ n ∧ n ≤ 0x9f then ['\\', 'u', '\x7b'] ++ hexDigits n ++ ['\x7d']
  else [c]

/-- Logged text, with the characters that start terminal control sequences written as
escapes. -/
def terminalSafe (s : String) : String :=
  String.ofList (s.toList.flatMap terminalSafeChar)

end Text

namespace LogSettings

/-- The verbosity that applies to a target. -/
def verbosityFor (s : LogSettings) (t : String) : Verbosity :=
  let matching := s.targets.filter fun (p, _) => p.isPrefixOf t
  let best := matching.foldl (fun (acc : Option (String × Verbosity)) (p, v) =>
    match acc with
    | some (q, w) => if p.length ≥ q.length then some (p, v) else some (q, w)
    | none => some (p, v)) none
  match best with
  | some (_, v) => v
  | none => s.verbosity

/-- Whether the log keeps an event. -/
def keeps (s : LogSettings) (e : Event) : Bool := (s.verbosityFor e.target).keeps e.level

/-- The escape sequence of a style. -/
def esc (code : String) : String := "\x1b[" ++ code ++ "m"

/-- The text of an event on one line, before splitting at line breaks, in the `full` and
`compact` flavors. -/
def lineText (s : LogSettings) (e : Event) : String :=
  let ansi := s.color
  let time := if s.showTimestamp then
      (if ansi then esc "2" ++ "<time>" ++ esc "0" else "<time>") ++ " " else ""
  let level := if ansi then esc e.level.color ++ e.level.padded ++ esc "0" else e.level.padded
  let target := if s.showTarget then
      (if ansi then esc "2" ++ e.target ++ esc "0" ++ esc "2" ++ ":" ++ esc "0" else e.target ++ ":") ++ " "
    else ""
  let fields := e.fields.foldl (fun acc (k, v) =>
    acc ++ " " ++ (if ansi then esc "3" ++ k ++ esc "0" ++ esc "2" ++ "=" ++ esc "0" else k ++ "=") ++
      Text.terminalSafe v) ""
  time ++ level ++ " " ++ target ++ Text.terminalSafe e.message ++ fields

/-- The text of an event in the `pretty` flavor, before splitting at line breaks, blank line
included. -/
def prettyText (s : LogSettings) (e : Event) : String :=
  let ansi := s.color
  let style := if ansi then esc e.level.color else ""
  let bold := if ansi then esc ("1;" ++ e.level.color) else ""
  let reset := if ansi then esc "0" else ""
  let time := if s.showTimestamp then
      (if ansi then esc "2" ++ "<time>" ++ esc "0" else "<time>") ++ " " else ""
  let level := if ansi then esc e.level.color ++ e.level.padded ++ esc "0" else e.level.padded
  let target := if s.showTarget then bold ++ e.target ++ reset ++ style ++ ": " else ""
  let fields := e.fields.foldl (fun acc (k, v) =>
    acc ++ ", " ++ bold ++ k ++ reset ++ style ++ ": " ++ Text.terminalSafe v) ""
  "  " ++ time ++ level ++ " " ++ target ++ style ++ Text.terminalSafe e.message ++ fields ++ reset ++
    "\n"

/-- The lines an event is written as. -/
def render (s : LogSettings) (e : Event) : List String :=
  let text := match s.flavor with
    | .pretty => prettyText s e
    | _ => lineText s e
  text.splitOn "\n"

end LogSettings

/-- A log: the settings of the installed writer, if one is installed, and the lines written. -/
structure Journal where
  writer : Option LogSettings := none
  /-- The lines written, latest first. -/
  written : List String := []
  deriving DecidableEq, Repr, Inhabited

namespace Journal

/-- Writes an event, if a writer is installed and keeps it. -/
def emit (j : Journal) (e : Event) : Journal :=
  match j.writer with
  | some s => if s.keeps e then { j with written := (s.render e).reverse ++ j.written } else j
  | none => j

/-- The lines written, in order. -/
def lines (j : Journal) : List String := j.written.reverse

end Journal

end RingIdentity
