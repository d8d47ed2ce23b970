import RingIdentity.Decode.Node
import RingIdentity.Number.Spelling
import RingIdentity.Text.Quoted
/-!
Why reading a section failed, and how the two kinds of document word it.

A `DecodeError` records the cause: a node of the wrong kind, an integer out of range, a missing
or repeated field, a refusal in the section's own words, a scalar that would not convert to the
kind a setting needs, or any of these under a key or index of the layered tree.

A JSON document words an error as one sentence (`invalid type: null, expected a string`). The
layered settings keep a structured `SettingError` that names the key path and the source of the
value (`... for key `identity.app` in config/app.toml`); `DecodeError.toSetting` builds it by
prefixing the keys under which the error arose, innermost last.
-/
namespace RingIdentity

/-- Which kind of document a section is read from. -/
inductive Dialect where
  /-- A JSON document: a value answers only a request for its own kind. -/
  | json
  /-- Layered settings: a scalar converts to the kind requested where it can, and errors name
  the key path and the source. -/
  | settings
  deriving DecidableEq, Repr, Inhabited

/-- A step into a layered tree: a key of a map or a position of a sequence. -/
inductive PathStep where
  | key (name : String)
  | index (position : Nat)
  deriving DecidableEq, Repr, Inhabited

/-- Why a section could not be read. -/
inductive DecodeError where
  /-- A node of another kind than the reader asked for. -/
  | mismatch (found : Found) (expected : String)
  /-- An integer outside the range of the type asked for. -/
  | outOfRange (found : Found) (expected : String)
  /-- A record written as a sequence with too few items. -/
  | shortSequence (length : Nat) (expected : String)
  /-- A record written as a sequence with items left over. -/
  | trailingItems
  /-- A required field that no key named. -/
  | missingField (name : String)
  /-- A field that two keys named. -/
  | duplicateField (name : String)
  /-- A value the section refused, in its own words. -/
  | refused (message : String)
  /-- A setting whose value does not convert to the kind needed. -/
  | unconvertible (origin : Option String) (found : Found) (expected : String)
  /-- An error inside the value under a key or at an index. -/
  | within (step : PathStep) (inner : DecodeError)
  /-- A value whose reading stops the program, for the reason given. -/
  | halt (reason : String)
  deriving Inhabited, Repr

namespace Found

/-- A found value as a JSON reader describes it: `null`, ``integer `5` ``, floats in their
shortest spelling with an exponent past sixteen digits. -/
def jsonText : Found → String
  | .nil => "null"
  | .bool b => "boolean `" ++ toString b ++ "`"
  | .int i => "integer `" ++ toString i ++ "`"
  | .unsigned n => "integer `" ++ toString n ++ "`"
  | .float d => "floating point `" ++ Spelling.diagnostic.spell d ++ "`"
  | .str s => "string " ++ Text.quoted s
  | .unreadable f => f
  | .seq => "sequence"
  | .map => "map"

/-- A found setting as a section describes it: `unit value`, ``integer `5` ``, floats always
positional with a point. -/
def sectionText : Found → String
  | .nil => "unit value"
  | .bool b => "boolean `" ++ toString b ++ "`"
  | .int i => "integer `" ++ toString i ++ "`"
  | .unsigned n => "integer `" ++ toString n ++ "`"
  | .float d => "floating point `" ++ Spelling.pointed.spell d ++ "`"
  | .str s => "string " ++ Text.quoted s
  | .unreadable f => f
  | .seq => "sequence"
  | .map => "map"

/-- A found setting as a failed conversion describes it, naming the width of integers. -/
def settingText : Found → String
  | .nil => "unit value"
  | .bool b => "boolean `" ++ toString b ++ "`"
  | .int i =>
    if i < Int.pow 2 63 then "64-bit integer `" ++ toString i ++ "`"
    else "64-bit unsigned integer `" ++ toString i ++ "`"
  | .unsigned n => "64-bit unsigned integer `" ++ toString n ++ "`"
  | .float d => "floating point `" ++ Spelling.plain.spell d ++ "`"
  | .str s => "string " ++ Text.quoted s
  | .unreadable f => f
  | .seq => "sequence"
  | .map => "map"

end Found

/-- An error of the layered settings, as it is reported. -/
inductive SettingError where
  /-- A value that does not convert, with the key path and source when known. -/
  | badType (origin : Option String) (found : Found) (expected : String) (key : Option String)
  /-- Another error, placed at a key path. -/
  | located (message : String) (origin : Option String) (key : Option String)
  /-- A required field that is absent, by key path. -/
  | notFound (key : String)
  /-- An error with no place. -/
  | plain (text : String)
  /-- A source that could not be parsed. -/
  | unparsable (uri : Option String) (cause : String)
  /-- The settings could not be changed any more. -/
  | frozen
  /-- A value whose reading stops the program, for the reason given. -/
  | halt (reason : String)
  deriving Inhabited, Repr, DecidableEq

namespace PathStep

/-- The text of a step: the key, or the position in brackets. -/
def text : PathStep → String
  | .key name => name
  | .index i => "[" ++ toString i ++ "]"

/-- Prefixes a key path with a step: a dot stands before the rest of the path unless that is
empty or starts with a position. -/
def prefixPath (s : PathStep) (path : Option String) : String :=
  let rest := path.getD ""
  let dot := match rest.toList with
    | c :: _ => c != '['
    | [] => false
  s.text ++ (if dot then "." else "") ++ rest

end PathStep

namespace DecodeError

/-- The sentence of an error that has no key path, in a given dialect. -/
def sentence (d : Dialect) : DecodeError → String
  | .mismatch (.unreadable f) _ => f
  | .outOfRange (.unreadable f) _ => f
  | .mismatch f e =>
    "invalid type: " ++ (if d = .json then f.jsonText else f.sectionText) ++ ", expected " ++ e
  | .outOfRange f e =>
    "invalid value: " ++ (if d = .json then f.jsonText else f.sectionText) ++ ", expected " ++ e
  | .shortSequence n e => "invalid length " ++ toString n ++ ", expected " ++ e
  | .trailingItems => "trailing characters"
  | .missingField name => "missing field `" ++ name ++ "`"
  | .duplicateField name => "duplicate field `" ++ name ++ "`"
  | .refused m => m
  | .unconvertible _ f e => "invalid type: " ++ f.settingText ++ ", expected " ++ e
  | .within _ inner => sentence d inner
  | .halt r => r

/-- The message of an error read from a JSON document. -/
def message (e : DecodeError) : String := e.sentence .json

/-- Whether an error stops the program rather than being reported. -/
def halts : DecodeError → Bool
  | .halt _ => true
  | .within _ inner => halts inner
  | _ => false

end DecodeError

namespace SettingError

/-- The key path an error points at. -/
def key? : SettingError → Option String
  | .badType _ _ _ k => k
  | .located _ _ k => k
  | .notFound k => some k
  | _ => none

/-- ` for key `k`` and ` in origin` suffixes. -/
def placeText (key : Option String) (origin : Option String) : String :=
  (match key with | some k => " for key `" ++ k ++ "`" | none => "") ++
  (match origin with | some o => " in " ++ o | none => "")

/-- The report of a settings error. -/
def message : SettingError → String
  | .badType o f e k => "invalid type: " ++ f.settingText ++ ", expected " ++ e ++ placeText k o
  | .located m o k => m ++ placeText k o
  | .notFound k => "missing configuration field " ++ Text.quoted k
  | .plain t => t
  | .unparsable uri cause => cause ++ (match uri with | some u => " in " ++ u | none => "")
  | .frozen => "configuration is frozen"
  | .halt r => r

/-- Whether an error stops the program rather than being reported. -/
def halts : SettingError → Bool
  | .halt _ => true
  | _ => false

/-- Places an error one step further out: the step prefixes its key path. An error with no
place gets the step as its path. -/
def prefixStep (s : PathStep) : SettingError → SettingError
  | .badType o f e k => .badType o f e (some (s.prefixPath k))
  | .located m o k => .located m o (some (s.prefixPath k))
  | .notFound k => .notFound (s.prefixPath (some k))
  | .halt r => .halt r
  | other => .located other.message none (some (s.prefixPath none))

end SettingError

namespace DecodeError

/-- A section error as the layered settings report it. -/
def toSetting : DecodeError → SettingError
  | .within s inner => (toSetting inner).prefixStep s
  | .unconvertible o f e => .badType o f e none
  | .missingField name => .notFound name
  | .halt r => .halt r
  | other => .plain (other.sentence .settings)

end DecodeError

/-- Runs a read of the value under a key; in layered settings an error is placed under it. -/
def Dialect.under {α : Type} (d : Dialect) (s : PathStep) (r : Except DecodeError α) :
    Except DecodeError α :=
  match d, r with
  | .settings, .error e => .error (.within s e)
  | _, r => r

end RingIdentity
