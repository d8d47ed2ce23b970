/-!
# YAML tokens

The tokens of a YAML stream, where each one starts, and why a stream does not read.

A **mark** is a place in the text: the number of characters before it (a carriage return and
line feed count as two), its line from one and its column from zero. The count is the stream's
own: a block scalar's line counts the characters past the stream's lookahead by their UTF-8
bytes, so a mark after such a line stands further on than its characters. A **scan error** names a
mark and what is wrong there; it is reported as `<what> at byte <index> line <line> column
<column + 1>`.

Tokens follow the YAML grammar: stream and document markers, directives, the starts and ends of
block and flow collections, entry, key and value indicators, anchors, aliases, tags and
scalars. A block collection's end is a token of its own, for indentation alone closes it.
-/
namespace RingIdentity

namespace Yaml

/-- A place in a YAML text: characters before it as the stream counts them, line from one,
column from zero. -/
structure Mark where
  index : Nat
  line : Nat
  col : Nat
  deriving DecidableEq, Repr, Inhabited

/-- Why a YAML text does not read: the place and what is wrong there. -/
structure ScanError where
  mark : Mark
  info : String
  deriving DecidableEq, Repr, Inhabited

/-- The report of a scan error, naming its place with the column from one. -/
def ScanError.render (e : ScanError) : String :=
  e.info ++ " at byte " ++ toString e.mark.index ++ " line " ++ toString e.mark.line ++
    " column " ++ toString (e.mark.col + 1)

/-- How a scalar is written. -/
inductive ScalarStyle where
  | plain
  | singleQuoted
  | doubleQuoted
  | literal
  | folded
  deriving DecidableEq, Repr, Inhabited

/-- The kinds of token. -/
inductive TokenKind where
  | streamStart
  | streamEnd
  | versionDirective (major minor : Nat)
  | tagDirective (handle uri : String)
  | documentStart
  | documentEnd
  | blockSequenceStart
  | blockMappingStart
  | blockEnd
  | flowSequenceStart
  | flowSequenceEnd
  | flowMappingStart
  | flowMappingEnd
  | blockEntry
  | flowEntry
  | key
  | value
  | alias (name : String)
  | anchor (name : String)
  | tag (handle suffix : String)
  | scalar (style : ScalarStyle) (text : String)
  deriving DecidableEq, Repr, Inhabited

/-- A token and the place where it starts. -/
structure Token where
  mark : Mark
  kind : TokenKind
  deriving DecidableEq, Repr, Inhabited

/-! ## Characters -/

/-- The character that stands for the end of the text. -/
def endChar : Char := '\x00'

/-- Whether a character is a line break. -/
def isBreak (c : Char) : Bool := c = '\n' || c = '\r'

/-- Whether a character is a line break or the end. -/
def isBreakZ (c : Char) : Bool := isBreak c || c = endChar

/-- Whether a character is a space or a tab. -/
def isBlank (c : Char) : Bool := c = ' ' || c = '\t'

/-- Whether a character is a blank, a line break or the end. -/
def isBlankZ (c : Char) : Bool := isBlank c || isBreakZ c

/-- Whether a character is a flow indicator. -/
def isFlow (c : Char) : Bool := c = ',' || c = '[' || c = ']' || c = '\x7b' || c = '\x7d'

/-- Whether a character is an ASCII letter or digit, `_` or `-`. -/
def isAlpha (c : Char) : Bool := c.isAlphanum || c = '_' || c = '-'

/-- The value of a hexadecimal digit. -/
def hexValue? (c : Char) : Option Nat :=
  if c.isDigit then some (c.toNat - '0'.toNat)
  else if 'a' ≤ c ∧ c ≤ 'f' then some (c.toNat - 'a'.toNat + 10)
  else if 'A' ≤ c ∧ c ≤ 'F' then some (c.toNat - 'A'.toNat + 10)
  else none

/-- Whether a character may stand in a URI. -/
def isUriChar (c : Char) : Bool :=
  (isAlpha c && c ≠ '_') || "#;/?:@&=+$,_.!~*()[]%".contains c || c = '\''

/-- Whether a character may stand in a tag's suffix. -/
def isTagChar (c : Char) : Bool := isUriChar c && !isFlow c && c ≠ '!'

/-- Whether a character may stand in an anchor's name. -/
def isAnchorChar (c : Char) : Bool := !isBlankZ c && !isFlow c

end Yaml

end RingIdentity
