import RingIdentity.Text.Position
/-!
Why a TOML document does not read, and how the report shows it.

A fault names a span of the document in bytes and says what is wrong: a description, and often
what was expected instead (`unclosed table, expected `]``, `unexpected leading zero, expected
nothing`). The report names the line and column of the span's start, shows that line with carets
under the span (at least one, and no further than the line's end), and ends with the message.

A few faults are found only once the document has been read, while its numbers are turned into
values (an integer beyond 64 bits, a float beyond the largest finite value); they point nowhere
and are reported as their message alone.
-/
namespace RingIdentity

namespace Toml

/-- What a reader expected where it stopped: a literal text or a description. -/
inductive Expect where
  | literal (text : String)
  | description (text : String)
  deriving DecidableEq, Repr, Inhabited

/-- How an expectation is written in a message: a line feed is `newline`, a backtick stands
between quotes, other literals between backticks. -/
def Expect.render : Expect → String
  | .literal t =>
    if t = "\n" then "newline" else if t = "`" then "'`'" else "`" ++ t ++ "`"
  | .description t => t

/-- A fault: the byte span it points at and its message. -/
structure Fault where
  start : Nat
  stop : Nat
  message : String
  deriving DecidableEq, Repr, Inhabited

/-- The message of a fault: the description, then what was expected; an empty list of
expectations reads `nothing`. -/
def faultMessage (description : String) (expected : Option (List Expect)) : String :=
  description ++
    match expected with
    | none => ""
    | some [] => ", expected nothing"
    | some es => ", expected " ++ ", ".intercalate (es.map Expect.render)

/-- A fault at a byte span. -/
def Fault.at (start stop : Nat) (description : String) (expected : Option (List Expect)) :
    Fault :=
  ⟨start, stop, faultMessage description expected⟩

/-- A fault moved by `offset` bytes, from a span inside a token to a span of the document. -/
def Fault.shift (f : Fault) (offset : Nat) : Fault :=
  { f with start := f.start + offset, stop := f.stop + offset }

/-- A document that does not read: a fault at a place, or a fault in turning a read number
into a value, which points nowhere. -/
inductive ReadError where
  | placed (fault : Fault)
  | unplaced (message : String)
  deriving DecidableEq, Repr, Inhabited

/-- The report of a fault in a document. -/
def Fault.render (f : Fault) (text : String) : String :=
  let (line, column) := Text.linePosition text.toUTF8 f.start
  let number := toString (line + 1)
  let content := ((text.splitOn "\n")[line]?).getD ""
  let width := min (f.stop - f.start) (content.utf8ByteSize - column)
  let gutter := Text.spaces (number.length + 1)
  "TOML parse error at line " ++ number ++ ", column " ++ toString (column + 1) ++ "\n" ++
    gutter ++ "|\n" ++
    number ++ " | " ++ content ++ "\n" ++
    gutter ++ "|" ++ Text.spaces (column + 1) ++ "^" ++ String.ofList (List.replicate (width - 1) '^') ++
    "\n" ++ f.message ++ "\n"

/-- The report of a document that does not read. -/
def ReadError.render (e : ReadError) (text : String) : String :=
  match e with
  | .placed f => f.render text
  | .unplaced m => m

end Toml

end RingIdentity
