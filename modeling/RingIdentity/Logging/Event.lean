import RingIdentity.Logging.Level
import RingIdentity.Text.Quoted
/-!
Logged events: a level, the target that emitted the event (a path of modules such as
`ringside_identity::identity`), a message, and named fields in order.

A field's value is kept as the text the log shows. Text values are quoted with escapes, values
shown for display are written as they are, numbers and booleans are written plainly, and an
optional text is `Some("x")` or `None`.
-/
namespace RingIdentity

/-- An event to log. -/
structure Event where
  level : Level
  target : String
  message : String
  fields : List (String × String) := []
  deriving DecidableEq, Repr, Inhabited

namespace Event

/-- A text field, quoted. -/
def text (name value : String) : String × String := (name, Text.quoted value)

/-- A field shown as it is. -/
def shown (name value : String) : String × String := (name, value)

/-- A number field. -/
def num (name : String) (n : Nat) : String × String := (name, toString n)

/-- A boolean field. -/
def flag (name : String) (b : Bool) : String × String := (name, toString b)

/-- An optional text field in record form: `Some("x")` or `None`. -/
def optText (name : String) (v : Option String) : String × String :=
  (name, match v with | some s => "Some(" ++ Text.quoted s ++ ")" | none => "None")

/-- A list of texts in record form: `["a", "b"]`. -/
def texts (name : String) (vs : List String) : String × String :=
  (name, "[" ++ ", ".intercalate (vs.map Text.quoted) ++ "]")

end Event

/-- Where events go. -/
abbrev Logger (m : Type → Type) := Event → m Unit

end RingIdentity
