import RingIdentity.Text.Blank
import RingIdentity.Text.Alphanumeric
/-!
Environment files (`.env`): lines `NAME=value`, optionally after `export`, that add variables to
the environment of the process.

A name starts with an ASCII letter or `_` and goes on with ASCII letters, digits, `_` and `.`.
A value may be bare (it ends at a space or tab, after which only a comment may follow), in single
quotes (taken as written) or in double quotes (where `\n`, `\\`, `\"`, `\'`, `\$` and an
escaped space are escapes); quotes may open and close anywhere in a value. Outside single quotes,
`$NAME` and `${NAME}` stand for the variable's value in the environment, else the value given
earlier in the same file, else nothing; a bare name is a run of letters and digits of any script.

Physical lines join into logical ones: a line whose quote is still open, or that ends in a
blank or a backslash, goes on with the next one, and a `#` after a blank starts a comment that
ends the line. A logical line is trimmed of Unicode blanks at both ends; an empty line or one
starting with `#` is skipped. A byte order mark at the start of the file is skipped.

Loading never replaces a variable that is already set, and stops at the first line that does not
read, an unfinished last line included; the lines before it stay loaded.
-/
namespace RingIdentity

namespace DotEnv

/-- An environment: variables by name, earlier ones first. -/
abbrev Environment := List (String × String)

/-- The value of a variable. -/
def lookup (env : Environment) (name : String) : Option String :=
  (env.find? (·.1 == name)).map (·.2)

/-- How the text of a logical line reads so far, for joining physical lines: after a blank,
after a backslash, complete, inside double quotes (and after a backslash there), inside single
quotes (and after a backslash there), or in a comment. -/
inductive QuoteState where
  | blank
  | escape
  | complete
  | weak
  | weakEscape
  | strong
  | strongEscape
  | comment
  deriving DecidableEq, Repr

/-- The state after one more character. A blank other than a line break after complete text
may start a comment; a `#` right after such a blank does. -/
def QuoteState.next (st : QuoteState) (c : Char) : QuoteState :=
  match st with
  | .blank =>
    if c = '#' then .comment else if c = '\\' then .escape else if c = '"' then .weak
    else if c = '\'' then .strong else .complete
  | .escape => .complete
  | .complete =>
    if Text.isBlank c ∧ c ≠ '\n' ∧ c ≠ '\r' then .blank else if c = '\\' then .escape
    else if c = '"' then .weak else if c = '\'' then .strong else .complete
  | .weak => if c = '\\' then .weakEscape else if c = '"' then .complete else .weak
  | .weakEscape => .weak
  | .strong => if c = '\\' then .strongEscape else if c = '\'' then .complete else .strong
  | .strongEscape => .strong
  | .comment => .comment

/-- The state at the end of a physical line read from `st`, and for a comment the characters
before its `#`. -/
def endState (st : QuoteState) : List Char → QuoteState × List Char
  | [] => (st, [])
  | c :: rest =>
    match st.next c with
    | .comment => (.comment, [])
    | st' =>
      let (final, kept) := endState st' rest
      (final, c :: kept)

/-- The physical lines of a text, each with its line feed, the last one without it when the
text does not end in one. -/
def rows (cs : List Char) : List (List Char) :=
  go cs [] cs.length
where
  /-- `row` holds the characters of the current line, last first; the fuel is the length. -/
  go : List Char → List Char → Nat → List (List Char)
    | [], [], _ => []
    | [], row, _ => [row.reverse]
    | _ :: _, row, 0 => [row.reverse]
    | c :: rest, row, fuel + 1 =>
      if c = '\n' then (c :: row).reverse :: go rest [] fuel else go rest (c :: row) fuel

/-- A physical line without its line feed and the carriage return before it. -/
def dropLineEnd (cs : List Char) : List Char :=
  let cs := match cs.reverse with
    | '\n' :: r => r.reverse
    | _ => cs
  match cs.reverse with
  | '\r' :: r => r.reverse
  | _ => cs

/-- The logical lines of a text. A line whose first character past blanks is `#` is an empty
line; a line whose quote is still open, or which ends in a blank or a backslash, goes on with
the next physical line; a comment after a blank ends the line before its `#`. A line still
unfinished at the end of the text is `none`. -/
def logicalLines (rows : List (List Char)) : List (Option (List Char)) :=
  go rows [] .complete
where
  /-- `buf` holds the physical lines joined so far, read up to state `st`. -/
  go : List (List Char) → List Char → QuoteState → List (Option (List Char))
    | [], _, st => if st = .complete then [] else [none]
    | row :: rest, buf, st =>
      let joined := buf ++ row
      if (Text.dropBlanks joined).head? = some '#' then some [] :: go rest [] .complete
      else
        match endState st row with
        | (.complete, _) => some (dropLineEnd joined) :: go rest [] .complete
        | (.comment, kept) => some (buf ++ kept) :: go rest [] .complete
        | (st', _) => go rest joined st'

/-- Whether a character may start a name. -/
def isNameStart (c : Char) : Bool := (c.isAlpha && c.toNat < 128) || c = '_'

/-- Whether a character may continue a name. -/
def isNameChar (c : Char) : Bool := (c.isAlphanum && c.toNat < 128) || c = '_' || c = '.'


/-- A name at the front, with the rest. -/
def name? (cs : List Char) : Option (String × List Char) :=
  match cs with
  | c :: _ => if isNameStart c then
      let n := cs.takeWhile isNameChar
      some (String.ofList n, cs.drop n.length)
    else none
  | [] => none

/-- How a substitution is being read. -/
inductive Substitution where
  | none
  | bare
  | braced
  deriving DecidableEq, Repr

/-- The state of reading a value. -/
structure ValueState where
  out : String := ""
  strong : Bool := false
  weak : Bool := false
  escaped : Bool := false
  ending : Bool := false
  substitution : Substitution := .none
  name : String := ""
  done : Bool := false
  failed : Bool := false

/-- The value substituted for a name: the environment's, else the file's, else nothing. -/
def substitute (env file : Environment) (n : String) : String :=
  ((lookup env n).orElse fun _ => lookup file n).getD ""

/-- Reads one character of a value. -/
def step (env file : Environment) (st : ValueState) (c : Char) : ValueState :=
  if st.done ∨ st.failed then st
  else if st.ending then
    if c = ' ' ∨ c = '\t' then st else if c = '#' then { st with done := true } else { st with failed := true }
  else if st.escaped then
    if c = '\\' ∨ c = '\'' ∨ c = '"' ∨ c = '$' ∨ c = ' ' then { st with out := st.out.push c, escaped := false }
    else if c = 'n' then { st with out := st.out.push '\n', escaped := false }
    else { st with failed := true }
  else if st.strong then
    if c = '\'' then { st with strong := false } else { st with out := st.out.push c }
  else if st.substitution ≠ .none then
    if Text.isAlphanumeric c then { st with name := st.name.push c }
    else match st.substitution with
      | .braced =>
        if c = '}' then { st with substitution := .none, out := st.out ++ substitute env file st.name, name := "" }
        else { st with name := st.name.push c }
      | _ =>
        if c = '{' ∧ st.name.isEmpty then { st with substitution := .braced }
        else
          let out := st.out ++ substitute env file st.name
          if c = '$' then { st with out, name := "", substitution := .bare }
          else { st with out := out.push c, name := "", substitution := .none }
  else if c = '$' then { st with substitution := .bare }
  else if st.weak then
    if c = '"' then { st with weak := false }
    else if c = '\\' then { st with escaped := true }
    else { st with out := st.out.push c }
  else if c = '\'' then { st with strong := true }
  else if c = '"' then { st with weak := true }
  else if c = '\\' then { st with escaped := true }
  else if c = ' ' ∨ c = '\t' then { st with ending := true }
  else { st with out := st.out.push c }

/-- Reads a value, or none when it does not read. -/
def value? (env file : Environment) (cs : List Char) : Option String :=
  let st := cs.foldl (step env file) {}
  if st.failed ∨ (!st.done ∧ (st.substitution = .braced ∨ st.strong ∨ st.weak)) then none
  else if st.done then some st.out
  else some (st.out ++ substitute env file st.name)

/-- The name a line assigns and the text after its `=`. A line may start with `export`: when no
`=` follows that word, the name comes after it. -/
def assignment (k : String) (rest : List Char) : Option (String × List Char) :=
  match rest with
  | '=' :: r => some (k, r)
  | r =>
    if k = "export" then
      match name? r with
      | some (k2, r2) =>
        match Text.dropBlanks r2 with
        | '=' :: r3 => some (k2, r3)
        | _ => none
      | none => none
    else none

/-- Reads a logical line, trimmed of blanks at both ends: nothing for an empty or comment line,
a variable, or none when it does not read. -/
def line? (env file : Environment) (text : List Char) : Option (Option (String × String)) :=
  let cs := Text.dropBlanks (Text.dropBlanks text.reverse).reverse
  match cs with
  | [] => some none
  | '#' :: _ => some none
  | _ => do
    let (k, rest) ← name? cs
    let (k, rest) ← assignment k (Text.dropBlanks rest)
    let v := Text.dropBlanks rest
    match v with
    | [] => some (some (k, ""))
    | '#' :: _ => some (some (k, ""))
    | _ => (fun s => some (k, s)) <$> value? env file v

/-- Loads a file into an environment: variables not set yet are added, up to the first line
that does not read. A byte order mark at the start is skipped. -/
def load (env : Environment) (text : String) : Environment :=
  let cs := match text.toList with
    | '\uFEFF' :: rest => rest
    | cs => cs
  go env [] (logicalLines (rows cs))
where
  /-- `file` holds the values this file gave so far, for substitutions. -/
  go (env file : Environment) : List (Option (List Char)) → Environment
    | [] => env
    | none :: _ => env
    | some l :: rest =>
      match line? env file l with
      | none => env
      | some none => go env file rest
      | some (some (k, v)) =>
        go (if (lookup env k).isSome then env else env ++ [(k, v)]) (file ++ [(k, v)]) rest

end DotEnv

end RingIdentity
