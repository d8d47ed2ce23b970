import RingIdentity.Text.Position
/-!
The tokens of a TOML text. Reading a document starts by cutting its text into tokens, every
character in exactly one of them, and ends with an end-of-text token.

The punctuation `.`, `=`, `,`, `[`, `]`, `{` and `}` stands alone. A run of spaces and tabs is a
blank; `#` starts a comment that runs to the end of its line; a line feed, a carriage return and
line feed, or a lone carriage return is a line break. A quote starts a string of one of four
forms:

* `'` a literal string, to the next `'` on its line;
* `'''` a multi-line literal string, to the next `'''` and up to two more quotes;
* `"` a basic string, to the next `"` that no backslash escapes, on its line (a backslash does
  not take a line break along);
* `"""` a multi-line basic string, to the next unescaped `"""` and up to two more quotes.

A string whose closing quote is missing ends before the line break (a one-line form) or at the
end of the text. Anything else is an atom: a run of characters up to the next punctuation,
blank, comment or line break. Atoms hold bare keys, numbers, booleans and dates; quotes inside
an atom belong to it.

Every token knows its characters and the byte offset where it starts. A byte order mark at the
start of the text belongs to no token.
-/
namespace RingIdentity

namespace Toml

/-- The kinds of token. -/
inductive TokenKind where
  | dot
  | equals
  | comma
  | openBracket
  | closeBracket
  | openBrace
  | closeBrace
  | blank
  | comment
  | newline
  | literalString
  | basicString
  | literalBlock
  | basicBlock
  | atom
  | eof
  deriving DecidableEq, Repr, Inhabited

/-- A token: its kind, its characters and the byte offset of its first one. -/
structure Token where
  kind : TokenKind
  text : List Char
  start : Nat
  deriving Repr, Inhabited

/-- The byte offset just past a token. -/
def Token.stop (t : Token) : Nat := t.start + Text.byteWidth t.text

/-- Whether a character ends an atom. -/
def endsAtom (c : Char) : Bool :=
  c = '.' || c = '=' || c = ',' || c = '[' || c = ']' || c = '\x7b' || c = '\x7d' ||
    c = ' ' || c = '\t' || c = '#' || c = '\r' || c = '\n'

/-- The length of a literal string's body and closing quote after its opening quote. -/
def literalLength (cs : List Char) : Nat :=
  match cs.findIdx? (fun c => c = '\'' || c = '\n') with
  | some i => if cs[i]? = some '\'' then i + 1 else i
  | none => cs.length

/-- How many of up to two quotes `q` start a text. -/
def extraQuotes (q : Char) (cs : List Char) : Nat :=
  match cs with
  | a :: b :: _ => if a = q then (if b = q then 2 else 1) else 0
  | [a] => if a = q then 1 else 0
  | [] => 0

/-- The length of a multi-line literal string's body and closing quotes after its opening
quotes. -/
def literalBlockLength : List Char → Nat
  | [] => 0
  | '\'' :: '\'' :: '\'' :: rest => 3 + extraQuotes '\'' rest
  | _ :: rest => 1 + literalBlockLength rest

/-- The length of a basic string's body and closing quote after its opening quote: a backslash
takes the character after it along. -/
def basicLength : List Char → Nat
  | [] => 0
  | '\\' :: '\n' :: _ => 1
  | '\\' :: _ :: rest => 2 + basicLength rest
  | ['\\'] => 1
  | '"' :: _ => 1
  | '\n' :: _ => 0
  | _ :: rest => 1 + basicLength rest

/-- The length of a multi-line basic string's body and closing quotes after its opening
quotes. -/
def basicBlockLength : List Char → Nat
  | [] => 0
  | '\\' :: _ :: rest => 2 + basicBlockLength rest
  | ['\\'] => 1
  | '"' :: '"' :: '"' :: rest => 3 + extraQuotes '"' rest
  | _ :: rest => 1 + basicBlockLength rest

/-- The kind and the length of the token at the front of a nonempty text. -/
def frontToken (c : Char) (rest : List Char) : TokenKind × Nat :=
  if c = '.' then (.dot, 1)
  else if c = '=' then (.equals, 1)
  else if c = ',' then (.comma, 1)
  else if c = '[' then (.openBracket, 1)
  else if c = ']' then (.closeBracket, 1)
  else if c = '\x7b' then (.openBrace, 1)
  else if c = '\x7d' then (.closeBrace, 1)
  else if c = ' ' ∨ c = '\t' then (.blank, 1 + (rest.takeWhile fun d => d = ' ' || d = '\t').length)
  else if c = '#' then (.comment, 1 + (rest.takeWhile fun d => d ≠ '\r' && d ≠ '\n').length)
  else if c = '\r' then (.newline, if rest.head? = some '\n' then 2 else 1)
  else if c = '\n' then (.newline, 1)
  else if c = '\'' then
    match rest with
    | '\'' :: '\'' :: more => (.literalBlock, 3 + literalBlockLength more)
    | _ => (.literalString, 1 + literalLength rest)
  else if c = '"' then
    match rest with
    | '"' :: '"' :: more => (.basicBlock, 3 + basicBlockLength more)
    | _ => (.basicString, 1 + basicLength rest)
  else (.atom, 1 + (rest.takeWhile fun d => !endsAtom d).length)

/-- Cuts a text into tokens, starting at byte offset `pos`; the fuel is the number of characters
left, of which each token takes at least one. -/
def lexFrom : Nat → List Char → Nat → List Token
  | _, [], pos => [⟨.eof, [], pos⟩]
  | 0, _ :: _, pos => [⟨.eof, [], pos⟩]
  | fuel + 1, c :: rest, pos =>
    let (kind, n) := frontToken c rest
    let text := (c :: rest).take (max n 1)
    ⟨kind, text, pos⟩ :: lexFrom fuel ((c :: rest).drop (max n 1)) (pos + Text.byteWidth text)

/-- The tokens of a text, the last one the end of the text; a leading byte order mark is
skipped. -/
def lex (text : String) : List Token :=
  match text.toList with
  | '\uFEFF' :: cs => lexFrom cs.length cs 3
  | cs => lexFrom cs.length cs 0

end Toml

end RingIdentity
