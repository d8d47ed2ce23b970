import RingIdentity.Sources.Toml.Token
import RingIdentity.Sources.Toml.Fault
/-!
The events of a TOML document: what its tokens mean in order, before any key or value is
decoded. A key/value line gives the events of its key (simple keys with key separators between
them), the key/value separator and the events of its value; a table header gives its opening,
the events of its key and its closing; an array or inline table gives its opening, the events
of its elements with value separators between them, and its closing. Blanks, comments and line
breaks are events too, for their characters are checked later.

The grammar is checked here, token by token, and the first token that breaks it stops the
reading with a fault: a key with no `=` after it, a value followed by more than a comment on its
line, a comma where an array needs a value, a table header without its closing bracket, and so
on. Some gaps are not faults of the grammar: where a key or a value is missing but the line goes
on sensibly (`= 1`, `a = `, `[]`), an empty key or scalar stands in its place, and decoding it
fails later.

Inline tables may span lines, hold comments and end with a comma. A bare value runs on over dots
and atoms, and over each blank that an atom follows, so that a date and a time written with a
space between them stay one value. Arrays and inline tables nest at most `maxDepth` deep.

When the grammar breaks, the events read up to the fault are kept with it: their layout is
checked before the fault is reported.
-/
namespace RingIdentity

namespace Toml

/-- How a string is quoted. -/
inductive Quoting where
  | literal
  | basic
  | literalBlock
  | basicBlock
  deriving DecidableEq, Repr, Inhabited

/-- How a string token is quoted; other tokens are not strings. -/
def TokenKind.quoting : TokenKind → Option Quoting
  | .literalString => some .literal
  | .basicString => some .basic
  | .literalBlock => some .literalBlock
  | .basicBlock => some .basicBlock
  | _ => none

/-- The kinds of event. -/
inductive EventKind where
  | tableOpen
  | tableClose
  | arrayTableOpen
  | arrayTableClose
  | inlineOpen
  | inlineClose
  | arrayOpen
  | arrayClose
  | key (quoting : Option Quoting)
  | keySep
  | keyValSep
  | scalar (quoting : Option Quoting)
  | valueSep
  | blank
  | comment
  | newline
  deriving DecidableEq, Repr, Inhabited

/-- An event: its kind, the characters it covers and the byte offset where they start. -/
structure Event where
  kind : EventKind
  text : List Char
  start : Nat
  deriving Repr, Inhabited

/-- The byte offset just past an event. -/
def Event.stop (e : Event) : Nat := e.start + Text.byteWidth e.text

/-- The reading of tokens: those ahead, those read (last first), the events so far (last
first) and how many arrays and inline tables are open. -/
structure Parser where
  rest : List Token
  past : List Token := []
  events : List Event := []
  depth : Nat := 0
  deriving Inhabited

/-- A step of reading tokens into events, which may stop at a fault; the reading so far is kept
when it does. -/
abbrev Parse := ExceptT Fault (StateM Parser)

/-- How deep arrays and inline tables may nest. -/
def maxDepth : Nat := 80

/-- Reads the next token. -/
def nextToken : Parse (Option Token) := do
  let s ← get
  match s.rest with
  | t :: rest =>
    set { s with rest, past := t :: s.past }
    pure (some t)
  | [] => pure none

/-- The next token, left unread. -/
def peekToken : Parse (Option Token) := do
  pure (← get).rest.head?

/-- Reads the next token if its kind passes a test. -/
def nextIf (p : TokenKind → Bool) : Parse (Option Token) := do
  match ← peekToken with
  | some t => if p t.kind then nextToken else pure none
  | none => pure none

/-- Puts the last token read back. -/
def stepBack : Parse Unit :=
  modify fun s =>
    match s.past with
    | t :: past => { s with rest := t :: s.rest, past }
    | [] => s

/-- Records an event over a token's characters. -/
def emit (k : EventKind) (t : Token) : Parse Unit :=
  modify fun s => { s with events := ⟨k, t.text, t.start⟩ :: s.events }

/-- Records an event over given characters. -/
def emitText (k : EventKind) (text : List Char) (start : Nat) : Parse Unit :=
  modify fun s => { s with events := ⟨k, text, start⟩ :: s.events }

/-- Records an empty event at a byte offset: a key or scalar that is missing. -/
def emitEmpty (k : EventKind) (pos : Nat) : Parse Unit := emitText k [] pos

/-- Stops with a fault. -/
def stop {α : Type} (start stop : Nat) (description : String) (expected : Option (List Expect)) :
    Parse α :=
  throw (Fault.at start stop description expected)

/-- Whether a token kind is layout: a blank, comment, line break or the end. -/
def TokenKind.isLayout (k : TokenKind) : Bool :=
  k = .blank || k = .comment || k = .newline || k = .eof

/-- The byte offset just past the last token read that is not layout, or zero. -/
def afterPrevious : Parse Nat := do
  match (← get).past.find? (fun t => !t.kind.isLayout) with
  | some t => pure t.stop
  | none => pure 0

/-- Reads a blank, if one is next. -/
def optBlank : Parse Unit := do
  match ← nextIf (· = .blank) with
  | some t => emit .blank t
  | none => pure ()

/-- Reads the line break after a comment. -/
def onComment (t : Token) : Parse Unit := do
  emit .comment t
  match ← nextToken with
  | none => pure ()
  | some n =>
    match n.kind with
    | .newline => emit .newline n
    | .eof => pure ()
    | _ => stop n.start n.stop "unexpected content between comment and newline" (some [.literal "\n"])

/-- Reads blanks, then a comment or a line break; anything else on the line is a fault. -/
def wsCommentNewline : Nat → Parse Unit
  | 0 => pure ()
  | fuel + 1 => do
    match ← nextToken with
    | none => pure ()
    | some t =>
      match t.kind with
      | .comment => onComment t
      | .blank => do emit .blank t; wsCommentNewline fuel
      | .newline => emit .newline t
      | .eof => pure ()
      | _ => stop t.start t.stop "unexpected key or value" (some [.literal "\n", .literal "#"])

/-- Skips the rest of a line, keeping its layout. -/
def ignoreToNewline : Nat → Parse Unit
  | 0 => pure ()
  | fuel + 1 => do
    match ← nextToken with
    | none => pure ()
    | some t =>
      match t.kind with
      | .comment => onComment t
      | .blank => do emit .blank t; ignoreToNewline fuel
      | .newline => emit .newline t
      | .eof => pure ()
      | _ => ignoreToNewline fuel

/-- Whether a token kind ends a key: punctuation other than a dot, or layout other than a
blank. -/
def TokenKind.endsKey (k : TokenKind) : Bool :=
  k = .equals || k = .comma || k = .openBracket || k = .closeBracket || k = .openBrace ||
    k = .closeBrace || k = .comment || k = .newline || k = .eof

mutual
/-- The simple keys after a dot, until one is read; `false` when the key ends first. -/
def afterDot : Nat → Parse Bool
  | 0 => pure false
  | fuel + 1 => do
    match ← nextToken with
    | none => pure false
    | some t =>
      if t.kind.endsKey then do
        emitEmpty (.key none) t.start
        stepBack
        pure false
      else if t.kind = .blank then do
        emit .blank t
        afterDot fuel
      else if t.kind = .dot then do
        emitEmpty (.key none) t.start
        emit .keySep t
        afterDot fuel
      else do
        emit (.key t.kind.quoting) t
        optDotKeys fuel

/-- The rest of a dotted key after a simple key; `false` when a dot is followed by no key. -/
def optDotKeys : Nat → Parse Bool
  | 0 => pure true
  | fuel + 1 => do
    match ← nextIf (fun k => k = .blank || k = .dot) with
    | none => pure true
    | some t =>
      if t.kind = .blank then do
        emit .blank t
        optDotKeys fuel
      else do
        emit .keySep t
        afterDot fuel
end

/-- A key, after optional blanks; `false` when none is written. -/
def readKey : Nat → Parse Bool
  | 0 => pure false
  | fuel + 1 => do
    match ← nextToken with
    | none => pure false
    | some t =>
      if t.kind.endsKey then do
        emitEmpty (.key none) t.start
        stepBack
        pure false
      else if t.kind = .blank then do
        emit .blank t
        readKey fuel
      else if t.kind = .dot then do
        emitEmpty (.key none) t.start
        emit .keySep t
        readKey fuel
      else do
        emit (.key t.kind.quoting) t
        optDotKeys fuel

/-- Atoms and dots that run on from a bare value. -/
def gatherAtoms : Nat → List Char → Parse (List Char)
  | 0, acc => pure acc
  | fuel + 1, acc => do
    match ← nextIf (fun k => k = .atom || k = .dot) with
    | some t => gatherAtoms fuel (acc ++ t.text)
    | none => pure acc

/-- The atoms and dots that run on from a bare value, and each blank that an atom follows with
the atoms and dots after it. -/
def gatherBare : Nat → List Char → Parse (List Char)
  | 0, acc => pure acc
  | fuel + 1, acc => do
    let acc ← gatherAtoms fuel acc
    match (← get).rest with
    | b :: a :: _ =>
      if b.kind = .blank ∧ a.kind = .atom then do
        let _ ← nextToken
        let _ ← nextToken
        gatherBare fuel (acc ++ b.text ++ a.text)
      else pure acc
    | _ => pure acc

/-- A scalar: a string token, or a bare value with what runs on from it. -/
def onScalar (fuel : Nat) (t : Token) : Parse Unit := do
  match t.kind.quoting with
  | some q => emit (.scalar (some q)) t
  | none =>
    let text ← gatherBare fuel t.text
    emitText (.scalar none) text t.start

/-- Opens an array or inline table at a token, unless `maxDepth` of them are open. -/
def enter (o : Token) : Parse Unit := do
  let s ← get
  if s.depth ≥ maxDepth then
    stop o.start o.start "cannot recurse further; max recursion depth met" none
  set { s with depth := s.depth + 1 }

/-- Closes an array or inline table. -/
def leave : Parse Unit := modify fun s => { s with depth := s.depth - 1 }

/-- What an inline table needs next. -/
inductive InlineState where
  | needsKey
  | needsEquals
  | needsValue
  | needsComma
  deriving DecidableEq, Repr, Inhabited

/-- What an inline table expects in a state. -/
def InlineState.expected : InlineState → List Expect
  | .needsKey => [.description "key"]
  | .needsEquals => [.literal "="]
  | .needsValue => [.description "value"]
  | .needsComma => [.literal ","]

/-- The fault of a missing comma between array elements. -/
def missingArrayComma {α : Type} (t : Token) : Parse α :=
  stop t.start t.start "missing comma between array elements" (some [.literal ","])

mutual
/-- A value after a key/value separator: a scalar, an array or an inline table; where none is
written, an empty scalar. -/
def value : Nat → Parse Unit
  | 0 => pure ()
  | fuel + 1 => do
    match ← nextToken with
    | none => do
      let p ← afterPrevious
      stop p p "missing value" (some [.description "value"])
    | some t =>
      match t.kind with
      | .comment | .comma | .newline | .eof | .blank => do
        emitEmpty (.scalar none) t.start
        stepBack
      | .equals => stop t.start t.stop "extra `=`" (some [])
      | .openBrace => inlineTable fuel t
      | .closeBrace => stop t.start t.start "missing inline table opening" (some [.literal "\x7b"])
      | .openBracket => array fuel t
      | .closeBracket => stop t.start t.start "missing array opening" (some [.literal "["])
      | _ => onScalar fuel t

/-- An array after its opening bracket. -/
def array : Nat → Token → Parse Unit
  | 0, _ => pure ()
  | fuel + 1, o => do
    enter o
    emit .arrayOpen o
    arrayItems fuel o true
    leave

/-- The elements of an array, `needsValue` telling whether a value may come next. -/
def arrayItems : Nat → Token → Bool → Parse Unit
  | 0, _, _ => pure ()
  | fuel + 1, o, needsValue => do
    match ← nextToken with
    | none => do
      let p ← afterPrevious
      stop p p "unclosed array" (some [.literal "]"])
    | some t =>
      match t.kind with
      | .comment => do onComment t; arrayItems fuel o needsValue
      | .blank => do emit .blank t; arrayItems fuel o needsValue
      | .newline => do emit .newline t; arrayItems fuel o needsValue
      | .eof => stop t.start t.stop "unclosed array" (some [.literal "]"])
      | .comma =>
        if needsValue then stop t.start t.stop "extra comma in array" (some [.description "value"])
        else do
          emit .valueSep t
          arrayItems fuel o true
      | .equals =>
        stop t.start t.stop "unexpected `=` in array" (some [.description "value", .literal "]"])
      | .openBrace => do
        if !needsValue then missingArrayComma t
        inlineTable fuel t
        arrayItems fuel o false
      | .closeBrace => do
        if !needsValue then missingArrayComma t
        stop t.start t.start "missing inline table opening" (some [.literal "\x7b"])
      | .openBracket => do
        if !needsValue then missingArrayComma t
        array fuel t
        arrayItems fuel o false
      | .closeBracket => emit .arrayClose t
      | _ => do
        if !needsValue then missingArrayComma t
        onScalar fuel t
        arrayItems fuel o false

/-- An inline table after its opening brace. -/
def inlineTable : Nat → Token → Parse Unit
  | 0, _ => pure ()
  | fuel + 1, o => do
    enter o
    emit .inlineOpen o
    inlineItems fuel o .needsKey
    leave

/-- The key/value pairs of an inline table. -/
def inlineItems : Nat → Token → InlineState → Parse Unit
  | 0, _, _ => pure ()
  | fuel + 1, o, st => do
    match ← nextToken with
    | none => do
      let p ← afterPrevious
      stop p p "unclosed inline table" (some [.literal "\x7d"])
    | some t =>
      match t.kind with
      | .comment => do onComment t; inlineItems fuel o st
      | .blank => do emit .blank t; inlineItems fuel o st
      | .newline => do emit .newline t; inlineItems fuel o st
      | .eof => stop t.start t.stop "unclosed inline table" (some [.literal "\x7d"])
      | .comma =>
        if st = .needsComma then do
          emit .valueSep t
          inlineItems fuel o .needsKey
        else stop t.start t.start "extra comma in inline table" (some st.expected)
      | .equals =>
        match st with
        | .needsKey => do
          emitEmpty (.key none) t.start
          emit .keyValSep t
          inlineItems fuel o .needsValue
        | .needsEquals => do
          emit .keyValSep t
          inlineItems fuel o .needsValue
        | _ => stop t.start t.start "extra assignment between key-value pairs" (some st.expected)
      | .openBrace =>
        match st with
        | .needsValue => do
          inlineTable fuel t
          inlineItems fuel o .needsComma
        | .needsEquals =>
          stop t.start t.start "missing assignment between key-value pairs" (some st.expected)
        | _ => stop t.start t.start "missing key for inline table element" (some st.expected)
      | .closeBrace =>
        match st with
        | .needsEquals => stop t.start t.start "key with no value" (some [.literal "="])
        | .needsValue => do
          emitEmpty (.scalar none) t.start
          emit .inlineClose t
        | _ => emit .inlineClose t
      | .openBracket =>
        match st with
        | .needsValue => do
          array fuel t
          inlineItems fuel o .needsComma
        | .needsEquals =>
          stop t.start t.start "missing assignment between key-value pairs" (some st.expected)
        | _ => stop t.start t.start "missing key for inline table element" (some st.expected)
      | .closeBracket =>
        match st with
        | .needsValue => stop t.start t.start "missing array opening" (some [.literal "["])
        | _ => stop t.start t.start "invalid inline table element" (some st.expected)
      | _ =>
        match st with
        | .needsKey => do
          if t.kind = .dot then do
            emitEmpty (.key none) t.start
            stepBack
          else emit (.key t.kind.quoting) t
          let _ ← optDotKeys fuel
          inlineItems fuel o .needsEquals
        | .needsEquals =>
          stop t.start t.start "missing assignment between key-value pairs" (some st.expected)
        | .needsValue => do
          onScalar fuel t
          inlineItems fuel o .needsComma
        | .needsComma =>
          stop t.start t.start "missing comma between key-value pairs" (some st.expected)
end

/-- The separator `=`, the value after it and the end of the line. -/
def keyValSep (fuel : Nat) (eq : Token) : Parse Unit := do
  emit .keyValSep eq
  optBlank
  value fuel
  wsCommentNewline fuel

/-- The `=` after a key, and what follows it. -/
def expectEquals (fuel : Nat) : Parse Unit := do
  optBlank
  match ← nextIf (· = .equals) with
  | some eq => keyValSep fuel eq
  | none =>
    match ← peekToken with
    | some p => stop p.start p.start "key with no value" (some [.literal "="])
    | none => ignoreToNewline fuel

/-- A key/value line starting with a simple key. -/
def expressionKey (fuel : Nat) (t : Token) : Parse Unit := do
  emit (.key t.kind.quoting) t
  let _ ← optDotKeys fuel
  expectEquals fuel

/-- A key/value line starting with a dot: its first simple key is missing. -/
def expressionDot (fuel : Nat) (t : Token) : Parse Unit := do
  emitEmpty (.key none) t.start
  stepBack
  let _ ← optDotKeys fuel
  expectEquals fuel

/-- A table header after its first opening bracket. -/
def table (fuel : Nat) (o : Token) : Parse Unit := do
  let isArray ← match ← nextIf (· = .openBracket) with
    | some second => do
      emitText .arrayTableOpen (o.text ++ second.text) o.start
      pure true
    | none => do
      emit .tableOpen o
      pure false
  optBlank
  let validKey ← readKey fuel
  optBlank
  match ← nextIf (· = .closeBracket) with
  | some close =>
    if isArray then
      match ← nextIf (· = .closeBracket) with
      | some second => do
        emitText .arrayTableClose (close.text ++ second.text) close.start
        wsCommentNewline fuel
      | none => stop close.stop close.stop "unclosed array table" (some [.literal "]"])
    else do
      emit .tableClose close
      wsCommentNewline fuel
  | none =>
    if validKey then do
      let last := ((← get).past.find? (·.kind ≠ .blank)).getD o
      if isArray then stop last.stop last.stop "unclosed array table" (some [.literal "]]"])
      else stop last.stop last.stop "unclosed table" (some [.literal "]"])
    else ignoreToNewline fuel

/-- The lines of a document. -/
def document : Nat → Parse Unit
  | 0 => pure ()
  | fuel + 1 => do
    match ← nextToken with
    | none => pure ()
    | some t =>
      match t.kind with
      | .openBracket => do table fuel t; document fuel
      | .closeBracket => stop t.start t.start "missing table open" (some [.literal "["])
      | .equals => do
        emitEmpty (.key none) t.start
        keyValSep fuel t
        document fuel
      | .dot => do expressionDot fuel t; document fuel
      | .comma | .openBrace | .closeBrace =>
        stop t.start t.start "invalid key-value pair" (some [.description "key"])
      | .blank => do emit .blank t; document fuel
      | .newline => do emit .newline t; document fuel
      | .comment => do onComment t; document fuel
      | .eof => pure ()
      | _ => do expressionKey fuel t; document fuel

/-- The events of a document's tokens up to the first fault of its grammar, and that fault. -/
def events (tokens : List Token) : List Event × Option Fault :=
  let (r, s) := (document (2 * tokens.length + 2)).run.run { rest := tokens }
  (s.events.reverse, match r with
    | .ok () => none
    | .error f => some f)

end Toml

end RingIdentity
