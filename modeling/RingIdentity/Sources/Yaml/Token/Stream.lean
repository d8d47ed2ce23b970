import RingIdentity.Sources.Yaml.Token
/-!
# The token stream of a YAML text

Tokens are cut from the text on demand, one at a time, as a reader asks for them; a fault in the
text is found when the reader reaches it.

**Indentation.** Block collections are opened and closed by columns. The stream keeps a stack
of indentation columns: a key or a `-` entry to the right of the current column opens a block
mapping or sequence there, and a line that starts to the left of a column closes its block. A
value indicator (and a `-` entry or flow collection that ends its line) also sets a provisional
column one to the right, which makes the content below it count as nested without opening a
block; it is dropped as soon as a block is opened or a scalar starts.

**Mappings without braces.** Inside a flow sequence, `a: b` is a mapping of one pair: the `:`
opens a flow mapping before the key, or right after itself when there is no key, and the next
`,` or `]` closes it. Such a key must stand on the line of its `:`. While a flow mapping or a `?`
key inside a flow collection is open, a `:` opens no mapping, and the pair is read as a key and
a value of the sequence.

**Simple keys.** A key is usually written without `?`, so a scalar, alias, anchor, tag or flow
collection may turn out to be a key only when a `:` follows it. Where one may start, the stream
remembers the place and the number of the token it would be, and does not hand that token out
until it is known: a `:` inserts the key token (and the mapping's start) before it; a line break
or 1024 characters make it stale. A key that starts at the current block column must be
completed: its going stale is a fault (`simple key expect ':'`).

**Scalars.** Plain scalars run over lines that are indented more than their block, and end at
`: `, ` #` or a document marker. Quoted scalars run to their closing quote; line breaks inside
them fold into a space, or into the empty lines between. A block scalar (`|` literal, `>`
folded) takes the lines indented at least as its first one (or as its indentation indicator),
and its chomping indicator (`-` strip, `+` keep, otherwise clip) says what becomes of its final
line breaks. Double-quoted scalars have escapes: `\0 \a \b \t \n \v \f \r \e \  \" \/ \\ \N \_
\L \P`, `\x`, `\u` and `\U` with two, four and eight hexadecimal digits.

A comment must be separated from a token by whitespace, `:` must be followed by a space where a
tab would make it part of a word, and `%`, `@` and a backtick cannot start a plain scalar.
-/
namespace RingIdentity

namespace Yaml

/-- A place where a key written without `?` may have started: whether it still may be one,
whether it must be one, the number of its token and its place. -/
structure SimpleKey where
  possible : Bool := false
  required : Bool := false
  tokenNumber : Nat := 0
  mark : Mark := ⟨0, 0, 0⟩
  deriving Repr, Inhabited

/-- A column on the indentation stack, and whether leaving it closes a block collection (a
provisional column does not). -/
structure Indent where
  column : Int
  closesBlock : Bool
  deriving Repr, Inhabited

/-- The state of a token stream. -/
structure Scanner where
  /-- The text. -/
  input : Array Char
  /-- The position of the next character in the text. -/
  pos : Nat := 0
  /-- The place of the next character, as errors and tokens report it. -/
  mark : Mark := ⟨0, 1, 0⟩
  /-- Tokens cut but not yet handed out. -/
  queue : List Token := []
  /-- How many tokens were handed out. -/
  taken : Nat := 0
  /-- Whether the front of the queue may be handed out. -/
  ready : Bool := false
  /-- Whether the stream's start was cut. -/
  started : Bool := false
  /-- Whether the stream's end was handed out. -/
  ended : Bool := false
  /-- Whether a simple key may start here. -/
  keyAllowed : Bool := false
  /-- The possible simple key of each flow level, innermost first. -/
  keys : List SimpleKey := []
  /-- The current indentation column. -/
  indent : Int := -1
  /-- The enclosing columns, innermost first. -/
  indents : List Indent := []
  /-- How many flow collections are open. -/
  flowLevel : Nat := 0
  /-- Whether only whitespace stands before the next character on its line. -/
  lineStart : Bool := true
  /-- Where a `:` may follow a flow key without a space. -/
  adjacentValueAt : Nat := 0
  /-- For each open flow sequence, innermost first, whether a mapping of one pair written
  without braces is open in it. -/
  pairs : List Bool := []
  /-- Whether a flow mapping, or a `?` key inside a flow collection, was opened and has not been
  closed by a brace or by the end of a mapping without braces. -/
  mappingOpened : Bool := false
  deriving Inhabited

/-- A step of the token stream, which may fail. -/
abbrev Scan := StateT Scanner (Except ScanError)

namespace Scan

/-- The character `k` places ahead, or the end character past the text. -/
def charAt (k : Nat) : Scan Char := do
  let s ← get
  pure (s.input.getD (s.pos + k) endChar)

/-- The place of the next character. -/
def here : Scan Mark := do
  pure (← get).mark

/-- Fails at a place. -/
def fail {α : Type} (m : Mark) (info : String) : Scan α := throw ⟨m, info⟩

/-- Fails at the next character. -/
def failHere {α : Type} (info : String) : Scan α := do
  fail (← here) info

/-- How many steps any loop over the text may take. -/
def budget : Scan Nat := do
  pure (2 * (← get).input.size + 8)

/-- Skips a blank. -/
def skipBlank : Scan Unit :=
  modify fun s =>
    { s with pos := s.pos + 1, mark := { s.mark with index := s.mark.index + 1, col := s.mark.col + 1 } }

/-- Skips a character that is not a blank. -/
def skipNonBlank : Scan Unit :=
  modify fun s =>
    { s with
      pos := s.pos + 1
      mark := { s.mark with index := s.mark.index + 1, col := s.mark.col + 1 }
      lineStart := false }

/-- Skips a character that is not a blank, counting its UTF-8 bytes in the mark's index. -/
def skipWide (c : Char) : Scan Unit :=
  modify fun s =>
    { s with
      pos := s.pos + 1
      mark := { s.mark with index := s.mark.index + c.utf8Size, col := s.mark.col + 1 }
      lineStart := false }

/-- Skips `n` characters that are not blanks. -/
def skipNonBlanks : Nat → Scan Unit
  | 0 => pure ()
  | n + 1 => do
    skipNonBlank
    skipNonBlanks n

/-- Skips a line feed or carriage return, to the start of the next line. -/
def skipNewline : Scan Unit :=
  modify fun s =>
    { s with pos := s.pos + 1, mark := ⟨s.mark.index + 1, s.mark.line + 1, 0⟩, lineStart := true }

/-- Skips a line break: a carriage return and line feed, or either alone. -/
def skipLineBreak : Scan Unit := do
  let c ← charAt 0
  let d ← charAt 1
  if c = '\r' ∧ d = '\n' then do
    skipBlank
    skipNewline
  else if isBreak c then skipNewline
  else pure ()

/-- Reads characters while they pass a test. -/
def takeWhile (p : Char → Bool) : Nat → String → Scan String
  | 0, acc => pure acc
  | fuel + 1, acc => do
    let c ← charAt 0
    if p c && c ≠ endChar then do
      skipNonBlank
      takeWhile p fuel (acc.push c)
    else pure acc

/-- Skips a comment up to its line's end. -/
def skipComment : Nat → Scan Unit
  | 0 => pure ()
  | fuel + 1 => do
    if isBreakZ (← charAt 0) then pure ()
    else do
      skipNonBlank
      skipComment fuel

/-- Skips spaces, tabs (when `tabs`) and a comment up to the line's end; gives whether a tab and
whether a space was skipped. A comment right after a token is a fault. -/
def skipToLineEnd (tabs : Bool) : Nat → Bool → Bool → Scan (Bool × Bool)
  | 0, t, w => pure (t, w)
  | fuel + 1, t, w => do
    let c ← charAt 0
    if c = ' ' then do
      skipBlank
      skipToLineEnd tabs fuel t true
    else if c = '\t' ∧ tabs then do
      skipBlank
      skipToLineEnd tabs fuel true w
    else if c = '#' then
      if !t && !w then failHere "comments must be separated from other tokens by whitespace"
      else do
        skipComment fuel
        pure (t, w)
    else pure (t, w)

/-- Skips to the line's end as `skipToLineEnd` does, from a fresh start. -/
def lineEnd (tabs : Bool) : Scan (Bool × Bool) := do
  skipToLineEnd tabs (← budget) false false

/-! ## Tokens and keys -/

/-- Puts a token last in the queue. -/
def push (m : Mark) (k : TokenKind) : Scan Unit :=
  modify fun s => { s with queue := s.queue ++ [⟨m, k⟩] }

/-- Puts a token at a position of the queue. -/
def insertAt (n : Nat) (t : Token) : Scan Unit :=
  modify fun s => { s with queue := s.queue.take n ++ t :: s.queue.drop n }

/-- Allows or forbids a simple key here. -/
def setKeyAllowed (b : Bool) : Scan Unit :=
  modify fun s => { s with keyAllowed := b }

/-- The possible simple key of the innermost flow level. -/
def topKey : Scan SimpleKey := do
  pure ((← get).keys.head?.getD {})

/-- Replaces the possible simple key of the innermost flow level. -/
def setTopKey (k : SimpleKey) : Scan Unit :=
  modify fun s => { s with keys := k :: s.keys.drop 1 }

/-- Forgets the possible simple key here; one that must be completed is a fault. -/
def removeKey : Scan Unit := do
  let k ← topKey
  if k.possible && k.required then failHere "simple key expected"
  setTopKey { k with possible := false }

/-- Whether the innermost column is a block's. -/
def blockColumn (s : Scanner) : Bool := (s.indents.head?.map (·.closesBlock)).getD false

/-- Remembers that a simple key may start here, with the token about to be cut. -/
def saveKey : Scan Unit := do
  let s ← get
  if s.keyAllowed then
    let required := s.flowLevel = 0 && s.indent == (s.mark.col : Int) && blockColumn s
    setTopKey { possible := true, required, tokenNumber := s.taken + s.queue.length, mark := s.mark }

/-- Whether a possible key is stale: a line or 1024 characters behind. -/
def isStale (k : SimpleKey) (m : Mark) : Bool :=
  k.possible && (k.mark.line < m.line || k.mark.index + 1024 < m.index)

/-- Drops the possible keys that are stale; in block context a stale key that must be completed
is a fault. -/
def staleKeys : Scan Unit := do
  let s ← get
  if s.flowLevel = 0 then
    if s.keys.any fun k => k.required && isStale k s.mark then failHere "simple key expect ':'"
    set { s with keys := s.keys.map fun k => if isStale k s.mark then { k with possible := false } else k }

/-! ## Indentation -/

/-- Leaves the columns right of `col`: the new column, the stack and how many blocks close. -/
def unrollFrom (col : Int) : Int → List Indent → Int × List Indent × Nat
  | indent, i :: rest =>
    if indent > col then
      let (a, b, n) := unrollFrom col i.column rest
      (a, b, n + if i.closesBlock then 1 else 0)
    else (indent, i :: rest, 0)
  | indent, [] => (indent, [], 0)

/-- Leaves the columns right of `col`, closing their blocks (in block context only). -/
def unrollIndent (col : Int) : Scan Unit := do
  let s ← get
  if s.flowLevel = 0 then
    let (indent, indents, n) := unrollFrom col s.indent s.indents
    set { s with indent, indents, queue := s.queue ++ List.replicate n ({ mark := s.mark, kind := .blockEnd } : Token) }

/-- Drops the provisional columns on top of the stack. -/
def dropProvisional : Int → List Indent → Int × List Indent
  | indent, i :: rest => if i.closesBlock then (indent, i :: rest) else dropProvisional i.column rest
  | indent, [] => (indent, [])

/-- Drops the provisional columns on top of the stack. -/
def unrollProvisional : Scan Unit :=
  modify fun s =>
    let (indent, indents) := dropProvisional s.indent s.indents
    { s with indent, indents }

/-- Opens a block at column `col` if it is right of the current one, with its start token
(inserted at token `number` when given, else last). -/
def rollIndent (col : Nat) (number : Option Nat) (kind : TokenKind) (m : Mark) : Scan Unit := do
  let s ← get
  if s.flowLevel = 0 then
    let (indent, indents) :=
      if s.indent ≤ col then
        match s.indents with
        | i :: rest => if !i.closesBlock then (i.column, rest) else (s.indent, s.indents)
        | [] => (s.indent, s.indents)
      else (s.indent, s.indents)
    if indent < col then do
      set { s with indent := col, indents := ⟨indent, true⟩ :: indents }
      match number with
      | some n => insertAt (n - s.taken) ⟨m, kind⟩
      | none => push m kind
    else set { s with indent, indents }

/-- Sets a provisional column one right of the current block's. -/
def rollOneColumn : Scan Unit :=
  modify fun s =>
    if s.flowLevel = 0 && blockColumn s then
      { s with indents := ⟨s.indent, false⟩ :: s.indents, indent := s.indent + 1 }
    else s

/-! ## Whitespace between tokens -/

/-- Skips blanks, line breaks and comments before the next token. A tab in a block's
indentation is a fault unless its line holds nothing else. -/
def skipToNextToken : Nat → Scan Unit
  | 0 => pure ()
  | fuel + 1 => do
    let s ← get
    let c ← charAt 0
    if c = '\t' ∧ !s.indents.isEmpty ∧ s.lineStart ∧ (s.mark.col : Int) < s.indent then do
      let _ ← skipToLineEnd true fuel false false
      if !isBreakZ (← charAt 0) then
        failHere "tabs disallowed within this context (block indentation)"
      skipToNextToken fuel
    else if isBlank c then do
      skipBlank
      skipToNextToken fuel
    else if isBreak c then do
      skipLineBreak
      if (← get).flowLevel = 0 then setKeyAllowed true
      skipToNextToken fuel
    else if c = '#' then do
      skipComment fuel
      skipToNextToken fuel
    else pure ()

/-! ## Directives -/

/-- Skips blanks. -/
def skipBlanks : Nat → Scan Unit
  | 0 => pure ()
  | fuel + 1 => do
    if isBlank (← charAt 0) then do
      skipBlank
      skipBlanks fuel
    else pure ()

/-- Reads a number of a version directive, of at most nine digits. -/
def versionNumber (m : Mark) : Nat → Nat → Nat → Scan Nat
  | 0, v, _ => pure v
  | fuel + 1, v, n => do
    let c ← charAt 0
    if c.isDigit then
      if n + 1 > 9 then fail m "while scanning a YAML directive, found extremely long version number"
      else do
        skipNonBlank
        versionNumber m fuel (10 * v + (c.toNat - '0'.toNat)) (n + 1)
    else if n = 0 then fail m "while scanning a YAML directive, did not find expected version number"
    else pure v

/-- Reads the characters of a percent escape in a tag: the UTF-8 octets of one character. -/
def uriEscapes (m : Mark) : Nat → Nat → Nat → Scan Char
  | 0, _, code => pure (Char.ofNat code)
  | fuel + 1, width, code => do
    let c ← charAt 0
    let hi ← charAt 1
    let lo ← charAt 2
    match c, hexValue? hi, hexValue? lo with
    | '%', some h, some l =>
      let byte := 16 * h + l
      let (width, code) ← if width = 0 then
          if byte &&& 0x80 = 0 then pure (1, byte)
          else if byte &&& 0xE0 = 0xC0 then pure (2, byte)
          else if byte &&& 0xF0 = 0xE0 then pure (3, byte)
          else if byte &&& 0xF8 = 0xF0 then pure (4, byte)
          else fail m "while parsing a tag, found an incorrect leading UTF-8 octet"
        else if byte &&& 0xC0 ≠ 0x80 then
          fail m "while parsing a tag, found an incorrect trailing UTF-8 octet"
        else pure (width, code * 256 + byte)
      skipNonBlanks 3
      if width - 1 = 0 then
        if code.isValidChar then pure (Char.ofNat code)
        else fail m "while parsing a tag, found an invalid UTF-8 codepoint"
      else uriEscapes m fuel (width - 1) code
    | _, _, _ => fail m "while parsing a tag, found an invalid escape sequence"

/-- Reads URI characters (with percent escapes) passing a test. -/
def uriChars (m : Mark) (p : Char → Bool) : Nat → String → Scan String
  | 0, acc => pure acc
  | fuel + 1, acc => do
    let c ← charAt 0
    if p c && c ≠ endChar then
      if c = '%' then do
        let e ← uriEscapes m fuel 0 0
        uriChars m p fuel (acc.push e)
      else do
        skipNonBlank
        uriChars m p fuel (acc.push c)
    else pure acc

/-- Reads a tag handle: `!`, `!!` or `!word!` (a `!word` outside a directive). -/
def tagHandle (directive : Bool) (m : Mark) : Scan String := do
  if (← charAt 0) ≠ '!' then fail m "while scanning a tag, did not find expected '!'"
  skipNonBlank
  let s ← takeWhile isAlpha (← budget) "!"
  if (← charAt 0) = '!' then do
    skipNonBlank
    pure (s.push '!')
  else if directive ∧ s ≠ "!" then
    fail m "while parsing a tag directive, did not find expected '!'"
  else pure s

/-- Reads the value of a `%YAML` directive. -/
def versionValue (m : Mark) : Scan Token := do
  skipBlanks (← budget)
  let major ← versionNumber m (← budget) 0 0
  if (← charAt 0) ≠ '.' then
    fail m "while scanning a YAML directive, did not find expected digit or '.' character"
  skipNonBlank
  let minor ← versionNumber m (← budget) 0 0
  pure ⟨m, .versionDirective major minor⟩

/-- Reads the value of a `%TAG` directive: a handle and the URI it stands for. -/
def tagDirectiveValue (m : Mark) : Scan Token := do
  skipBlanks (← budget)
  let handle ← tagHandle true m
  skipBlanks (← budget)
  let first ← charAt 0
  let start ← if first = '!' then do
      skipNonBlank
      pure "!"
    else if !isTagChar first then fail m "invalid global tag character"
    else if first = '%' then do
      let e ← uriEscapes m (← budget) 0 0
      pure (String.singleton e)
    else do
      skipNonBlank
      pure (String.singleton first)
  let uri ← uriChars m isUriChar (← budget) start
  if isBlankZ (← charAt 0) then pure ⟨m, .tagDirective handle uri⟩
  else fail m "while scanning TAG, did not find expected whitespace or line break"

/-- Reads a directive line. A directive other than `%YAML` and `%TAG` is skipped. -/
def directive : Scan Token := do
  let m ← here
  skipNonBlank
  let name ← takeWhile isAlpha (← budget) ""
  if name.isEmpty then fail m "while scanning a directive, could not find expected directive name"
  if !isBlankZ (← charAt 0) then
    fail m "while scanning a directive, found unexpected non-alphabetical character"
  let tok ← if name = "YAML" then versionValue m
    else if name = "TAG" then tagDirectiveValue m
    else do
      skipComment (← budget)
      pure ⟨m, .tagDirective "" ""⟩
  let _ ← lineEnd true
  if !isBreakZ (← charAt 0) then
    fail m "while scanning a directive, did not find expected comment or line break"
  skipLineBreak
  pure tok

/-! ## Anchors and tags -/

/-- Reads an anchor `&name` or an alias `*name`. -/
def anchor (isAlias : Bool) : Scan Token := do
  let m ← here
  skipNonBlank
  let name ← takeWhile isAnchorChar (← budget) ""
  if name.isEmpty then
    fail m "while scanning an anchor or alias, did not find expected alphabetic or numeric character"
  pure ⟨m, if isAlias then .alias name else .anchor name⟩

/-- Reads a tag: `!<uri>`, `!suffix`, `!!suffix`, `!handle!suffix`, or `!` alone. -/
def tag : Scan Token := do
  let m ← here
  let (handle, suffix) ← if (← charAt 1) = '<' then do
      skipNonBlanks 2
      let uri ← uriChars m isUriChar (← budget) ""
      if (← charAt 0) ≠ '>' then
        fail m "while scanning a verbatim tag, did not find the expected '>'"
      skipNonBlank
      pure ("", uri)
    else do
      let handle ← tagHandle false m
      let named := handle.length ≥ 2 && handle.startsWith "!" && handle.endsWith "!"
      let head := if named then "" else handle
      let suffix ← uriChars m isTagChar (← budget) (String.ofList (head.toList.drop 1))
      if head.isEmpty ∧ suffix.isEmpty then
        fail m "while parsing a tag, did not find expected tag URI"
      if named then pure (handle, suffix)
      else if suffix.isEmpty then pure ("", "!")
      else pure ("!", suffix)
  let c ← charAt 0
  if isBlankZ c || ((← get).flowLevel > 0 && isFlow c) then pure ⟨m, .tag handle suffix⟩
  else fail m "while scanning a tag, did not find expected whitespace or line break"

/-! ## Scalars -/

/-- The state of folding a scalar's lines: the text so far, blanks not yet kept, the first line
break of a gap and the breaks after it, and whether the scanner is in a gap after a break. -/
structure Folding where
  text : String := ""
  spaces : String := ""
  leadingBreak : String := ""
  trailingBreaks : String := ""
  leadingBlanks : Bool := false
  deriving Repr, Inhabited

/-- Closes a gap before more content: a single line break folds into a space, more breaks keep
all but the first; blanks without a break are kept. -/
def Folding.join (f : Folding) : Folding :=
  if f.leadingBlanks then
    if f.leadingBreak.isEmpty then
      { f with text := f.text ++ f.trailingBreaks, trailingBreaks := "", leadingBlanks := false }
    else if f.trailingBreaks.isEmpty then
      { f with text := f.text.push ' ', leadingBreak := "", leadingBlanks := false }
    else
      { f with text := f.text ++ f.trailingBreaks, trailingBreaks := "", leadingBreak := "",
               leadingBlanks := false }
  else { f with text := f.text ++ f.spaces, spaces := "" }

/-- Whether the next characters are a document marker (`---` or `...` then a blank) at the start
of a line. -/
def atDocumentMarker : Scan Bool := do
  let m ← here
  let a ← charAt 0
  let b ← charAt 1
  let c ← charAt 2
  let d ← charAt 3
  pure (m.col = 0 && ((a = '-' && b = '-' && c = '-') || (a = '.' && b = '.' && c = '.')) && isBlankZ d)

/-- The characters of a plain scalar up to a blank or an indicator that ends it. -/
def plainWord : Nat → Folding → Scan Folding
  | 0, f => pure f
  | fuel + 1, f => do
    let c ← charAt 0
    let d ← charAt 1
    let flow := (← get).flowLevel > 0
    if isBlankZ c then pure f
    else if c = ':' ∧ (isBlankZ d || (flow && isFlow d)) then pure f
    else if flow ∧ isFlow c then pure f
    else do
      let f := f.join
      skipNonBlank
      plainWord fuel { f with text := f.text.push c }

/-- The blanks and line breaks after a word of a plain scalar. -/
def plainGap (start : Mark) (indent : Int) : Nat → Folding → Scan Folding
  | 0, f => pure f
  | fuel + 1, f => do
    let c ← charAt 0
    if isBlank c then
      if !f.leadingBlanks then do
        skipBlank
        plainGap start indent fuel { f with spaces := f.spaces.push c }
      else if ((← here).col : Int) < indent ∧ c = '\t' then do
        let _ ← skipToLineEnd true fuel false false
        if !isBreakZ (← charAt 0) then fail start "while scanning a plain scalar, found a tab"
        plainGap start indent fuel f
      else do
        skipBlank
        plainGap start indent fuel f
    else if isBreak c then do
      skipLineBreak
      if f.leadingBlanks then
        plainGap start indent fuel { f with trailingBreaks := f.trailingBreaks.push '\n' }
      else plainGap start indent fuel { f with spaces := "", leadingBreak := "\n", leadingBlanks := true }
    else pure f

/-- The lines of a plain scalar. -/
def plainLines (start : Mark) (indent : Int) : Nat → Folding → Scan Folding
  | 0, f => pure f
  | fuel + 1, f => do
    if (← atDocumentMarker) || (← charAt 0) = '#' then pure f
    else if (← get).flowLevel > 0 ∧ (← charAt 0) = '-' ∧ isFlow (← charAt 1) then
      failHere "plain scalar cannot start with '-' followed by ,[]\x7b\x7d"
    else do
      let f ← plainWord fuel f
      let c ← charAt 0
      if !(isBlank c || isBreak c) then pure f
      else do
        let f ← plainGap start indent fuel f
        let s ← get
        if s.flowLevel = 0 ∧ (s.mark.col : Int) < indent then pure f
        else plainLines start indent fuel f

/-- Reads a plain scalar. -/
def plainScalar : Scan Token := do
  unrollProvisional
  let s ← get
  let indent := s.indent + 1
  let start := s.mark
  if s.flowLevel > 0 ∧ (start.col : Int) < indent then
    fail start "invalid indentation in flow construct"
  let f ← plainLines start indent (← budget) {}
  if f.leadingBlanks then setKeyAllowed true
  pure ⟨start, .scalar .plain f.text⟩

/-- The character a one-letter escape of a double-quoted scalar stands for. -/
def simpleEscape : Char → Option Char
  | '0' => some '\x00'
  | 'a' => some '\x07'
  | 'b' => some '\x08'
  | 't' => some '\t'
  | '\t' => some '\t'
  | 'n' => some '\n'
  | 'v' => some '\x0b'
  | 'f' => some '\x0c'
  | 'r' => some '\r'
  | 'e' => some '\x1b'
  | ' ' => some ' '
  | '"' => some '"'
  | '/' => some '/'
  | '\\' => some '\\'
  | 'N' => some '\u0085'
  | '_' => some '\u00A0'
  | 'L' => some '\u2028'
  | 'P' => some '\u2029'
  | _ => none

/-- Reads hexadecimal digits of an escape. -/
def escapeDigits (start : Mark) : Nat → Nat → Nat → Scan Nat
  | 0, _, v => pure v
  | n + 1, k, v => do
    match hexValue? (← charAt k) with
    | some d => escapeDigits start n (k + 1) (16 * v + d)
    | none => fail start "while parsing a quoted scalar, did not find expected hexadecimal number"

/-- Reads an escape of a double-quoted scalar, at its backslash. -/
def escape (start : Mark) : Scan Char := do
  let d ← charAt 1
  let width := if d = 'x' then 2 else if d = 'u' then 4 else if d = 'U' then 8 else 0
  match simpleEscape d with
  | some e => do
    skipNonBlanks 2
    pure e
  | none =>
    if width = 0 then fail start "while parsing a quoted scalar, found unknown escape character"
    else do
      skipNonBlanks 2
      let v ← escapeDigits start width 0 0
      if !v.isValidChar then
        fail start "while parsing a quoted scalar, found invalid Unicode character escape code"
      skipNonBlanks width
      pure (Char.ofNat v)

/-- The characters of a quoted scalar up to a blank or its closing quote. -/
def quotedWord (single : Bool) (start : Mark) : Nat → Folding → Scan Folding
  | 0, f => pure f
  | fuel + 1, f => do
    let c ← charAt 0
    let d ← charAt 1
    if isBlankZ c then pure f
    else if single ∧ c = '\'' ∧ d = '\'' then do
      skipNonBlanks 2
      quotedWord single start fuel { f with text := f.text.push '\'' }
    else if (single ∧ c = '\'') ∨ (!single ∧ c = '"') then pure f
    else if !single ∧ c = '\\' ∧ isBreak d then do
      skipNonBlank
      skipLineBreak
      pure { f with leadingBlanks := true }
    else if !single ∧ c = '\\' then do
      let e ← escape start
      quotedWord single start fuel { f with text := f.text.push e }
    else do
      skipNonBlank
      quotedWord single start fuel { f with text := f.text.push c }

/-- The blanks and line breaks inside a quoted scalar. -/
def quotedGap : Nat → Folding → Scan Folding
  | 0, f => pure f
  | fuel + 1, f => do
    let c ← charAt 0
    if isBlank c then
      if f.leadingBlanks then do
        if c = '\t' ∧ ((← here).col : Int) < (← get).indent then
          failHere "tab cannot be used as indentation"
        skipBlank
        quotedGap fuel f
      else do
        skipBlank
        quotedGap fuel { f with spaces := f.spaces.push c }
    else if isBreak c then do
      skipLineBreak
      if f.leadingBlanks then quotedGap fuel { f with trailingBreaks := f.trailingBreaks.push '\n' }
      else quotedGap fuel { f with spaces := "", leadingBreak := "\n", leadingBlanks := true }
    else pure f

/-- Closes the gap inside a quoted scalar. -/
def Folding.fold (f : Folding) : Folding :=
  if f.leadingBlanks then
    if f.leadingBreak.isEmpty then { f with text := f.text ++ f.trailingBreaks, trailingBreaks := "" }
    else if f.trailingBreaks.isEmpty then { f with text := f.text.push ' ', leadingBreak := "" }
    else { f with text := f.text ++ f.trailingBreaks, trailingBreaks := "", leadingBreak := "" }
  else { f with text := f.text ++ f.spaces, spaces := "" }

/-- The lines of a quoted scalar, up to its closing quote. -/
def quotedLines (single : Bool) (start : Mark) : Nat → Folding → Scan Folding
  | 0, f => pure f
  | fuel + 1, f => do
    if ← atDocumentMarker then
      fail start "while scanning a quoted scalar, found unexpected document indicator"
    let c ← charAt 0
    if c = endChar then fail start "while scanning a quoted scalar, found unexpected end of stream"
    if ((← here).col : Int) < (← get).indent then fail start "invalid indentation in quoted scalar"
    let f ← quotedWord single start fuel { f with leadingBlanks := false }
    let c ← charAt 0
    if (single ∧ c = '\'') ∨ (!single ∧ c = '"') then pure f
    else do
      let f ← quotedGap fuel f
      quotedLines single start fuel f.fold

/-- Reads a quoted scalar; after its closing quote only a comment, a line break, a `:` or (in
flow context) a flow indicator may follow. -/
def quotedScalar (single : Bool) : Scan Token := do
  let start ← here
  skipNonBlank
  let f ← quotedLines single start (← budget) {}
  skipNonBlank
  let _ ← lineEnd true
  let c ← charAt 0
  let s ← get
  let fits := (s.flowLevel > 0 && (c = ',' || c = '\x7d' || c = ']')) || isBreakZ c ||
    (c = ':' && (s.flowLevel > 0 || start.line = s.mark.line))
  if !fits then failHere "invalid trailing content after double-quoted scalar"
  pure ⟨start, .scalar (if single then .singleQuoted else .doubleQuoted) f.text⟩

/-- What becomes of a block scalar's final line breaks. -/
inductive Chomping where
  | strip
  | clip
  | keep
  deriving DecidableEq, Repr, Inhabited

/-- The chomping an indicator names. -/
def Chomping.ofChar (c : Char) : Chomping := if c = '+' then .keep else .strip

/-- How many characters the stream looks at ahead when it skips a block scalar's indentation. -/
def lookaheadSize : Nat := 16

/-- How many characters of a block scalar's line the stream has looked at ahead once it skipped
`k` spaces of the line's indentation to column `indent`. A narrow indentation is skipped within
one lookahead; a wide one takes a lookahead for every `lookaheadSize` spaces, then at least two
characters. -/
def lookedAhead (indent k : Nat) : Nat :=
  if indent + 2 < lookaheadSize then lookaheadSize - k
  else if k > 0 ∧ k % lookaheadSize = 0 ∧ k = indent then 2
  else max 2 (lookaheadSize - k % lookaheadSize)

/-- Skips spaces up to column `indent` and the empty lines after, collecting their breaks; also
returns how many characters of the next line were looked at ahead. -/
def blockIndent (indent : Nat) : Nat → String → Scan (String × Nat)
  | 0, b => pure (b, lookaheadSize)
  | fuel + 1, b => do
    let start := (← here).col
    let _ ← skipSpacesTo fuel
    if isBreak (← charAt 0) then do
      skipLineBreak
      blockIndent indent fuel (b.push '\n')
    else pure (b, lookedAhead indent ((← here).col - start))
where
  /-- Skips spaces while left of the column. -/
  skipSpacesTo : Nat → Scan Unit
    | 0 => pure ()
    | fuel + 1 => do
      if (← here).col < indent ∧ (← charAt 0) = ' ' then do
        skipBlank
        skipSpacesTo fuel
      else pure ()

/-- Skips the empty lines before a block scalar's first content line, and finds its
indentation: the widest of those lines, and at least one right of the current block. -/
def firstLineIndent : Nat → Nat → String → Scan (Nat × String)
  | 0, widest, b => finish widest b
  | fuel + 1, widest, b => do
    skipSpaces fuel
    let widest := max widest (← here).col
    if isBreak (← charAt 0) then do
      skipLineBreak
      firstLineIndent fuel widest (b.push '\n')
    else finish widest b
where
  /-- Skips spaces. -/
  skipSpaces : Nat → Scan Unit
    | 0 => pure ()
    | fuel + 1 => do
      if (← charAt 0) = ' ' then do
        skipBlank
        skipSpaces fuel
      else pure ()
  /-- The indentation found. -/
  finish (widest : Nat) (b : String) : Scan (Nat × String) := do
    let s ← get
    let i := max widest (s.indent + 1).toNat
    pure (if s.indent > 0 then max i 1 else i, b)

/-- The state of reading a block scalar's lines: the text, the break after the last line, the
empty lines after it, whether the last line started with a blank, and how many characters of
the next line were looked at ahead. -/
structure BlockLines where
  text : String
  leadingBreak : String
  trailingBreaks : String
  leadingBlank : Bool
  lookedAhead : Nat
  deriving Repr, Inhabited

/-- Reads the rest of a block scalar's line, of which `ahead` characters were looked at ahead:
those count one each in the mark's index, the ones after them their UTF-8 bytes. -/
def restOfLine : Nat → Nat → String → Scan String
  | 0, _, acc => pure acc
  | fuel + 1, ahead, acc => do
    let c ← charAt 0
    if isBreakZ c then pure acc
    else do
      if ahead = 0 then skipWide c else skipNonBlank
      restOfLine fuel (ahead - 1) (acc.push c)

/-- Reads the content lines of a block scalar at column `indent`. A folded scalar joins two
lines that do not start with a blank by a space, or by the empty lines between them. -/
def blockLines (literal : Bool) (indent : Nat) : Nat → BlockLines → Scan BlockLines
  | 0, st => pure st
  | fuel + 1, st => do
    let m ← here
    let c ← charAt 0
    if m.col ≠ indent ∨ c = endChar then pure st
    else if indent = 0 ∧ (← atDocumentMarker) then pure st
    else do
      let text := if !literal && !st.leadingBreak.isEmpty && !st.leadingBlank && !isBlank c then
          st.text ++ st.trailingBreaks ++ (if st.trailingBreaks.isEmpty then " " else "")
        else st.text ++ st.leadingBreak ++ st.trailingBreaks
      let ahead := if indent = 0 then max st.lookedAhead 4 else st.lookedAhead
      let text ← restOfLine fuel ahead text
      if (← charAt 0) = endChar then pure ⟨text, "", "", isBlank c, 0⟩
      else do
        skipLineBreak
        let (trailing, ahead) ← blockIndent indent fuel ""
        blockLines literal indent fuel ⟨text, "\n", trailing, isBlank c, ahead⟩

/-- Reads the header of a block scalar after its indicator: the chomping and the indentation
increment. -/
def blockHeader (start : Mark) : Scan (Chomping × Nat) := do
  let c ← charAt 0
  let zero := "while scanning a block scalar, found an indentation indicator equal to 0"
  if c = '+' ∨ c = '-' then do
    skipNonBlank
    let d ← charAt 0
    if d.isDigit then
      if d = '0' then fail start zero
      else do
        skipNonBlank
        pure (Chomping.ofChar c, d.toNat - '0'.toNat)
    else pure (Chomping.ofChar c, 0)
  else if c.isDigit then
    if c = '0' then fail start zero
    else do
      skipNonBlank
      let d ← charAt 0
      if d = '+' ∨ d = '-' then do
        skipNonBlank
        pure (Chomping.ofChar d, c.toNat - '0'.toNat)
      else pure (.clip, c.toNat - '0'.toNat)
  else pure (.clip, 0)

/-- Reads a block scalar, literal or folded. -/
def blockScalar (literal : Bool) : Scan Token := do
  let start ← here
  let style := if literal then ScalarStyle.literal else .folded
  skipNonBlank
  unrollProvisional
  let (chomp, increment) ← blockHeader start
  let _ ← lineEnd true
  if !isBreakZ (← charAt 0) then
    fail start "while scanning a block scalar, did not find expected comment or line break"
  let chompBreak := if isBreak (← charAt 0) then "\n" else ""
  skipLineBreak
  if (← charAt 0) = '\t' then fail start "a block scalar content cannot start with a tab"
  let s ← get
  let given : Nat := if increment > 0 then
      (if s.indent ≥ 0 then (s.indent + increment).toNat else increment) else 0
  let (indent, breaks, ahead) ← if given = 0 then do
      let (i, b) ← firstLineIndent (← budget) 0 ""
      pure (i, b, 1)
    else do
      let (b, ahead) ← blockIndent given (← budget) ""
      pure (given, b, ahead)
  if (← charAt 0) = endChar then
    let line := (← here).line
    let contents := match chomp with
      | .strip => ""
      | .clip => if line = start.line then "" else chompBreak
      | .keep => if line = start.line then "" else if breaks.isEmpty then chompBreak else breaks
    pure ⟨start, .scalar style contents⟩
  else do
    let s ← get
    if s.mark.col < indent ∧ (s.mark.col : Int) > s.indent then
      failHere "wrongly indented line in block scalar"
    let st ← blockLines literal indent (← budget) ⟨"", "", breaks, false, ahead⟩
    let m ← here
    let atEnd := (← charAt 0) = endChar
    let text := if chomp = .strip then st.text
      else st.text ++ st.leadingBreak ++ (if atEnd ∧ m.col ≥ max indent 1 then "\n" else "")
    let text := if chomp = .keep then text ++ st.trailingBreaks else text
    pure ⟨start, .scalar style text⟩

/-! ## Cutting tokens -/

/-- Cuts the stream's start. -/
def streamStart : Scan Unit := do
  let m ← here
  modify fun s => { s with indent := -1, started := true, keyAllowed := true, keys := [{}] }
  push m .streamStart

/-- Cuts the stream's end, closing every block; a key that must be completed is a fault. -/
def streamEnd : Scan Unit := do
  let s ← get
  let m := if s.mark.col ≠ 0 then ⟨s.mark.index, s.mark.line + 1, 0⟩ else s.mark
  set { s with mark := m }
  if s.keys.any fun k => k.required && k.possible then fail m "simple key expected"
  modify fun s => { s with keys := s.keys.map fun k => { k with possible := false } }
  unrollIndent (-1)
  removeKey
  setKeyAllowed false
  push m .streamEnd

/-- Cuts a directive. -/
def fetchDirective : Scan Unit := do
  unrollIndent (-1)
  removeKey
  setKeyAllowed false
  let t ← directive
  push t.mark t.kind

/-- Cuts a document marker. -/
def documentMarker (kind : TokenKind) : Scan Unit := do
  unrollIndent (-1)
  removeKey
  setKeyAllowed false
  let m ← here
  skipNonBlanks 3
  push m kind

/-- Closes the mapping without braces open in the innermost flow sequence, if one is. -/
def closePair : Scan Unit := do
  let s ← get
  match s.pairs with
  | true :: rest => do
    set { s with pairs := false :: rest, mappingOpened := false }
    push s.mark .flowMappingEnd
  | _ => pure ()

/-- Cuts the opening of a flow collection, which may start a key. -/
def flowStart (kind : TokenKind) : Scan Unit := do
  saveKey
  rollOneColumn
  modify fun s => { s with keys := {} :: s.keys, flowLevel := s.flowLevel + 1 }
  setKeyAllowed true
  let m ← here
  skipNonBlank
  modify fun s =>
    if kind = .flowMappingStart then { s with mappingOpened := true }
    else { s with pairs := false :: s.pairs }
  let _ ← lineEnd true
  push m kind

/-- Cuts the closing of a flow collection; a sequence's closing first closes its mapping without
braces. -/
def flowEnd (kind : TokenKind) : Scan Unit := do
  removeKey
  modify fun s =>
    if s.flowLevel > 0 then { s with flowLevel := s.flowLevel - 1, keys := s.keys.drop 1 } else s
  setKeyAllowed false
  if kind = .flowSequenceEnd then do
    closePair
    modify fun s => { s with pairs := s.pairs.drop 1 }
  else modify fun s => { s with mappingOpened := false }
  let m ← here
  skipNonBlank
  let _ ← lineEnd true
  let s ← get
  if s.flowLevel > 0 then set { s with adjacentValueAt := s.mark.index }
  push m kind

/-- Cuts a `,` between flow entries, which closes a mapping without braces. -/
def flowEntry : Scan Unit := do
  removeKey
  setKeyAllowed true
  closePair
  let m ← here
  skipNonBlank
  let _ ← lineEnd true
  push m .flowEntry

/-- Cuts a `-` block entry, which may open a block sequence. -/
def blockEntry : Scan Unit := do
  let s ← get
  if s.flowLevel > 0 then failHere "\"-\" is only valid inside a block"
  if !s.keyAllowed then failHere "block sequence entries are not allowed in this context"
  match s.queue.getLast? with
  | some ⟨m, .anchor _⟩ | some ⟨m, .tag _ _⟩ =>
    if s.mark.col = 0 ∧ m.col = 0 ∧ s.indent > -1 then fail m "invalid indentation for anchor"
  | _ => pure ()
  let m ← here
  skipNonBlank
  rollIndent m.col none .blockSequenceStart m
  let (tabs, _) ← lineEnd true
  if tabs ∧ (← charAt 0) = '-' ∧ isBlankZ (← charAt 1) then
    failHere "'-' must be followed by a valid YAML whitespace"
  let _ ← lineEnd false
  let c ← charAt 0
  if isBreak c || isFlow c then rollOneColumn
  removeKey
  setKeyAllowed true
  push (← here) .blockEntry

/-- Skips the spaces, line breaks and comments after a `?`, of which a space or a line break
must be one. -/
def keySpacing : Nat → Bool → Scan Unit
  | 0, _ => pure ()
  | fuel + 1, spaced => do
    let c ← charAt 0
    if c = ' ' then do
      skipBlank
      keySpacing fuel true
    else if isBreak c then do
      skipLineBreak
      keySpacing fuel true
    else if c = '#' then do
      skipComment fuel
      keySpacing fuel spaced
    else if !spaced then failHere "expected whitespace"
    else pure ()

/-- Cuts a `?` key indicator, which may open a block mapping. The spacing after it may not hold
a tab. -/
def complexKey : Scan Unit := do
  let s ← get
  let m := s.mark
  if s.flowLevel = 0 then
    if !s.keyAllowed then fail m "mapping keys are not allowed in this context"
    rollIndent m.col none .blockMappingStart m
  else set { s with mappingOpened := true }
  removeKey
  setKeyAllowed ((← get).flowLevel = 0)
  skipNonBlank
  keySpacing (← budget) false
  if (← charAt 0) = '\t' then failHere "tabs disallowed in this context"
  push m .key

/-- Cuts a `:` value indicator. After a possible simple key it inserts the key token (and opens
a block mapping at the key's column); otherwise the key was written with `?` or is empty. In a
flow sequence it also opens a mapping without braces, before the key or after itself. -/
def valueIndicator : Scan Unit := do
  let k ← topKey
  let start ← here
  let s ← get
  let paired := !s.pairs.isEmpty && !s.mappingOpened
  if paired then set { s with pairs := true :: s.pairs.drop 1 }
  skipNonBlank
  if (← charAt 0) = '\t' then do
    let (_, spaced) ← lineEnd true
    let c ← charAt 0
    if !spaced ∧ (c = '-' || isAlpha c) then failHere "':' must be followed by a valid YAML whitespace"
  if k.possible then do
    insertAt (k.tokenNumber - (← get).taken) ⟨k.mark, .key⟩
    if paired then
      if k.mark.line < start.line then fail start "illegal placement of ':' indicator"
      insertAt (k.tokenNumber - (← get).taken) ⟨k.mark, .flowMappingStart⟩
    rollIndent k.mark.col (some k.tokenNumber) .blockMappingStart start
    rollOneColumn
    setTopKey { k with possible := false }
    setKeyAllowed false
  else do
    if paired then push (← here) .flowMappingStart
    let s ← get
    if s.flowLevel = 0 then
      if !s.keyAllowed then fail start "mapping values are not allowed in this context"
      rollIndent start.col none .blockMappingStart start
    rollOneColumn
    setKeyAllowed ((← get).flowLevel = 0)
  push start .value

/-- Cuts the next token. -/
def fetchNextToken : Scan Unit := do
  if !(← get).started then streamStart
  else do
    skipToNextToken (← budget)
    staleKeys
    let m ← here
    unrollIndent m.col
    let c ← charAt 0
    let d ← charAt 1
    let s ← get
    if c = endChar then streamEnd
    else if m.col = 0 ∧ c = '%' then fetchDirective
    else if (← atDocumentMarker) ∧ c = '-' then documentMarker .documentStart
    else if (← atDocumentMarker) ∧ c = '.' then do
      documentMarker .documentEnd
      let _ ← lineEnd true
      if !isBreakZ (← charAt 0) then failHere "invalid content after document end marker"
    else if (m.col : Int) < s.indent then fail m "invalid indentation"
    else if c = '[' then flowStart .flowSequenceStart
    else if c = '\x7b' then flowStart .flowMappingStart
    else if c = ']' then flowEnd .flowSequenceEnd
    else if c = '\x7d' then flowEnd .flowMappingEnd
    else if c = ',' then flowEntry
    else if c = '-' ∧ isBlankZ d then blockEntry
    else if c = '?' ∧ isBlankZ d then complexKey
    else if c = ':' ∧ isBlankZ d then valueIndicator
    else if c = ':' ∧ s.flowLevel > 0 ∧ (isFlow d || m.index = s.adjacentValueAt) then valueIndicator
    else if c = '*' ∨ c = '&' then do
      saveKey
      setKeyAllowed false
      let t ← anchor (c = '*')
      push t.mark t.kind
    else if c = '!' then do
      saveKey
      setKeyAllowed false
      let t ← tag
      push t.mark t.kind
    else if (c = '|' ∨ c = '>') ∧ s.flowLevel = 0 then do
      saveKey
      setKeyAllowed true
      let t ← blockScalar (c = '|')
      push t.mark t.kind
    else if c = '\'' ∨ c = '"' then do
      saveKey
      setKeyAllowed false
      let t ← quotedScalar (c = '\'')
      skipToNextToken (← budget)
      modify fun s => { s with adjacentValueAt := s.mark.index }
      push t.mark t.kind
    else if c = '%' ∨ c = '@' ∨ c = '`' then
      fail m ("unexpected character: `" ++ String.singleton c ++ "'")
    else do
      saveKey
      setKeyAllowed false
      let t ← plainScalar
      push t.mark t.kind

/-- Whether the front of the queue may not be handed out yet: the queue is empty, or its front
may still become a key. -/
def needMore : Scan Bool := do
  if (← get).queue.isEmpty then pure true
  else do
    staleKeys
    let s ← get
    pure (s.keys.any fun k => k.possible && k.tokenNumber = s.taken)

/-- Cuts tokens until the front of the queue may be handed out. -/
def fetchMore : Nat → Scan Unit
  | 0 => pure ()
  | fuel + 1 => do
    if ← needMore then do
      fetchNextToken
      fetchMore fuel
    else modify fun s => { s with ready := true }

/-- Hands out the next token; none after the stream's end. -/
def nextToken : Scan (Option Token) := do
  if (← get).ended then pure none
  else do
    if !(← get).ready then fetchMore (← budget)
    let s ← get
    match s.queue with
    | [] => failHere "did not find expected next token"
    | t :: rest => do
      set { s with queue := rest, ready := false, taken := s.taken + 1,
                   ended := t.kind == TokenKind.streamEnd }
      pure (some t)

end Scan

end Yaml

end RingIdentity
