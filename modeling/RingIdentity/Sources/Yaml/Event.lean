import RingIdentity.Sources.Yaml.Token.Stream
/-!
# YAML events

The events of a YAML stream: the starts and ends of the stream, its documents and its
collections, and its scalars and aliases, each with the place it stands for. Events are read one
at a time from the token stream, by a state machine whose states say what the grammar expects
next; a stack of states says where to return once a nested node is read.

A node may carry an anchor (numbered from one in order of appearance; an anchor name may be
reused, and then names the later node) and a tag, resolved against the document's `%TAG`
directives: `!!` stands for `tag:yaml.org,2002:`, `!x` is a local tag, and a named handle must
be declared. A node that is missing where the grammar wants one (an empty value, an empty key)
is the plain scalar `~`; one that has a tag but no content is the empty plain scalar, which its
tag then reads.

A directive after a document that has no end marker is a fault, as are an alias to an anchor not
yet seen and every token the grammar does not expect where it stands.
-/
namespace RingIdentity

namespace Yaml

/-- A resolved tag: what its handle stands for, and its suffix. -/
structure Tag where
  handle : String
  suffix : String
  deriving DecidableEq, Repr, Inhabited

/-- The events of a YAML stream. -/
inductive Event where
  | streamStart
  | streamEnd
  | documentStart (explicit : Bool)
  | documentEnd
  | alias (id : Nat)
  | scalar (text : String) (style : ScalarStyle) (anchor : Nat) (tag : Option Tag)
  | sequenceStart (anchor : Nat) (tag : Option Tag)
  | sequenceEnd
  | mappingStart (anchor : Nat) (tag : Option Tag)
  | mappingEnd
  deriving DecidableEq, Repr, Inhabited

/-- The scalar that stands for a missing node. -/
def Event.empty : Event := .scalar "~" .plain 0 none

/-- What the grammar expects next. -/
inductive ParseState where
  | streamStart
  | implicitDocumentStart
  | documentStart
  | documentContent
  | documentEnd
  | blockNode
  | blockMappingFirstKey
  | blockMappingKey
  | blockMappingValue
  | blockSequenceFirstEntry
  | blockSequenceEntry
  | indentlessSequenceEntry
  | flowSequenceFirstEntry
  | flowSequenceEntry
  | flowSequenceEntryMappingKey
  | flowSequenceEntryMappingValue
  | flowSequenceEntryMappingEnd
  | flowMappingFirstKey
  | flowMappingKey
  | flowMappingValue
  | flowMappingEmptyValue
  | finished
  deriving DecidableEq, Repr, Inhabited

/-- The state of reading events: the token stream, the token looked at, the expected part and
the parts to return to, the anchors of the document, and its tag directives. -/
structure Parser where
  scanner : Scanner
  current : Option Token := none
  state : ParseState := .streamStart
  states : List ParseState := []
  anchors : List (String × Nat) := []
  nextAnchor : Nat := 1
  tags : List (String × String) := []
  deriving Inhabited

/-- A step of reading events, which may fail. -/
abbrev Parse := StateT Parser (Except ScanError)

namespace Parse

/-- Runs a step of the token stream. -/
def scan {α : Type} (x : Scan α) : Parse α := fun p => do
  let (a, sc) ← x.run p.scanner
  pure (a, { p with scanner := sc })

/-- The next token, left unread. -/
def peekToken : Parse Token := do
  match (← get).current with
  | some t => pure t
  | none =>
    match ← scan Scan.nextToken with
    | some t => do
      modify fun p => { p with current := some t }
      pure t
    | none => throw ⟨(← get).scanner.mark, "unexpected eof"⟩

/-- Drops the token looked at. -/
def skipToken : Parse Unit := modify fun p => { p with current := none }

/-- Sets what the grammar expects next. -/
def setState (st : ParseState) : Parse Unit := modify fun p => { p with state := st }

/-- Remembers a state to return to. -/
def pushState (st : ParseState) : Parse Unit := modify fun p => { p with states := st :: p.states }

/-- Returns to the last remembered state. -/
def popState : Parse Unit :=
  modify fun p =>
    match p.states with
    | st :: rest => { p with state := st, states := rest }
    | [] => p

/-- Fails at a place. -/
def fail {α : Type} (m : Mark) (info : String) : Parse α := throw ⟨m, info⟩

/-- Numbers an anchor. -/
def registerAnchor (name : String) : Parse Nat := do
  let p ← get
  set { p with anchors := (name, p.nextAnchor) :: p.anchors, nextAnchor := p.nextAnchor + 1 }
  pure p.nextAnchor

/-- Resolves a tag's handle. -/
def resolveTag (m : Mark) (handle suffix : String) : Parse Tag := do
  let tags := (← get).tags
  if handle = "!!" then pure ⟨(tags.lookup "!!").getD "tag:yaml.org,2002:", suffix⟩
  else if handle.isEmpty ∧ suffix = "!" then pure ⟨(tags.lookup "").getD "", suffix⟩
  else match tags.lookup handle with
    | some uri => pure ⟨uri, suffix⟩
    | none =>
      if handle.length ≥ 2 ∧ handle.startsWith "!" ∧ handle.endsWith "!" then
        fail m "the handle wasn't declared"
      else pure ⟨handle, suffix⟩

/-- Reads the directives before a document; each replaces the tag directives known. -/
def processDirectives : Nat → Bool → Parse Unit
  | 0, _ => pure ()
  | fuel + 1, versionSeen => do
    let t ← peekToken
    match t.kind with
    | .versionDirective _ _ => do
      if versionSeen then fail t.mark "duplicate version directive"
      modify fun p => { p with tags := [] }
      skipToken
      processDirectives fuel true
    | .tagDirective handle uri => do
      modify fun p => { p with tags := [(handle, uri)] }
      skipToken
      processDirectives fuel versionSeen
    | _ => pure ()

/-- How many steps a loop over tokens may take. -/
def budget : Parse Nat := do
  pure (2 * (← get).scanner.input.size + 8)

/-- Skips document end markers. -/
def skipDocumentEnds : Nat → Parse Unit
  | 0 => pure ()
  | fuel + 1 => do
    if (← peekToken).kind = .documentEnd then do
      skipToken
      skipDocumentEnds fuel
    else pure ()

/-- Whether a token is a directive. -/
def TokenKind.isDirective : TokenKind → Bool
  | .versionDirective _ _ | .tagDirective _ _ => true
  | _ => false

/-- The start of a document with a `---` marker. -/
def explicitDocumentStart : Parse (Event × Mark) := do
  processDirectives (← budget) false
  let t ← peekToken
  if t.kind = .documentStart then do
    pushState .documentEnd
    setState .documentContent
    skipToken
    pure (.documentStart true, t.mark)
  else fail t.mark "did not find expected <document start>"

/-- The start of a document, or of the stream's end. -/
def documentStart (implicit : Bool) : Parse (Event × Mark) := do
  skipDocumentEnds (← budget)
  let t ← peekToken
  if t.kind = .streamEnd then do
    setState .finished
    skipToken
    pure (.streamEnd, t.mark)
  else if TokenKind.isDirective t.kind ∨ t.kind = .documentStart then explicitDocumentStart
  else if implicit then do
    processDirectives (← budget) false
    pushState .documentEnd
    setState .blockNode
    pure (.documentStart false, t.mark)
  else explicitDocumentStart

/-- The end of a document; without a `...` marker, a directive may not follow. -/
def documentEnd : Parse (Event × Mark) := do
  let t ← peekToken
  let explicit := t.kind = .documentEnd
  if explicit then skipToken
  modify fun p => { p with tags := [] }
  if explicit then setState .implicitDocumentStart
  else do
    let n ← peekToken
    if TokenKind.isDirective n.kind then
      fail n.mark "missing explicit document end marker before directive"
    setState .documentStart
  pure (.documentEnd, t.mark)

/-- A node: an alias, or a scalar or collection with an optional anchor and tag. -/
def node (block indentless : Bool) : Parse (Event × Mark) := do
  let t ← peekToken
  match t.kind with
  | .alias name => do
    popState
    skipToken
    match (← get).anchors.lookup name with
    | some id => pure (.alias id, t.mark)
    | none => fail t.mark "while parsing node, found unknown anchor"
  | _ => do
    let (anchor, tag) ← match t.kind with
      | .anchor name => do
        skipToken
        let id ← registerAnchor name
        match (← peekToken).kind with
        | .tag h s => do
          skipToken
          pure (id, some (← resolveTag t.mark h s))
        | _ => pure (id, none)
      | .tag h s => do
        skipToken
        let tag ← resolveTag t.mark h s
        match (← peekToken).kind with
        | .anchor name => do
          skipToken
          pure (← registerAnchor name, some tag)
        | _ => pure (0, some tag)
      | _ => pure (0, none)
    let t ← peekToken
    match t.kind with
    | .blockEntry =>
      if indentless then do
        setState .indentlessSequenceEntry
        pure (.sequenceStart anchor tag, t.mark)
      else empty anchor tag t
    | .scalar style v => do
      popState
      skipToken
      pure (.scalar v style anchor tag, t.mark)
    | .flowSequenceStart => do
      setState .flowSequenceFirstEntry
      pure (.sequenceStart anchor tag, t.mark)
    | .flowMappingStart => do
      setState .flowMappingFirstKey
      pure (.mappingStart anchor tag, t.mark)
    | .blockSequenceStart =>
      if block then do
        setState .blockSequenceFirstEntry
        pure (.sequenceStart anchor tag, t.mark)
      else empty anchor tag t
    | .blockMappingStart =>
      if block then do
        setState .blockMappingFirstKey
        pure (.mappingStart anchor tag, t.mark)
      else empty anchor tag t
    | _ => empty anchor tag t
where
  /-- An empty node after an anchor or a tag: the empty text under a tag, else `~`; with
  neither, a fault. -/
  empty (anchor : Nat) (tag : Option Tag) (t : Token) : Parse (Event × Mark) :=
    if tag.isSome ∨ anchor > 0 then do
      popState
      pure (.scalar (if tag.isSome then "" else "~") .plain anchor tag, t.mark)
    else fail t.mark "while parsing a node, did not find expected node content"

/-- Whether a token ends a block mapping's entry. -/
def TokenKind.endsBlockEntry (k : TokenKind) : Bool :=
  k = .key || k = .value || k = .blockEnd

/-- The key of a block mapping. -/
def blockMappingKey (first : Bool) : Parse (Event × Mark) := do
  if first then do
    let _ ← peekToken
    skipToken
  let t ← peekToken
  match t.kind with
  | .key => do
    skipToken
    let n ← peekToken
    if TokenKind.endsBlockEntry n.kind then do
      setState .blockMappingValue
      pure (Event.empty, n.mark)
    else do
      pushState .blockMappingValue
      node true true
  | .value => do
    setState .blockMappingValue
    pure (Event.empty, t.mark)
  | .blockEnd => do
    popState
    skipToken
    pure (.mappingEnd, t.mark)
  | _ => fail t.mark "while parsing a block mapping, did not find expected key"

/-- The value of a block mapping's entry. -/
def blockMappingValue : Parse (Event × Mark) := do
  let t ← peekToken
  if t.kind = .value then do
    skipToken
    let n ← peekToken
    if TokenKind.endsBlockEntry n.kind then do
      setState .blockMappingKey
      pure (Event.empty, n.mark)
    else do
      pushState .blockMappingKey
      node true true
  else do
    setState .blockMappingKey
    pure (Event.empty, t.mark)

/-- An entry of a block sequence. -/
def blockSequenceEntry (first : Bool) : Parse (Event × Mark) := do
  if first then do
    let _ ← peekToken
    skipToken
  let t ← peekToken
  match t.kind with
  | .blockEnd => do
    popState
    skipToken
    pure (.sequenceEnd, t.mark)
  | .blockEntry => do
    skipToken
    let n ← peekToken
    if n.kind = .blockEntry ∨ n.kind = .blockEnd then do
      setState .blockSequenceEntry
      pure (Event.empty, n.mark)
    else do
      pushState .blockSequenceEntry
      node true false
  | _ => fail t.mark "while parsing a block collection, did not find expected '-' indicator"

/-- An entry of a sequence written at its mapping's indentation. -/
def indentlessSequenceEntry : Parse (Event × Mark) := do
  let t ← peekToken
  if t.kind ≠ .blockEntry then do
    popState
    pure (.sequenceEnd, t.mark)
  else do
    skipToken
    let n ← peekToken
    if n.kind = .blockEntry ∨ TokenKind.endsBlockEntry n.kind then do
      setState .indentlessSequenceEntry
      pure (Event.empty, n.mark)
    else do
      pushState .indentlessSequenceEntry
      node true false

/-- An entry of a flow sequence. -/
def flowSequenceEntry (first : Bool) : Parse (Event × Mark) := do
  if first then do
    let _ ← peekToken
    skipToken
  let t ← peekToken
  if t.kind = .flowSequenceEnd then do
    popState
    skipToken
    pure (.sequenceEnd, t.mark)
  else do
    if !first then
      if t.kind = .flowEntry then skipToken
      else fail t.mark "while parsing a flow sequence, expected ',' or ']'"
    let t ← peekToken
    match t.kind with
    | .flowSequenceEnd => do
      popState
      skipToken
      pure (.sequenceEnd, t.mark)
    | .key => do
      setState .flowSequenceEntryMappingKey
      skipToken
      pure (.mappingStart 0 none, t.mark)
    | _ => do
      pushState .flowSequenceEntry
      node false false

/-- The key of a single-pair mapping inside a flow sequence. -/
def flowSequenceEntryMappingKey : Parse (Event × Mark) := do
  let t ← peekToken
  if t.kind = .value ∨ t.kind = .flowEntry ∨ t.kind = .flowSequenceEnd then do
    skipToken
    setState .flowSequenceEntryMappingValue
    pure (Event.empty, t.mark)
  else do
    pushState .flowSequenceEntryMappingValue
    node false false

/-- The value of a single-pair mapping inside a flow sequence. -/
def flowSequenceEntryMappingValue : Parse (Event × Mark) := do
  let t ← peekToken
  if t.kind = .value then do
    skipToken
    setState .flowSequenceEntryMappingValue
    let n ← peekToken
    if n.kind = .flowEntry ∨ n.kind = .flowSequenceEnd then do
      setState .flowSequenceEntryMappingEnd
      pure (Event.empty, n.mark)
    else do
      pushState .flowSequenceEntryMappingEnd
      node false false
  else do
    setState .flowSequenceEntryMappingEnd
    pure (Event.empty, t.mark)

/-- The end of a single-pair mapping inside a flow sequence. -/
def flowSequenceEntryMappingEnd : Parse (Event × Mark) := do
  setState .flowSequenceEntry
  pure (.mappingEnd, (← get).scanner.mark)

/-- The key of a flow mapping's entry, or its end. -/
def flowMappingKey (first : Bool) : Parse (Event × Mark) := do
  if first then do
    let _ ← peekToken
    skipToken
  let t ← peekToken
  if t.kind ≠ .flowMappingEnd then do
    if !first then
      if t.kind = .flowEntry then skipToken
      else fail t.mark "while parsing a flow mapping, did not find expected ',' or '\x7d'"
    let n ← peekToken
    match n.kind with
    | .key => do
      skipToken
      let k ← peekToken
      if k.kind = .value ∨ k.kind = .flowEntry ∨ k.kind = .flowMappingEnd then do
        setState .flowMappingValue
        pure (Event.empty, k.mark)
      else do
        pushState .flowMappingValue
        node false false
    | .value => do
      setState .flowMappingValue
      pure (Event.empty, n.mark)
    | .flowMappingEnd => do
      popState
      skipToken
      pure (.mappingEnd, t.mark)
    | _ => do
      pushState .flowMappingEmptyValue
      node false false
  else do
    popState
    skipToken
    pure (.mappingEnd, t.mark)

/-- The value of a flow mapping's entry; empty when none is written. -/
def flowMappingValue (empty : Bool) : Parse (Event × Mark) := do
  let t ← peekToken
  if empty then do
    setState .flowMappingKey
    pure (Event.empty, t.mark)
  else if t.kind = .value then do
    skipToken
    let n ← peekToken
    if n.kind = .flowEntry ∨ n.kind = .flowMappingEnd then do
      setState .flowMappingKey
      pure (Event.empty, t.mark)
    else do
      pushState .flowMappingKey
      node false false
  else do
    setState .flowMappingKey
    pure (Event.empty, t.mark)

/-- The stream's start. -/
def streamStart : Parse (Event × Mark) := do
  let t ← peekToken
  if t.kind = .streamStart then do
    setState .implicitDocumentStart
    skipToken
    pure (.streamStart, t.mark)
  else fail t.mark "did not find expected <stream-start>"

/-- The content of a document after its `---` marker; empty when none is written. -/
def documentContent : Parse (Event × Mark) := do
  let t ← peekToken
  if TokenKind.isDirective t.kind ∨ t.kind = .documentStart ∨ t.kind = .documentEnd ∨
      t.kind = .streamEnd then do
    popState
    pure (Event.empty, t.mark)
  else node true false

/-- The next event. -/
def nextEvent : Parse (Event × Mark) := do
  match (← get).state with
  | .streamStart => streamStart
  | .implicitDocumentStart => documentStart true
  | .documentStart => documentStart false
  | .documentContent => documentContent
  | .documentEnd => documentEnd
  | .blockNode => node true false
  | .blockMappingFirstKey => blockMappingKey true
  | .blockMappingKey => blockMappingKey false
  | .blockMappingValue => blockMappingValue
  | .blockSequenceFirstEntry => blockSequenceEntry true
  | .blockSequenceEntry => blockSequenceEntry false
  | .indentlessSequenceEntry => indentlessSequenceEntry
  | .flowSequenceFirstEntry => flowSequenceEntry true
  | .flowSequenceEntry => flowSequenceEntry false
  | .flowSequenceEntryMappingKey => flowSequenceEntryMappingKey
  | .flowSequenceEntryMappingValue => flowSequenceEntryMappingValue
  | .flowSequenceEntryMappingEnd => flowSequenceEntryMappingEnd
  | .flowMappingFirstKey => flowMappingKey true
  | .flowMappingKey => flowMappingKey false
  | .flowMappingValue => flowMappingValue false
  | .flowMappingEmptyValue => flowMappingValue true
  | .finished => pure (.streamEnd, (← get).scanner.mark)

end Parse

end Yaml

end RingIdentity
