import CpuBench.Yaml.Scanner.Next

/-!
# YAML events

The second stage turns tokens into events: the starts and ends of the stream, of documents, of
sequences and of mappings, scalars with their anchor and tag, and aliases. A mapping's events
alternate between key and value; a key or value that is missing becomes the empty scalar `~`.

The parser is a state machine with a stack of states to return to. It takes tokens from the
scanner one at a time, so whichever of the two meets a fault first reports it.

* A stream holds documents. The first may start without `---`; after a document that did not
  end with `...`, the next one must start with `---`.
* Directives come before a document: at most one `%YAML`, and `%TAG` directives that declare
  handles. Each directive replaces the handles declared before it, and a document's end
  forgets them.
* A tag is resolved when its node is read: `!!` stands for `tag:yaml.org,2002:` unless
  declared otherwise, a declared handle for its prefix; a handle `!name!` that is not declared
  is an error, and other tags stay as written.
* A node is an alias, or an optional anchor and tag followed by a scalar, a collection, or
  nothing (the empty scalar). Anchors are numbered from 1 in the order they are met; an alias
  names the last anchor of its name in the same document.
* Block collections are indented; a sequence whose entries sit at the indentation of the
  mapping key that holds them needs no start token of its own.
* Flow collections are bracketed, entries separated by commas; inside a flow sequence a single
  `key: value` pair makes a mapping of its own.
-/

namespace CpuBench.Yaml

/-- A resolved tag: its prefix (a declared handle's prefix, or the handle as written) and its
suffix. -/
abbrev Tag := String × String

/-- A step of the document's structure. -/
inductive Event where
  | streamStart
  | streamEnd
  | documentStart
  | documentEnd
  /-- A repeat of the node with this anchor number. -/
  | alias (id : Nat)
  /-- A scalar with its style, its anchor number (0 for none) and its tag. -/
  | scalar (text : String) (style : ScalarStyle) (anchor : Nat) (tag : Option Tag)
  | sequenceStart (anchor : Nat) (tag : Option Tag)
  | sequenceEnd
  | mappingStart (anchor : Nat) (tag : Option Tag)
  | mappingEnd
  deriving DecidableEq, Repr

/-- The empty scalar, which stands for a missing node. -/
def Event.empty : Event := .scalar "~" .plain 0 none

/-- Where the parser is in the structure. -/
inductive ParseState where
  | streamStart
  | implicitDocumentStart
  | documentStart
  | documentContent
  | documentEnd
  | blockNode
  | blockNodeOrIndentlessSequence
  | flowNode
  | blockSequenceFirstEntry
  | blockSequenceEntry
  | indentlessSequenceEntry
  | blockMappingFirstKey
  | blockMappingKey
  | blockMappingValue
  | flowSequenceFirstEntry
  | flowSequenceEntry
  | flowSequenceEntryMappingKey
  | flowSequenceEntryMappingValue
  | flowSequenceEntryMappingEnd
  | flowMappingFirstKey
  | flowMappingKey
  | flowMappingValue
  | flowMappingEmptyValue
  | finished
  deriving DecidableEq, Repr

/-- What the parser keeps between events. -/
structure Parser where
  scanner : Scanner
  token : Option Token := none
  state : ParseState := .streamStart
  states : List ParseState := []
  anchors : List (String × Nat) := []
  nextAnchor : Nat := 1
  tags : List (String × String) := []

/-- A step of the parser. -/
abbrev ParseM := StateT Parser (Except ScanError)

namespace ParseM

/-- The token ahead, taken from the scanner when none is waiting. -/
def peek : ParseM Token := do
  let p ← get
  match p.token with
  | some t => pure t
  | none =>
    match Scanner.next.run p.scanner with
    | .error e => throw e
    | .ok (none, sc) => throw ⟨sc.mark, "unexpected eof"⟩
    | .ok (some t, sc) =>
      set { p with scanner := sc, token := some t }
      pure t

/-- Drops the token ahead. -/
def skipToken : ParseM Unit :=
  modify fun p => { p with token := none }

/-- Goes on in state `s`. -/
def goTo (s : ParseState) : ParseM Unit :=
  modify fun p => { p with state := s }

/-- Remembers `s` as the state to return to. -/
def pushState (s : ParseState) : ParseM Unit :=
  modify fun p => { p with states := s :: p.states }

/-- Returns to the last remembered state. -/
def popState : ParseM Unit :=
  modify fun p => match p.states with
    | s :: rest => { p with state := s, states := rest }
    | [] => p

/-- Stops with `info` at `m`. -/
def fail (m : Mark) (info : String) : ParseM α :=
  throw ⟨m, info⟩

/-- Numbers a new anchor, which from now on is the one its name stands for. -/
def registerAnchor (name : String) : ParseM Nat := do
  let p ← get
  set { p with nextAnchor := p.nextAnchor + 1,
               anchors := (name, p.nextAnchor) :: p.anchors.filter (·.1 != name) }
  pure p.nextAnchor

/-- The start of the stream. -/
def streamStart : ParseM (Event × Mark) := do
  let t ← peek
  match t.kind with
  | .streamStart =>
    goTo .implicitDocumentStart
    skipToken
    pure (.streamStart, t.mark)
  | _ => fail t.mark "did not find expected <stream-start>"

/-- Reads the directives before a document. Each replaces the tag handles declared so far, so
only the handle of a `%TAG` directive that comes last stays declared; `versionSeen` says
whether a `%YAML` directive came already, and a second one is an error. -/
def directives (versionSeen : Bool) : Nat → ParseM Unit
  | 0 => pure ()
  | fuel + 1 => do
    let t ← peek
    match t.kind with
    | .versionDirective _ _ =>
      if versionSeen then fail t.mark "duplicate version directive"
      modify fun p => { p with tags := [] }
      skipToken
      directives true fuel
    | .tagDirective handle pfx =>
      modify fun p => { p with tags := [(handle, pfx)] }
      skipToken
      directives versionSeen fuel
    | _ => pure ()

/-- Resolves a tag read at `m`: `!!` to its declared prefix or `tag:yaml.org,2002:`, a declared
handle to its prefix. A handle `!name!` that is not declared is an error; other tags stay as
written. -/
def resolveTag (m : Mark) (handle suffix : String) : ParseM Tag := do
  let tags := (← get).tags
  if handle == "!!" then pure ((tags.lookup "!!").getD "tag:yaml.org,2002:", suffix)
  else match tags.lookup handle with
    | some pfx => pure (pfx, suffix)
    | none =>
      if handle.length ≥ 2 && handle.startsWith "!" && handle.endsWith "!" then
        fail m "the handle wasn't declared"
      else pure (handle, suffix)

/-- A document that starts with `---`. -/
def explicitDocumentStart : ParseM (Event × Mark) := do
  directives false (← get).scanner.rest.length.succ
  let t ← peek
  match t.kind with
  | .documentStart =>
    pushState .documentEnd
    goTo .documentContent
    skipToken
    modify fun p => { p with anchors := [] }
    pure (.documentStart, t.mark)
  | _ => fail t.mark "did not find expected <document start>"

/-- Skips `...` markers, then starts a document or ends the stream. -/
def documentStart (implicit : Bool) : Nat → ParseM (Event × Mark)
  | 0 => explicitDocumentStart
  | fuel + 1 => do
    let t ← peek
    match t.kind with
    | .documentEnd => do skipToken; documentStart implicit fuel
    | .streamEnd =>
      goTo .finished
      skipToken
      pure (.streamEnd, t.mark)
    | .versionDirective _ _ | .tagDirective _ _ | .documentStart => explicitDocumentStart
    | _ =>
      if implicit then
        directives false (← get).scanner.rest.length.succ
        pushState .documentEnd
        goTo .blockNode
        modify fun p => { p with anchors := [] }
        pure (.documentStart, t.mark)
      else explicitDocumentStart

/-- The end of a document, with or without `...`. The declared tag handles are forgotten. -/
def documentEnd : ParseM (Event × Mark) := do
  let t ← peek
  modify fun p => { p with tags := [] }
  match t.kind with
  | .documentEnd =>
    skipToken
    goTo .implicitDocumentStart
    pure (.documentEnd, t.mark)
  | .versionDirective _ _ | .tagDirective _ _ =>
    fail t.mark "missing explicit document end marker before directive"
  | _ =>
    goTo .documentStart
    pure (.documentEnd, t.mark)

/-- A node: an alias, or an anchor and a tag in either order, then content. -/
def node (block indentless : Bool) : ParseM (Event × Mark) := do
  let t ← peek
  match t.kind with
  | .alias name =>
    popState
    skipToken
    match (← get).anchors.lookup name with
    | some id => pure (.alias id, t.mark)
    | none => fail t.mark "while parsing node, found unknown anchor"
  | _ =>
    let (anchor, tag) ← match t.kind with
      | .anchor name => do
        skipToken
        let id ← registerAnchor name
        match (← peek).kind with
        | .tag h s => do skipToken; pure (id, some (← resolveTag t.mark h s))
        | _ => pure (id, none)
      | .tag h s => do
        skipToken
        let tag ← resolveTag t.mark h s
        match (← peek).kind with
        | .anchor name => do skipToken; pure (← registerAnchor name, some tag)
        | _ => pure (0, some tag)
      | _ => pure (0, none)
    let t ← peek
    let bare : ParseM (Event × Mark) :=
      if tag.isSome || anchor > 0 then do
        popState
        pure (.scalar "" .plain anchor tag, t.mark)
      else fail t.mark "while parsing a node, did not find expected node content"
    match t.kind with
    | .blockEntry =>
      if indentless then do
        goTo .indentlessSequenceEntry
        pure (.sequenceStart anchor tag, t.mark)
      else bare
    | .scalar style text => do
      popState
      skipToken
      pure (.scalar text style anchor tag, t.mark)
    | .flowSequenceStart => do
      goTo .flowSequenceFirstEntry
      pure (.sequenceStart anchor tag, t.mark)
    | .flowMappingStart => do
      goTo .flowMappingFirstKey
      pure (.mappingStart anchor tag, t.mark)
    | .blockSequenceStart =>
      if block then do
        goTo .blockSequenceFirstEntry
        pure (.sequenceStart anchor tag, t.mark)
      else bare
    | .blockMappingStart =>
      if block then do
        goTo .blockMappingFirstKey
        pure (.mappingStart anchor tag, t.mark)
      else bare
    | _ => bare

/-- The content of an explicit document, which may be empty. -/
def documentContent : ParseM (Event × Mark) := do
  let t ← peek
  match t.kind with
  | .versionDirective _ _ | .tagDirective _ _ | .documentStart | .documentEnd | .streamEnd =>
    popState
    pure (Event.empty, t.mark)
  | _ => node true false

/-- A key of a block mapping, or its end. -/
def blockMappingKey (first : Bool) : ParseM (Event × Mark) := do
  if first then
    let _ ← peek
    skipToken
  let t ← peek
  match t.kind with
  | .key =>
    skipToken
    let t ← peek
    match t.kind with
    | .key | .value | .blockEnd =>
      goTo .blockMappingValue
      pure (Event.empty, t.mark)
    | _ =>
      pushState .blockMappingValue
      node true true
  | .value =>
    goTo .blockMappingValue
    pure (Event.empty, t.mark)
  | .blockEnd =>
    popState
    skipToken
    pure (.mappingEnd, t.mark)
  | _ => fail t.mark "while parsing a block mapping, did not find expected key"

/-- The value of a block mapping entry. -/
def blockMappingValue : ParseM (Event × Mark) := do
  let t ← peek
  match t.kind with
  | .value =>
    skipToken
    let t ← peek
    match t.kind with
    | .key | .value | .blockEnd =>
      goTo .blockMappingKey
      pure (Event.empty, t.mark)
    | _ =>
      pushState .blockMappingKey
      node true true
  | _ =>
    goTo .blockMappingKey
    pure (Event.empty, t.mark)

/-- An entry of a block sequence, or its end. -/
def blockSequenceEntry (first : Bool) : ParseM (Event × Mark) := do
  if first then
    let _ ← peek
    skipToken
  let t ← peek
  match t.kind with
  | .blockEnd =>
    popState
    skipToken
    pure (.sequenceEnd, t.mark)
  | .blockEntry =>
    skipToken
    let t ← peek
    match t.kind with
    | .blockEntry | .blockEnd =>
      goTo .blockSequenceEntry
      pure (Event.empty, t.mark)
    | _ =>
      pushState .blockSequenceEntry
      node true false
  | _ => fail t.mark "while parsing a block collection, did not find expected '-' indicator"

/-- An entry of a sequence without its own indentation, or its end. -/
def indentlessSequenceEntry : ParseM (Event × Mark) := do
  let t ← peek
  match t.kind with
  | .blockEntry =>
    skipToken
    let t ← peek
    match t.kind with
    | .blockEntry | .key | .value | .blockEnd =>
      goTo .indentlessSequenceEntry
      pure (Event.empty, t.mark)
    | _ =>
      pushState .indentlessSequenceEntry
      node true false
  | _ =>
    popState
    pure (.sequenceEnd, t.mark)

/-- An entry of a flow sequence, or its end. -/
def flowSequenceEntry (first : Bool) : ParseM (Event × Mark) := do
  if first then
    let _ ← peek
    skipToken
  let t ← peek
  match t.kind with
  | .flowSequenceEnd =>
    popState
    skipToken
    pure (.sequenceEnd, t.mark)
  | _ =>
    if !first then
      match t.kind with
      | .flowEntry => skipToken
      | _ => fail t.mark "while parsing a flow sequence, expected ',' or ']'"
    let t ← peek
    match t.kind with
    | .flowSequenceEnd =>
      popState
      skipToken
      pure (.sequenceEnd, t.mark)
    | .key =>
      goTo .flowSequenceEntryMappingKey
      skipToken
      pure (.mappingStart 0 none, t.mark)
    | _ =>
      pushState .flowSequenceEntry
      node false false

/-- The key of a single-pair mapping inside a flow sequence. -/
def flowSequenceEntryMappingKey : ParseM (Event × Mark) := do
  let t ← peek
  match t.kind with
  | .value | .flowEntry | .flowSequenceEnd =>
    goTo .flowSequenceEntryMappingValue
    pure (Event.empty, t.mark)
  | _ =>
    pushState .flowSequenceEntryMappingValue
    node false false

/-- The value of a single-pair mapping inside a flow sequence. -/
def flowSequenceEntryMappingValue : ParseM (Event × Mark) := do
  let t ← peek
  match t.kind with
  | .value =>
    skipToken
    let t ← peek
    match t.kind with
    | .flowEntry | .flowSequenceEnd =>
      goTo .flowSequenceEntryMappingEnd
      pure (Event.empty, t.mark)
    | _ =>
      pushState .flowSequenceEntryMappingEnd
      node false false
  | _ =>
    goTo .flowSequenceEntryMappingEnd
    pure (Event.empty, t.mark)

/-- The end of a single-pair mapping inside a flow sequence. -/
def flowSequenceEntryMappingEnd : ParseM (Event × Mark) := do
  goTo .flowSequenceEntry
  pure (.mappingEnd, (← get).scanner.mark)

/-- A key of a flow mapping, or its end. -/
def flowMappingKey (first : Bool) : ParseM (Event × Mark) := do
  if first then
    let _ ← peek
    skipToken
  let t ← peek
  let close : Mark → ParseM (Event × Mark) := fun m => do
    popState
    skipToken
    pure (.mappingEnd, m)
  match t.kind with
  | .flowMappingEnd => close t.mark
  | _ =>
    if !first then
      match t.kind with
      | .flowEntry => skipToken
      | _ => fail t.mark "while parsing a flow mapping, did not find expected ',' or '\x7d'"
    let t ← peek
    match t.kind with
    | .key =>
      skipToken
      let t ← peek
      match t.kind with
      | .value | .flowEntry | .flowMappingEnd =>
        goTo .flowMappingValue
        pure (Event.empty, t.mark)
      | _ =>
        pushState .flowMappingValue
        node false false
    | .value =>
      goTo .flowMappingValue
      pure (Event.empty, t.mark)
    | .flowMappingEnd => close t.mark
    | _ =>
      pushState .flowMappingEmptyValue
      node false false

/-- The value of a flow mapping entry; `empty` when the key stood alone. -/
def flowMappingValue (empty : Bool) : ParseM (Event × Mark) := do
  let t ← peek
  if empty then
    goTo .flowMappingKey
    return (Event.empty, t.mark)
  match t.kind with
  | .value =>
    skipToken
    match (← peek).kind with
    | .flowEntry | .flowMappingEnd =>
      goTo .flowMappingKey
      pure (Event.empty, t.mark)
    | _ =>
      pushState .flowMappingKey
      node false false
  | _ =>
    goTo .flowMappingKey
    pure (Event.empty, t.mark)

/-- The next event. -/
def next : ParseM (Event × Mark) := do
  let fuel := (← get).scanner.rest.length + 2
  match (← get).state with
  | .streamStart => streamStart
  | .implicitDocumentStart => documentStart true fuel
  | .documentStart => documentStart false fuel
  | .documentContent => documentContent
  | .documentEnd => documentEnd
  | .blockNode => node true false
  | .blockNodeOrIndentlessSequence => node true true
  | .flowNode => node false false
  | .blockSequenceFirstEntry => blockSequenceEntry true
  | .blockSequenceEntry => blockSequenceEntry false
  | .indentlessSequenceEntry => indentlessSequenceEntry
  | .blockMappingFirstKey => blockMappingKey true
  | .blockMappingKey => blockMappingKey false
  | .blockMappingValue => blockMappingValue
  | .flowSequenceFirstEntry => flowSequenceEntry true
  | .flowSequenceEntry => flowSequenceEntry false
  | .flowSequenceEntryMappingKey => flowSequenceEntryMappingKey
  | .flowSequenceEntryMappingValue => flowSequenceEntryMappingValue
  | .flowSequenceEntryMappingEnd => flowSequenceEntryMappingEnd
  | .flowMappingFirstKey => flowMappingKey true
  | .flowMappingKey => flowMappingKey false
  | .flowMappingValue => flowMappingValue false
  | .flowMappingEmptyValue => flowMappingValue true
  | .finished => pure (.streamEnd, (← get).scanner.mark)

/-- The events up to the end of the stream with their places, at most `fuel` of them. -/
def events : Nat → ParseM (List (Event × Mark))
  | 0 => pure []
  | fuel + 1 => do
    let (e, m) ← next
    if e == .streamEnd then pure [(e, m)]
    else pure ((e, m) :: (← events fuel))

end ParseM

/-- The events of a YAML text with their places, or the first fault in it. -/
def Event.ofText (text : String) : Except ScanError (List (Event × Mark)) :=
  let p : Parser := { scanner := Scanner.ofText text }
  (ParseM.events (8 * text.length + 64)).run' p

end CpuBench.Yaml
