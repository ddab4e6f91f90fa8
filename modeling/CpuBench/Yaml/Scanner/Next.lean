import CpuBench.Yaml.Scanner.Scalar

/-!
# Cutting YAML text into tokens

`Scanner.next` hands on the next token. Tokens are made ahead only as far as needed: while the
first token waiting could still turn out to be a simple key, the scanner reads on until it
knows, since a key token and perhaps a block-mapping start go in front of it. So an error in
the text is reported only when the tokens before it have been taken.

Before each token the scanner skips blanks, line breaks and comments (a tab may not indent a
line with content left of the block indentation), gives up stale simple keys, and closes the
indentation levels that the column of the next character leaves. The first character then
decides the token:

* `[`, `{`, `]`, `}` and `,` are flow indicators; `-`, `?` and `:` followed by a blank are a
  block entry, a key and a value (`:` also when a flow indicator follows inside a flow
  collection, or right after a quoted key or a closed collection there);
* `---` and `...` at the start of a line are document markers, `%` there a directive; only
  blanks and a comment may follow `...` on its line;
* `*`, `&` and `!` start an alias, an anchor and a tag; `|` and `>` a block scalar outside flow
  collections; quotes a quoted scalar; `@` and the backquote are reserved;
* anything else starts a plain scalar.

Inside `[`, a `:` after a simple key on the same line opens a mapping of that one pair: the
scanner puts a flow-mapping start before the key and closes the mapping at the next `,` or
`]`.
-/

namespace CpuBench.Yaml

open ScanM

namespace ScanM

/-- Starts the stream. -/
def streamStart : ScanM Unit := do
  let s ← get
  set { s with indent := -1, started := true, simpleKeyAllowed := true,
               queue := s.queue ++ [(⟨s.mark, .streamStart⟩ : Token)], simpleKeys := {} :: s.simpleKeys }

/-- Ends the stream: the place moves to the start of a new line unless it is at one already, no
candidate can become a key any more (a required one is an error), and every block collection is
closed. -/
def streamEnd : ScanM Unit := do
  let s ← get
  if s.mark.col != 0 then set { s with mark := { s.mark with col := 0, line := s.mark.line + 1 } }
  let s ← get
  let keys ← s.simpleKeys.mapM fun k =>
    if k.required && k.possible then fail s.mark "simple key expected"
    else pure { k with possible := false }
  set { s with simpleKeys := keys }
  unrollIndent (-1)
  removeSimpleKey
  allowSimpleKey false
  push ⟨(← mark), .streamEnd⟩

/-- Reads a document marker of three characters. -/
def documentIndicator (kind : TokenKind) : ScanM Unit := do
  unrollIndent (-1)
  removeSimpleKey
  allowSimpleKey false
  let m ← mark
  skip
  skip
  skip
  push ⟨m, kind⟩

/-- Reads a directive line. -/
def directive : ScanM Unit := do
  unrollIndent (-1)
  removeSimpleKey
  allowSimpleKey false
  push (← scanDirective)

/-- Reads `[` or `{`, which may start a simple key, and the blanks and comment after it. -/
def flowCollectionStart (kind : TokenKind) : ScanM Unit := do
  saveSimpleKey
  rollOneColIndent
  increaseFlowLevel
  allowSimpleKey true
  let m ← mark
  skip
  if kind == .flowMappingStart then modify fun s => { s with flowMappingStarted := true }
  else modify fun s => { s with implicitMappings := false :: s.implicitMappings }
  let _ ← skipWsToEol true
  push ⟨m, kind⟩

/-- Reads `]` or `}` and the blanks and comment after it. A `]` closes an implicit mapping
first. Inside a flow collection a `:` may follow directly. -/
def flowCollectionEnd (kind : TokenKind) : ScanM Unit := do
  removeSimpleKey
  decreaseFlowLevel
  allowSimpleKey false
  if kind == .flowSequenceEnd then
    endImplicitMapping (← mark)
    modify fun s => { s with implicitMappings := s.implicitMappings.tail }
  let m ← mark
  skip
  let _ ← skipWsToEol true
  let s ← get
  if s.flowLevel > 0 then set { s with adjacentValueAt := s.mark.index }
  push ⟨m, kind⟩

/-- Reads `,` and the blanks and comment after it, closing an implicit mapping first. -/
def flowEntry : ScanM Unit := do
  removeSimpleKey
  allowSimpleKey true
  endImplicitMapping (← mark)
  let m ← mark
  skip
  let _ ← skipWsToEol true
  push ⟨m, .flowEntry⟩

/-- Reads `-` of a block sequence, opening the sequence if it is indented deeper. A tab after it
may not lead to another `-` entry; when its line ends there, or a flow collection follows, the
entry's content must stand one column deeper. -/
def blockEntry : ScanM Unit := do
  let s ← get
  if s.flowLevel > 0 then fail s.mark "\"-\" is only valid inside a block"
  if !s.simpleKeyAllowed then
    fail s.mark "block sequence entries are not allowed in this context"
  match s.queue.getLast? with
  | some t =>
    match t.kind with
    | .anchor _ | .tag _ _ =>
      if s.mark.col == 0 && t.mark.col == 0 && s.indent > -1 then
        fail t.mark "invalid indentation for anchor"
    | _ => pure ()
  | none => pure ()
  let m ← mark
  skip
  rollIndent m.col none .blockSequenceStart m
  let (tab, _) ← skipWsToEol true
  if tab && (← ch) == '-' && isBlankOrEnd (← peekAt 1) then
    fail (← mark) "'-' must be followed by a valid YAML whitespace"
  let _ ← skipWsToEol false
  let c ← ch
  if isBreak c || isFlowChar c then rollOneColIndent
  removeSimpleKey
  allowSimpleKey true
  push ⟨m, .blockEntry⟩

/-- Moves past spaces, line breaks and comments after a `?`, of which there must be some; a
tab may not follow them. -/
def keySpace : Nat → Bool → ScanM Unit
  | 0, _ => pure ()
  | fuel + 1, found => do
    let c ← ch
    if c == ' ' then
      skipBlank
      keySpace fuel true
    else if isBreak c then
      skipLine
      if (← get).flowLevel == 0 then allowSimpleKey true
      keySpace fuel true
    else if c == '#' then
      skipComment
      keySpace fuel found
    else if !found then fail (← mark) "expected whitespace"
    else if c == '\t' then fail (← mark) "tabs disallowed in this context"

/-- Reads `?` of a complex key, opening a block mapping if it is indented deeper. -/
def complexKey : ScanM Unit := do
  let s ← get
  let start := s.mark
  if s.flowLevel == 0 then
    if !s.simpleKeyAllowed then fail start "mapping keys are not allowed in this context"
    rollIndent start.col none .blockMappingStart start
  else set { s with flowMappingStarted := true }
  removeSimpleKey
  allowSimpleKey ((← get).flowLevel == 0)
  skip
  keySpace (← fuel) false
  push ⟨start, .key⟩

/-- Reads `:`. After a simple key candidate the key token goes in front of the candidate, with a
block-mapping start before it when the key is indented deeper, or, inside `[`, a flow-mapping
start when the pair opens an implicit mapping (the key must then be on the same line);
otherwise the value follows a complex key or none. A tab after the `:` must not lead straight
to content. -/
def valueIndicator : ScanM Unit := do
  let s ← get
  let start := s.mark
  let implicit := !s.implicitMappings.isEmpty && !s.flowMappingStarted
  if implicit then set { s with implicitMappings := true :: s.implicitMappings.tail }
  skip
  if (← ch) == '\t' then
    let (_, space) ← skipWsToEol true
    let c ← ch
    if !space && (c == '-' || isWordChar c) then
      fail (← mark) "':' must be followed by a valid YAML whitespace"
  let s ← get
  match s.simpleKeys with
  | k :: rest =>
    if k.possible then
      let pos := k.tokenNumber - s.tokensParsed
      set { s with queue := insertAt pos ⟨k.mark, .key⟩ s.queue }
      if implicit then
        if k.mark.line < start.line then fail start "illegal placement of ':' indicator"
        let m ← mark
        modify fun s => { s with queue := insertAt pos ⟨m, .flowMappingStart⟩ s.queue }
      rollIndent k.mark.col (some k.tokenNumber) .blockMappingStart start
      rollOneColIndent
      modify fun s => { s with simpleKeys := { k with possible := false } :: rest }
      allowSimpleKey false
    else
      if implicit then push ⟨(← mark), .flowMappingStart⟩
      if s.flowLevel == 0 then
        if !s.simpleKeyAllowed then
          fail start "mapping values are not allowed in this context"
        rollIndent start.col none .blockMappingStart start
      rollOneColIndent
      allowSimpleKey ((← get).flowLevel == 0)
  | [] => pure ()
  push ⟨start, .value⟩

/-- Reads an alias or an anchor, which may start a simple key. -/
def anchor (isAlias : Bool) : ScanM Unit := do
  saveSimpleKey
  allowSimpleKey false
  push (← scanAnchor isAlias)

/-- Reads a tag, which may start a simple key. -/
def tag : ScanM Unit := do
  saveSimpleKey
  allowSimpleKey false
  push (← scanTag)

/-- Reads a block scalar. -/
def blockScalar (literal : Bool) : ScanM Unit := do
  saveSimpleKey
  allowSimpleKey true
  push (← scanBlockScalar literal)

/-- Skips blanks, line breaks and comments before the next token. Outside flow collections a
line break lets a simple key start. Within a block collection, a tab among the leading blanks
left of the indentation is an error when content follows on its line. -/
def skipToToken : Nat → ScanM Unit
  | 0 => pure ()
  | fuel + 1 => do
    let c ← ch
    let s ← get
    if c == '\t' && !s.indents.isEmpty && s.leadingWhitespace && (s.mark.col : Int) < s.indent then
      let _ ← skipWsToEol true
      if !isBreakOrEnd (← ch) then
        fail (← mark) "tabs disallowed within this context (block indentation)"
      skipToToken fuel
    else if isBlank c then
      skipBlank
      skipToToken fuel
    else if isBreak c then
      skipLine
      if (← get).flowLevel == 0 then allowSimpleKey true
      skipToToken fuel
    else if c == '#' then
      skipComment
      skipToToken fuel
    else pure ()

/-- Reads a quoted scalar, which may start a simple key; a `:` may follow it directly, after
the blanks, line breaks and comments that follow it. -/
def quotedScalar (single : Bool) : ScanM Unit := do
  saveSimpleKey
  allowSimpleKey false
  let t ← scanQuotedScalar single
  skipToToken (← fuel)
  modify fun s => { s with adjacentValueAt := s.mark.index }
  push t

/-- Reads a plain scalar, which may start a simple key. -/
def plainScalar : ScanM Unit := do
  saveSimpleKey
  allowSimpleKey false
  push (← scanPlainScalar)

/-- Reads `:` inside a flow collection where it is a value indicator without a blank after it;
then `[` or `\x7b` may follow only right after a quoted key or a closed collection. -/
def flowValue : ScanM Unit := do
  let s ← get
  let c1 ← peekAt 1
  if s.mark.index != s.adjacentValueAt && (c1 == '[' || c1 == '\x7b') then
    fail s.mark "':' may not precede any of `[\x7b` in flow mapping"
  valueIndicator

/-- Makes the next token or tokens. -/
def fetchNext : ScanM Unit := do
  if !(← get).started then
    streamStart
    return
  skipToToken (← fuel)
  staleSimpleKeys
  let m ← mark
  unrollIndent m.col
  let c0 ← peekAt 0
  let c1 ← peekAt 1
  let c2 ← peekAt 2
  let c3 ← peekAt 3
  let flow := (← get).flowLevel > 0
  if isEnd c0 then streamEnd
  else if m.col == 0 && c0 == '%' then directive
  else if m.col == 0 && c0 == '-' && c1 == '-' && c2 == '-' && isBlankOrEnd c3 then
    documentIndicator .documentStart
  else if m.col == 0 && c0 == '.' && c1 == '.' && c2 == '.' && isBlankOrEnd c3 then
    documentIndicator .documentEnd
    let _ ← skipWsToEol true
    if !isBreakOrEnd (← ch) then fail (← mark) "invalid content after document end marker"
  else match c0 with
    | '[' => flowCollectionStart .flowSequenceStart
    | '{' => flowCollectionStart .flowMappingStart
    | ']' => flowCollectionEnd .flowSequenceEnd
    | '}' => flowCollectionEnd .flowMappingEnd
    | ',' => flowEntry
    | '-' => if isBlankOrEnd c1 then blockEntry else plainScalar
    | '?' => if isBlankOrEnd c1 then complexKey else plainScalar
    | ':' =>
      if isBlankOrEnd c1 then valueIndicator
      else if flow && (isFlowChar c1 || m.index == (← get).adjacentValueAt) then flowValue
      else plainScalar
    | '*' => anchor true
    | '&' => anchor false
    | '!' => tag
    | '|' => if flow then plainScalar else blockScalar true
    | '>' => if flow then plainScalar else blockScalar false
    | '\'' => quotedScalar true
    | '"' => quotedScalar false
    | '%' | '@' | '`' => fail m ("unexpected character: `" ++ String.singleton c0 ++ "'")
    | _ => plainScalar

/-- Makes tokens until the first one waiting cannot become a simple key any more. -/
def fetchMore : Nat → ScanM Unit
  | 0 => pure ()
  | fuel + 1 => do
    let needMore ← if (← get).queue.isEmpty then pure true else do
      staleSimpleKeys
      let s ← get
      pure (s.simpleKeys.any fun k => k.possible && k.tokenNumber == s.tokensParsed)
    if needMore then
      fetchNext
      fetchMore fuel
    else modify fun s => { s with tokenAvailable := true }

end ScanM

/-- Hands on the next token, none after the end of the stream. -/
def Scanner.next : ScanM (Option Token) := do
  if (← get).ended then return none
  if !(← get).tokenAvailable then ScanM.fetchMore (4 * (← ScanM.fuel) + 8)
  let s ← get
  match s.queue with
  | [] => ScanM.fail s.mark "did not find expected next token"
  | t :: rest =>
    set { s with queue := rest, tokenAvailable := false, tokensParsed := s.tokensParsed + 1,
                 ended := t.kind == TokenKind.streamEnd }
    pure (some t)

end CpuBench.Yaml
