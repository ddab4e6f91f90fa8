import CpuBench.Yaml.Token

/-!
# The YAML scanner's state

The scanner reads the text from left to right and keeps what it needs to decide how the next
characters cut into tokens:

* the characters left and the place of the first of them; past the end of the text, and at a
  NUL character, it sees NUL, which ends the stream;
* whether only blanks stand between the last line break and the place (the line's *leading
  whitespace*); a content character ends it, a blank does not;
* the tokens already made but not yet handed on, in order;
* the *simple key* candidates, one per flow level: a scalar, collection or alias may turn out
  to be a mapping key once a `:` follows it, in which case a key token is put back in front of
  it. Outside flow collections the `:` must follow on the same line. A candidate in block
  context at the current indentation is *required*: it must turn out to be a key;
* the indentation levels: each block collection opens one, closed by a block-end token when a
  line goes back to a smaller column; after a value indicator or an entry that ends its line,
  content must stand one column deeper, a level that closes without a token;
* the flow level, the number of open `[` and `{`, and for each open `[` whether a single
  `key: value` pair in it has opened an implicit mapping.

A line break is `\n`, `\r` or both together. The scanner reads lines as counted from 1 and
columns from 0, a `\r` before `\n` counting as one more column. Comments move the count of
characters but not the column, which the line break after them resets.
-/

namespace CpuBench.Yaml

/-- A place where a simple key may start. -/
structure SimpleKey where
  possible : Bool := false
  required : Bool := false
  tokenNumber : Nat := 0
  mark : Mark := ⟨0, 0, 0⟩
  deriving Repr

/-- An indentation level: the indentation it replaced, and whether a block collection opened
it (and a block end closes it) rather than the one column that content after a value or entry
indicator must be indented past. -/
structure Indent where
  outer : Int
  opensBlock : Bool
  deriving Repr

/-- What the scanner keeps between tokens. -/
structure Scanner where
  rest : List Char
  mark : Mark := ⟨0, 1, 0⟩
  leadingWhitespace : Bool := true
  queue : List Token := []
  started : Bool := false
  ended : Bool := false
  adjacentValueAt : Nat := 0
  simpleKeyAllowed : Bool := false
  simpleKeys : List SimpleKey := []
  indent : Int := -1
  indents : List Indent := []
  flowLevel : Nat := 0
  flowMappingStarted : Bool := false
  implicitMappings : List Bool := []
  tokensParsed : Nat := 0
  tokenAvailable : Bool := false

/-- A scanner at the start of `text`. The text is read up to its first NUL character. -/
def Scanner.ofText (text : String) : Scanner :=
  { rest := text.toList.takeWhile (· != '\x00') }

/-- A step of the scanner. -/
abbrev ScanM := StateT Scanner (Except ScanError)

/-- Whether `c` stands past the end of the text. -/
def isEnd (c : Char) : Bool := c == '\x00'

/-- Whether `c` breaks a line. -/
def isBreak (c : Char) : Bool := c == '\n' || c == '\r'

/-- Whether `c` breaks a line or ends the text. -/
def isBreakOrEnd (c : Char) : Bool := isBreak c || isEnd c

/-- Whether `c` is a space or a tab. -/
def isBlank (c : Char) : Bool := c == ' ' || c == '\t'

/-- Whether `c` is a space, a tab, a line break or the end. -/
def isBlankOrEnd (c : Char) : Bool := isBlank c || isBreakOrEnd c

/-- Whether `c` is one of the flow indicators `,[]{}`. -/
def isFlowChar (c : Char) : Bool :=
  c == ',' || c == '[' || c == ']' || c == '{' || c == '}'

/-- Whether `c` is an ASCII letter or digit, `_` or `-`. -/
def isWordChar (c : Char) : Bool := c.isAlphanum || c == '_' || c == '-'

/-- Whether `c` is a hexadecimal digit. -/
def isHexChar (c : Char) : Bool :=
  c.isDigit || ('a' ≤ c && c ≤ 'f') || ('A' ≤ c && c ≤ 'F')

/-- The value of a hexadecimal digit. -/
def hexCharValue (c : Char) : Nat :=
  if c.isDigit then c.toNat - 48
  else if 'a' ≤ c && c ≤ 'f' then c.toNat - 87
  else c.toNat - 55

namespace ScanM

/-- The character `k` places ahead, NUL past the end. -/
def peekAt (k : Nat) : ScanM Char := do
  pure ((← get).rest.getD k '\x00')

/-- The character ahead. -/
def ch : ScanM Char := peekAt 0

/-- The current place. -/
def mark : ScanM Mark := do
  pure (← get).mark

/-- Stops reading with `info` at `m`. -/
def fail (m : Mark) (info : String) : ScanM α :=
  throw ⟨m, info⟩

/-- Moves past one character within the line, leaving the line's leading whitespace as it
is. -/
def skipBlank : ScanM Unit :=
  modify fun s => match s.rest with
    | [] => s
    | _ :: rest => { s with rest, mark := ⟨s.mark.index + 1, s.mark.line, s.mark.col + 1⟩ }

/-- Moves past one content character, which ends the line's leading whitespace. -/
def skip : ScanM Unit := do
  skipBlank
  modify fun s => { s with leadingWhitespace := false }

/-- Moves past one character that breaks a line; the new line starts with leading
whitespace. -/
def skipNewline : ScanM Unit :=
  modify fun s => match s.rest with
    | [] => s
    | _ :: rest => { s with rest, mark := ⟨s.mark.index + 1, s.mark.line + 1, 0⟩,
                            leadingWhitespace := true }

/-- Moves past a line break, `\r\n` counting as one. -/
def skipLine : ScanM Unit := do
  match (← get).rest with
  | '\r' :: '\n' :: _ => do skipBlank; skipNewline
  | c :: _ => if isBreak c then skipNewline else pure ()
  | [] => pure ()

/-- Moves past a line break and answers it as `\n`; answers nothing when no break is ahead. -/
def readBreak : ScanM String := do
  if isBreak (← ch) then
    skipLine
    pure "\n"
  else pure ""

/-- Moves past content characters while `p` holds of them and they do not break a line,
answering them. At most `fuel` characters are read. -/
def takeWhile (p : Char → Bool) : Nat → ScanM String
  | 0 => pure ""
  | fuel + 1 => do
    let c ← ch
    if p c && !isBreakOrEnd c then
      skip
      pure (String.singleton c ++ (← takeWhile p fuel))
    else pure ""

/-- The number of characters left, a bound for every loop over them. -/
def fuel : ScanM Nat := do
  pure ((← get).rest.length + 1)

/-- Moves past spaces and tabs. -/
def skipBlanks : ScanM Unit := do
  go (← fuel)
where
  go : Nat → ScanM Unit
    | 0 => pure ()
    | n + 1 => do
      if isBlank (← ch) then
        skipBlank
        go n

/-- Moves past the rest of the line, up to its break, as a comment: the count of characters
moves, the column does not. -/
def skipComment : ScanM Unit :=
  modify fun s =>
    let n := (s.rest.takeWhile (fun c => !isBreakOrEnd c)).length
    { s with rest := s.rest.drop n, mark := { s.mark with index := s.mark.index + n } }

/-- Moves past the rest of the line, up to its break, column by column. -/
def skipToEol : Nat → ScanM Unit
  | 0 => pure ()
  | n + 1 => do
    if !isBreakOrEnd (← ch) then
      skipBlank
      skipToEol n

/-- Moves past spaces, tabs when `tabs` says so, and a comment after them, up to the end of the
line; answers whether a tab and whether a space were met. A comment must be parted from what
stands before it by a blank. -/
def skipWsToEol (tabs : Bool) : ScanM (Bool × Bool) := do
  go (← fuel) false false
where
  go : Nat → Bool → Bool → ScanM (Bool × Bool)
    | 0, tab, space => pure (tab, space)
    | n + 1, tab, space => do
      let c ← ch
      if c == ' ' then
        skipBlank
        go n tab true
      else if c == '\t' && tabs then
        skipBlank
        go n true space
      else if c == '#' then
        if !tab && !space then
          fail (← mark) "comments must be separated from other tokens by whitespace"
        skipToEol (← fuel)
        pure (tab, space)
      else pure (tab, space)

/-- Adds a token at the end of the queue. -/
def push (t : Token) : ScanM Unit :=
  modify fun s => { s with queue := s.queue ++ [t] }

/-- Lets the next token start a simple key, or forbids it. -/
def allowSimpleKey (allowed : Bool) : ScanM Unit :=
  modify fun s => { s with simpleKeyAllowed := allowed }

/-- Gives up the simple key candidate of the current flow level; a required one cannot be given
up. -/
def removeSimpleKey : ScanM Unit := do
  let s ← get
  match s.simpleKeys with
  | k :: rest =>
    if k.possible && k.required then fail s.mark "simple key expected"
    set { s with simpleKeys := { k with possible := false } :: rest }
  | [] => pure ()

/-- Records that the next token may start a simple key, when keys are allowed here. -/
def saveSimpleKey : ScanM Unit := do
  let s ← get
  if s.simpleKeyAllowed then
    let required := s.flowLevel == 0 && s.indent == (s.mark.col : Int)
    let k : SimpleKey := ⟨true, required, s.tokensParsed + s.queue.length, s.mark⟩
    removeSimpleKey
    modify fun s => { s with simpleKeys := k :: s.simpleKeys.tail }

/-- Outside flow collections, gives up the candidates that can no longer be keys: a key ends on
its own line and within 1024 characters. A required candidate that goes stale is an error. -/
def staleSimpleKeys : ScanM Unit := do
  let s ← get
  let keys ← s.simpleKeys.mapM fun k =>
    if k.possible && s.flowLevel == 0 &&
        (k.mark.line < s.mark.line || k.mark.index + 1024 < s.mark.index) then
      if k.required then fail s.mark "simple key expect ':'"
      else pure { k with possible := false }
    else pure k
  set { s with simpleKeys := keys }

/-- Closes the indentation levels deeper than `col`, a block collection's with a block end.
Flow context has no indentation. -/
def unrollIndent (col : Int) : ScanM Unit := do
  if (← get).flowLevel > 0 then return
  go (← get).indents.length
where
  go : Nat → ScanM Unit
    | 0 => pure ()
    | fuel + 1 => do
      let s ← get
      if s.indent > col then
        match s.indents with
        | i :: rest =>
          let queue := if i.opensBlock then s.queue ++ [({ mark := s.mark, kind := .blockEnd } : Token)]
            else s.queue
          set { s with indent := i.outer, indents := rest, queue }
          go fuel
        | [] => pure ()

/-- Closes the innermost indentation levels that no block collection opened. -/
def unrollNonBlockIndents : ScanM Unit := do
  go (← get).indents.length
where
  go : Nat → ScanM Unit
    | 0 => pure ()
    | fuel + 1 => do
      let s ← get
      match s.indents with
      | i :: rest =>
        if !i.opensBlock then
          set { s with indent := i.outer, indents := rest }
          go fuel
      | [] => pure ()

/-- `xs` with `x` put in at position `i`. -/
def insertAt (i : Nat) (x : α) : List α → List α
  | [] => [x]
  | y :: ys => if i == 0 then x :: y :: ys else y :: insertAt (i - 1) x ys

/-- Opens a block collection at column `col` when that is deeper than the current indentation:
its start token goes at the end of the queue, or at position `number` of all tokens. A level of
one column that the collection reaches is given up first. -/
def rollIndent (col : Nat) (number : Option Nat) (kind : TokenKind) (m : Mark) : ScanM Unit := do
  let s ← get
  if s.flowLevel > 0 then return
  if s.indent ≤ (col : Int) then
    match s.indents with
    | i :: rest => if !i.opensBlock then set { s with indent := i.outer, indents := rest }
    | [] => pure ()
  let s ← get
  if s.indent < (col : Int) then
    let t : Token := { mark := m, kind }
    let queue := match number with
      | some n => insertAt (n - s.tokensParsed) t s.queue
      | none => s.queue ++ [t]
    set { s with indents := ⟨s.indent, true⟩ :: s.indents, indent := col, queue }

/-- Outside flow collections and right inside a block collection, asks content to stand one
column deeper. -/
def rollOneColIndent : ScanM Unit :=
  modify fun s =>
    match s.indents with
    | i :: _ =>
      if s.flowLevel == 0 && i.opensBlock then
        { s with indents := ⟨s.indent, false⟩ :: s.indents, indent := s.indent + 1 }
      else s
    | [] => s

/-- Enters a flow collection: a new flow level with its own simple key candidate. -/
def increaseFlowLevel : ScanM Unit := do
  let s ← get
  set { s with simpleKeys := {} :: s.simpleKeys }
  if s.flowLevel ≥ 255 then fail s.mark "recursion limit exceeded"
  modify fun s => { s with flowLevel := s.flowLevel + 1 }

/-- Leaves a flow collection. -/
def decreaseFlowLevel : ScanM Unit :=
  modify fun s =>
    if s.flowLevel > 0 then { s with flowLevel := s.flowLevel - 1, simpleKeys := s.simpleKeys.tail }
    else s

/-- Closes the implicit mapping of the innermost `[`, when a pair opened one, with a
flow-mapping end at `m`. -/
def endImplicitMapping (m : Mark) : ScanM Unit := do
  let s ← get
  match s.implicitMappings with
  | true :: rest =>
    set { s with flowMappingStarted := false, implicitMappings := false :: rest,
                 queue := s.queue ++ [({ mark := m, kind := .flowMappingEnd } : Token)] }
  | _ => pure ()

end ScanM

end CpuBench.Yaml
