import CpuBench.Yaml.Scanner

/-!
# Reading YAML scalars, anchors, tags and directives

Each reader starts at the indicator or first character of its token and answers the token with
the place where it starts.

* A *plain* scalar runs until `: ` or ` #`, until a flow indicator inside a flow collection, or
  until a line that is indented no deeper than the enclosing block collection. Line breaks fold:
  a single break becomes a space, and each further break stays a break. Inside a flow
  collection it must stand deeper than the enclosing block collection, and it may not start
  with `-` right before a flow indicator.
* A *quoted* scalar runs to its closing quote and folds breaks the same way. In single quotes
  `''` is a quote; in double quotes a backslash escapes a character or a line break. After the
  closing quote only blanks, a comment, the end of the line, a `:` (on the same line outside
  flow collections) or, in a flow collection, `,` `]` `}` may follow.
* A *block* scalar (`|` literal, `>` folded) takes the lines indented at least as deep as its
  first line, or as its indentation indicator says; its chomping indicator (`-` strip, `+`
  keep, none to clip) says what happens to the final line breaks.
-/

namespace CpuBench.Yaml

open ScanM

/-- The text of a scalar, and the blanks and line breaks read since its last content, which
belong to it only if more content follows. -/
structure Folding where
  text : String := ""
  leadingBreak : String := ""
  trailingBreaks : String := ""
  whitespaces : String := ""
  leadingBlanks : Bool := false

/-- Adds what stood between the last content and the next: the blanks as they were, or the line
breaks folded, a single break becoming a space. -/
def Folding.join (f : Folding) : Folding :=
  if f.leadingBlanks then
    let text :=
      if f.leadingBreak.isEmpty then f.text ++ f.trailingBreaks
      else if f.trailingBreaks.isEmpty then f.text.push ' '
      else f.text ++ f.trailingBreaks
    { f with text, leadingBreak := "", trailingBreaks := "", leadingBlanks := false }
  else { f with text := f.text ++ f.whitespaces, whitespaces := "" }

/-- Where a tab may not stand among the blanks at the start of a scalar's line: left of
`indent`. In a plain scalar such a tab is an error (reported at `start`) only when content
follows it on the line; in a quoted scalar it is always one. -/
inductive TabRule where
  | plain (indent : Int) (start : Mark)
  | quoted (indent : Int)

/-- Reads the blanks and line breaks after content. Blanks before the first break are kept
aside; after it, only the further breaks count. -/
def Folding.blanks (rule : TabRule) : Nat → Folding → ScanM Folding
  | 0, f => pure f
  | fuel + 1, f => do
    let c ← ch
    if isBlank c then
      let col : Int := (← mark).col
      if f.leadingBlanks && c == '\t' then
        match rule with
        | .plain indent start =>
          if col < indent then
            let _ ← skipWsToEol true
            if !isBreakOrEnd (← ch) then fail start "while scanning a plain scalar, found a tab"
        | .quoted indent =>
          if col < indent then fail (← mark) "tab cannot be used as indentation"
      if isBlank (← ch) then skipBlank
      Folding.blanks rule fuel
        (if f.leadingBlanks then f else { f with whitespaces := f.whitespaces.push c })
    else if isBreak c then
      let b ← readBreak
      Folding.blanks rule fuel
        (if f.leadingBlanks then { f with trailingBreaks := f.trailingBreaks ++ b }
         else { f with whitespaces := "", leadingBreak := b, leadingBlanks := true })
    else pure f

/-- Whether a document marker `---` or `...` followed by a blank or the end stands here. -/
def atDocumentIndicator : ScanM Bool := do
  let c0 ← peekAt 0
  let c1 ← peekAt 1
  let c2 ← peekAt 2
  let c3 ← peekAt 3
  pure (((c0 == '-' && c1 == '-' && c2 == '-') || (c0 == '.' && c1 == '.' && c2 == '.')) &&
    isBlankOrEnd c3)

/-- Whether a document marker stands at the start of a line here. -/
def atDocumentMarker : ScanM Bool := do
  pure ((← mark).col == 0 && (← atDocumentIndicator))

/-- Whether `c`, before `c1`, may continue a plain scalar. -/
def continuesPlain (flow : Bool) (c c1 : Char) : Bool :=
  !isBlankOrEnd c && !(c == ':' && (isBlankOrEnd c1 || (flow && isFlowChar c1))) &&
    !(flow && isFlowChar c)

/-- Reads the content characters of a plain scalar up to a blank or an indicator that ends it. -/
def plainChars : Nat → Folding → ScanM Folding
  | 0, f => pure f
  | fuel + 1, f => do
    let c ← ch
    if continuesPlain ((← get).flowLevel > 0) c (← peekAt 1) then
      skip
      plainChars fuel { f with text := f.text.push c }
    else pure f

/-- Reads the lines of a plain scalar indented deeper than `indent - 1`. A line that starts with
a document marker, or content that starts with `#`, ends it. -/
def plainLines (indent : Int) (start : Mark) : Nat → Folding → ScanM Folding
  | 0, f => pure f
  | fuel + 1, f => do
    let f := { f with leadingBlanks := (← get).leadingWhitespace }
    if (f.leadingBlanks && (← atDocumentIndicator)) || (← ch) == '#' then return f
    let flow := (← get).flowLevel > 0
    if flow && (← ch) == '-' && isFlowChar (← peekAt 1) then
      fail (← mark) "plain scalar cannot start with '-' followed by ,[]\x7b\x7d"
    let f ← if continuesPlain flow (← ch) (← peekAt 1) then
        plainChars (← ScanM.fuel) f.join
      else pure f
    let c ← ch
    if !(isBlank c || isBreak c) then return f
    let f ← Folding.blanks (.plain indent start) (← ScanM.fuel) f
    let s ← get
    if s.flowLevel == 0 && (s.mark.col : Int) < indent then return f
    plainLines indent start fuel f

/-- Reads a plain scalar, which may not be empty. A scalar that ran over a line break lets a
simple key follow. -/
def scanPlainScalar : ScanM Token := do
  unrollNonBlockIndents
  let s ← get
  let start := s.mark
  let indent := s.indent + 1
  if s.flowLevel > 0 && (start.col : Int) < indent then
    fail start "invalid indentation in flow construct"
  let f ← plainLines indent start (← ScanM.fuel) {}
  if (← get).leadingWhitespace then allowSimpleKey true
  if f.text.isEmpty then fail start "unexpected end of plain scalar"
  pure ⟨start, .scalar .plain f.text⟩

/-- The character a one-letter escape stands for. -/
def namedEscape : Char → Option Char
  | '0' => some '\x00'
  | 'a' => some '\x07'
  | 'b' => some '\x08'
  | 't' | '\t' => some '\t'
  | 'n' => some '\n'
  | 'v' => some '\x0b'
  | 'f' => some '\x0c'
  | 'r' => some '\r'
  | 'e' => some '\x1b'
  | ' ' => some ' '
  | '"' => some '"'
  | '\'' => some '\''
  | '\\' => some '\\'
  | '/' => some '/'
  | 'N' => some '\x85'
  | '_' => some '\xa0'
  | 'L' => some '\u2028'
  | 'P' => some '\u2029'
  | _ => none

/-- The number of hexadecimal digits after `x`, `u` and `U`. -/
def codeLength : Char → Nat
  | 'x' => 2
  | 'u' => 4
  | 'U' => 8
  | _ => 0

/-- Reads `n` hexadecimal digits into their value. -/
def hexCode (start : Mark) : Nat → Nat → ScanM Nat
  | 0, acc => pure acc
  | n + 1, acc => do
    let c ← ch
    if !isHexChar c then
      fail start "while parsing a quoted scalar, did not find expected hexadecimal number"
    skip
    hexCode start n (acc * 16 + hexCharValue c)

/-- Reads the escape after a backslash, answering the character it stands for. -/
def escape (start : Mark) : ScanM Char := do
  let c1 ← peekAt 1
  match namedEscape c1 with
  | some e => do skip; skip; pure e
  | none =>
    let n := codeLength c1
    if n == 0 then fail start "while parsing a quoted scalar, found unknown escape character"
    skip
    skip
    let v ← hexCode start n 0
    if v < 0xD800 || (0xE000 ≤ v && v < 0x110000) then pure (Char.ofNat v)
    else fail start "while parsing a quoted scalar, found invalid Unicode character escape code"

/-- Reads the characters of a quoted scalar up to a blank, a line break or its closing quote.
Answers whether an escaped line break ended the run. -/
def quotedChars (single : Bool) (start : Mark) : Nat → String → ScanM (String × Bool)
  | 0, text => pure (text, false)
  | fuel + 1, text => do
    let c ← ch
    let c1 ← peekAt 1
    if isBlankOrEnd c then pure (text, false)
    else if single && c == '\'' && c1 == '\'' then
      skip
      skip
      quotedChars single start fuel (text.push '\'')
    else if (single && c == '\'') || (!single && c == '"') then pure (text, false)
    else if !single && c == '\\' && isBreak c1 then
      skip
      skipLine
      pure (text, true)
    else if !single && c == '\\' then
      let e ← escape start
      quotedChars single start fuel (text.push e)
    else
      skip
      quotedChars single start fuel (text.push c)

/-- Reads the inside of a quoted scalar up to its closing quote. Every line must stand at least
as deep as the enclosing block collection. -/
def quotedLines (single : Bool) (start : Mark) : Nat → String → ScanM String
  | 0, text => pure text
  | fuel + 1, text => do
    if ← atDocumentMarker then
      fail start "while scanning a quoted scalar, found unexpected document indicator"
    if isEnd (← ch) then
      fail start "while scanning a quoted scalar, found unexpected end of stream"
    let s ← get
    if (s.mark.col : Int) < s.indent then fail start "invalid indentation in quoted scalar"
    let (text, leadingBlanks) ← quotedChars single start (← ScanM.fuel) text
    let c ← ch
    if (single && c == '\'') || (!single && c == '"') then return text
    let f ← Folding.blanks (.quoted s.indent) (← ScanM.fuel) { text, leadingBlanks }
    quotedLines single start fuel f.join.text

/-- Reads a single- or double-quoted scalar, then the blanks and comment after it, and checks
what follows. -/
def scanQuotedScalar (single : Bool) : ScanM Token := do
  let start ← mark
  skip
  let text ← quotedLines single start (← ScanM.fuel) ""
  skip
  let _ ← skipWsToEol true
  let s ← get
  let c ← ch
  let flow := s.flowLevel > 0
  if !((flow && (c == ',' || c == '\x7d' || c == ']')) || isBreakOrEnd c ||
      (c == ':' && (flow || start.line == s.mark.line))) then
    fail s.mark "invalid trailing content after double-quoted scalar"
  pure ⟨start, .scalar (if single then .singleQuoted else .doubleQuoted) text⟩

/-- Reads the spaces that indent a line of a block scalar up to column `indent`, and the empty
lines before the next line with content, keeping their breaks. -/
def blockIndent (indent : Nat) : Nat → String → ScanM String
  | 0, breaks => pure breaks
  | fuel + 1, breaks => do
    let here := (← mark).col
    let _ ← takeBlanks (indent - min indent here)
    if isBreak (← ch) then
      let b ← readBreak
      blockIndent indent fuel (breaks ++ b)
    else pure breaks
where
  takeBlanks : Nat → ScanM Unit
    | 0 => pure ()
    | n + 1 => do
      if (← ch) == ' ' then
        skipBlank
        takeBlanks n

/-- Reads the empty lines before the first line of a block scalar whose indentation is not
given, keeping their breaks. The indentation becomes the deepest of these lines and the first
line with content, at least one deeper than the enclosing block. -/
def firstBlockIndent (outer : Int) : Nat → Nat → String → ScanM (Nat × String)
  | 0, deepest, breaks => pure (max deepest (outer + 1).toNat, breaks)
  | fuel + 1, deepest, breaks => do
    blockIndent.takeBlanks (← ScanM.fuel)
    let deepest := max deepest (← mark).col
    if isBreak (← ch) then
      let b ← readBreak
      firstBlockIndent outer fuel deepest (breaks ++ b)
    else
      let indent := max deepest (outer + 1).toNat
      pure (if outer > 0 then max indent 1 else indent, breaks)

/-- The text of a block scalar so far: its content, the break after the last line, the empty
lines after it, and whether the last line started with a blank. -/
structure BlockText where
  text : String := ""
  leadingBreak : String := ""
  trailingBreaks : String := ""
  leadingBlank : Bool := false

/-- Whether a document end marker `...` followed by a blank or the end stands here. -/
def atDocumentEnd : ScanM Bool := do
  pure ((← peekAt 0) == '.' && (← peekAt 1) == '.' && (← peekAt 2) == '.' &&
    isBlankOrEnd (← peekAt 3))

/-- Reads the lines of a block scalar at indentation `indent`. At indentation 0 a document end
marker ends it. -/
def blockLines (literal : Bool) (indent : Nat) : Nat → BlockText → ScanM BlockText
  | 0, b => pure b
  | fuel + 1, b => do
    let c ← ch
    if (← mark).col != indent || isEnd c then return b
    if indent == 0 && (← atDocumentEnd) then return b
    let trailingBlank := isBlank c
    let b :=
      if !literal && !b.leadingBreak.isEmpty && !b.leadingBlank && !trailingBlank then
        { b with text := if b.trailingBreaks.isEmpty then b.text.push ' ' else b.text,
                 leadingBreak := "" }
      else { b with text := b.text ++ b.leadingBreak, leadingBreak := "" }
    let b := { b with text := b.text ++ b.trailingBreaks, trailingBreaks := "",
                      leadingBlank := isBlank c }
    let line ← lineRest (← ScanM.fuel) ""
    let b := { b with text := b.text ++ line }
    if isEnd (← ch) then return b
    let br ← readBreak
    let trailing ← blockIndent indent (← ScanM.fuel) ""
    blockLines literal indent fuel { b with leadingBreak := br, trailingBreaks := trailing }
where
  lineRest : Nat → String → ScanM String
    | 0, acc => pure acc
    | n + 1, acc => do
      let c ← ch
      if isBreakOrEnd c then pure acc
      else
        skipBlank
        lineRest n (acc.push c)

/-- Reads the indicators after `|` or `>`: chomping (`+` keep 1, `-` strip -1, none 0) and an
indentation digit from 1 to 9, in either order. -/
def blockIndicators (start : Mark) : ScanM (Int × Nat) := do
  let c ← ch
  let chompOf := fun (d : Char) => if d == '+' then (1 : Int) else -1
  let zero := "while scanning a block scalar, found an indentation indicator equal to 0"
  if c == '+' || c == '-' then
    skip
    let d ← ch
    if d.isDigit then
      if d == '0' then fail start zero
      skip
      pure (chompOf c, d.toNat - 48)
    else pure (chompOf c, 0)
  else if c.isDigit then
    if c == '0' then fail start zero
    skip
    let d ← ch
    if d == '+' || d == '-' then
      skip
      pure (chompOf d, c.toNat - 48)
    else pure (0, c.toNat - 48)
  else pure (0, 0)

/-- Reads a literal (`|`) or folded (`>`) block scalar. When the text ends before any content,
the scalar is empty, or under clipping (and under keeping with no empty lines) the break after
its header. When the text ends on a content line without a break, clipping and keeping add
one. -/
def scanBlockScalar (literal : Bool) : ScanM Token := do
  let start ← mark
  skip
  unrollNonBlockIndents
  let (chomping, increment) ← blockIndicators start
  let _ ← skipWsToEol true
  if !isBreakOrEnd (← ch) then
    fail start "while scanning a block scalar, did not find expected comment or line break"
  let headerBreak ← readBreak
  if (← ch) == '\t' then fail start "a block scalar content cannot start with a tab"
  let outer := (← get).indent
  let style := if literal then ScalarStyle.literal else .folded
  let (indent, trailing) ← if increment == 0 then firstBlockIndent outer (← ScanM.fuel) 0 ""
    else
      let indent := if 0 ≤ outer then (outer + increment).toNat else increment
      pure (indent, ← blockIndent indent (← ScanM.fuel) "")
  let m ← mark
  if isEnd (← ch) then
    let text :=
      if chomping == -1 || m.line == start.line then ""
      else if chomping == 0 || trailing.isEmpty then headerBreak
      else trailing
    return ⟨start, .scalar style text⟩
  if m.col < indent && (m.col : Int) > outer then
    fail m "wrongly indented line in block scalar"
  let b ← blockLines literal indent (← ScanM.fuel) { trailingBreaks := trailing }
  let m ← mark
  let unbroken := isEnd (← ch) && m.col ≥ max indent 1
  let text := if chomping != -1 then
      b.text ++ b.leadingBreak ++ (if unbroken then "\n" else "")
    else b.text
  let text := if chomping == 1 then text ++ b.trailingBreaks else text
  pure ⟨start, .scalar style text⟩

/-- Whether `c` may stand in the name of an anchor or alias. -/
def isAnchorChar (c : Char) : Bool :=
  !isBlankOrEnd c && !isFlowChar c && c != '\uFEFF'

/-- Reads an anchor `&name` or an alias `*name`. -/
def scanAnchor (isAlias : Bool) : ScanM Token := do
  let start ← mark
  skip
  let name ← takeWhile isAnchorChar (← ScanM.fuel)
  if name.isEmpty then
    fail start ("while scanning an anchor or alias, did not find expected alphabetic or " ++
      "numeric character")
  pure ⟨start, if isAlias then .alias name else .anchor name⟩

/-- Whether `c` may stand in a URI: an ASCII letter or digit, `-`, or one of
`#;/?:@&=+$,_.!~*'()[]%`. -/
def isUriChar (c : Char) : Bool :=
  c.isAlphanum || c == '-' || "#;/?:@&=+$,_.!~*'()[]%".contains c

/-- Whether `c` may stand in the suffix of a tag: a URI character that is neither `!` nor a
flow indicator. -/
def isTagChar (c : Char) : Bool :=
  isUriChar c && !isFlowChar c && c != '!'

/-- The width of a UTF-8 sequence announced by its leading byte, 0 for a byte that leads
none. -/
def utf8Width (b : Nat) : Nat :=
  if b < 0x80 then 1
  else if b / 0x20 == 0x6 then 2
  else if b / 0x10 == 0xE then 3
  else if b / 0x8 == 0x1E then 4
  else 0

/-- Reads the `%HH` escapes of one encoded character in a tag, at most `left` more bytes after
the first. The bytes are put together as one number, eight bits each, and that number is the
character's code. -/
def uriEscapeBytes (start : Mark) : Nat → Nat → Nat → ScanM Nat
  | 0, _, code => pure code
  | fuel + 1, left, code => do
    let c1 ← peekAt 1
    let c2 ← peekAt 2
    if !((← ch) == '%' && isHexChar c1 && isHexChar c2) then
      fail start "while parsing a tag, did not find URI escaped octet"
    let b := hexCharValue c1 * 16 + hexCharValue c2
    skip
    skip
    skip
    if left == 0 then
      let width := utf8Width b
      if width == 0 then
        fail start "while parsing a tag, found an incorrect leading UTF-8 octet"
      if width == 1 then pure b else uriEscapeBytes start fuel (width - 1) b
    else
      if b / 0x40 != 2 then
        fail start "while parsing a tag, found an incorrect trailing UTF-8 octet"
      let code := code * 256 + b
      if left == 1 then pure code else uriEscapeBytes start fuel (left - 1) code

/-- Reads one escaped character `%HH…` of a tag. -/
def uriEscape (start : Mark) : ScanM Char := do
  let code ← uriEscapeBytes start 4 0 0
  if code < 0xD800 || (0xE000 ≤ code && code < 0x110000) then pure (Char.ofNat code)
  else fail start "while parsing a tag, found an invalid UTF-8 codepoint"

/-- Reads characters of a tag while `p` holds of them, an escape `%HH…` standing for the
character it encodes. -/
def tagChars (p : Char → Bool) (start : Mark) : Nat → String → ScanM String
  | 0, acc => pure acc
  | fuel + 1, acc => do
    let c ← ch
    if !p c then pure acc
    else if c == '%' then tagChars p start fuel (acc.push (← uriEscape start))
    else
      skip
      tagChars p start fuel (acc.push c)

/-- Reads a tag handle: `!`, then letters, digits, `_` and `-`, then `!` if one follows. In a
directive the handle must end with `!` unless it is `!` alone. -/
def scanTagHandle (directive : Bool) (start : Mark) : ScanM String := do
  if (← ch) != '!' then fail start "while scanning a tag, did not find expected '!'"
  skip
  let word ← takeWhile isWordChar (← ScanM.fuel)
  if (← ch) == '!' then
    skip
    pure ("!" ++ word ++ "!")
  else if directive && !word.isEmpty then
    fail start "while parsing a tag directive, did not find expected '!'"
  else pure ("!" ++ word)

/-- Reads the suffix of a tag after `head`; an empty suffix is an error unless `head` has more
than its `!`. -/
def tagSuffix (head : String) (start : Mark) : ScanM String := do
  let suffix ← tagChars isTagChar start (← ScanM.fuel) ""
  if head.length + suffix.length == 0 then
    fail start "while parsing a tag, did not find expected tag URI"
  pure ((head.drop 1).toString ++ suffix)

/-- Reads a tag: verbatim `!<uri>`, `!handle!suffix`, `!!suffix`, `!suffix`, or `!` alone. -/
def scanTag : ScanM Token := do
  let start ← mark
  let (handle, suffix) ← if (← peekAt 1) == '<' then do
      skip
      skip
      let uri ← tagChars isUriChar start (← ScanM.fuel) ""
      if (← ch) != '>' then
        fail start "while scanning a verbatim tag, did not find the expected '>'"
      skip
      pure ("", uri)
    else do
      let handle ← scanTagHandle false start
      if handle.length ≥ 2 && handle.endsWith "!" then
        pure (handle, ← tagSuffix "" start)
      else
        let suffix ← tagSuffix handle start
        if suffix.isEmpty then pure ("", "!") else pure ("!", suffix)
  let c ← ch
  if isBlankOrEnd c || ((← get).flowLevel > 0 && isFlowChar c) then
    pure ⟨start, .tag handle suffix⟩
  else fail start "while scanning a tag, did not find expected whitespace or line break"

/-- Reads the number of a `%YAML` directive: one to nine digits. -/
def versionNumber (start : Mark) : ScanM Nat := do
  let digits ← takeWhile Char.isDigit 10
  if digits.length > 9 then
    fail start "while scanning a YAML directive, found extremely long version number"
  if digits.isEmpty then
    fail start "while scanning a YAML directive, did not find expected version number"
  pure digits.toNat!

/-- Reads the prefix of a `%TAG` directive: `!` or a tag character, then URI characters. -/
def tagPrefix (start : Mark) : ScanM String := do
  let c ← ch
  let first ← if c == '!' then do skip; pure "!"
    else if !isTagChar c then fail start "invalid global tag character"
    else if c == '%' then pure (String.singleton (← uriEscape start))
    else do skip; pure (String.singleton c)
  tagChars isUriChar start (← ScanM.fuel) first

/-- Reads a directive line after its `%`: `%YAML major.minor`, `%TAG handle prefix`, or another
name, whose line is skipped as a comment. A comment may end the line. -/
def scanDirective : ScanM Token := do
  let start ← mark
  skip
  let nameAt ← mark
  let name ← takeWhile isWordChar (← ScanM.fuel)
  if name.isEmpty then
    fail nameAt "while scanning a directive, could not find expected directive name"
  if !isBlankOrEnd (← ch) then
    fail nameAt "while scanning a directive, found unexpected non-alphabetical character"
  let kind ← if name == "YAML" then do
      skipBlanks
      let major ← versionNumber start
      if (← ch) != '.' then
        fail start "while scanning a YAML directive, did not find expected digit or '.' character"
      skip
      let minor ← versionNumber start
      pure (TokenKind.versionDirective major minor)
    else if name == "TAG" then do
      skipBlanks
      let handle ← scanTagHandle true start
      skipBlanks
      let pfx ← tagPrefix start
      if !isBlankOrEnd (← ch) then
        fail start "while scanning TAG, did not find expected whitespace or line break"
      pure (TokenKind.tagDirective handle pfx)
    else do
      skipComment
      pure (TokenKind.tagDirective "" "")
  let _ ← skipWsToEol true
  if !isBreakOrEnd (← ch) then
    fail start "while scanning a directive, did not find expected comment or line break"
  skipLine
  pure ⟨start, kind⟩

end CpuBench.Yaml
