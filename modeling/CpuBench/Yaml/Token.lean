/-!
# YAML tokens

The first stage of reading YAML cuts the text into tokens: indicators of structure (the start
and end of block and flow collections, entries, keys and values), document markers, directives,
anchors, aliases, tags and scalars. Every token carries the place where it starts.

A place is a `Mark`: how many characters precede it, its line counted from 1, and its column
counted from 0. A `ScanError` names the place where reading stopped and why; its message shows
the column counted from 1.
-/

namespace CpuBench.Yaml

/-- A place in the text: the characters before it, its line (from 1) and its column (from 0). -/
structure Mark where
  index : Nat
  line : Nat
  col : Nat
  deriving DecidableEq, Repr, Inhabited

/-- Why the text is not YAML, and where that was found. -/
structure ScanError where
  mark : Mark
  info : String
  deriving Repr

/-- The text of a reading error: the reason, then the place with its column counted from 1. -/
def ScanError.message (e : ScanError) : String :=
  e.info ++ " at byte " ++ Nat.repr e.mark.index ++ " line " ++ Nat.repr e.mark.line ++
    " column " ++ Nat.repr (e.mark.col + 1)

/-- How a scalar was written. Only plain scalars are resolved to numbers, booleans and null. -/
inductive ScalarStyle where
  | plain
  | singleQuoted
  | doubleQuoted
  | literal
  | folded
  deriving DecidableEq, Repr

/-- What a token is. -/
inductive TokenKind where
  | streamStart
  | streamEnd
  | versionDirective (major minor : Nat)
  | tagDirective (handle pfx : String)
  | documentStart
  | documentEnd
  | blockSequenceStart
  | blockMappingStart
  | blockEnd
  | flowSequenceStart
  | flowSequenceEnd
  | flowMappingStart
  | flowMappingEnd
  | blockEntry
  | flowEntry
  | key
  | value
  | alias (name : String)
  | anchor (name : String)
  | tag (handle suffix : String)
  | scalar (style : ScalarStyle) (text : String)
  deriving DecidableEq, Repr

/-- A token and the place where it starts. -/
structure Token where
  mark : Mark
  kind : TokenKind
  deriving Repr

end CpuBench.Yaml
