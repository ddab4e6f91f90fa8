import CpuBench.Decimal.Notation
import CpuBench.Text.Debug

/-!
# RON values

A RON text holds one value: a boolean, a character, a number (a 64-bit integer or a float), a
string, an optional value (`Some(…)` or `None`), the unit `()`, a sequence, or a map. Structs
read as maps from their field names, tuples as sequences, and a bare name such as an enum
variant as the unit.

The entries of a map are ordered by key: by the kind of the key first, then by its value. A
key met twice keeps its place and takes the later value.

A reading error carries its cause and the place where reading stood: the line and the column,
both counted from 1, the column counting bytes.
-/

namespace CpuBench.Ron

/-- A RON value. -/
inductive Value where
  | bool (b : Bool)
  | char (c : Char)
  | map (entries : List (Value × Value))
  | integer (i : Int)
  | float (x : Float)
  | option (v : Option Value)
  | string (s : String)
  | seq (items : List Value)
  | unit
  deriving Inhabited, Repr

/-- Why a text is not RON. -/
inductive ErrorCode where
  | eof
  | expectedArray
  | expectedArrayEnd
  | expectedChar
  | expectedComma
  | expectedFloat
  | floatUnderscore
  | expectedInteger
  | expectedOptionEnd
  | expectedMap
  | expectedMapColon
  | expectedMapEnd
  | expectedStructLike
  | expectedStructLikeEnd
  | expectedString
  | expectedStringEnd
  | expectedIdentifier
  | expectedAttribute
  | expectedAttributeEnd
  | noSuchExtension (name : String)
  | invalidEscape (reason : String)
  | integerOutOfBounds
  | underscoreAtBeginning
  | unclosedBlockComment
  | unexpectedByte (c : Char)
  | trailingCharacters
  | invalidUtf8 (validUpTo : Nat) (errorLength : Option Nat)
  | invalidType (expected found : String)
  | expectedOption
  | exceededRecursionLimit
  deriving Repr

/-- How a name appears in a message: as written when it is a plain name (a letter or `_`, then
letters, digits and `_`), else in its raw form `r#…`. -/
def shownName (name : String) : String :=
  let isStart (c : Char) := c.isAlpha || c == '_'
  let isPart (c : Char) := c.isAlphanum || c == '_'
  match name.toList with
  | c :: rest => if isStart c && rest.all isPart then name else "r#" ++ name
  | [] => "r#"

/-- The text of an error cause. -/
def ErrorCode.message : ErrorCode → String
  | .eof => "Unexpected end of RON"
  | .expectedArray => "Expected opening `[`"
  | .expectedArrayEnd => "Expected closing `]`"
  | .expectedChar => "Expected char"
  | .expectedComma => "Expected comma"
  | .expectedFloat => "Expected float"
  | .floatUnderscore => "Unexpected underscore in float"
  | .expectedInteger => "Expected integer"
  | .expectedOptionEnd => "Expected closing `)`"
  | .expectedMap => "Expected opening `\x7b`"
  | .expectedMapColon => "Expected colon"
  | .expectedMapEnd => "Expected closing `\x7d`"
  | .expectedStructLike => "Expected opening `(`"
  | .expectedStructLikeEnd => "Expected closing `)`"
  | .expectedString => "Expected string"
  | .expectedStringEnd => "Expected end of string"
  | .expectedIdentifier => "Expected identifier"
  | .expectedAttribute => "Expected an `#![enable(...)]` attribute"
  | .expectedAttributeEnd => "Expected closing `)]` after the enable attribute"
  | .noSuchExtension name => "No RON extension named `" ++ shownName name ++ "`"
  | .invalidEscape reason => reason
  | .integerOutOfBounds => "Integer is out of bounds"
  | .underscoreAtBeginning => "Unexpected leading underscore in an integer"
  | .unclosedBlockComment => "Unclosed block comment"
  | .unexpectedByte c => "Unexpected byte " ++ Text.quoteSingle c
  | .trailingCharacters => "Non-whitespace trailing characters"
  | .invalidUtf8 validUpTo errorLength =>
    match errorLength with
    | some n => "invalid utf-8 sequence of " ++ Nat.repr n ++ " bytes from index " ++
        Nat.repr validUpTo
    | none => "incomplete utf-8 byte sequence from index " ++ Nat.repr validUpTo
  | .invalidType expected found => "Expected " ++ expected ++ " but found " ++ found ++ " instead"
  | .expectedOption => "Expected option"
  | .exceededRecursionLimit => "Exceeded recursion limit, try increasing the limit and using " ++
    "`serde_stacker` to protect against a stack overflow"

/-- A reading error and where it happened. -/
structure SpannedError where
  line : Nat
  col : Nat
  code : ErrorCode
  deriving Repr

/-- The text of a reading error: line and column, then the cause. -/
def SpannedError.message (e : SpannedError) : String :=
  Nat.repr e.line ++ ":" ++ Nat.repr e.col ++ ": " ++ e.code.message

/-- Where a key's kind stands among the keys of a map: booleans, characters, maps, integers,
floats, options, strings, sequences, then the unit. -/
def Value.rank : Value → Nat
  | .bool _ => 0
  | .char _ => 1
  | .map _ => 2
  | .integer _ => 3
  | .float _ => 4
  | .option _ => 5
  | .string _ => 6
  | .seq _ => 7
  | .unit => 8

/-- Whether key `a` comes before key `b` in a map: by kind first, then `false` before `true`,
characters, integers and floats by value (not-a-number before every other float), strings in
code point order, and an absent option before a present one. Other keys of one kind keep the order they came in. -/
def Value.keyBefore (a b : Value) : Bool :=
  if a.rank != b.rank then a.rank < b.rank
  else match a, b with
    | .bool x, .bool y => !x && y
    | .char x, .char y => x < y
    | .integer x, .integer y => x < y
    | .float x, .float y => if x.isNaN then !y.isNaN else !y.isNaN && x < y
    | .string x, .string y => x < y
    | .option none, .option (some _) => true
    | _, _ => false

/-- Whether two keys are one key: equal booleans, characters, numbers (every not-a-number is
equal to every other) or strings, two absent options, or two units. -/
def Value.sameKey (a b : Value) : Bool :=
  match a, b with
  | .bool x, .bool y => x == y
  | .char x, .char y => x == y
  | .integer x, .integer y => x == y
  | .float x, .float y => x == y || (x.isNaN && y.isNaN)
  | .string x, .string y => x == y
  | .option none, .option none => true
  | .unit, .unit => true
  | _, _ => false

/-- Puts an entry among entries sorted by key: over the value of the same key, which keeps its
place, or before the first key that comes after it. -/
def insertSorted (k : Value) (v : α) : List (Value × α) → List (Value × α)
  | [] => [(k, v)]
  | (k', v') :: rest =>
    if k.sameKey k' then (k', v) :: rest
    else if k.keyBefore k' then (k, v) :: (k', v') :: rest
    else (k', v') :: insertSorted k v rest

/-- The entries of a map in key order, each key once with its last value. -/
def sortEntries (entries : List (Value × α)) : List (Value × α) :=
  entries.foldl (fun acc (k, v) => insertSorted k v acc) []

/-- How a value that should have been a string is named in the error. -/
def Value.describe : Value → String
  | .bool b => "the boolean `" ++ (if b then "true" else "false") ++ "`"
  | .char c => "the UTF-8 character `" ++ String.singleton c ++ "`"
  | .map _ => "a map"
  | .integer i => "the signed integer `" ++ toString i ++ "`"
  | .float x => "the floating point number `" ++ Decimal.Notation.plain.render x ++ "`"
  | .option _ => "an optional value"
  | .string s => "the string " ++ Text.quote s
  | .seq _ => "a sequence"
  | .unit => "a unit value"

/-- A map key as a string: a string, or a character as the string of it. Any other key is an
error naming what was found. -/
def Value.keyText : Value → Except ErrorCode String
  | .string s => .ok s
  | .char c => .ok (String.singleton c)
  | k => .error (.invalidType "a string" k.describe)

end CpuBench.Ron
