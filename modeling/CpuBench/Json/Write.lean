import CpuBench.Json.Value

/-!
# Writing JSON

Two layouts of the same value: compact, with no blank at all, and pretty, with one item a line
indented by two spaces, `": "` after a key, and `[]` / `{}` for empty containers. Strings escape
the quote, the backslash and the control characters (`\b \f \n \r \t` by name, the rest as
`\u00xx` in lower-case hex); everything else is written as is.
-/

namespace CpuBench.Json

/-- Two lower-case hex digits of a byte. -/
def hex2 (n : Nat) : String :=
  let d := fun (k : Nat) => if k < 10 then Char.ofNat (48 + k) else Char.ofNat (87 + k)
  String.ofList [d (n / 16 % 16), d (n % 16)]

/-- One character inside a JSON string. -/
def escapeChar (c : Char) : String :=
  match c with
  | '"' => "\\\""
  | '\\' => "\\\\"
  | '\n' => "\\n"
  | '\r' => "\\r"
  | '\t' => "\\t"
  | '\x08' => "\\b"
  | '\x0c' => "\\f"
  | c => if c.toNat < 0x20 then "\\u00" ++ hex2 c.toNat else String.singleton c

/-- A JSON string literal. -/
def quote (s : String) : String :=
  "\"" ++ String.join (s.toList.map escapeChar) ++ "\""

mutual

/-- The compact text of a value. -/
def Value.compact : Value → String
  | .null => "null"
  | .bool b => if b then "true" else "false"
  | .number n => n.text
  | .string s => quote s
  | .array items => "[" ++ compactItems items ++ "]"
  | .object fields => "\x7b" ++ compactFields fields ++ "\x7d"

/-- Compact texts of array items, comma-separated. -/
def compactItems : List Value → String
  | [] => ""
  | [v] => v.compact
  | v :: rest => v.compact ++ "," ++ compactItems rest

/-- Compact texts of object fields, comma-separated. -/
def compactFields : List (String × Value) → String
  | [] => ""
  | [(k, v)] => quote k ++ ":" ++ v.compact
  | (k, v) :: rest => quote k ++ ":" ++ v.compact ++ "," ++ compactFields rest

end

/-- Two spaces per level. -/
def indent (level : Nat) : String :=
  String.ofList (List.replicate (2 * level) ' ')

mutual

/-- The pretty text of a value that starts at nesting `level`. -/
def Value.pretty (level : Nat) : Value → String
  | .array [] => "[]"
  | .object [] => "\x7b\x7d"
  | .array items => "[" ++ prettyItems (level + 1) items ++ "\n" ++ indent level ++ "]"
  | .object fields => "\x7b" ++ prettyFields (level + 1) fields ++ "\n" ++ indent level ++ "\x7d"
  | v => v.compact

/-- Pretty array items at `level`, each on a line of its own. -/
def prettyItems (level : Nat) : List Value → String
  | [] => ""
  | [v] => "\n" ++ indent level ++ v.pretty level
  | v :: rest => "\n" ++ indent level ++ v.pretty level ++ "," ++ prettyItems level rest

/-- Pretty object fields at `level`, each on a line of its own. -/
def prettyFields (level : Nat) : List (String × Value) → String
  | [] => ""
  | [(k, v)] => "\n" ++ indent level ++ quote k ++ ": " ++ v.pretty level
  | (k, v) :: rest =>
    "\n" ++ indent level ++ quote k ++ ": " ++ v.pretty level ++ "," ++ prettyFields level rest

end

/-- The pretty text of a top-level value. -/
def Value.prettyText (v : Value) : String :=
  v.pretty 0

end CpuBench.Json
