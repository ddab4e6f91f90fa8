import CpuBench.Text.Escaped
/-!
# Quoted text for diagnostics

Messages quote a string between double quotes with escapes, so that invisible characters show:
`\"`, `\\`, `\t`, `\r`, `\n` and `\0` by name, and characters that do not print on their own
as `\u{…}` with lower-case hex digits. A single character may also stand between single
quotes, and then the single quote is the one escaped. Quoting lists of strings puts them in
brackets, separated by `, `.

Which characters are escaped is the table of `CpuBench.Text.Escaped`.
-/

namespace CpuBench.Text

/-- Lower-case hexadecimal digits of `n`, no leading zeros. -/
def hexDigits (n : Nat) : String :=
  String.ofList (Nat.toDigits 16 n)

/-- One character as it appears inside a quoted string. -/
def quoteChar (c : Char) : String :=
  match c with
  | '"' => "\\\""
  | '\\' => "\\\\"
  | '\t' => "\\t"
  | '\r' => "\\r"
  | '\n' => "\\n"
  | '\x00' => "\\0"
  | c => if isEscaped c then "\\u" ++ "\x7b" ++ hexDigits c.toNat ++ "\x7d" else String.singleton c

/-- One character between single quotes: escaped as inside a quoted string, except that the
single quote is escaped and the double quote is not. -/
def quoteSingle (c : Char) : String :=
  "'" ++ (match c with
    | '\'' => "\\'"
    | '"' => "\""
    | c => quoteChar c) ++ "'"

/-- `s` between double quotes, escaped. -/
def quote (s : String) : String :=
  "\"" ++ String.join (s.toList.map quoteChar) ++ "\""

/-- A list of strings, each quoted, in brackets. -/
def quoteList (xs : List String) : String :=
  "[" ++ ", ".intercalate (xs.map quote) ++ "]"

end CpuBench.Text
