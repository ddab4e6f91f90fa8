/-!
# Environment files

An environment file holds `KEY=VALUE` lines, which the command-line program takes as
environment variables that are not already set. Blank lines and lines starting with `#` are
skipped, and a line may start with `export `. A value in single quotes is taken as written; one in
double quotes may hold the escapes `\\`, `\"`, `\n`, `\r`, `\t` and `\$`; an unquoted value ends
at a `#` after a blank and loses its surrounding blanks. Reading stops at the first line that is
none of these.
-/

namespace CpuBench.Cli

/-- Whether a character may stand in a variable name. -/
def isNameChar (c : Char) : Bool :=
  c.isAlphanum || c == '_' || c == '.'

/-- The text of a double-quoted value up to its closing quote, escapes resolved, with what
follows it; none when the quote is not closed. -/
def doubleQuoted : List Char → List Char → Option (String × List Char)
  | acc, '"' :: rest => some (String.ofList acc.reverse, rest)
  | acc, '\\' :: c :: rest =>
    let e := match c with
      | 'n' => '\n'
      | 'r' => '\r'
      | 't' => '\t'
      | other => other
    doubleQuoted (e :: acc) rest
  | acc, c :: rest => doubleQuoted (c :: acc) rest
  | _, [] => none

/-- An unquoted value: up to a `#` that follows a blank, without surrounding blanks. -/
def unquoted (cs : List Char) : String :=
  let rec upTo : Char → List Char → List Char
    | _, [] => []
    | prev, c :: rest =>
      if c == '#' && (prev == ' ' || prev == '\t') then [] else c :: upTo c rest
  (String.ofList (upTo ' ' cs)).trimAscii.toString

/-- The value after `=`, or none when it is malformed. -/
def dotenvValue (cs : List Char) : Option String :=
  match cs with
  | '\'' :: rest =>
    match rest.splitOn '\'' with
    | inner :: _ :: _ => some (String.ofList inner)
    | _ => none
  | '"' :: rest => (doubleQuoted [] rest).map (·.1)
  | _ => some (unquoted cs)

/-- The variable a line sets, `none` for a line to skip, or an error for a malformed line. -/
def dotenvLine (line : String) : Except Unit (Option (String × String)) :=
  let text := line.trimAscii.toString
  if text.isEmpty || text.startsWith "#" then .ok none
  else
    let body := if text.startsWith "export " then (text.drop 7).toString.trimAsciiStart.toString
      else text
    match body.toList.span (· != '=') with
    | (name, '=' :: rest) =>
      let key := (String.ofList name).trimAscii.toString
      if key.isEmpty || !key.all isNameChar then .error ()
      else
        match dotenvValue (rest.dropWhile fun c => c == ' ' || c == '\t') with
        | some v => .ok (some (key, v))
        | none => .error ()
    | _ => .error ()

/-- The variables an environment file sets, in order, up to its first malformed line. -/
def parseDotenv (text : String) : List (String × String) :=
  let rec go : List String → List (String × String)
    | [] => []
    | l :: rest =>
      match dotenvLine l with
      | .ok (some kv) => kv :: go rest
      | .ok none => go rest
      | .error _ => []
  go (text.splitOn "\n")

end CpuBench.Cli
