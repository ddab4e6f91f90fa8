import CpuBench.Json.Read

/-!
# Output formats

The suite writes JSON files, Markdown files, or both. A format is named `json`, `markdown` or
`both`; as text typed by a user, case does not matter and `md` also names Markdown.
-/

namespace CpuBench.Config

/-- Which files the suite writes. -/
inductive OutputFormat where
  | json
  | markdown
  | both
  deriving DecidableEq, Repr, Inhabited

namespace OutputFormat

/-- The name of a format. -/
def name : OutputFormat → String
  | .json => "json"
  | .markdown => "markdown"
  | .both => "both"

/-- All formats, in declaration order. -/
def all : List OutputFormat := [.json, .markdown, .both]

/-- Whether JSON files are written. -/
def includesJson : OutputFormat → Bool
  | .json | .both => true
  | .markdown => false

/-- Whether Markdown files are written. -/
def includesMarkdown : OutputFormat → Bool
  | .markdown | .both => true
  | .json => false

/-- A format from text typed by a user: case is ignored and `md` names Markdown. On failure
the lowered text is returned. -/
def ofText (s : String) : Except String OutputFormat :=
  let lowered := String.map Char.toLower s
  if lowered == "json" then .ok .json
  else if lowered == "markdown" || lowered == "md" then .ok .markdown
  else if lowered == "both" then .ok .both
  else .error lowered

/-- The format with exactly the given name. -/
def ofName? (s : String) : Option OutputFormat :=
  all.find? (·.name == s)

/-- A format from a data value: its exact name as a string. -/
def ofValue : Json.Value → Except Json.Error OutputFormat
  | .string s =>
    match ofName? s with
    | some f => .ok f
    | none => .error (.unknownVariant s (all.map name))
  | .object [(s, v)] =>
    match ofName? s with
    | some f =>
      match v with
      | .null => .ok f
      | other => .error (.invalidType (.ofValue other) "unit")
    | none => .error (.unknownVariant s (all.map name))
  | .object _ => .error (.invalidValue .map "map with a single key")
  | other => .error (.invalidType (.ofValue other) "string or map")

end OutputFormat

end CpuBench.Config
