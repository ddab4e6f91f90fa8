import CpuBench.Config.Layers
import CpuBench.Toml.Document
import CpuBench.Json.Read
import CpuBench.Yaml.Node
import CpuBench.Ini.Read
import CpuBench.Ron.Read
import CpuBench.Json5.Read
import CpuBench.Json5.Decode

/-!
# Settings file formats

A settings file is TOML, JSON, YAML, INI, RON or JSON5, by its extension (`toml`, `json`, `yaml`
or `yml`, `ini`, `ron`, `json5`; the case counts). Each format's values become settings that remember the
file they came from:

* TOML: dates and times become their text.
* JSON: a number is a signed 64-bit integer when it is one, a float otherwise; of repeated keys
  the last wins.
* YAML: a stream of no document is an empty table and one of more than one an error. Reals are
  read as floats, and one that does not read as a float is an error. A mapping key must be a
  string or an integer (which becomes its decimal text); any other key halts. Null, and a value
  of the wrong kind for its tag, are nil.
* INI: every value is a string. The properties before the first section are top-level keys;
  every section is a table of its properties. Of repeated keys or sections the last wins.
* RON: the unit and an absent option are nil, a present option its value, a character a
  string. A map's entries are taken in key order and its keys must be strings or characters.
* JSON5: strings, names and numbers are decoded in the order they are written, and the first
  that does not decode is the error; of repeated keys the last wins.

The top level must be a table, and every key counts in lower case, at every depth.
-/

namespace CpuBench.Config

/-- A TOML value as a setting from `origin`; dates and times become their text. -/
def tomlSetting (origin : Option String) : TomlValue → Setting
  | .str s => .str origin s
  | .int i => .int origin i
  | .float x => .float origin x
  | .bool b => .bool origin b
  | .datetime t => .str origin t
  | .array items => .array origin (items.attach.map fun ⟨x, _⟩ => tomlSetting origin x)
  | .table entries => .table origin (entries.attach.map fun ⟨(k, x), _⟩ => (k, tomlSetting origin x))
decreasing_by
  all_goals simp_wf
  · have := List.sizeOf_lt_of_mem ‹_ ∈ items›
    omega
  · have := List.sizeOf_lt_of_mem ‹_ ∈ entries›
    simp at this
    omega

/-- The entries of an object with each key kept once, at its last value. -/
def lastOfEach (fields : List (String × α)) : List (String × α) :=
  fields.foldl (fun acc (k, v) => upsert acc k v) []
where
  upsert (acc : List (String × α)) (k : String) (v : α) : List (String × α) :=
    if acc.any (·.1 == k) then acc.map fun e => if e.1 == k then (k, v) else e
    else acc ++ [(k, v)]

/-- The smallest integer a 64-bit signed integer cannot hold. -/
def i64Bound : Nat := Nat.pow 2 63

/-- A JSON number as a setting: a signed 64-bit integer when it is one, a float otherwise. -/
def numberSetting (origin : Option String) : Json.Number → Setting
  | .nat n => if n < i64Bound then .int origin n else .float origin (Decimal.nearestFloat n)
  | .neg n => .int origin n
  | .float x => .float origin x

/-- A JSON value as a setting from `origin`. -/
def jsonSetting (origin : Option String) : Json.Value → Setting
  | .null => .nil origin
  | .bool b => .bool origin b
  | .number n => numberSetting origin n
  | .string s => .str origin s
  | .array items => .array origin (items.attach.map fun ⟨x, _⟩ => jsonSetting origin x)
  | .object fields =>
    .table origin (lastOfEach (fields.attach.map fun ⟨(k, x), _⟩ => (k, jsonSetting origin x)))
decreasing_by
  all_goals simp_wf
  · have := List.sizeOf_lt_of_mem ‹_ ∈ items›
    omega
  · have := List.sizeOf_lt_of_mem ‹_ ∈ fields›
    simp at this
    omega

/-- How an error about the top level of a file shows the value found there. -/
def unexpectedOf : Setting → Unexpected
  | .nil _ => .unit
  | .bool _ b => .bool b
  | .int _ i => .int i
  | .float _ x => .float x
  | .str _ s => .str s
  | .array _ _ => .seq
  | .table _ _ => .map

/-- A value with every table key brought to lower case, the last of equal keys winning. -/
def Setting.lowerKeys : Setting → Setting
  | .array o items => .array o (items.attach.map fun ⟨x, _⟩ => x.lowerKeys)
  | .table o entries =>
    .table o (lastOfEach (entries.attach.map fun ⟨(k, x), _⟩ => (Text.lowerText k, x.lowerKeys)))
  | v => v
decreasing_by
  all_goals simp_wf
  · have := List.sizeOf_lt_of_mem ‹_ ∈ items›
    omega
  · have := List.sizeOf_lt_of_mem ‹_ ∈ entries›
    simp at this
    omega

/-- The entries of a file's top level, which must be a table. -/
def rootEntries (origin : Option String) (uri : String) : Setting → Except LoadError (List (String × Setting))
  | .table _ entries => .ok entries
  | other => .error (.fileParse (LoadError.invalidType origin (unexpectedOf other) "a map" none).text uri)

/-- A YAML node as a setting from `origin`, in the file `uri`. -/
def yamlSetting (origin : Option String) (uri : String) :
    Yaml.Node → ExceptT LoadError (Except Halt) Setting
  | .null | .bad => pure (.nil origin)
  | .boolean b => pure (.bool origin b)
  | .integer i => pure (.int origin i)
  | .real t =>
    match Decimal.floatOfText? t with
    | some x => pure (.float origin x)
    | none => throw (.fileParse ("Parsing " ++ t ++ " as floating point number failed") uri)
  | .string s => pure (.str origin s)
  | .sequence items => do
    let xs ← items.attach.mapM fun ⟨x, _⟩ => yamlSetting origin uri x
    pure (.array origin xs)
  | .mapping entries => do
    let xs ← entries.attach.mapM fun ⟨(k, x), _⟩ => do
      let key ← match k with
        | .string s => pure s
        | .integer i => pure (toString i)
        | _ => ExceptT.lift (.error ⟨"internal error: entered unreachable code"⟩)
      pure (key, ← yamlSetting origin uri x)
    pure (.table origin (lastOfEach xs))
decreasing_by
  all_goals simp_wf
  · have := List.sizeOf_lt_of_mem ‹_ ∈ items›
    omega
  · have := List.sizeOf_lt_of_mem ‹_ ∈ entries›
    simp at this
    omega

/-- The root of a YAML stream: its one document, or an empty mapping when it has none. -/
def yamlRoot (uri : String) (text : String) : Except LoadError Yaml.Node :=
  match Yaml.Node.documentsOf text with
  | .error e => .error (.fileParse e.message uri)
  | .ok [] => .ok (.mapping [])
  | .ok [doc] => .ok doc
  | .ok docs => .error (.fileParse ("Got " ++ Nat.repr docs.length ++ " YAML documents, expected 1") uri)

/-- The entries of INI sections as settings from `origin`: the general section's properties at
the top level, every other section a table of its properties. -/
def iniEntries (origin : Option String) (sections : List Ini.Section) : List (String × Setting) :=
  lastOfEach (sections.flatMap fun s =>
    let props := s.properties.map fun (k, v) => (Text.lowerText k, Setting.str origin v)
    match s.name with
    | none => props
    | some name => [(Text.lowerText name, .table origin (lastOfEach props))])

/-- A RON value as a setting from `origin`. A map's entries are converted in key order, so the
first error is that of the first key in that order. -/
def ronSetting (origin : Option String) : Ron.Value → Except String Setting
  | .option none | .unit => pure (.nil origin)
  | .option (some v) => ronSetting origin v
  | .bool b => pure (.bool origin b)
  | .integer i => pure (.int origin i)
  | .float x => pure (.float origin x)
  | .char c => pure (.str origin (String.singleton c))
  | .string s => pure (.str origin s)
  | .seq items => do
    let xs ← items.attach.mapM fun ⟨x, _⟩ => ronSetting origin x
    pure (.array origin xs)
  | .map entries => do
    let converted := entries.attach.map fun ⟨(k, x), _⟩ => (k, ronSetting origin x)
    let xs ← (Ron.sortEntries converted).mapM fun (k, r) => do
      let key ← k.keyText.mapError Ron.ErrorCode.message
      pure (key, ← r)
    pure (.table origin (lastOfEach xs))
decreasing_by
  all_goals simp_wf
  · omega
  · have := List.sizeOf_lt_of_mem ‹_ ∈ items›
    omega
  · have := List.sizeOf_lt_of_mem ‹_ ∈ entries›
    simp at this
    omega

/-- A JSON5 value as a setting from `origin`. -/
def json5Setting (origin : Option String) : Json5.Node → Except String Setting
  | .null => pure (.nil origin)
  | .bool b => pure (.bool origin b)
  | .number t => do
    match ← Json5.Number.ofText t with
    | .integer i => pure (.int origin i)
    | .float x => pure (.float origin x)
  | .string ps => do pure (.str origin (← Json5.decodePieces ps))
  | .array items => do
    let xs ← items.attach.mapM fun ⟨x, _⟩ => json5Setting origin x
    pure (.array origin xs)
  | .object entries => do
    let xs ← entries.attach.mapM fun ⟨(k, x), _⟩ => do
      let key ← Json5.decodePieces k
      pure (key, ← json5Setting origin x)
    pure (.table origin (lastOfEach xs))
decreasing_by
  all_goals simp_wf
  · have := List.sizeOf_lt_of_mem ‹_ ∈ items›
    omega
  · have := List.sizeOf_lt_of_mem ‹_ ∈ entries›
    simp at this
    omega

/-- The formats a settings file may be written in. -/
inductive FileFormat where
  | toml
  | json
  | yaml
  | ini
  | ron
  | json5
  deriving DecidableEq, Repr

/-- The format of a file extension, if it names one. -/
def FileFormat.ofExtension? : String → Option FileFormat
  | "toml" => some .toml
  | "json" => some .json
  | "yaml" | "yml" => some .yaml
  | "ini" => some .ini
  | "ron" => some .ron
  | "json5" => some .json5
  | _ => none

/-- The top-level entries of a text in this format, as settings from the file `uri`, keys as
written. -/
def FileFormat.entries (fmt : FileFormat) (uri : String) (text : String) :
    ExceptT LoadError (Except Halt) (List (String × Setting)) :=
  let origin := some uri
  let parseError := fun (cause : String) => LoadError.fileParse cause uri
  match fmt with
  | .toml =>
    match TomlValue.parse text with
    | .ok entries => pure (entries.map fun (k, x) => (k, tomlSetting origin x))
    | .error e => throw (parseError (e.render text))
  | .json =>
    match Json.parse text with
    | .ok v => ExceptT.mk (pure (rootEntries origin uri (jsonSetting origin v)))
    | .error e => throw (parseError e.message)
  | .yaml => do
    let root ← ExceptT.mk (pure (yamlRoot uri text))
    let v ← yamlSetting origin uri root
    ExceptT.mk (pure (rootEntries origin uri v))
  | .ini =>
    match Ini.Section.readAll text with
    | .ok sections => pure (iniEntries origin sections)
    | .error e => throw (parseError e.message)
  | .ron =>
    match Ron.Value.ofText text with
    | .ok v =>
      match ronSetting origin v with
      | .ok s => ExceptT.mk (pure (rootEntries origin uri s))
      | .error e => throw (parseError e)
    | .error e => throw (parseError e.message)
  | .json5 =>
    match Json5.Node.ofText text with
    | .ok v =>
      match json5Setting origin v with
      | .ok s => ExceptT.mk (pure (rootEntries origin uri s))
      | .error e => throw (parseError e)
    | .error f => throw (parseError (f.render text))

end CpuBench.Config
