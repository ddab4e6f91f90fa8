import CpuBench.Config.FileFormat

/-!
# Loading the suite settings

The settings are the defaults, overlaid by an optional settings file, overlaid by the
environment, then read as suite settings and checked.

* The file's format follows its extension. A missing file, an extension of no known format, a
  file that does not read as its format, or a file whose top level is not a table, stops the
  loading. Keys in a file count in lower case, at every depth.
* From the environment, a variable counts when its name, lower-cased, starts with the prefix,
  lower-cased, and an underscore. The rest of the lower-cased name is the key, and the value is
  the text, empty text included. Variables are taken in the order given; a later one for the same
  key wins.
-/

namespace CpuBench.Config

/-- A settings file: the path it was asked for by, the name messages show for it, and its
contents (none when there is no such file). -/
structure SettingsFile where
  name : String
  shownAs : String
  contents : Option String

/-- The extension of the last part of a path: what follows its last dot, when the dot is not
its first character. -/
def extensionOf (path : String) : String :=
  let name := (path.splitOn "/").getLastD ""
  match name.splitOn "." with
  | [] | [_] => ""
  | first :: rest => if first.isEmpty && rest.length == 1 then "" else rest.getLastD ""

/-- The extension of the file's path. -/
def SettingsFile.ext (f : SettingsFile) : String :=
  extensionOf f.name

/-- The top-level entries of a settings file as its format reads them, keys in lower case. -/
def SettingsFile.entries (f : SettingsFile) :
    ExceptT LoadError (Except Halt) (List (String × Setting)) := do
  let some text := f.contents
    | throw (.message ("configuration file \"" ++ f.shownAs ++ "\" not found"))
  let some fmt := FileFormat.ofExtension? f.ext
    | throw (.message ("configuration file \"" ++ f.shownAs ++
        "\" is not of a registered file format"))
  let entries ← fmt.entries f.shownAs text
  match (Setting.table none entries).lowerKeys with
  | .table _ lowered => pure lowered
  | _ => pure []

/-- The origin of settings taken from the environment. -/
def environmentOrigin : String := "the environment"

/-- The entries taken from environment variables under `pre`. -/
def environmentEntries (pre : String) (vars : List (String × String)) :
    List (String × Setting) :=
  let pattern := Text.lowerText (pre ++ "_")
  vars.filterMap fun (name, text) =>
    let lowered := Text.lowerText name
    if lowered.startsWith pattern then
      some ((lowered.drop pattern.length).toString, .str (some environmentOrigin) text)
    else none

/-- Loads the suite settings from the defaults, the file if one is given, and the environment
variables under `pre`, then checks them. Laying a key over the settings may halt. -/
def Suite.load (file : Option SettingsFile) (vars : List (String × String)) (pre : String) :
    ExceptT ConfigError (Except Halt) Suite := do
  let loadError := fun (e : LoadError) => ConfigError.load e.text
  let entries ← match file with
    | none => pure []
    | some f => ExceptT.adapt loadError f.entries
  let root ← ExceptT.lift (layer defaultLayer entries)
  let root ← ExceptT.lift (layer root (environmentEntries pre vars))
  let suite ← ExceptT.mk (pure (root.toSuite.mapError loadError))
  ExceptT.mk (pure suite.validate)
  pure suite

end CpuBench.Config
