/-!
# The command line

`microbench [-c FILE] [--json-logs] <run|report|status|help> …` with

* `run [-o DIR] [-f FORMAT] [-n COUNT] [--skip-targets] [-v]`,
* `report [-p | -m]` (`--pretty` and `--markdown` exclude each other),
* `status [-d]`,
* `help [COMMAND]`, `-h`/`--help` anywhere, and `-V`/`--version` before the command.

`-c`, `--config` and `--json-logs` may stand before or after the command; when both places give
`--config`, the later one counts.

## Reading the words

Words are read left to right. `--name` and `--name=value` are long arguments; `-abc` is a
cluster of short flags, where the first one that takes a value takes the rest of the word (after
an optional `=`) or, when nothing is left, the next word — whatever it is, unless it looks like
an argument itself. `--` ends the arguments: every word after it is a stray word. Before the
command, a word naming a command starts it, unless an option is waiting for its value.

An option's value is checked when the next argument is taken up, or at the end: a value must be
given, `-c` and `-o` need a non-empty path, and `-n` needs a decimal number (sign allowed) from
0 to 2³² − 1. Giving an argument twice at one level, or both `--pretty` and `--markdown`, is a
conflict. A stray word is an unknown argument, or, before the command, an unknown command.
-/

namespace CpuBench.Cli

/-- Why a command line was refused, or what it asks to be shown instead of running. -/
inductive CliError where
  | unknownArgument
  | invalidSubcommand
  | invalidValue
  | valueValidation
  | argumentConflict
  | tooManyValues
  | missingSubcommand
  | displayHelp
  | displayVersion
  | displayHelpOnMissing
  deriving DecidableEq, Repr

/-- The name of an error kind. -/
def CliError.kind : CliError → String
  | .unknownArgument => "UnknownArgument"
  | .invalidSubcommand => "InvalidSubcommand"
  | .invalidValue => "InvalidValue"
  | .valueValidation => "ValueValidation"
  | .argumentConflict => "ArgumentConflict"
  | .tooManyValues => "TooManyValues"
  | .missingSubcommand => "MissingSubcommand"
  | .displayHelp => "DisplayHelp"
  | .displayVersion => "DisplayVersion"
  | .displayHelpOnMissing => "DisplayHelpOnMissingArgumentOrSubcommand"

/-- How the value of an option is checked. -/
inductive ValueCheck where
  /-- Any non-empty text. -/
  | path
  /-- Any text. -/
  | text
  /-- A count from 0 to 2³² − 1. -/
  | count
  deriving DecidableEq

/-- What an argument does when given. -/
inductive Action where
  /-- Sets a flag. -/
  | flag
  /-- Takes one value. -/
  | value (check : ValueCheck)
  /-- Asks for help. -/
  | help
  /-- Asks for the version. -/
  | version
  deriving DecidableEq

/-- An argument a level of the command line accepts. -/
structure ArgSpec where
  id : String
  short : Option Char
  long : String
  action : Action

/-- What was given for an argument. -/
inductive Given where
  | flag
  | text (s : String)
  | count (n : Nat)
  deriving DecidableEq, Repr

/-- The arguments accepted at every level. -/
def globalSpecs : List ArgSpec :=
  [⟨"config", some 'c', "config", .value .path⟩, ⟨"json_logs", none, "json-logs", .flag⟩]

/-- The help argument of every level. -/
def helpSpec : ArgSpec := ⟨"help", some 'h', "help", .help⟩

/-- The arguments accepted before the command. -/
def topSpecs : List ArgSpec :=
  globalSpecs ++ [helpSpec, ⟨"version", some 'V', "version", .version⟩]

/-- The commands, with the arguments each accepts. -/
def commandSpecs : List (String × List ArgSpec) :=
  [("run", [⟨"output", some 'o', "output", .value .path⟩,
      ⟨"format", some 'f', "format", .value .text⟩,
      ⟨"iterations", some 'n', "iterations", .value .count⟩,
      ⟨"skip_targets", none, "skip-targets", .flag⟩,
      ⟨"verbose", some 'v', "verbose", .flag⟩] ++ globalSpecs ++ [helpSpec]),
    ("report", [⟨"pretty", some 'p', "pretty", .flag⟩,
      ⟨"markdown", some 'm', "markdown", .flag⟩] ++ globalSpecs ++ [helpSpec]),
    ("status", [⟨"detailed", some 'd', "detailed", .flag⟩] ++ globalSpecs ++ [helpSpec])]

/-- The names that start a command before any command is given. -/
def commandNames : List String :=
  commandSpecs.map (·.1) ++ ["help"]

/-- A signed 64-bit decimal number, with an optional sign. -/
def parseI64 (s : String) : Option Int :=
  let (negative, ds) := match s.toList with
    | '+' :: rest => (false, rest)
    | '-' :: rest => (true, rest)
    | all => (false, all)
  if ds.isEmpty || !ds.all Char.isDigit then none
  else
    let n : Nat := ds.foldl (fun acc c => acc * 10 + (c.toNat - 48)) 0
    let v : Int := if negative then -(n : Int) else n
    if v < -(Nat.pow 2 63 : Int) || v ≥ (Nat.pow 2 63 : Int) then none else some v

/-- Checks a value given for an option. -/
def checkValue (check : ValueCheck) (raw : String) : Except CliError Given :=
  match check with
  | .path => if raw.isEmpty then .error .invalidValue else .ok (.text raw)
  | .text => .ok (.text raw)
  | .count =>
    match parseI64 raw with
    | some v => if 0 ≤ v && v < (Nat.pow 2 32 : Int) then .ok (.count v.toNat) else .error .valueValidation
    | none => .error .valueValidation

/-- The state of reading one level of the command line. -/
structure Level where
  /-- The arguments taken up so far. -/
  given : List (String × Given)
  /-- An option not yet taken up, with the values given for it. -/
  pending : Option (ArgSpec × List String)
  /-- Whether the pending option still waits for its value. -/
  awaiting : Bool
  /-- Whether `--` was seen. -/
  trailing : Bool

/-- A level before its first word. -/
def Level.start : Level := ⟨[], none, false, false⟩

/-- Takes up an option with the values given for it: one value must be given, the option must
not have been given already, and the value must pass its check. -/
def Level.takeOption (l : Level) (spec : ArgSpec) (check : ValueCheck) (values : List String) :
    Except CliError Level := do
  let some raw := values.head? | throw .invalidValue
  if l.given.any (·.1 == spec.id) then throw .argumentConflict
  let v ← checkValue check raw
  pure { l with given := l.given ++ [(spec.id, v)] }

/-- Takes up the pending option, if there is one. -/
def Level.resolve (l : Level) : Except CliError Level :=
  match l.pending with
  | some (spec, values) =>
    match spec.action with
    | .value check => do
      let l ← { l with pending := none, awaiting := false }.takeOption spec check values
      pure l
    | _ => .ok { l with pending := none, awaiting := false }
  | none => .ok l

/-- Acts on an argument given with `attached` as its value, if any: the pending option is taken
up first. -/
def Level.react (l : Level) (spec : ArgSpec) (attached : Option String) : Except CliError Level := do
  let l ← l.resolve
  match spec.action with
  | .help => throw .displayHelp
  | .version => throw .displayVersion
  | .flag =>
    if l.given.any (·.1 == spec.id) then throw .argumentConflict
    pure { l with given := l.given ++ [(spec.id, .flag)] }
  | .value check => l.takeOption spec check attached.toList

/-- Sets `spec` waiting for its value in the next word. -/
def Level.await (l : Level) (spec : ArgSpec) : Except CliError Level := do
  let l ← l.resolve
  pure { l with pending := some (spec, []), awaiting := true }

/-- Reads a long argument `--name` or `--name=value`. -/
def Level.long (l : Level) (specs : List ArgSpec) (body : String) : Except CliError Level :=
  let (name, attached) := match body.splitOn "=" with
    | [n] => (n, none)
    | n :: rest => (n, some ("=".intercalate rest))
    | [] => (body, none)
  match specs.find? (·.long == name) with
  | none => .error .unknownArgument
  | some spec =>
    match spec.action, attached with
    | .value _, some v => l.react spec (some v)
    | .value _, none => l.await spec
    | _, some _ => .error .tooManyValues
    | _, none => l.react spec none

/-- Reads a cluster of short arguments, `fuel` bounding the characters read. -/
def Level.shorts (l : Level) (specs : List ArgSpec) : Nat → List Char → Except CliError Level
  | 0, _ => .ok l
  | _, [] => .ok l
  | fuel + 1, c :: rest =>
    match specs.find? (·.short == some c) with
    | none => .error .unknownArgument
    | some spec =>
      match spec.action with
      | .value _ =>
        match rest with
        | [] => l.await spec
        | '=' :: value => l.react spec (some (String.ofList value))
        | value => l.react spec (some (String.ofList value))
      | _ => do
        let l ← l.react spec none
        l.shorts specs fuel rest

/-- The error for a stray word: before the command, an unknown command (or an unknown argument
when it names a command after `--`); after it, an unknown argument. -/
def strayWord (beforeCommand trailing : Bool) (word : String) : CliError :=
  if !beforeCommand then .unknownArgument
  else if trailing && commandNames.contains word then .unknownArgument
  else .invalidSubcommand

/-- Walks the words after `help`: each must name a command of the one before. -/
def helpFor (words : List String) : CliError :=
  match words with
  | [] => .displayHelp
  | [w] => if commandNames.contains w then .displayHelp else .invalidSubcommand
  | _ => .invalidSubcommand

/-- Reads the words of one level. `beforeCommand` tells whether commands may start here. Returns
the level and, when a command starts, its name and the words after it. -/
def readLevel (specs : List ArgSpec) (beforeCommand : Bool) :
    Nat → Level → List String → Except CliError (Level × Option (String × List String))
  | 0, l, _ => .ok (l, none)
  | _, l, [] => .ok (l, none)
  | fuel + 1, l, w :: rest =>
    if l.trailing then .error (strayWord beforeCommand true w)
    else if beforeCommand && !l.awaiting && commandNames.contains w then
      if w == "help" then .error (helpFor rest) else .ok (l, some (w, rest))
    else if w == "--" then readLevel specs beforeCommand fuel { l with trailing := true } rest
    else if w.startsWith "--" then
      match l.long specs (w.drop 2).toString with
      | .ok l => readLevel specs beforeCommand fuel l rest
      | .error e => .error e
    else if w.startsWith "-" && w.length > 1 then
      match l.shorts specs w.length (w.drop 1).toString.toList with
      | .ok l => readLevel specs beforeCommand fuel l rest
      | .error e => .error e
    else if l.awaiting then
      let l := { l with
        pending := l.pending.map fun (spec, values) => (spec, values ++ [w]), awaiting := false }
      readLevel specs beforeCommand fuel l rest
    else .error (strayWord beforeCommand false w)

/-- The command a parsed command line asks for. -/
inductive Command where
  | run (output format : Option String) (iterations : Option Nat) (skipTargets verbose : Bool)
  | report (pretty markdown : Bool)
  | status (detailed : Bool)
  deriving DecidableEq, Repr

/-- A parsed command line. -/
structure Invocation where
  config : Option String
  jsonLogs : Bool
  command : Command
  deriving DecidableEq, Repr

/-- The text given for `id`, if any. -/
def textOf (given : List (String × Given)) (id : String) : Option String :=
  match (given.find? (·.1 == id)).map (·.2) with
  | some (Given.text s) => some s
  | _ => none

/-- Whether `id` was given. -/
def isGiven (given : List (String × Given)) (id : String) : Bool :=
  given.any (·.1 == id)

/-- The command named `name`, from the arguments given for it. -/
def commandOf (name : String) (given : List (String × Given)) : Command :=
  match name with
  | "run" =>
    let iterations := match (given.find? (·.1 == "iterations")).map (·.2) with
      | some (Given.count n) => some n
      | _ => none
    .run (textOf given "output") (textOf given "format") iterations (isGiven given "skip_targets")
      (isGiven given "verbose")
  | "report" => .report (isGiven given "pretty") (isGiven given "markdown")
  | _ => .status (isGiven given "detailed")

/-- Reads a command line (the words after the program name). -/
def parse (words : List String) : Except CliError Invocation := do
  let fuel := words.length + 1
  let (top, started) ← readLevel topSpecs true fuel Level.start words
  match started with
  | none =>
    let top ← top.resolve
    if top.given.isEmpty then throw .displayHelpOnMissing else throw .missingSubcommand
  | some (name, rest) =>
    let specs := ((commandSpecs.find? (·.1 == name)).map (·.2)).getD []
    let (sub, _) ← readLevel specs false fuel Level.start rest
    let sub ← sub.resolve
    if isGiven sub.given "pretty" && isGiven sub.given "markdown" then throw .argumentConflict
    let top ← top.resolve
    pure ⟨(textOf sub.given "config").orElse fun _ => textOf top.given "config",
      isGiven sub.given "json_logs" || isGiven top.given "json_logs", commandOf name sub.given⟩

end CpuBench.Cli
