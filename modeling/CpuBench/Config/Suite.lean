import CpuBench.Config.Format

/-!
# Suite settings

The suite runs a number of iterations, writes into an output directory in an output format, and
logs at a level. By default it runs 1000 iterations into `benchmarks/output`, writes both
formats and logs at `info`. Settings are valid when at least one iteration is asked for and the
output directory is named. Command-line choices override settings one by one, after which the
result is checked again.
-/

namespace CpuBench.Config

/-- Why settings could not be had. -/
inductive ConfigError where
  /-- The sources could not be read or combined; the text says why. -/
  | load (cause : String)
  /-- A setting has a value the suite cannot use. -/
  | invalid (key reason : String)
  deriving DecidableEq, Repr

/-- The text of a settings error. -/
def ConfigError.message : ConfigError → String
  | .load cause => "Failed to load configuration: " ++ cause
  | .invalid key reason => "Invalid configuration value for " ++ key ++ ": " ++ reason

/-- The name of a settings error. -/
def ConfigError.kind : ConfigError → String
  | .load _ => "Load"
  | .invalid _ _ => "Invalid"

/-- The settings of a suite run. -/
structure Suite where
  iterations : Nat
  outputDir : String
  format : OutputFormat
  logLevel : String
  deriving DecidableEq, Repr

namespace Suite

/-- The default settings. -/
def default : Suite :=
  ⟨1000, "benchmarks/output", .both, "info"⟩

/-- Checks that at least one iteration is asked for and the output directory is named. -/
def validate (c : Suite) : Except ConfigError Unit := do
  if c.iterations == 0 then throw (.invalid "iterations" "must be at least 1")
  if c.outputDir.isEmpty then throw (.invalid "output_dir" "must not be empty")

/-- A format named by a user, or the error that says what was expected. -/
def formatOfText (s : String) : Except ConfigError OutputFormat :=
  (OutputFormat.ofText s).mapError fun lowered =>
    .invalid "format" ("expected json, markdown or both, got '" ++ lowered ++ "'")

/-- Overrides the settings with the choices given, then checks the result. -/
def applyOverrides (c : Suite) (output format : Option String) (iterations : Option Nat) :
    Except ConfigError Suite := do
  let c := match output with | some o => { c with outputDir := o } | none => c
  let c ← match format with
    | some f => do pure { c with format := ← formatOfText f }
    | none => pure c
  let c := match iterations with | some n => { c with iterations := n } | none => c
  c.validate
  pure c

end Suite

end CpuBench.Config
