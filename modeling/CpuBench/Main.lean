import CpuBench.Cli.Args
import CpuBench.Cli.Dotenv
import CpuBench.Config.Load
import CpuBench.Report.Run
import CpuBench.Report.Serial
import CpuBench.Output.Files
import CpuBench.Output.Target
import CpuBench.Output.Markdown
import Std.Time.Format

/-!
# The command-line program

`microbench run` runs the harness (the full workload set, the configured number of times), then
every workload target once, and writes the result files under the output directory;
`microbench report` runs the workloads once and prints the report as JSON or Markdown;
`microbench status` prints the settings and, with `--detailed`, the workloads and the files a run
writes.

Settings come from the defaults, the file named by `--config` (or `MICROBENCH_CONFIG`), and the
`MICROBENCH_*` environment variables; a `.env` file in the working directory supplies variables
that are not set. Everything here is reading, timing, printing and writing files: the work is
done by the library.
-/

namespace CpuBench.Program

open Output

/-- The program's version. -/
def version : String := "0.1.1"

/-- The help text. -/
def helpText : String :=
  "Microbench CLI\n\nUsage: microbench [OPTIONS] <COMMAND>\n\nCommands:\n" ++
  "  run     Run the benchmark harness and write results to the output directory\n" ++
  "  report  Run the driver once and print its report to stdout\n" ++
  "  status  Show benchmark status and configuration\n" ++
  "  help    Print this message or the help of the given subcommand(s)\n\nOptions:\n" ++
  "  -c, --config <CONFIG>  Configuration file (TOML) [env: MICROBENCH_CONFIG=]\n" ++
  "      --json-logs        Emit logs as JSON\n" ++
  "  -h, --help             Print help\n" ++
  "  -V, --version          Print version\n"

/-- The settings keys the environment may set, as variable names after the prefix. -/
def settingNames : List String := ["ITERATIONS", "OUTPUT_DIR", "FORMAT", "LOG_LEVEL"]

/-- The current instant. -/
def now : IO Time.Instant := do
  let ts ← Std.Time.Timestamp.now
  pure (Time.Instant.ofUnixNanos ts.toNanosecondsSinceUnixEpoch.val)

/-- The time since `start`, a reading of the monotonic clock. -/
def elapsedSince (start : Nat) : IO Duration := do
  match Duration.new 0 ((← IO.monoNanosNow) - start) with
  | .ok d => pure d
  | .error h => throw (IO.userError h.message)

/-- The resident memory of this process in bytes, when the system reports it. -/
def residentBytes : IO (Option Nat) := do
  try
    let text ← IO.FS.readFile "/proc/self/statm"
    match text.trimAscii.toString.splitOn " " with
    | _ :: resident :: _ => pure (resident.toNat?.map (· * 4096))
    | _ => pure none
  catch _ => pure none

/-- Prints an error and gives the failing exit code. -/
def failWith (message : String) : IO UInt32 := do
  IO.eprintln ("Error: " ++ message)
  pure 1

/-- Reports a halt the way a stopped program does, and gives its exit code. -/
def haltWith (h : Halt) : IO UInt32 := do
  IO.eprintln ("thread 'main' panicked:\n" ++ h.message)
  pure 101

/-- The value of an environment variable, or the one the environment file gives. -/
def lookupVar (dotenv : List (String × String)) (name : String) : IO (Option String) := do
  match ← IO.getEnv name with
  | some v => pure (some v)
  | none => pure ((dotenv.find? (·.1 == name)).map (·.2))

/-- The inputs of the workloads, read at run time so that every run really computes. -/
def inputs : IO (Workload → Nat) := do
  let cell ← IO.mkRef Workload.parameter
  cell.get

/-- One timed run of the workload set. -/
def timedRun : IO (Except BenchError Report) := do
  let input ← inputs
  let start ← IO.monoNanosNow
  match runWorkloadsWith input Workload.all with
  | .error e => pure (.error e)
  | .ok b => pure (.ok (b.finish (← elapsedSince start)))

/-- Starts a measurement of resident memory; the action it gives reads the growth since. -/
def measureMemory : IO (IO Nat) := do
  let before ← residentBytes
  pure (do pure (Harness.memoryGrowth before (← residentBytes)))

/-- Runs the harness `iterations` times, timing each run: the library's loop, in `IO`. -/
def harness (iterations : Nat) : IO (Except Harness.Failure Harness.Summary) :=
  Harness.runIterationsM iterations timedRun measureMemory

/-- Runs every workload target once, timing each. -/
def targets : IO (List Record) := do
  let mut records := []
  let input ← inputs
  for w in Workload.all do
    let start ← IO.monoNanosNow
    let (outcome, elapsed) ← match w.executeOn (input w) with
      | .ok v => do pure (Except.ok v, ← elapsedSince start)
      | .error e => do pure (Except.error e, ← elapsedSince start)
    records := records ++ [⟨w.targetId, w.outcomeMetrics outcome elapsed.toMillis, ← now⟩]
  pure records

/-- Writes the output files under `dir`. The summary and the detailed view each read the clock
when they are generated, the summary first. -/
def writeOutputs (dir : String) (records : List Record) (format : Config.OutputFormat) :
    IO Unit := do
  let summaryAt := (← now).rfc3339
  let detailedAt := (← now).rfc3339
  IO.FS.createDirAll (joinPath dir rawDir)
  for (path, contents) in outputs records format summaryAt detailedAt do
    match contents with
    | some text => IO.FS.writeFile (joinPath dir path) text
    | none => IO.FS.createDirAll (joinPath dir path)

/-- The `run` command. -/
def runCommand (config : Config.Suite) (output format : Option String) (iterations : Option Nat)
    (skipTargets verbose : Bool) : IO UInt32 := do
  match config.applyOverrides output format iterations with
  | .error e => failWith e.message
  | .ok config =>
    if verbose then
      IO.println ("Running benchmark (" ++ Nat.repr config.iterations ++ " iterations)...")
    match ← harness config.iterations with
    | .error f => failWith f.message
    | .ok summary =>
      let mut results := Record.ofRuns summary (← now)
      if !skipTargets then results := results ++ (← targets)
      try
        writeOutputs config.outputDir results config.format
      catch e =>
        return ← failWith ("writing results to " ++ config.outputDir ++ ": " ++ toString e)
      IO.println ("Completed " ++ Nat.repr results.length ++ " benchmarks")
      IO.println ("Results written to " ++ config.outputDir ++ "/")
      if verbose then
        IO.println ""
        IO.print (renderHarnessSummary summary)
        for r in results do
          IO.println ("  - " ++ r.targetId ++ ": " ++ r.metrics.compact)
      pure 0

/-- The `report` command. -/
def reportCommand (pretty markdown : Bool) : IO UInt32 := do
  let input ← inputs
  let start ← IO.monoNanosNow
  match runWorkloadsWith input Workload.all with
  | .error e => failWith e.message
  | .ok b =>
    let report := b.finish (← elapsedSince start)
    if markdown then IO.print (renderReport report)
    else if pretty then IO.println report.toValue.prettyText
    else IO.println report.toValue.compact
    pure 0

/-- The `status` command. -/
def statusCommand (config : Config.Suite) (detailed : Bool) : IO UInt32 := do
  IO.println "Microbench Benchmark System"
  IO.println ("Version: " ++ version)
  IO.println ("Iterations: " ++ Nat.repr config.iterations)
  IO.println ("Output format: " ++ config.format.name)
  if detailed then
    let dir := config.outputDir
    IO.println "\nWorkloads:"
    for w in Workload.all do
      IO.println ("  - " ++ w.key ++ " (" ++ Nat.repr w.parameter ++ ")")
    IO.println "\nOutput directories:"
    IO.println ("  - " ++ dir ++ "/")
    IO.println ("  - " ++ dir ++ "/" ++ rawDir ++ "/")
    IO.println "\nOutput files:"
    IO.println ("  - " ++ dir ++ "/" ++ summaryFile)
    IO.println ("  - " ++ dir ++ "/" ++ detailedFile)
    IO.println ("  - " ++ dir ++ "/" ++ allResultsFile)
  pure 0

/-- Runs the program on its arguments. -/
def run (args : List String) : IO UInt32 := do
  let dotenv ← try pure (Cli.parseDotenv (← IO.FS.readFile ".env")) catch _ => pure []
  match Cli.parse args with
  | .error .displayHelp => do IO.print helpText; pure 0
  | .error .displayVersion => do IO.println ("microbench " ++ version); pure 0
  | .error .displayHelpOnMissing => do IO.eprint helpText; pure 2
  | .error e => do
    IO.eprintln ("error: " ++ e.kind)
    IO.eprintln "\nFor more information, try '--help'."
    pure 2
  | .ok inv =>
    let configPath ← match inv.config with
      | some p => pure (some p)
      | none => do
        match ← lookupVar dotenv "MICROBENCH_CONFIG" with
        | some p => pure (if p.isEmpty then none else some p)
        | none => pure none
    let file ← match configPath with
      | none => pure none
      | some p => do
        let contents ← try pure (some (← IO.FS.readFile p)) catch _ => pure none
        pure (some (⟨p, p, contents⟩ : Config.SettingsFile))
    let mut vars := []
    for name in settingNames do
      match ← lookupVar dotenv ("MICROBENCH_" ++ name) with
      | some v => vars := vars ++ [("MICROBENCH_" ++ name, v)]
      | none => pure ()
    match (Config.Suite.load file vars "MICROBENCH").run with
    | .error h => haltWith h
    | .ok (.error e) => failWith ("loading configuration: " ++ e.message)
    | .ok (.ok config) =>
      match inv.command with
      | .run output format iterations skipTargets verbose =>
        runCommand config output format iterations skipTargets verbose
      | .report pretty markdown => reportCommand pretty markdown
      | .status detailed => statusCommand config detailed

end CpuBench.Program

/-- The program's entry point. -/
def main (args : List String) : IO UInt32 :=
  CpuBench.Program.run args
