import CpuBench.Output.Record

/-!
# Markdown views

* A report is a table of its results (name, value, and whether it counted), then its combined
  result and its time in milliseconds to three places.
* A harness summary lists the count, the times to three places and the memory used, in bytes
  and in KiB to two places, then shows the last report.
* The summary of records is a table of target, summary time and a preview of the metrics: their
  compact JSON, cut to 47 characters and `...` when longer than 50 characters.
* The detailed view of records shows each target with its RFC 3339 time and either the table of
  the report its metrics describe or the metrics as pretty JSON.

Floats are written in the shortest plain notation; the time of generation is given by the
caller.
-/

namespace CpuBench.Output

/-- A float as the views write it. -/
def num (x : Float) : String :=
  Decimal.Notation.plain.render x

/-- Lines joined, each ended by a line break. -/
def lines (ls : List String) : String :=
  String.join (ls.map (· ++ "\n"))

/-- The Markdown table and totals of a report. -/
def renderReport (r : Report) : String :=
  lines (["| Workload | Result | Combined |", "|----------|--------|----------|"] ++
    r.results.entries.map (fun (k, v) =>
      "| " ++ k ++ " | " ++ num v ++ " | " ++ (if isTruthy v then "yes" else "skipped") ++ " |") ++
    ["", "**Combined result:** " ++ num r.combined,
     "**Total time:** " ++ Decimal.fixed 3 r.totalMs ++ " ms"])

/-- The Markdown view of a harness summary. -/
def renderHarnessSummary (s : Harness.Summary) : String :=
  lines ["## Harness", "",
    "- Iterations: " ++ Nat.repr s.iterations,
    "- Total: " ++ Decimal.fixed 3 s.totalMs ++ " ms",
    "- Average: " ++ Decimal.fixed 3 s.averageMs ++ " ms",
    "- Min: " ++ Decimal.fixed 3 s.minMs ++ " ms",
    "- Max: " ++ Decimal.fixed 3 s.maxMs ++ " ms",
    "- Memory used: " ++ Nat.repr s.memoryUsedBytes ++ " bytes (" ++
      Decimal.fixed 2 (Decimal.nearestFloat s.memoryUsedBytes / 1024.0) ++ " KB)",
    ""] ++ renderReport s.lastReport

/-- The longest preview shown whole. -/
def previewLength : Nat := 50

/-- The compact JSON of metrics, cut short with `...` when longer than `previewLength`
characters. -/
def preview (metrics : Json.Value) : String :=
  let full := metrics.compact
  if full.length > previewLength then String.ofList (full.toList.take (previewLength - 3)) ++ "..."
  else full

/-- The summary of records; `generated` is the time of generation as written. -/
def summary (generated : String) (records : List Record) : String :=
  lines (["# Benchmark Summary", "", "Generated: " ++ generated, "", "## Results", "",
    "| Target ID | Timestamp | Metrics |", "|-----------|-----------|---------|"] ++
    records.map (fun r =>
      "| " ++ r.targetId ++ " | " ++ r.timestamp.summaryText ++ " | " ++ preview r.metrics ++ " |") ++
    ["", "---", "Total benchmarks: " ++ Nat.repr records.length])

/-- The detailed view of one record. -/
def detailedEntry (r : Record) : String :=
  lines ["## " ++ r.targetId, "", "**Timestamp:** " ++ r.timestamp.rfc3339, ""] ++
  (match r.asReport? with
    | some report => renderReport report
    | none => lines ["**Metrics:**", "```json", r.metrics.prettyText, "```"]) ++
  "\n"

/-- The detailed view of records; `generated` is the time of generation as written. -/
def detailed (generated : String) (records : List Record) : String :=
  lines ["# Detailed Benchmark Report", "", "Generated: " ++ generated, ""] ++
    String.join (records.map detailedEntry)

end CpuBench.Output
