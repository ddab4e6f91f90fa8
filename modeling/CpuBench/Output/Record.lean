import CpuBench.Report.Serial
import CpuBench.Harness.Summary
import CpuBench.Time.Parse

/-!
# Result records

A result record names a target, holds its metrics as a JSON value and carries the instant it
was taken. A report becomes the record of the driver target, with the report's data form as
its metrics; a harness summary becomes the record of the harness target, with its counts and
times as metrics (a float that is not finite becomes `null`). A record's metrics read back as a
report exactly when they have a report's data form.

As data a record is an object with `target_id`, `metrics` and `timestamp` (RFC 3339 with `Z`).
Reading records from text accepts an array of such objects, or of arrays of the three values,
with the rules of reading a report: every field required and given once, other fields ignored.
The timestamp is read leniently.
-/

namespace CpuBench.Output

open Json Json.Reader

/-- The target of a single benchmark run. -/
def driverTargetId : String := "microbench/driver"

/-- The target of repeated runs. -/
def harnessTargetId : String := "microbench/harness"

/-- One measured result. -/
structure Record where
  targetId : String
  metrics : Value
  timestamp : Time.Instant

namespace Record

/-- The record of a report. -/
def ofReport (r : Report) (at_ : Time.Instant) : Record :=
  ⟨driverTargetId, r.toValue, at_⟩

/-- The metrics of a harness summary. -/
def summaryMetrics (s : Harness.Summary) : Value :=
  .object [
    ("iterations", .ofNat s.iterations),
    ("total_ms", .ofFloat s.totalMs),
    ("average_ms", .ofFloat s.averageMs),
    ("min_ms", .ofFloat s.minMs),
    ("max_ms", .ofFloat s.maxMs),
    ("memory_used_bytes", .ofNat s.memoryUsedBytes),
    ("combined_result", .ofFloat s.lastReport.combined)]

/-- The record of a harness summary. -/
def ofSummary (s : Harness.Summary) (at_ : Time.Instant) : Record :=
  ⟨harnessTargetId, summaryMetrics s, at_⟩

/-- The records of repeated runs: the summary's, then the last report's. -/
def ofRuns (s : Harness.Summary) (at_ : Time.Instant) : List Record :=
  [ofSummary s at_, ofReport s.lastReport at_]

/-- The report a record's metrics describe, if they have a report's form. -/
def asReport? (rec : Record) : Option Report :=
  Report.ofValue? rec.metrics

/-- The data form of a record. -/
def toValue (rec : Record) : Value :=
  .object [("target_id", .string rec.targetId), ("metrics", rec.metrics),
    ("timestamp", .string rec.timestamp.rfc3339Z)]

/-- How the record's form is named when a value of another form stands in its place. -/
def expected : String := "struct BenchmarkResult"

/-- What a timestamp field expects. -/
def timestampExpected : String := "an RFC 3339 formatted date and time string"

/-- Reads a timestamp: a string read leniently as an instant. -/
def readTimestamp : ReadM Time.Instant := do
  let s ← stringValue timestampExpected
  match Time.Instant.ofText s with
  | .ok t => pure t
  | .error e => throw (← place (.custom e.message))

/-- The fields of a record read so far. -/
structure Parts where
  targetId : Option String := none
  metrics : Option Value := none
  timestamp : Option Time.Instant := none

/-- The record of complete parts, or the error naming the first missing field. -/
def Parts.finish (p : Parts) : ReadM Record :=
  match p.targetId, p.metrics, p.timestamp with
  | none, _, _ => throw (.missingField "target_id")
  | some _, none, _ => throw (.missingField "metrics")
  | some _, some _, none => throw (.missingField "timestamp")
  | some i, some m, some t => pure ⟨i, m, t⟩

/-- Reads the fields of a record after its opening brace, up to the closing brace. -/
def readFields (depth : Nat) : Nat → Bool → Parts → ReadM Record
  | 0, _, p => p.finish
  | fuel + 1, first, p => do
    match ← nextKey? first with
    | none => p.finish
    | some "target_id" =>
      if p.targetId.isSome then throw (Error.duplicateField "target_id")
      colon
      let s ← stringValue "a string"
      readFields depth fuel false { p with targetId := some s }
    | some "metrics" =>
      if p.metrics.isSome then throw (Error.duplicateField "metrics")
      colon
      let v ← value (← budget) depth
      readFields depth fuel false { p with metrics := some v }
    | some "timestamp" =>
      if p.timestamp.isSome then throw (Error.duplicateField "timestamp")
      colon
      let t ← readTimestamp
      readFields depth fuel false { p with timestamp := some t }
    | some _ =>
      colon
      skipValue
      readFields depth fuel false p

/-- Reads the items of a record given as an array, up to the closing bracket. -/
def readItems (depth : Nat) : ReadM Record := do
  let short := fun (n : Nat) => Error.invalidLength n (expected ++ " with 3 elements")
  if !(← nextElement? true) then throw (short 0)
  let i ← stringValue "a string"
  if !(← nextElement? false) then throw (short 1)
  let m ← value (← budget) depth
  if !(← nextElement? false) then throw (short 2)
  let t ← readTimestamp
  pure ⟨i, m, t⟩

/-- Reads a record, as an object or as an array of its three fields. -/
def read (depth : Nat) : ReadM Record := placing do
  match ← skipBlanks with
  | none => failAhead .eofWhileParsingValue
  | some 123 =>
    let inner ← openNested depth
    let ret ← attempt (do readFields inner (← budget) true {})
    let close ← attempt endObject
    firstError ret close
  | some 91 =>
    let inner ← openNested depth
    let ret ← attempt (readItems inner)
    let close ← attempt endArray
    firstError ret close
  | some _ => throw (← unexpectedAhead expected)

/-- Reads the records of an array, up to the closing bracket. -/
def readList (depth : Nat) : Nat → Bool → List Record → ReadM (List Record)
  | 0, _, acc => pure acc.reverse
  | fuel + 1, first, acc => do
    if ← nextElement? first then
      let r ← read depth
      readList depth fuel false (r :: acc)
    else pure acc.reverse

/-- Reads a list of records: an array. -/
def readAll (depth : Nat) : ReadM (List Record) := placing do
  match ← skipBlanks with
  | none => failAhead .eofWhileParsingValue
  | some 91 =>
    let inner ← openNested depth
    let ret ← attempt (do readList inner (← budget) true [])
    let close ← attempt endArray
    firstError ret close
  | some _ => throw (← unexpectedAhead "a sequence")

/-- Reads a list of records from a whole JSON text. -/
def listOfText (text : String) : Except Json.Error (List Record) :=
  Json.Reader.run (readAll topDepth) text

end Record

end CpuBench.Output
