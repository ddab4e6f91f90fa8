import CpuBench.Report.Basic
import CpuBench.Json.Read
import CpuBench.Json.Write

/-!
# Reports as data

A report is written as an object with the fields `individualResults` (an object of the results
in table order), `combinedResult` and `totalTimeMs`; a float that is not finite is written as
`null`.

Reading a report from text accepts that object with its fields in any order and other fields
ignored, or an array of the three values in field order. Every field is required and may occur
once. A name repeated inside `individualResults` keeps its first place and takes its last value.
Numbers of any kind are read as floats.

Reading a report from a data value follows the same rules on an object or an array of exactly
three items, and only says whether it succeeded.
-/

namespace CpuBench

open Json Json.Reader

/-- The data form of a report. -/
def Report.toValue (r : Report) : Value :=
  .object [
    ("individualResults", .object (r.results.entries.map fun (k, v) => (k, .ofFloat v))),
    ("combinedResult", .ofFloat r.combined),
    ("totalTimeMs", .ofFloat r.totalMs)]

namespace Report

/-- How the report's form is named when a value of another form stands in its place. -/
def expected : String := "struct BenchmarkReport"

/-- Reads the entries of a result table after its opening brace, up to the closing brace. -/
def readEntries : Nat → Bool → ResultMap → ReadM ResultMap
  | 0, _, m => pure m
  | fuel + 1, first, m => do
    match ← nextKey? first with
    | none => pure m
    | some key =>
      colon
      let v ← floatValue
      readEntries fuel false (m.upsert key v)

/-- Reads a result table: an object of floats. -/
def readResults (depth : Nat) : ReadM ResultMap := placing do
  match ← skipBlanks with
  | none => failAhead .eofWhileParsingValue
  | some 123 =>
    let _ ← openNested depth
    let ret ← attempt (do readEntries (← budget) true .empty)
    let close ← attempt endObject
    firstError ret close
  | some _ => throw (← unexpectedAhead "a map")

/-- The fields of a report read so far. -/
structure ReportParts where
  results : Option ResultMap := none
  combined : Option Float := none
  totalMs : Option Float := none

/-- The report of complete parts, or the error naming the first missing field. -/
def ReportParts.finish (p : ReportParts) : Except Error Report :=
  match p.results, p.combined, p.totalMs with
  | none, _, _ => .error (.missingField "individualResults")
  | some _, none, _ => .error (.missingField "combinedResult")
  | some _, some _, none => .error (.missingField "totalTimeMs")
  | some r, some c, some t => .ok ⟨r, c, t⟩

/-- Reads the fields of a report after its opening brace, up to the closing brace. -/
def readFields (depth : Nat) : Nat → Bool → ReportParts → ReadM Report
  | 0, _, p => liftExcept p.finish
  | fuel + 1, first, p => do
    match ← nextKey? first with
    | none => liftExcept p.finish
    | some "individualResults" =>
      if p.results.isSome then throw (Error.duplicateField "individualResults")
      colon
      let m ← readResults depth
      readFields depth fuel false { p with results := some m }
    | some "combinedResult" =>
      if p.combined.isSome then throw (Error.duplicateField "combinedResult")
      colon
      let c ← floatValue
      readFields depth fuel false { p with combined := some c }
    | some "totalTimeMs" =>
      if p.totalMs.isSome then throw (Error.duplicateField "totalTimeMs")
      colon
      let t ← floatValue
      readFields depth fuel false { p with totalMs := some t }
    | some _ =>
      colon
      skipValue
      readFields depth fuel false p
where
  liftExcept {α : Type} : Except Error α → ReadM α
    | .ok a => pure a
    | .error e => throw e

/-- Reads the items of a report given as an array, up to the closing bracket. -/
def readItems (depth : Nat) : ReadM Report := do
  let short := fun (n : Nat) => Error.invalidLength n (expected ++ " with 3 elements")
  if !(← nextElement? true) then throw (short 0)
  let m ← readResults depth
  if !(← nextElement? false) then throw (short 1)
  let c ← floatValue
  if !(← nextElement? false) then throw (short 2)
  let t ← floatValue
  pure ⟨m, c, t⟩

/-- Reads a report, as an object or as an array of its three fields. -/
def read (depth : Nat) : ReadM Report := placing do
  match ← skipBlanks with
  | none => failAhead .eofWhileParsingValue
  | some 123 =>
    let inner ← openNested depth
    let ret ← attempt (do readFields inner (← budget) true {})
    let close ← attempt endObject
    firstError ret close
  | some 91 =>
    let inner ← openNested depth
    let ret ← attempt (readItems inner)
    let close ← attempt endArray
    firstError ret close
  | some _ => throw (← unexpectedAhead expected)

/-- Reads a report from a whole JSON text. -/
def ofText (text : String) : Except Json.Error Report :=
  Json.Reader.run (read topDepth) text

/-- A number as a float; anything else is refused. -/
def floatOf? : Value → Option Float
  | .number n => some n.toFloat
  | _ => none

/-- A result table from an object of numbers. -/
def resultsOf? : Value → Option ResultMap
  | .object fields =>
    fields.foldlM (fun m (k, v) => do pure (m.upsert k (← floatOf? v))) ResultMap.empty
  | _ => none

/-- A report from a data value: an object with the three fields (others ignored), or an array
of exactly the three values. -/
def ofValue? : Value → Option Report
  | .object fields => do
    let results ← resultsOf? (← (fields.find? (·.1 == "individualResults")).map (·.2))
    let combined ← floatOf? (← (fields.find? (·.1 == "combinedResult")).map (·.2))
    let totalMs ← floatOf? (← (fields.find? (·.1 == "totalTimeMs")).map (·.2))
    pure ⟨results, combined, totalMs⟩
  | .array [m, c, t] => do
    pure ⟨← resultsOf? m, ← floatOf? c, ← floatOf? t⟩
  | _ => none

end Report

end CpuBench
