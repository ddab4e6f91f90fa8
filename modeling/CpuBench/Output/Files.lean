import CpuBench.Output.Markdown
import CpuBench.Config.Format

/-!
# The output tree

The suite writes under one directory:

* `raw/`, always, as a directory;
* with JSON: `raw/<target>.json` for each target, `/` in the target's name written `_`, holding
  the pretty JSON of the last record of that name, and `all_results.json` with all records;
* with Markdown: `summary.md` and `detailed.md`, each stamped with its own reading of the clock,
  the summary's taken first.

A path is joined to a directory with one `/`, unless the directory is empty or already ends with
one. `outputs` lists the tree as relative paths in byte order, a directory ending in `/` and
carrying no content.

A file system refuses a file name with a NUL byte in it, and one longer than 255 bytes. The
per-target files are written first, in the order of the records, so `checkedOutputs` answers the
fault of the first record whose file cannot be named.
-/

namespace CpuBench.Output

/-- The default directory of the output tree. -/
def outputDir : String := "benchmarks/output"

/-- The directory of the per-target files. -/
def rawDir : String := "raw"

/-- The file with all records. -/
def allResultsFile : String := "all_results.json"

/-- The Markdown summary. -/
def summaryFile : String := "summary.md"

/-- The detailed Markdown view. -/
def detailedFile : String := "detailed.md"

/-- `name` inside the directory `dir`. -/
def joinPath (dir name : String) : String :=
  if dir.isEmpty then name
  else if dir.endsWith "/" then dir ++ name
  else dir ++ "/" ++ name

/-- The file name of a target's own file: `/` becomes `_`, and `.json` follows. -/
def rawFileName (targetId : String) : String :=
  String.map (fun c => if c == '/' then '_' else c) targetId ++ ".json"

/-- The path of a target's own file under `dir`. -/
def rawResultPath (dir targetId : String) : String :=
  joinPath (joinPath dir rawDir) (rawFileName targetId)

/-- The pretty JSON of a list of records. -/
def resultsJson (records : List Record) : String :=
  (Json.Value.array (records.map Record.toValue)).prettyText

/-- A file or directory of the tree: its relative path and, for a file, its text. -/
abbrev Entry := String × Option String

/-- Sets the file at `path` to `text`, replacing an earlier file of that path. -/
def putFile (tree : List Entry) (path text : String) : List Entry :=
  (tree.filter (·.1 != path)) ++ [(path, some text)]

/-- The per-target files of the records, the last record of a name winning. -/
def rawFiles (records : List Record) : List Entry :=
  records.foldl (fun tree r =>
    putFile tree (joinPath rawDir (rawFileName r.targetId)) r.toValue.prettyText) []

/-- The files the format asks for, unsorted. -/
def treeEntries (records : List Record) (format : Config.OutputFormat)
    (summaryAt detailedAt : String) : List Entry :=
  [(rawDir ++ "/", none)] ++
  (if format.includesJson then rawFiles records ++ [(allResultsFile, some (resultsJson records))]
   else []) ++
  (if format.includesMarkdown then
    [(summaryFile, some (summary summaryAt records)),
     (detailedFile, some (detailed detailedAt records))]
   else [])

/-- The output tree in byte order of the paths; `summaryAt` and `detailedAt` are the times the
two views were generated. -/
def outputs (records : List Record) (format : Config.OutputFormat)
    (summaryAt detailedAt : String) : List Entry :=
  (treeEntries records format summaryAt detailedAt).mergeSort fun a b => decide (a.1 ≤ b.1)

/-- Why a file system refuses a file name. -/
inductive NameFault where
  /-- The name holds a NUL byte. -/
  | nulByte
  /-- The name is longer than 255 bytes. -/
  | tooLong
  deriving DecidableEq, Repr

/-- The text of a refused name, as the file system reports it. -/
def NameFault.message : NameFault → String
  | .nulByte => "file name contained an unexpected NUL byte"
  | .tooLong => "File name too long (os error 36)"

/-- The longest file name, in bytes, that a file system accepts. -/
def nameLimit : Nat := 255

/-- Why the file system refuses `name`, if it does. -/
def nameFault? (name : String) : Option NameFault :=
  if name.any (· == '\x00') then some .nulByte
  else if name.utf8ByteSize > nameLimit then some .tooLong
  else none

/-- The output tree, or the fault of the first per-target file that cannot be named. -/
def checkedOutputs (records : List Record) (format : Config.OutputFormat)
    (summaryAt detailedAt : String) : Except NameFault (List Entry) :=
  let fault := if format.includesJson then
      records.findSome? fun r => nameFault? (rawFileName r.targetId)
    else none
  match fault with
  | some f => .error f
  | none => .ok (outputs records format summaryAt detailedAt)

end CpuBench.Output
