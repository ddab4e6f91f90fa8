import CpuBench.Cli.Args
import CpuBench.Cli.Dotenv
import CpuBench.Config.FileFormat
import CpuBench.Config.Format
import CpuBench.Config.Layers
import CpuBench.Config.Load
import CpuBench.Config.Suite
import CpuBench.Decimal.Binary
import CpuBench.Decimal.Notation
import CpuBench.Decimal.Reading
import CpuBench.Decimal.Shortest
import CpuBench.Fault
import CpuBench.Harness.Summary
import CpuBench.Harness.Violation
import CpuBench.Ini.Read
import CpuBench.Json.Read
import CpuBench.Json.Value
import CpuBench.Json.Write
import CpuBench.Json5.Decode
import CpuBench.Json5.Node
import CpuBench.Json5.Read
import CpuBench.Main
import CpuBench.Output.Files
import CpuBench.Output.Markdown
import CpuBench.Output.Record
import CpuBench.Output.Target
import CpuBench.Proofs.Binary64
import CpuBench.Proofs.Fibonacci
import CpuBench.Proofs.FizzText
import CpuBench.Proofs.Harness
import CpuBench.Proofs.Matrix
import CpuBench.Proofs.MatrixSum
import CpuBench.Proofs.Outcome
import CpuBench.Proofs.OutputTree
import CpuBench.Proofs.Primes
import CpuBench.Proofs.Records
import CpuBench.Proofs.ReportRecord
import CpuBench.Proofs.ResultTable
import CpuBench.Proofs.Run
import CpuBench.Proofs.Validation
import CpuBench.Report.Basic
import CpuBench.Report.Results
import CpuBench.Report.Run
import CpuBench.Report.Serial
import CpuBench.Ron.Read
import CpuBench.Ron.Value
import CpuBench.Text.Blank
import CpuBench.Text.Case
import CpuBench.Text.Cased
import CpuBench.Text.Category
import CpuBench.Text.Debug
import CpuBench.Text.Escaped
import CpuBench.Time.Instant
import CpuBench.Time.Parse
import CpuBench.Toml.Basic
import CpuBench.Toml.Document
import CpuBench.Toml.Scalar
import CpuBench.Toml.Value
import CpuBench.Word
import CpuBench.Workload.Catalogue
import CpuBench.Workload.Fibonacci
import CpuBench.Workload.FizzText
import CpuBench.Workload.Matrix
import CpuBench.Workload.Primes
import CpuBench.Workload.Records
import CpuBench.Workload.Trig
import CpuBench.Yaml.Event
import CpuBench.Yaml.Node
import CpuBench.Yaml.Scanner
import CpuBench.Yaml.Scanner.Next
import CpuBench.Yaml.Scanner.Scalar
import CpuBench.Yaml.Token
