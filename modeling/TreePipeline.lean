import TreePipeline.Artifact.Identifier
import TreePipeline.Artifact.Encoding
import TreePipeline.Artifact.Error
import TreePipeline.Artifact.Names
import TreePipeline.Artifact.Reference
import TreePipeline.CommandLine.Basic
import TreePipeline.CommandLine.Given
import TreePipeline.CommandLine.Reader
import TreePipeline.Commands.Basic
import TreePipeline.Commands.Generate
import TreePipeline.Commands.Run
import TreePipeline.Config.Basic
import TreePipeline.Config.Encoding
import TreePipeline.Config.Environment
import TreePipeline.Event.Basic
import TreePipeline.Event.Directive
import TreePipeline.Event.Filter
import TreePipeline.Files.Errno
import TreePipeline.Files.Operations
import TreePipeline.Files.Path
import TreePipeline.Files.Tree
import TreePipeline.Files.Walk
import TreePipeline.Hash.Sha
import TreePipeline.Host.Kernel
import TreePipeline.Host.Loader
import TreePipeline.Host.Process
import TreePipeline.Host.Program
import TreePipeline.Host.Report
import TreePipeline.Host.Simulation
import TreePipeline.Host.Signal
import TreePipeline.Json.Decode
import TreePipeline.Json.Printer
import TreePipeline.Json.Reader
import TreePipeline.Json.Value
import TreePipeline.Main
import TreePipeline.Number.Amount
import TreePipeline.Number.Binary64
import TreePipeline.Number.Shortest
import TreePipeline.Outcome
import TreePipeline.Pipeline.Executor
import TreePipeline.Pipeline.Run
import TreePipeline.Proofs.Artifact.Naming
import TreePipeline.Proofs.Config.Limits
import TreePipeline.Proofs.Files.Canonical
import TreePipeline.Proofs.Files.Following
import TreePipeline.Proofs.Files.Names
import TreePipeline.Proofs.Files.Opening
import TreePipeline.Proofs.Files.Ordered
import TreePipeline.Proofs.Files.Places
import TreePipeline.Proofs.Files.Plain
import TreePipeline.Proofs.Files.Reaching
import TreePipeline.Proofs.Pipeline.Calls
import TreePipeline.Proofs.Pipeline.Confinement
import TreePipeline.Proofs.Pipeline.Crowd
import TreePipeline.Proofs.Pipeline.Isolation
import TreePipeline.Proofs.Pipeline.Progress
import TreePipeline.Proofs.Pipeline.Secrecy
import TreePipeline.Proofs.Pipeline.Serving
import TreePipeline.Proofs.Pipeline.Undisturbed
import TreePipeline.Proofs.Store.Contention
import TreePipeline.Proofs.Store.Resolution
import TreePipeline.Proofs.Store.Sharing
import TreePipeline.Proofs.Supervision.Ceiling
import TreePipeline.Report
import TreePipeline.Shell.Arithmetic
import TreePipeline.Shell.Builtin
import TreePipeline.Shell.Command
import TreePipeline.Shell.Enclosure
import TreePipeline.Shell.Evaluation
import TreePipeline.Shell.Expansion
import TreePipeline.Shell.Pattern
import TreePipeline.Shell.Reader
import TreePipeline.Shell.State
import TreePipeline.Stage.Capture
import TreePipeline.Stage.Display
import TreePipeline.Stage.Result
import TreePipeline.Stage.Invocation
import TreePipeline.Store.Allocation
import TreePipeline.Store.Basic
import TreePipeline.Store.Purge
import TreePipeline.Supervision.Basic
import TreePipeline.Supervision.Runner
import TreePipeline.Text.Alphanumeric
import TreePipeline.Text.Numeral
import TreePipeline.Text.Expression
import TreePipeline.Text.Expression.Reader
import TreePipeline.Text.Octets
import TreePipeline.Text.Quoted
import TreePipeline.Text.Utf8
import TreePipeline.Time.Duration
import TreePipeline.Time.Timestamp
import TreePipeline.Time.Timestamp.Reader
import TreePipeline.Tools.Basic
import TreePipeline.Tools.Condition
import TreePipeline.Tools.Copying
import TreePipeline.Tools.Entries
import TreePipeline.Tools.Format
import TreePipeline.Tools.Options
import TreePipeline.Tools.Processes
import TreePipeline.Tools.Quoting
import TreePipeline.Tools.Regular
import TreePipeline.Tools.Search
import TreePipeline.Tools.Texts
import TreePipeline.Proofs.Artifact.Recognition
import TreePipeline.Proofs.Files.Listing
import TreePipeline.Proofs.Store.Sweeping
import TreePipeline.Proofs.Store.Purging
import TreePipeline.Proofs.Store.Rivalry
import TreePipeline.Proofs.Pipeline.Discretion
import TreePipeline.Proofs.Text.Lenient
import TreePipeline.Proofs.Stage.Capture
import TreePipeline.Proofs.Supervision.History
import TreePipeline.Proofs.Supervision.Confluence
import TreePipeline.Proofs.Pipeline.Narration
import TreePipeline.Proofs.Pipeline.Attribution
import TreePipeline.Proofs.Host.Launching
import TreePipeline.Proofs.Supervision.Group
import TreePipeline.Proofs.Artifact.Spelling
import TreePipeline.Proofs.Stage.Verdict
import TreePipeline.Proofs.Text.Numeral
import TreePipeline.Proofs.Config.Loading
import TreePipeline.Proofs.Pipeline.Refusal
import TreePipeline.Proofs.Commands.Delivery
import TreePipeline.Proofs.Json.RoundTrip
import TreePipeline.Proofs.CommandLine.Words
import TreePipeline.Proofs.CommandLine.Arrangement
import TreePipeline.Proofs.Host.Limiting
import TreePipeline.Proofs.Files.Resembling
import TreePipeline.Proofs.Pipeline.StandIn
