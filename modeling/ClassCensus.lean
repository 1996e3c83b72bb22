import ClassCensus.Text.Blank
import ClassCensus.ClassDef.Codec
import ClassCensus.ClassDump
import ClassCensus.ClassRecord
import ClassCensus.SourceLayout
import ClassCensus.Unicode.Category
import ClassCensus.Unicode.Digit
import ClassCensus.Unicode.Property
import ClassCensus.Unicode.Script
import ClassCensus.ArtifactPaths
import ClassCensus.Snapshot.Name
import ClassCensus.Pattern.Convention
import ClassCensus.Rendering
import ClassCensus.Config
import ClassCensus.Disk.Operation
import ClassCensus.Job
import ClassCensus.Engine.Faulty
import ClassCensus.Analysis
import ClassCensus.Cli.Run
import ClassCensus.Main
import ClassCensus.Proofs.Disk.Descent
import ClassCensus.Proofs.LineTags
import ClassCensus.Proofs.UsageIndex
import ClassCensus.Proofs.OrderedMap
import ClassCensus.Proofs.Partition
import ClassCensus.Proofs.Signature
import ClassCensus.Proofs.Pattern.Convention
import ClassCensus.Proofs.Engine.Snapshot
import ClassCensus.Proofs.TaggedSession
import ClassCensus.Proofs.Disk.Places
import ClassCensus.Proofs.Disk.Directories
import ClassCensus.Proofs.Job
import ClassCensus.Proofs.Disk.Ground
import ClassCensus.Proofs.Generation.Directory
import ClassCensus.Proofs.Generation.Places
import ClassCensus.Proofs.Generation.WriteInPlace
import ClassCensus.Proofs.Generation.ClassChange
import ClassCensus.Proofs.Generation.ClassRun
import ClassCensus.Proofs.Generation.OutputRoot
import ClassCensus.Proofs.Generation.Footing
import ClassCensus.Proofs.Generation.Visits
import ClassCensus.Proofs.Generation.WholeRun
import ClassCensus.Proofs.Generation.Pairs
import ClassCensus.Proofs.Generation.Lasting
import ClassCensus.Proofs.Generation.RunEffect
import ClassCensus.Proofs.Generation.Agreement
import ClassCensus.Proofs.Generation.Idempotence
import ClassCensus.Proofs.Disk.Obstacle
import ClassCensus.Proofs.Disk.Same
import ClassCensus.Proofs.Disk.Clearing
import ClassCensus.Proofs.Generation.Fate
import ClassCensus.Proofs.Generation.Course
import ClassCensus.Proofs.Generation.SameOpening
import ClassCensus.Proofs.Generation.TwoRuns
import ClassCensus.Proofs.Generation.Lone
import ClassCensus.Proofs.Generation.Replacement
import ClassCensus.Proofs.Generation.Order
import ClassCensus.Proofs.UsageGrouping
import ClassCensus.Proofs.Json.Tokens
import ClassCensus.Proofs.Json.Grammar
import ClassCensus.Proofs.Json.RoundTrip
import ClassCensus.Proofs.Json.Records
import ClassCensus.Proofs.ClassRecord
import ClassCensus.Proofs.RecordInventory
import ClassCensus.Proofs.ClassDef.Presentation
import ClassCensus.Proofs.Lifecycle
import ClassCensus.Snapshot.Write
import ClassCensus.Proofs.Text.Bytes
import ClassCensus.Proofs.Sorting
import ClassCensus.Proofs.Disk.Distinct
import ClassCensus.Proofs.Engine.ByName
import ClassCensus.Proofs.Snapshot.Order
import ClassCensus.Proofs.Snapshot.Gather
import ClassCensus.Proofs.Snapshot.Load
import ClassCensus.Proofs.Snapshot.Places
import ClassCensus.Proofs.Snapshot.Write
import ClassCensus.Proofs.Snapshot.Classpath
import ClassCensus.Proofs.LineLookup
import ClassCensus.Proofs.Asking
import ClassCensus.Proofs.Cli.Arguments
import ClassCensus.Proofs.Cli.Settings
import ClassCensus.Proofs.Cli.Queries
import ClassCensus.Proofs.Disk.Walks
import ClassCensus.Proofs.Disk.LastNames
import ClassCensus.Proofs.Disk.Retaining
import ClassCensus.Proofs.Generation.Turns
import ClassCensus.Proofs.Generation.Steps
import ClassCensus.Proofs.Generation.Skips
import ClassCensus.Proofs.Generation.Recovery
import ClassCensus.Proofs.Generation.Entries
import ClassCensus.Proofs.Cli.Beginnings
import ClassCensus.Proofs.Cli.ExitStatus
import ClassCensus.Proofs.ArtifactPaths
import ClassCensus.Proofs.Disk.Sites
import ClassCensus.Proofs.Generation.PairWriting
import ClassCensus.Proofs.Performing
import ClassCensus.Proofs.Generation.TurnSteps
import ClassCensus.Proofs.Generation.Confinement
import ClassCensus.Proofs.Disk.Overlaid
import ClassCensus.Proofs.Generation.Steady
import ClassCensus.Proofs.Generation.Alongside
import ClassCensus.Proofs.Generation.InParts
import ClassCensus.Proofs.Overloads
import ClassCensus.Proofs.EnclosingMethod
import ClassCensus.Proofs.SourceLayout
import ClassCensus.Proofs.Snapshot.Scan
import ClassCensus.Proofs.Cli.LineSpec
import ClassCensus.Proofs.ClosestTag
import ClassCensus.Proofs.Engine.Serving
import ClassCensus.Proofs.ClassDump.Words
import ClassCensus.Proofs.ClassDump.Lines
import ClassCensus.Proofs.ClassDump.Shown
import ClassCensus.Proofs.ClassDump.Equality
