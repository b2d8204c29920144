import ContainerDriver.Archive.Decode
import ContainerDriver.Archive.Encode
import ContainerDriver.Command.Session
import ContainerDriver.CommandLine.Run
import ContainerDriver.Engine.Session
import ContainerDriver.Main
import ContainerDriver.Settings.Session
import ContainerDriver.Proofs.Except
import ContainerDriver.Proofs.Session
import ContainerDriver.Proofs.Table
import ContainerDriver.Proofs.Text.Casing
import ContainerDriver.Proofs.Text.Decoding
import ContainerDriver.Proofs.Text.Surrogates
import ContainerDriver.Proofs.Text.Trim
import ContainerDriver.Proofs.Text.Utf8
import ContainerDriver.Proofs.Archive.Chain
import ContainerDriver.Proofs.Archive.Corruption
import ContainerDriver.Proofs.Archive.Framing
import ContainerDriver.Proofs.Archive.HeaderBlock
import ContainerDriver.Proofs.Archive.Layout
import ContainerDriver.Proofs.Archive.Metadata
import ContainerDriver.Proofs.Archive.Mishaps
import ContainerDriver.Proofs.Archive.Number
import ContainerDriver.Proofs.Archive.Origin
import ContainerDriver.Proofs.Archive.Preface
import ContainerDriver.Proofs.Archive.Reading
import ContainerDriver.Proofs.Archive.RoundTrip
import ContainerDriver.Proofs.Archive.Survival
import ContainerDriver.Proofs.Archive.Trailing
import ContainerDriver.Proofs.Archive.Truncation
import ContainerDriver.Proofs.Archive.Unguarded
import ContainerDriver.Proofs.Command.Growth
import ContainerDriver.Proofs.Settings.Checks
import ContainerDriver.Proofs.Settings.Kept
import ContainerDriver.Proofs.Settings.Mapping
import ContainerDriver.Proofs.Settings.Overlay
import ContainerDriver.Proofs.Settings.Paths
import ContainerDriver.Proofs.Settings.Places
import ContainerDriver.Proofs.Settings.Precedence
import ContainerDriver.Proofs.Settings.Presence
import ContainerDriver.Proofs.Settings.Reading
import ContainerDriver.Proofs.Settings.Scalar
import ContainerDriver.Proofs.Settings.Strict
import ContainerDriver.Proofs.Settings.Undeclared
import ContainerDriver.Proofs.Settings.VariableLayers
import ContainerDriver.Proofs.Driver.Candidates
import ContainerDriver.Proofs.Driver.Choice
import ContainerDriver.Proofs.Engine.Acts
import ContainerDriver.Proofs.Engine.Attempts
import ContainerDriver.Proofs.Engine.Buffering
import ContainerDriver.Proofs.Engine.Cleanup
import ContainerDriver.Proofs.Engine.Closing
import ContainerDriver.Proofs.Engine.Commands
import ContainerDriver.Proofs.Engine.Composition
import ContainerDriver.Proofs.Engine.Connection
import ContainerDriver.Proofs.Engine.Core
import ContainerDriver.Proofs.Engine.Delivery
import ContainerDriver.Proofs.Engine.Errands
import ContainerDriver.Proofs.Engine.Handles
import ContainerDriver.Proofs.Engine.Identity
import ContainerDriver.Proofs.Engine.Journal
import ContainerDriver.Proofs.Engine.Keeping
import ContainerDriver.Proofs.Engine.Launches
import ContainerDriver.Proofs.Engine.LineSink
import ContainerDriver.Proofs.Engine.Lines
import ContainerDriver.Proofs.Engine.Muted
import ContainerDriver.Proofs.Engine.Plan
import ContainerDriver.Proofs.Engine.Replay
import ContainerDriver.Proofs.Engine.Routing
import ContainerDriver.Proofs.Engine.Secrecy
import ContainerDriver.Proofs.Engine.Sequence
import ContainerDriver.Proofs.Engine.Stages
import ContainerDriver.Proofs.Engine.Streams
import ContainerDriver.Proofs.Engine.Trace
import ContainerDriver.Proofs.Engine.Transparency
import ContainerDriver.Proofs.Engine.TwoRuns
import ContainerDriver.Proofs.CommandLine.Arguments
import ContainerDriver.Proofs.CommandLine.Engine
import ContainerDriver.Proofs.CommandLine.Escapes
import ContainerDriver.Proofs.CommandLine.Requests
import ContainerDriver.Proofs.CommandLine.Serving
