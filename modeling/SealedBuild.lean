import SealedBuild.CommandLine
import SealedBuild.Main
import SealedBuild.Proofs.FileSystem.Walk
import SealedBuild.Proofs.Install.Transaction
import SealedBuild.Proofs.Pipeline.Course
import SealedBuild.Proofs.Pipeline.Exit
import SealedBuild.Proofs.Pipeline.Call
import SealedBuild.Proofs.Pipeline.History
import SealedBuild.Proofs.Pipeline.Lifecycle
import SealedBuild.Proofs.Pipeline.Teardown
import SealedBuild.Proofs.Pipeline.Atomicity
import SealedBuild.Proofs.Pipeline.Gate
import SealedBuild.Proofs.Pipeline.Assignment
import SealedBuild.Proofs.Pipeline.Account
import SealedBuild.Proofs.Pipeline.FailFast
import SealedBuild.Proofs.Pipeline.Attribution
import SealedBuild.Proofs.Container.Calls
import SealedBuild.Proofs.Container.Life
import SealedBuild.Proofs.FileSystem.Canonical
import SealedBuild.Proofs.Path.Location
import SealedBuild.Proofs.Request.Roots
import SealedBuild.Proofs.CommandLine.Task
import SealedBuild.Proofs.CommandLine.Protocol
import SealedBuild.Proofs.CommandLine.ExitStatus
import SealedBuild.Proofs.CommandLine.Verdict
import SealedBuild.Proofs.CommandLine.Derivation
import SealedBuild.Proofs.CommandLine.Refusal
import SealedBuild.Proofs.Pipeline.Coupling
import SealedBuild.Proofs.Pipeline.Prediction
import SealedBuild.Proofs.Pipeline.Modes
import SealedBuild.Proofs.Install.Interleaving
import SealedBuild.Proofs.FileSystem.Listing
import SealedBuild.Proofs.Scan.Hits
import SealedBuild.Proofs.Scan.Occurrences
import SealedBuild.Proofs.Scan.Order
import SealedBuild.Capture
import SealedBuild.Proofs.Text.Lines
import SealedBuild.Proofs.Container.Capture
import SealedBuild.Proofs.Container.Removal
import SealedBuild.Proofs.Query.Absence
import SealedBuild.Proofs.Text.Layout
import SealedBuild.Proofs.Query.Interpretation
import SealedBuild.Proofs.Scan.Patterns
import SealedBuild.Proofs.Pipeline.Tightening
import SealedBuild.Proofs.Text.Pieces
import SealedBuild.Proofs.Path.Components
import SealedBuild.Proofs.Path.Containment
import SealedBuild.Proofs.Path.Artifact
import SealedBuild.Proofs.Container.Volumes
import SealedBuild.Proofs.Container.Arguments
import SealedBuild.Proofs.Config.Loading
import SealedBuild.Proofs.Config.ImageReference
import SealedBuild.Proofs.Config.Rules
import SealedBuild.Proofs.Config.Overlay
import SealedBuild.Proofs.Toolchain.Provisioning
import SealedBuild.Proofs.Toolchain.Selection
import SealedBuild.Proofs.Toml.Suffix
import SealedBuild.Proofs.Toml.Statements
import SealedBuild.Proofs.Toml.Spacing
import SealedBuild.Proofs.Toolchain.Reading
import SealedBuild.Proofs.Toolchain.Formats
import SealedBuild.Proofs.Scan.Excerpt
import SealedBuild.Proofs.Scan.AllowedPaths
import SealedBuild.Proofs.Json.Serialization
import SealedBuild.Proofs.Scan.DefaultTokens
