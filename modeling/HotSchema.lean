import HotSchema.Command.Check
import HotSchema.Command.Report
import HotSchema.Command.Usage
import HotSchema.Compile.Pass
import HotSchema.Compiled.Library
import HotSchema.Compiled.Loader
import HotSchema.Diagnostic.Basic
import HotSchema.Diagnostic.Line
import HotSchema.Diagnostic.Token
import HotSchema.Digest
import HotSchema.Engine.Basic
import HotSchema.Engine.History
import HotSchema.Engine.Run
import HotSchema.Error
import HotSchema.Files
import HotSchema.Healing.Handler
import HotSchema.Healing.Legacy
import HotSchema.Healing.MessagePattern
import HotSchema.Healing.Pass
import HotSchema.Healing.Shape
import HotSchema.Json
import HotSchema.Main
import HotSchema.Proofs.Compile.InStep
import HotSchema.Proofs.Compile.Pass
import HotSchema.Proofs.Engine.Convergence
import HotSchema.Proofs.Engine.Pass
import HotSchema.Proofs.Engine.Run
import HotSchema.Proofs.Engine.Serving
import HotSchema.Proofs.Engine.Surroundings
import HotSchema.Proofs.Healing.Fixpoint
import HotSchema.Proofs.Healing.Precision
import HotSchema.Proofs.Healing.Target
import HotSchema.Proofs.Registry
import HotSchema.Proofs.Roster
import HotSchema.Proofs.Schema.Tracking
import HotSchema.Proofs.Source.Location
import HotSchema.Proofs.Staging
import HotSchema.Registry.Basic
import HotSchema.Registry.Snapshot
import HotSchema.Roster
import HotSchema.Schema.Basic
import HotSchema.Schema.Edit
import HotSchema.Schema.Manifest
import HotSchema.Schema.Model
import HotSchema.Schema.Transaction
import HotSchema.Session.Hub
import HotSchema.Settings
import HotSchema.Shell.Arithmetic
import HotSchema.Shell.Builtin
import HotSchema.Shell.Condition
import HotSchema.Shell.Expansion
import HotSchema.Shell.Format
import HotSchema.Shell.Glob
import HotSchema.Shell.Machine
import HotSchema.Shell.Program
import HotSchema.Shell.Reader
import HotSchema.Shell.Run
import HotSchema.Shell.Signal
import HotSchema.Shell.Syntax
import HotSchema.Source.Entity
import HotSchema.Source.Staging
import HotSchema.Source.Unit
import HotSchema.Text.Alphabetic
import HotSchema.Text.Classes
import HotSchema.Text.Escaped
import HotSchema.Text.Mark
import HotSchema.Text.Numeric
import HotSchema.Text.Octets
import HotSchema.Text.Quoted
import HotSchema.Text.Ranges
import HotSchema.Text.Split
import HotSchema.Text.Utf8
import HotSchema.Toml.Document
import HotSchema.Toml.Lexical
import HotSchema.Toml.Record
import HotSchema.Toml.Value
import HotSchema.Toolchain.Basic
import HotSchema.Toolchain.Process
import HotSchema.Toolchain.Script
import HotSchema.Toolchain.Statements
import HotSchema.Proofs.Compile.Consistency
import HotSchema.Proofs.Engine.Failure
import HotSchema.Proofs.Compile.Frame
import HotSchema.Proofs.Engine.Consistency
import HotSchema.Proofs.Healing.Weight
import HotSchema.Proofs.Engine.Termination
import HotSchema.Proofs.Registry.History
import HotSchema.Proofs.Source.Waiting
import HotSchema.Proofs.Engine.Acceptance
import HotSchema.Proofs.Engine.Batches
import HotSchema.Proofs.Healing.Shape
import HotSchema.Proofs.Toolchain.Wording
import HotSchema.Proofs.Engine.Classes
import HotSchema.Proofs.Engine.Legibility
import HotSchema.Proofs.Engine.Reruns
import HotSchema.Proofs.Session.Announcements
import HotSchema.Proofs.Engine.Originators
import HotSchema.Proofs.Source.Offers
import HotSchema.Proofs.Engine.Correlation
import HotSchema.Proofs.Compile.Atomicity
import HotSchema.Proofs.Schema.Update
import HotSchema.Proofs.Healing.Unrepaired
import HotSchema.Proofs.Healing.Log
import HotSchema.Proofs.Compile.Rejection
import HotSchema.Proofs.Engine.Restaging
import HotSchema.Proofs.Engine.Report
import HotSchema.Proofs.Healing.Order
import HotSchema.Proofs.Source.Attribution
import HotSchema.Proofs.Schema.Revision
import HotSchema.Proofs.Schema.Removals
import HotSchema.Proofs.Compile.Installation
import HotSchema.Proofs.Schema.History
import HotSchema.Proofs.Text.Lines
import HotSchema.Proofs.Text.Cut
import HotSchema.Proofs.Source.Partition
import HotSchema.Proofs.Diagnostic.Printed
import HotSchema.Proofs.Diagnostic.Location
import HotSchema.Proofs.Healing.Fit
import HotSchema.Proofs.Healing.Occurrence
import HotSchema.Proofs.Healing.Letters
import HotSchema.Proofs.Healing.Reading
import HotSchema.Proofs.Healing.Recognition
import HotSchema.Proofs.Text.Runs
import HotSchema.Proofs.Healing.Listing
