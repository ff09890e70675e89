import GraphLedger.Audit.ChangeLog
import GraphLedger.Audit.Outbox
import GraphLedger.Backend
import GraphLedger.Buffer
import GraphLedger.CommandLine.Arguments
import GraphLedger.CommandLine.Run
import GraphLedger.CommandLine.Surroundings
import GraphLedger.Config.Basic
import GraphLedger.Config.Fault
import GraphLedger.Config.Stage
import GraphLedger.Config.Wire
import GraphLedger.Failure
import GraphLedger.Iri
import GraphLedger.Json.Basic
import GraphLedger.Json.Decode
import GraphLedger.Json.Outline
import GraphLedger.Json.Printer
import GraphLedger.Json.Reader
import GraphLedger.JsonLd.Context
import GraphLedger.JsonLd.Node
import GraphLedger.JsonLd.Skolem
import GraphLedger.Main
import GraphLedger.Number.Double
import GraphLedger.Number.Shortest
import GraphLedger.Page
import GraphLedger.Pattern.Automaton
import GraphLedger.Pattern.Basic
import GraphLedger.Pattern.Bracket
import GraphLedger.Pattern.CharClass
import GraphLedger.Pattern.Escape
import GraphLedger.Pattern.Fault
import GraphLedger.Pattern.Footprint
import GraphLedger.Pattern.Octets
import GraphLedger.Pattern.Reader
import GraphLedger.Pattern.Reading
import GraphLedger.Pipeline.Basic
import GraphLedger.Pipeline.Build
import GraphLedger.Pipeline.Chain
import GraphLedger.Pipeline.Store
import GraphLedger.Proofs.Audit.Written
import GraphLedger.Proofs.Buffer.Calls
import GraphLedger.Proofs.Buffer.Firsts
import GraphLedger.Proofs.Buffer.Held
import GraphLedger.Proofs.Buffer.Roll
import GraphLedger.Proofs.Buffer.Valid
import GraphLedger.Proofs.CommandLine.Applied
import GraphLedger.Proofs.CommandLine.Output
import GraphLedger.Proofs.Config.Runnable
import GraphLedger.Proofs.Json.Canonical
import GraphLedger.Proofs.Json.Decode
import GraphLedger.Proofs.Json.Delimited
import GraphLedger.Proofs.JsonLd.Agreeing
import GraphLedger.Proofs.JsonLd.Anonymous
import GraphLedger.Proofs.JsonLd.BlankNodes
import GraphLedger.Proofs.JsonLd.Defined
import GraphLedger.Proofs.JsonLd.Draft
import GraphLedger.Proofs.JsonLd.Expansion
import GraphLedger.Proofs.JsonLd.Following
import GraphLedger.Proofs.JsonLd.Leaves
import GraphLedger.Proofs.JsonLd.Linked
import GraphLedger.Proofs.JsonLd.Literals
import GraphLedger.Proofs.JsonLd.Minted
import GraphLedger.Proofs.JsonLd.Minting
import GraphLedger.Proofs.JsonLd.Naming
import GraphLedger.Proofs.JsonLd.Numbering
import GraphLedger.Proofs.JsonLd.Objects
import GraphLedger.Proofs.JsonLd.Renaming
import GraphLedger.Proofs.JsonLd.Resolved
import GraphLedger.Proofs.JsonLd.Shortcut
import GraphLedger.Proofs.JsonLd.Translation
import GraphLedger.Proofs.Page.Accepted
import GraphLedger.Proofs.Page.Cursor
import GraphLedger.Proofs.Page.Offset
import GraphLedger.Proofs.Page.Walk
import GraphLedger.Proofs.Pipeline.Agreement
import GraphLedger.Proofs.Pipeline.Build
import GraphLedger.Proofs.Pipeline.Causes
import GraphLedger.Proofs.Pipeline.Commit
import GraphLedger.Proofs.Pipeline.Filed
import GraphLedger.Proofs.Pipeline.Found
import GraphLedger.Proofs.Pipeline.Gate
import GraphLedger.Proofs.Pipeline.History
import GraphLedger.Proofs.Pipeline.Isolation
import GraphLedger.Proofs.Pipeline.Rollback
import GraphLedger.Proofs.Pipeline.Run
import GraphLedger.Proofs.Pipeline.Stored
import GraphLedger.Proofs.Pipeline.Validated
import GraphLedger.Proofs.Reference.Confined
import GraphLedger.Proofs.Reference.Drafted
import GraphLedger.Proofs.Reference.Keys
import GraphLedger.Proofs.Report.Calls
import GraphLedger.Proofs.Report.History
import GraphLedger.Proofs.Report.Printed
import GraphLedger.Proofs.Request.Builder
import GraphLedger.Proofs.Request.RoundTrip
import GraphLedger.Proofs.Shape.Allowed
import GraphLedger.Proofs.Shape.Compile
import GraphLedger.Proofs.Shape.Conforms
import GraphLedger.Proofs.Shape.Exact
import GraphLedger.Proofs.Shape.Meaning
import GraphLedger.Proofs.Shape.Removal
import GraphLedger.Proofs.Shape.Subjects
import GraphLedger.Proofs.Stage.Additive
import GraphLedger.Proofs.Stage.Asserted
import GraphLedger.Proofs.Stage.Batches
import GraphLedger.Proofs.Stage.Brought
import GraphLedger.Proofs.Stage.Entries
import GraphLedger.Proofs.Stage.Failing
import GraphLedger.Proofs.Stage.Kept
import GraphLedger.Proofs.Stage.Leftover
import GraphLedger.Proofs.Stage.Matched
import GraphLedger.Proofs.Stage.Order
import GraphLedger.Proofs.Stage.Prepared
import GraphLedger.Proofs.Stage.Sources
import GraphLedger.Proofs.Statement.Displayed
import GraphLedger.Proofs.Statement.WellFormed
import GraphLedger.Proofs.Storage.Commit
import GraphLedger.Proofs.Storage.Coverage
import GraphLedger.Proofs.Storage.Routing
import GraphLedger.Proofs.Storage.Shares
import GraphLedger.Proofs.Storage.View
import GraphLedger.Proofs.Storage.Withdraw
import GraphLedger.Proofs.Text.Base64
import GraphLedger.Query
import GraphLedger.Record
import GraphLedger.Reference.FilePath
import GraphLedger.Reference.Loader
import GraphLedger.Report
import GraphLedger.Request.Basic
import GraphLedger.Request.Wire
import GraphLedger.Shape.Schema
import GraphLedger.Shape.ShapeSet
import GraphLedger.Shape.Validation
import GraphLedger.Stage.Assertions
import GraphLedger.Stage.Conformance
import GraphLedger.Stage.Materialize
import GraphLedger.Stage.Step
import GraphLedger.Statement
import GraphLedger.Template.Basic
import GraphLedger.Template.Helper
import GraphLedger.Template.Nodes
import GraphLedger.Template.Param
import GraphLedger.Template.Reader
import GraphLedger.Template.Render
import GraphLedger.Template.Scan
import GraphLedger.Template.Tag
import GraphLedger.Template.Value
import GraphLedger.Text.Base64
import GraphLedger.Text.Blank
import GraphLedger.Text.Quoted
import GraphLedger.Time.Instant
import GraphLedger.Toml.Fault
import GraphLedger.Toml.Quoted
import GraphLedger.Toml.Reader
import GraphLedger.Toml.Scalar
import GraphLedger.Toml.Table
import GraphLedger.Ulid
import GraphLedger.Unicode.Age
import GraphLedger.Unicode.Category
import GraphLedger.Unicode.CharSet
import GraphLedger.Unicode.Fold
import GraphLedger.Unicode.Newest
import GraphLedger.Unicode.Property
import GraphLedger.Unicode.Property.Table
import GraphLedger.Unicode.Script
import GraphLedger.Unicode.ScriptExtension
import GraphLedger.Unicode.Segment
import GraphLedger.Vocabulary
