import SchemaChange.Attachment
import SchemaChange.Attributes
import SchemaChange.Catalog.Lookup
import SchemaChange.Column.Load
import SchemaChange.Command
import SchemaChange.CommandLine.Session
import SchemaChange.Constraint.Load
import SchemaChange.Execution
import SchemaChange.LogFilter
import SchemaChange.Main
import SchemaChange.Object
import SchemaChange.Package.Load
import SchemaChange.Settings
import SchemaChange.Text.ShortestDecimal
import SchemaChange.User.Load
import SchemaChange.Proofs.Execution
import SchemaChange.Proofs.Script.Reading
import SchemaChange.Proofs.Script.Split
import SchemaChange.Proofs.Script.Rendering
import SchemaChange.Proofs.Script.Stability
import SchemaChange.Proofs.Script.Word
import SchemaChange.Proofs.Sql.Identifier
import SchemaChange.Proofs.Sql.Value
import SchemaChange.Proofs.Text.Replace
import SchemaChange.Proofs.Text.UpperCase
import SchemaChange.Proofs.Refusal
import SchemaChange.Proofs.Reason
import SchemaChange.Proofs.Column.TypeClause
import SchemaChange.Proofs.Column.Words
import SchemaChange.Proofs.Constraint.Words
import SchemaChange.Proofs.User.Words
import SchemaChange.Proofs.Package.Words
import SchemaChange.Proofs.Object
import SchemaChange.Proofs.Attributes
import SchemaChange.Proofs.Draft
import SchemaChange.Proofs.Column.Edit
import SchemaChange.Proofs.User.Edit
import SchemaChange.Proofs.Editing
import SchemaChange.Proofs.Column.Alteration
import SchemaChange.Proofs.Column.Coverage
import SchemaChange.Proofs.Column.Default
import SchemaChange.Proofs.Constraint.Key
import SchemaChange.Proofs.Sql.Group
import SchemaChange.Proofs.Constraint.Check
import SchemaChange.Proofs.Json.Layout
import SchemaChange.Proofs.Json.Rendering
import SchemaChange.Proofs.Json.Record
import SchemaChange.Proofs.Marks
import SchemaChange.Proofs.Serialization
import SchemaChange.Proofs.Package.Restoration
import SchemaChange.Proofs.Constraint.Index
import SchemaChange.Proofs.Json.Joining
import SchemaChange.Proofs.Command
import SchemaChange.Proofs.Text.Rewording
import SchemaChange.Proofs.Constraint.Loaded
import SchemaChange.Proofs.Json.Continuation
import SchemaChange.Proofs.Json.Ordering
import SchemaChange.Proofs.User.Alteration
import SchemaChange.Proofs.User.Tags
import SchemaChange.Proofs.Naming
import SchemaChange.Proofs.User.TagOrder
import SchemaChange.Proofs.Decoding
import SchemaChange.Proofs.Column.Refusal
import SchemaChange.Proofs.Constraint.Refusal
import SchemaChange.Proofs.Column.Creation
import SchemaChange.Proofs.Column.Addressing
import SchemaChange.Proofs.Constraint.Unambiguity
import SchemaChange.Proofs.Constraint.Session
import SchemaChange.Proofs.Loading
import SchemaChange.Proofs.Column.Undoing
import SchemaChange.CommandLine.Storage
import SchemaChange.Proofs.Sql.Recovery
import SchemaChange.Proofs.Package.Abstraction
import SchemaChange.Proofs.Configuration
import SchemaChange.Proofs.FreeText
import SchemaChange.Proofs.Sql.Balance
import SchemaChange.Proofs.Column.Carrier
import SchemaChange.Proofs.Column.Charset
