import SchemaRecords.Main
import SchemaRecords.Proofs.Name.Cased
import SchemaRecords.Proofs.Name.LowerCase
import SchemaRecords.Proofs.Name.CasingLaws
import SchemaRecords.Proofs.Name.Claim
import SchemaRecords.Proofs.Schema.Core
import SchemaRecords.Proofs.TypeName
import SchemaRecords.Proofs.Record.Walk
import SchemaRecords.Proofs.Record.Distinct
import SchemaRecords.Proofs.Record.Wider
import SchemaRecords.Proofs.Schema.Path
import SchemaRecords.Proofs.Record.ClosedForm
import SchemaRecords.Proofs.Record.Reference
import SchemaRecords.Proofs.Record.Asked
import SchemaRecords.Proofs.Record.Appended
import SchemaRecords.Proofs.Schema.Reordered
import SchemaRecords.Proofs.Record.Reordered
import SchemaRecords.Proofs.Innermost
import SchemaRecords.Proofs.Record.Emitted
import SchemaRecords.Proofs.Record.Capture
import SchemaRecords.Proofs.Text.Utf8
import SchemaRecords.Proofs.Faults
import SchemaRecords.Proofs.Record.Clash
import SchemaRecords.Proofs.Record.Policies
import SchemaRecords.Proofs.Record.Undescribed
import SchemaRecords.Proofs.Text.Units
import SchemaRecords.Proofs.Source.Literal
import SchemaRecords.Proofs.Document.Entries
import SchemaRecords.Proofs.Document.Equality
import SchemaRecords.Proofs.Number.Rounding
import SchemaRecords.Proofs.Number.Shortest
import SchemaRecords.Proofs.Number.Layout
import SchemaRecords.Proofs.Json.Number
import SchemaRecords.Proofs.Json.Text
import SchemaRecords.Proofs.Json.RoundTrip
import SchemaRecords.Proofs.Json.Reading
import SchemaRecords.Proofs.Json.Names
import SchemaRecords.Proofs.Schema.Members
import SchemaRecords.Proofs.Schema.WellFormed
import SchemaRecords.Proofs.Schema.Undescribed
import SchemaRecords.Proofs.Yaml.Regular
import SchemaRecords.Proofs.Tool.Supplied
import SchemaRecords.Proofs.Tool.Required
import SchemaRecords.Proofs.Tool.Blocks
import SchemaRecords.Proofs.Source.Lines
import SchemaRecords.Proofs.Source.CodeLines
import SchemaRecords.Proofs.Source.Reading
import SchemaRecords.Proofs.Source.ReadBack
import SchemaRecords.Proofs.Schema.Displayable
import SchemaRecords.Proofs.Load.Writable
import SchemaRecords.Proofs.Load.Reported
import SchemaRecords.Proofs.Command.Ending
import SchemaRecords.Proofs.Text.Terminal
import SchemaRecords.Proofs.File.Way
import SchemaRecords.Proofs.File.Saved
import SchemaRecords.Proofs.Command.Added
import SchemaRecords.Proofs.Command.Kept
import SchemaRecords.Proofs.Command.Written
import SchemaRecords.Proofs.Nullable
import SchemaRecords.Proofs.Name.Lacks
import SchemaRecords.Proofs.Name.Unmarked
import SchemaRecords.Proofs.Schema.Items
import SchemaRecords.Proofs.Record.Admitted
import SchemaRecords.Proofs.Context
import SchemaRecords.Proofs.Schema.Alike
import SchemaRecords.Proofs.Name.Claims
import SchemaRecords.Proofs.Name.Numbered
import SchemaRecords.Proofs.Record.Requested
import SchemaRecords.Proofs.Record.Proper
import SchemaRecords.Proofs.Schema.Kinds
import SchemaRecords.Proofs.Text.Lines
import SchemaRecords.Proofs.Source.Documentation
import SchemaRecords.Proofs.Tool.Manifest
import SchemaRecords.Proofs.Load.OneName
import SchemaRecords.Proofs.Name.History
import SchemaRecords.Proofs.Document.Displayed
import SchemaRecords.Proofs.Document.Keys
import SchemaRecords.Proofs.Schema.Kept
