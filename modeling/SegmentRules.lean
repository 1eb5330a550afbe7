import SegmentRules.Calendar.Date
import SegmentRules.Calendar.Instant
import SegmentRules.Calendar.Timestamp
import SegmentRules.CommandLine.Arguments
import SegmentRules.CommandLine.Commands
import SegmentRules.CommandLine.Grid
import SegmentRules.CommandLine.Yaml
import SegmentRules.Commerce.Predicate
import SegmentRules.Commerce.Query
import SegmentRules.Commerce.Record
import SegmentRules.Commerce.Store
import SegmentRules.Condition.Catalog
import SegmentRules.Condition.Filter
import SegmentRules.Condition.Kind
import SegmentRules.Contact.Identity
import SegmentRules.Contact.Query
import SegmentRules.Contact.Restriction
import SegmentRules.Document.Record
import SegmentRules.Double.Basic
import SegmentRules.Double.Reader
import SegmentRules.Double.Shortest
import SegmentRules.Double.Style
import SegmentRules.Error
import SegmentRules.Files.Disk
import SegmentRules.Files.Fault
import SegmentRules.Files.Path
import SegmentRules.Json.Basic
import SegmentRules.Json.Decode
import SegmentRules.Json.Number
import SegmentRules.Json.Reader
import SegmentRules.Json.Writer
import SegmentRules.Main
import SegmentRules.Numeral
import SegmentRules.Operator
import SegmentRules.Product.Catalog
import SegmentRules.Product.Options
import SegmentRules.Proofs.Contact.Identity
import SegmentRules.Proofs.Sorted
import SegmentRules.Rules.Basic
import SegmentRules.Rules.Compiler
import SegmentRules.Rules.Membership
import SegmentRules.Rules.Registry
import SegmentRules.Schema
import SegmentRules.Selector
import SegmentRules.Settings.Basic
import SegmentRules.Settings.Document
import SegmentRules.Settings.Edit
import SegmentRules.Settings.File
import SegmentRules.Sorted
import SegmentRules.Sql.Fragment
import SegmentRules.Sql.Value
import SegmentRules.Status
import SegmentRules.Text.Blank
import SegmentRules.Text.Lowercase
import SegmentRules.Text.Parts
import SegmentRules.Text.Printable
import SegmentRules.Text.Quoted
import SegmentRules.Text.Ranges
import SegmentRules.Toml.Reader
import SegmentRules.Toml.Scalar
import SegmentRules.Toml.Table
import SegmentRules.Toml.Value
import SegmentRules.Toml.Writer
import SegmentRules.Window
import SegmentRules.Proofs.Contact.Restriction
import SegmentRules.Proofs.Contact.Union
import SegmentRules.Proofs.Rules.Meaning
import SegmentRules.Proofs.Commerce.MemoryStore
import SegmentRules.Proofs.Rules.Run
import SegmentRules.Proofs.Rules.Selection
import SegmentRules.Proofs.Rules.Agreement
import SegmentRules.Proofs.Calendar.Binding
import SegmentRules.Proofs.Sql.Formula
import SegmentRules.Proofs.Sql.Reader
import SegmentRules.Proofs.Sql.Phrase
import SegmentRules.Proofs.Contact.QuerySql
import SegmentRules.Proofs.Commerce.PredicateSql
import SegmentRules.Proofs.Rules.Skipping
import SegmentRules.Proofs.Commerce.QueryText
import SegmentRules.Proofs.Commerce.RowOrder
import SegmentRules.Proofs.Contact.RestrictionText
import SegmentRules.Proofs.Rules.Nesting
import SegmentRules.Proofs.Rules.RowOrder
import SegmentRules.Proofs.Settings.QueryText
import SegmentRules.Proofs.Commerce.WindowBounds
import SegmentRules.Proofs.Commerce.Recorder
import SegmentRules.Proofs.Contact.Alternatives
import SegmentRules.Proofs.Rules.Views
import SegmentRules.Proofs.Rules.Retry
import SegmentRules.Proofs.Rules.ShortCircuit
import SegmentRules.Proofs.Settings.Edit
import SegmentRules.Proofs.CommandLine.Session
import SegmentRules.Proofs.Text.Trim
import SegmentRules.Proofs.Selector.Token
import SegmentRules.Proofs.Rules.Compilation
import SegmentRules.Proofs.Contact.Effect
import SegmentRules.Proofs.Toml.Quoted
import SegmentRules.Proofs.Toml.Lines
import SegmentRules.Proofs.Double.Positional
import SegmentRules.Proofs.Toml.Number
import SegmentRules.Proofs.Settings.RoundTrip
import SegmentRules.Proofs.Rules.SelectorSets
import SegmentRules.Proofs.Calendar.Successor
import SegmentRules.Proofs.Commerce.WindowDates
import SegmentRules.Proofs.Rules.Picking
import SegmentRules.Proofs.Settings.Leaves
import SegmentRules.Proofs.Settings.Lens
import SegmentRules.Proofs.Condition.Kind
import SegmentRules.Proofs.Product.Options
import SegmentRules.Proofs.Json.Stored
import SegmentRules.Proofs.Condition.Stored
import SegmentRules.Proofs.Sql.Literal
import SegmentRules.Proofs.Commerce.CustomerLookup
import SegmentRules.Proofs.Product.Catalog
import SegmentRules.Proofs.Product.Search
import SegmentRules.Proofs.Text.Order
import SegmentRules.Proofs.Calendar.Sorting
import SegmentRules.Proofs.Commerce.TextColumn
import SegmentRules.Proofs.Toml.Listing
import SegmentRules.Proofs.Settings.Listing
