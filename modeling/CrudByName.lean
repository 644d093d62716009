import CrudByName.Call
import CrudByName.CommandLine.Correction
import CrudByName.CommandLine.Disk
import CrudByName.CommandLine.KeyPath
import CrudByName.CommandLine.LogLevel
import CrudByName.CommandLine.Options
import CrudByName.CommandLine.Program
import CrudByName.CommandLine.Report
import CrudByName.CommandLine.Session
import CrudByName.CommandLine.Settings
import CrudByName.Connection
import CrudByName.Connection.Wrapping
import CrudByName.Database.Address
import CrudByName.Database.Affinity
import CrudByName.Database.Catalog
import CrudByName.Database.Cell
import CrudByName.Database.Command
import CrudByName.Database.Fault
import CrudByName.Database.Image
import CrudByName.Database.Lexeme
import CrudByName.Database.Schema
import CrudByName.Database.Sequence
import CrudByName.Database.Store
import CrudByName.Database.Table
import CrudByName.Decimal.Binary64
import CrudByName.Decimal.Digits
import CrudByName.Decimal.Notation
import CrudByName.Decimal.Shortest
import CrudByName.Decimal.Stepwise
import CrudByName.Dispatch
import CrudByName.Error
import CrudByName.Grid
import CrudByName.Identifier
import CrudByName.Json.Codec
import CrudByName.Json.Fault
import CrudByName.Json.Numeral
import CrudByName.Json.Quoted
import CrudByName.Json.Reader
import CrudByName.Json.Tree
import CrudByName.Main
import CrudByName.Members
import CrudByName.Operation
import CrudByName.Outcome
import CrudByName.Record
import CrudByName.Statement
import CrudByName.Text.Blank
import CrudByName.Text.Cluster
import CrudByName.Text.Columns
import CrudByName.Text.Emoji
import CrudByName.Text.Escaped
import CrudByName.Text.Hex
import CrudByName.Text.Marks
import CrudByName.Toml.Item
import CrudByName.Toml.Marked
import CrudByName.Toml.Moment
import CrudByName.Toml.Number
import CrudByName.Toml.Quoted
import CrudByName.Toml.Reader
import CrudByName.Value
import CrudByName.Verb
import CrudByName.Proofs.Except
import CrudByName.Proofs.Statement.Columns
import CrudByName.Proofs.Statement.Reading
import CrudByName.Proofs.Statement.Preparation
import CrudByName.Proofs.Dispatch.Independence
import CrudByName.Proofs.Dispatch.Naming
import CrudByName.Proofs.Dispatch.Convention
import CrudByName.Proofs.Json.Grammar
import CrudByName.Proofs.Json.Lexemes
import CrudByName.Proofs.Json.Reading
import CrudByName.Proofs.Call.Reading
import CrudByName.Proofs.Json.Members
import CrudByName.Proofs.Json.Writing
import CrudByName.Proofs.Call.RoundTrip
import CrudByName.Proofs.Call.Arguments
import CrudByName.Proofs.Decimal.Finite
import CrudByName.Proofs.Call.Bindable
import CrudByName.Proofs.Call.Margins
import CrudByName.Proofs.Call.Nesting
import CrudByName.Proofs.Call.Integers
import CrudByName.Proofs.Database.Cells
import CrudByName.Proofs.Database.Tables
import CrudByName.Proofs.Database.States
import CrudByName.Proofs.Database.Lexemes
import CrudByName.Proofs.Database.Commands
import CrudByName.Proofs.Database.Operations
import CrudByName.Proofs.Database.Agreement
import CrudByName.Proofs.Database.Insertion
import CrudByName.Proofs.Database.Failure
import CrudByName.Proofs.Database.ReadBack
import CrudByName.Proofs.Identifier.NormalForm
import CrudByName.Proofs.Json.RoundTrip
import CrudByName.Proofs.Json.Recognition
import CrudByName.Proofs.Record.OrderedMap
import CrudByName.Proofs.Record.Making
import CrudByName.Proofs.Database.Binding
import CrudByName.Proofs.Grid
import CrudByName.Proofs.Database.ResultSets
import CrudByName.Proofs.CommandLine.Lines
import CrudByName.Proofs.Dispatch.Wrapping
import CrudByName.Proofs.CommandLine.Session
import CrudByName.Proofs.CommandLine.Options
import CrudByName.Proofs.CommandLine.Calls
import CrudByName.Proofs.CommandLine.Precedence
