import SqlBridge.Calendar
import SqlBridge.Config
import SqlBridge.Config.ConnectOptions
import SqlBridge.Config.Document
import SqlBridge.Config.File
import SqlBridge.Decimal.Binary
import SqlBridge.Decimal.Fixed
import SqlBridge.Decimal.Layout
import SqlBridge.Decimal.Shortest
import SqlBridge.Dialect
import SqlBridge.Error
import SqlBridge.Json.Basic
import SqlBridge.Json.Document
import SqlBridge.Json.Fields
import SqlBridge.Json.Number
import SqlBridge.Named
import SqlBridge.Proofs.Decimal.Numeral
import SqlBridge.Proofs.Query.Comments
import SqlBridge.Proofs.Query.Condition
import SqlBridge.Proofs.Query.Pieces
import SqlBridge.Proofs.Query.Seed
import SqlBridge.Proofs.Query.Tokens
import SqlBridge.Proofs.Query.Truth
import SqlBridge.Proofs.Session.Identity
import SqlBridge.Proofs.Session.Interleaving
import SqlBridge.Proofs.Session.Leak
import SqlBridge.Proofs.Session.Manager
import SqlBridge.Proofs.Session.Reachable
import SqlBridge.Proofs.Session.Recovery
import SqlBridge.Proofs.Session.Retry
import SqlBridge.Proofs.Session.Turn
import SqlBridge.Proofs.Session.World
import SqlBridge.Proofs.Sql.Collapse
import SqlBridge.Proofs.Sql.Comments
import SqlBridge.Proofs.Sql.Content
import SqlBridge.Proofs.Sql.Escape
import SqlBridge.Proofs.Sql.Phrase
import SqlBridge.Proofs.Sql.Pieces
import SqlBridge.Proofs.Sql.Spelling
import SqlBridge.Proofs.Sql.Token
import SqlBridge.Proofs.Sql.Truth
import SqlBridge.Proofs.Write.Conditions
import SqlBridge.Proofs.Write.Insertion
import SqlBridge.Query.Basic
import SqlBridge.Query.Condition
import SqlBridge.Query.Select
import SqlBridge.Retry
import SqlBridge.Schema.Column
import SqlBridge.Schema.Ddl
import SqlBridge.Session.Executor
import SqlBridge.Session.Log
import SqlBridge.Session.Manager
import SqlBridge.Session.Migration
import SqlBridge.Session.Script
import SqlBridge.Session.Server
import SqlBridge.Sql.Literal
import SqlBridge.Sql.Name
import SqlBridge.Sql.Whitespace
import SqlBridge.Statement
import SqlBridge.Table
import SqlBridge.Table.Serial
import SqlBridge.Text.Characters
import SqlBridge.Text.Numeral
import SqlBridge.Toml.Basic
import SqlBridge.Toml.Moment
import SqlBridge.Toml.Number
import SqlBridge.Toml.Parser
import SqlBridge.Value
import SqlBridge.Write
import SqlBridge.Proofs.Session.Active
import SqlBridge.Proofs.Session.Settings
import SqlBridge.Proofs.Session.Failure
import SqlBridge.Proofs.Session.Migration
import SqlBridge.Proofs.Session.Sweep
import SqlBridge.Proofs.Statement.Kind
import SqlBridge.Proofs.Table.Shape
import SqlBridge.Proofs.Json.Text
import SqlBridge.Proofs.Json.Layers
import SqlBridge.Proofs.Json.Value
import SqlBridge.Proofs.Decimal.Reading
import SqlBridge.Proofs.Table.Serial
import SqlBridge.Proofs.Table.ByName
import SqlBridge.Proofs.Session.Versions
import SqlBridge.Proofs.Query.Opening
import SqlBridge.Proofs.Query.Window
import SqlBridge.Proofs.Sql.Items
import SqlBridge.Proofs.Sql.Words
import SqlBridge.Proofs.Sql.Name
import SqlBridge.Proofs.Setters
import SqlBridge.Proofs.Schema.Column
import SqlBridge.Proofs.Value.Integer
import SqlBridge.Proofs.Query.Page
import SqlBridge.Proofs.Config.Options
import SqlBridge.Proofs.Schema.IndexName
import SqlBridge.Proofs.Session.QueryLog
import SqlBridge.Proofs.Query.Limit
import SqlBridge.Proofs.Query.Pattern
import SqlBridge.Proofs.Value.Moment
