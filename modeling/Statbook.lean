import Statbook.Backend.Basic
import Statbook.Backend.Scripted
import Statbook.Cache.Basic
import Statbook.Cache.Fingerprint
import Statbook.Cache.Store
import Statbook.Calendar.Date
import Statbook.Calendar.Duration
import Statbook.Calendar.Layout
import Statbook.Calendar.Reader
import Statbook.Calendar.Timestamp
import Statbook.Calendar.Window
import Statbook.CommandLine.Command
import Statbook.CommandLine.Files
import Statbook.CommandLine.FilterArgument
import Statbook.CommandLine.Help
import Statbook.CommandLine.Reader
import Statbook.CommandLine.Run
import Statbook.CommandLine.Settings
import Statbook.Config.Basic
import Statbook.Config.Build
import Statbook.Config.Location
import Statbook.Config.Printer
import Statbook.Config.Reader
import Statbook.Decimal.Layout
import Statbook.Decimal.Reader
import Statbook.Decimal.Shortest
import Statbook.Decimal.Whole
import Statbook.Digest.Blake3
import Statbook.Error
import Statbook.Filter.Dynamic
import Statbook.Filter.Filters
import Statbook.Filter.Infer
import Statbook.Filter.Rule
import Statbook.Filter.Value
import Statbook.Json.Number
import Statbook.Json.Value
import Statbook.Main
import Statbook.Query.Basic
import Statbook.Query.Constraint
import Statbook.Registry.Basic
import Statbook.Registry.Catalog
import Statbook.Registry.Definition
import Statbook.Registry.Formula
import Statbook.Retry.Policy
import Statbook.Retry.Settings
import Statbook.Sql.Piece
import Statbook.Sql.Quoted
import Statbook.Sql.Value
import Statbook.Sql.Writer
import Statbook.Sqlite.Affinity
import Statbook.Sqlite.Aggregate
import Statbook.Sqlite.Cell
import Statbook.Sqlite.Connection
import Statbook.Sqlite.Database
import Statbook.Sqlite.Evaluation
import Statbook.Sqlite.Expression
import Statbook.Sqlite.Fault
import Statbook.Sqlite.Image
import Statbook.Sqlite.Number
import Statbook.Sqlite.NumberLiteral
import Statbook.Sqlite.RealText
import Statbook.Sqlite.Relation
import Statbook.Sqlite.Schema
import Statbook.Sqlite.Selection
import Statbook.Sqlite.Statement
import Statbook.Sqlite.Token
import Statbook.Stat.Operation
import Statbook.Stat.Reader
import Statbook.Stat.Value
import Statbook.Text.Blank
import Statbook.Text.Hexadecimal
import Statbook.Text.Pieces
import Statbook.Toml.Document
import Statbook.Toml.Scalar
import Statbook.Toml.Table
import Statbook.Toml.Text
import Statbook.Toml.Value
import Statbook.Proofs.Decimal.Digits
import Statbook.Proofs.Decimal.Layout
import Statbook.Proofs.Decimal.FloatText
import Statbook.Proofs.Calendar.Text
import Statbook.Proofs.Json.Number
import Statbook.Proofs.Json.Quoted
import Statbook.Proofs.Json.Text
import Statbook.Proofs.Sql.Quoted
import Statbook.Proofs.Sqlite.Token
import Statbook.Proofs.Sqlite.Reading
import Statbook.Proofs.Sqlite.Statement
import Statbook.Proofs.Sqlite.Prepared
import Statbook.Proofs.Sqlite.Selected
import Statbook.Proofs.Sqlite.Fetched
import Statbook.Proofs.Sqlite.Shown
import Statbook.Proofs.Query.Rendering
import Statbook.Proofs.Filter.Rule
import Statbook.Proofs.Filter.Template
import Statbook.Proofs.Cache.Fingerprint
import Statbook.Proofs.Cache.Store
import Statbook.Proofs.Cache.Trace
import Statbook.Proofs.Cache.Recency
import Statbook.Proofs.Cache.Lifetime
import Statbook.Proofs.Backend.Fallible
import Statbook.Proofs.Backend.Results
import Statbook.Proofs.Registry.Plan
import Statbook.Proofs.Registry.CacheKey
import Statbook.Proofs.Registry.Evaluation
import Statbook.Proofs.Registry.Calls
import Statbook.Proofs.Registry.Levels
import Statbook.Proofs.Registry.Worth
import Statbook.Proofs.Registry.Uncached
import Statbook.Proofs.Registry.Transparency
import Statbook.Proofs.Registry.Requests
import Statbook.Proofs.Registry.Exchanges
import Statbook.Proofs.Registry.Catalog
import Statbook.Proofs.Registry.Declarations
import Statbook.Proofs.Registry.Sources
import Statbook.Proofs.Config.Scopes
import Statbook.Proofs.Config.Models
import Statbook.Proofs.Config.Queries
import Statbook.Proofs.Sqlite.Alongside
import Statbook.Proofs.Sqlite.Closed
import Statbook.Proofs.Sqlite.Condition
import Statbook.Proofs.Sqlite.Conjunction
import Statbook.Proofs.Sqlite.Conjunctive
import Statbook.Proofs.Registry.Precedence
import Statbook.Proofs.Registry.Journal
import Statbook.Proofs.Registry.Freshness
import Statbook.Proofs.Calendar.Elapsed
import Statbook.Proofs.Registry.ZeroLifetime
import Statbook.Proofs.Registry.Nesting
import Statbook.Proofs.Registry.Depth
import Statbook.Proofs.Retry.Attempts
import Statbook.Proofs.Registry.Failures
import Statbook.Proofs.Calendar.Order
import Statbook.Proofs.Calendar.Reading
import Statbook.Proofs.Calendar.Spelling
import Statbook.Proofs.Calendar.Window
import Statbook.Proofs.Decimal.Nearest
import Statbook.Proofs.Decimal.Packed
import Statbook.Proofs.Decimal.Arithmetic
import Statbook.Proofs.Decimal.ReadBack
import Statbook.Proofs.Filter.Infer
import Statbook.Proofs.Filter.Day
import Statbook.Proofs.Filter.Kept
import Statbook.Proofs.Filter.Window
import Statbook.Proofs.CommandLine.FilterArgument
import Statbook.Proofs.Filter.Pattern
import Statbook.Proofs.Filter.Acceptance
import Statbook.Proofs.Calendar.Adding
import Statbook.Proofs.Cache.Advances
import Statbook.Proofs.Registry.Names
import Statbook.Proofs.Retry.Backoff
import Statbook.Proofs.Filter.Canonical
import Statbook.Proofs.Decimal.Integers
import Statbook.Proofs.Decimal.Coefficient
import Statbook.Proofs.Decimal.Order
import Statbook.Proofs.Json.Reading
import Statbook.Proofs.Json.Exact
import Statbook.Proofs.Json.Bounded
import Statbook.Proofs.Stat.Arithmetic
import Statbook.Proofs.Stat.Json
import Statbook.Proofs.Text.Pieces
import Statbook.Proofs.Sql.Reference
import Statbook.Proofs.Retry.Settings
import Statbook.Proofs.Config.Soundness
import Statbook.Proofs.Config.Declared
import Statbook.Proofs.Config.Acceptance
