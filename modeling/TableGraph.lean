import TableGraph.CommandLine.Address
import TableGraph.CommandLine.Arguments
import TableGraph.CommandLine.Help
import TableGraph.CommandLine.LogFilter
import TableGraph.CommandLine.Parameter
import TableGraph.CommandLine.Program
import TableGraph.Condition.Basic
import TableGraph.Condition.Compiler
import TableGraph.Condition.Document
import TableGraph.Configuration.Basic
import TableGraph.Database.Basic
import TableGraph.Database.Catalog
import TableGraph.Database.Change
import TableGraph.Database.Introspection
import TableGraph.Database.Script
import TableGraph.Database.Selection
import TableGraph.Datastore
import TableGraph.Failure
import TableGraph.Http.Body
import TableGraph.Http.MediaType
import TableGraph.Http.Service
import TableGraph.Inflection
import TableGraph.Json.Basic
import TableGraph.Json.Lexer
import TableGraph.Json.Parser
import TableGraph.Json.Printer
import TableGraph.Main
import TableGraph.Number.Double
import TableGraph.Number.Layout
import TableGraph.Number.Power
import TableGraph.Number.Reading
import TableGraph.Number.Shortest
import TableGraph.Pattern.Basic
import TableGraph.Pattern.Fault
import TableGraph.Pattern.Parser
import TableGraph.Plan.Basic
import TableGraph.Plan.Builder
import TableGraph.Plan.Exposure
import TableGraph.QueryLog
import TableGraph.Request.Document
import TableGraph.Request.Execution
import TableGraph.Request.Parser
import TableGraph.Request.Response
import TableGraph.Request.Token
import TableGraph.Request.Typing
import TableGraph.Request.Validation
import TableGraph.Resolver
import TableGraph.Scalar
import TableGraph.Schema.Basic
import TableGraph.Schema.Cache
import TableGraph.Schema.Generator
import TableGraph.Schema.Sdl
import TableGraph.Schema.Type
import TableGraph.Selection.Basic
import TableGraph.Selection.Fragment
import TableGraph.Selection.Narrowing
import TableGraph.Selection.Placeholder
import TableGraph.Sql.Affinity
import TableGraph.Sql.Aggregation
import TableGraph.Sql.Cell
import TableGraph.Sql.Collation
import TableGraph.Sql.Expression
import TableGraph.Sql.Like
import TableGraph.Sql.Numeric
import TableGraph.Sql.Parser
import TableGraph.Sql.Query
import TableGraph.Sql.Term
import TableGraph.Sql.Token
import TableGraph.Structure.Basic
import TableGraph.Structure.Document
import TableGraph.Text.DecimalDigit
import TableGraph.Text.UpperCase
import TableGraph.Text.Utf8
import TableGraph.Text.WhiteSpace
import TableGraph.Text.WordCharacter
import TableGraph.Toml.Document
import TableGraph.Toml.Text
import TableGraph.Truth
import TableGraph.Value
import TableGraph.Proofs.Condition.Tree
import TableGraph.Proofs.Condition.Compiled
import TableGraph.Proofs.Condition.Reading
import TableGraph.Proofs.Condition.Meaning
import TableGraph.Proofs.Condition.Precedence
import TableGraph.Proofs.Condition.Conjunction
import TableGraph.Proofs.Condition.Cutting
import TableGraph.Proofs.Sql.Lexeme
import TableGraph.Proofs.Selection.Template
import TableGraph.Proofs.Selection.Shape
import TableGraph.Proofs.Selection.Untrusted
import TableGraph.Proofs.Selection.Rendering
import TableGraph.Proofs.Schema.CacheRun
import TableGraph.Proofs.Schema.Fingerprint
import TableGraph.Proofs.Schema.Invalidation
import TableGraph.Proofs.Plan.ObjectNames
import TableGraph.Proofs.Resolving.Reached
import TableGraph.Proofs.Resolving.Preparation
import TableGraph.Proofs.Resolving.Counting
import TableGraph.Proofs.Selection.Binding
import TableGraph.Proofs.Selection.Slotted
import TableGraph.Proofs.Resolving.BoundStatements
import TableGraph.Proofs.Selection.Restriction
import TableGraph.Proofs.Resolving.RelatedRows
import TableGraph.Proofs.Json.OrderedMap
import TableGraph.Proofs.Plan.FieldOrigin
import TableGraph.Proofs.Plan.FieldNames
import TableGraph.Proofs.Condition.Failing
import TableGraph.Proofs.Resolving.Yielding
import TableGraph.Proofs.Plan.FieldKinds
import TableGraph.Proofs.Plan.ExposedSettings
import TableGraph.Proofs.Resolving.Opened
import TableGraph.Proofs.Plan.Hiding
import TableGraph.Proofs.Json.SortedMap
import TableGraph.Proofs.Json.PrintedTokens
import TableGraph.Proofs.Json.PrintedDocuments
import TableGraph.Proofs.Structure.FaithfulForms
import TableGraph.Proofs.Schema.TypeNames
import TableGraph.Proofs.Schema.Generation
import TableGraph.Proofs.Database.VisitOrder
import TableGraph.Proofs.Database.Lookup
import TableGraph.Proofs.Resolving.References
import TableGraph.Proofs.Resolving.Nullability
import TableGraph.Proofs.Sql.Collation
import TableGraph.Proofs.Database.Consistency
import TableGraph.Proofs.Database.Introspection
import TableGraph.Proofs.Text.Utf8
import TableGraph.Proofs.Resolving.ForeignKeys
import TableGraph.Proofs.Database.Insertion
import TableGraph.Proofs.Text.ByteOrder
import TableGraph.Proofs.Sql.Like
import TableGraph.Proofs.Database.Listing
import TableGraph.Proofs.Database.Steps
import TableGraph.Proofs.Database.TableNames
import TableGraph.Proofs.Database.ConsistentSteps
import TableGraph.Proofs.Database.KeyListing
import TableGraph.Proofs.Database.DeclaredEdges
import TableGraph.Proofs.Resolving.RowQueries
import TableGraph.Proofs.Resolving.SelectedRows
import TableGraph.Proofs.Resolving.Navigation
import TableGraph.Proofs.Resolving.RefusedConditions
import TableGraph.Proofs.Plan.DistinctFields
import TableGraph.Proofs.Plan.Completeness
import TableGraph.Proofs.Database.DescribedKeys
import TableGraph.Proofs.Resolving.SingleKeys
import TableGraph.Proofs.Sql.ColumnNames
import TableGraph.Proofs.Sql.ClauseColumns
import TableGraph.Proofs.Selection.ListedColumns
import TableGraph.Proofs.Selection.RegularTokens
import TableGraph.Proofs.Resolving.NamedStatements
import TableGraph.Proofs.Sql.ReadPositions
import TableGraph.Proofs.Database.Veiled
import TableGraph.Proofs.Database.VeiledTables
import TableGraph.Proofs.Database.HeldTables
import TableGraph.Proofs.Plan.ShownFields
import TableGraph.Proofs.Resolving.Agreement
import TableGraph.Proofs.Resolving.LoggedStatements
import TableGraph.Proofs.Resolving.MentionedColumns
import TableGraph.Proofs.Resolving.AlikeSelections
import TableGraph.Proofs.Resolving.HiddenColumns
import TableGraph.Proofs.Resolving.HiddenRequests
import TableGraph.Proofs.Resolving.HiddenUnlessNamed
import TableGraph.Proofs.Condition.Faults
import TableGraph.Proofs.Resolving.AppliedConditions
import TableGraph.Proofs.Condition.WrittenNames
import TableGraph.Proofs.Condition.Trust
import TableGraph.Proofs.Sql.Quotes
import TableGraph.Proofs.Selection.QuotedMarks
import TableGraph.Proofs.Sql.QuotedNames
import TableGraph.Proofs.Text.Slice
import TableGraph.Proofs.Selection.ScannedBytes
import TableGraph.Proofs.Selection.Expansion
import TableGraph.Proofs.Condition.FirstParty
import TableGraph.Proofs.Condition.Spelling
import TableGraph.Proofs.Condition.Respelling
import TableGraph.Proofs.Number.Numeral
import TableGraph.Proofs.Value.ClientText
import TableGraph.Proofs.Number.Exact
import TableGraph.Proofs.Scalar.ExactIntegers
import TableGraph.Proofs.Scalar.Domains
import TableGraph.Proofs.Plan.Pairing
import TableGraph.Proofs.Plan.PairedFields
