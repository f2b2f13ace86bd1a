import PropertyFilter.Backend
import PropertyFilter.Binary64
import PropertyFilter.CommandLine
import PropertyFilter.Compile
import PropertyFilter.Condition
import PropertyFilter.Condition.Meaning
import PropertyFilter.Decimal
import PropertyFilter.Description
import PropertyFilter.Double
import PropertyFilter.Double.Integer
import PropertyFilter.Double.Nearest
import PropertyFilter.Double.Shortest
import PropertyFilter.Double.Text
import PropertyFilter.Drafting
import PropertyFilter.EnvFile
import PropertyFilter.FilterError
import PropertyFilter.FilterSet
import PropertyFilter.Json
import PropertyFilter.Json.Embedded
import PropertyFilter.Json.Reader
import PropertyFilter.Json.Token
import PropertyFilter.Json.Writer
import PropertyFilter.KeyPath
import PropertyFilter.LogEvent
import PropertyFilter.Main
import PropertyFilter.Outcome
import PropertyFilter.Parameter
import PropertyFilter.Plan
import PropertyFilter.Program
import PropertyFilter.Proofs.Checking
import PropertyFilter.Proofs.Condition.Matching
import PropertyFilter.Proofs.Condition.Reading
import PropertyFilter.Proofs.Condition.Tokens
import PropertyFilter.Proofs.Draft
import PropertyFilter.Proofs.Draft.Alike
import PropertyFilter.Proofs.Draft.Built
import PropertyFilter.Proofs.FilterSet
import PropertyFilter.Proofs.KeyPath
import PropertyFilter.Proofs.Plan
import PropertyFilter.Proofs.Query.Alignment
import PropertyFilter.Proofs.Query.Names
import PropertyFilter.Proofs.Query.Placeholder
import PropertyFilter.Proofs.Query.Safety
import PropertyFilter.Proofs.Query.Tokens
import PropertyFilter.Proofs.Settings
import PropertyFilter.Proofs.Sql.Pattern
import PropertyFilter.Proofs.Sql.Token
import PropertyFilter.Proofs.Text.Joined
import PropertyFilter.Property
import PropertyFilter.Property.Entry
import PropertyFilter.Property.Strategy
import PropertyFilter.Query
import PropertyFilter.Query.Names
import PropertyFilter.Query.Placeholder
import PropertyFilter.Query.Placeholder.Pass
import PropertyFilter.Request
import PropertyFilter.Resource
import PropertyFilter.Scalar
import PropertyFilter.Schema
import PropertyFilter.Settings
import PropertyFilter.Settings.File
import PropertyFilter.SortedMap
import PropertyFilter.Sql.Expression
import PropertyFilter.Sql.Identifier
import PropertyFilter.Sql.Pattern
import PropertyFilter.Text.Alphanumeric
import PropertyFilter.Text.Blank
import PropertyFilter.Text.Case
import PropertyFilter.Text.Case.Table
import PropertyFilter.Text.Hidden
import PropertyFilter.Text.Quoted
import PropertyFilter.Text.Slice
import PropertyFilter.Text.Split
import PropertyFilter.Text.Word
import PropertyFilter.TypedValues
import PropertyFilter.Workspace
import PropertyFilter.Proofs.KeyPath.Dotted
import PropertyFilter.Proofs.Description
import PropertyFilter.Proofs.Description.Accepted
import PropertyFilter.Proofs.Condition.Nesting
import PropertyFilter.Proofs.Condition.Formula
import PropertyFilter.Proofs.Query.Conjunction
import PropertyFilter.Proofs.Draft.Groups
import PropertyFilter.Proofs.Drafting
import PropertyFilter.Proofs.Drafting.Alike
import PropertyFilter.Proofs.Text.Bytes
import PropertyFilter.Proofs.Drafting.Effects
import PropertyFilter.Proofs.Report
import PropertyFilter.Proofs.Query.Growth
import PropertyFilter.Proofs.Request.Interleaving
import PropertyFilter.Proofs.Query.Names.Rendered
import PropertyFilter.Proofs.Query.Placeholder.Stretches
import PropertyFilter.Proofs.Query.Placeholder.Pass
import PropertyFilter.Proofs.Drafting.Reordering
import PropertyFilter.Proofs.Double.Nearest
import PropertyFilter.Proofs.Decimal
import PropertyFilter.Proofs.Decimal.Literal
import PropertyFilter.Proofs.Double.Integer
import PropertyFilter.Proofs.TypedValues.WholeDouble
import PropertyFilter.Proofs.TypedValues.Reading
import PropertyFilter.Proofs.TypedValues.Integer
import PropertyFilter.Proofs.Decimal.Pattern
import PropertyFilter.Proofs.TypedValues.Decimal
import PropertyFilter.Proofs.TypedValues.Accepted
import PropertyFilter.Proofs.Drafting.Precedence
import PropertyFilter.Proofs.Drafting.Choice
import PropertyFilter.Proofs.Double.Shortest
import PropertyFilter.Proofs.Double.Text
import PropertyFilter.Proofs.Json.Number
import PropertyFilter.Proofs.TypedValues.Number
import PropertyFilter.Proofs.TypedValues.WholeNumber
import PropertyFilter.Proofs.Request.Effective
import PropertyFilter.Proofs.CommandLine.FilterArgument
import PropertyFilter.Proofs.FilterSet.Entries
import PropertyFilter.Proofs.Settings.Defects
import PropertyFilter.Proofs.Report.Required
import PropertyFilter.Proofs.TypedValues.Restated
