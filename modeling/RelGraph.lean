import RelGraph.Engine.Backend
import RelGraph.Engine.Construction
import RelGraph.Engine.Endpoint
import RelGraph.Engine.Group
import RelGraph.Engine.Machine
import RelGraph.Engine.Plan
import RelGraph.Engine.PlanText
import RelGraph.Engine.Reader
import RelGraph.Engine.Results
import RelGraph.Engine.Solutions
import RelGraph.Engine.SqlFilter
import RelGraph.Mapping.Agreement
import RelGraph.Mapping.Bgp
import RelGraph.Mapping.BlankKey
import RelGraph.Mapping.Encoding
import RelGraph.Mapping.SolutionMap
import RelGraph.Mapping.Template
import RelGraph.Mapping.TermKind
import RelGraph.Mapping.TermMap
import RelGraph.Mapping.TripleMap
import RelGraph.Mapping.ValueMap
import RelGraph.Order.Canonical
import RelGraph.Order.SortedMap
import RelGraph.Order.Spelled
import RelGraph.Proofs.Engine.Batches
import RelGraph.Proofs.Engine.BoundedSolutions
import RelGraph.Proofs.Engine.Cancellation
import RelGraph.Proofs.Engine.Construction
import RelGraph.Proofs.Engine.Conversion
import RelGraph.Proofs.Engine.Cursors
import RelGraph.Proofs.Engine.FailedBatches
import RelGraph.Proofs.Engine.Failures
import RelGraph.Proofs.Engine.FilterTruth
import RelGraph.Proofs.Engine.Finding
import RelGraph.Proofs.Engine.Group
import RelGraph.Proofs.Engine.Interchange
import RelGraph.Proofs.Engine.Machine
import RelGraph.Proofs.Engine.Narrow
import RelGraph.Proofs.Engine.Plan
import RelGraph.Proofs.Engine.Reader
import RelGraph.Proofs.Engine.Recovery
import RelGraph.Proofs.Engine.Sharing
import RelGraph.Proofs.Engine.Solutions
import RelGraph.Proofs.Engine.Sorting
import RelGraph.Proofs.Engine.SqlFilter
import RelGraph.Proofs.Engine.Steps
import RelGraph.Proofs.Engine.Unreliable
import RelGraph.Proofs.Engine.VariableBounds
import RelGraph.Proofs.Except
import RelGraph.Proofs.Mapping.Agreement
import RelGraph.Proofs.Mapping.Assignment
import RelGraph.Proofs.Mapping.Bgp
import RelGraph.Proofs.Mapping.Candidates
import RelGraph.Proofs.Mapping.Cells
import RelGraph.Proofs.Mapping.Concurrence
import RelGraph.Proofs.Mapping.Encoding
import RelGraph.Proofs.Mapping.Inversion
import RelGraph.Proofs.Mapping.Made
import RelGraph.Proofs.Mapping.Narrowing
import RelGraph.Proofs.Mapping.NumberedCandidates
import RelGraph.Proofs.Mapping.Occurrences
import RelGraph.Proofs.Mapping.Queryable
import RelGraph.Proofs.Mapping.Rearrangement
import RelGraph.Proofs.Mapping.RenamedTriples
import RelGraph.Proofs.Mapping.Repetitions
import RelGraph.Proofs.Mapping.Restricted
import RelGraph.Proofs.Mapping.SeparateCandidates
import RelGraph.Proofs.Mapping.Shape
import RelGraph.Proofs.Mapping.SolutionMap
import RelGraph.Proofs.Mapping.Template
import RelGraph.Proofs.Mapping.TemplateText
import RelGraph.Proofs.Mapping.TermMap
import RelGraph.Proofs.Mapping.TripleMap
import RelGraph.Proofs.Mapping.ValueMap
import RelGraph.Proofs.Mapping.Verdict
import RelGraph.Proofs.Order.Canonical
import RelGraph.Proofs.Order.SortedMap
import RelGraph.Proofs.Rdf.Binding
import RelGraph.Proofs.Rdf.BlankLabel
import RelGraph.Proofs.Sparql.BuiltConditions
import RelGraph.Proofs.Sparql.Clauses
import RelGraph.Proofs.Sparql.Comparison
import RelGraph.Proofs.Sparql.Identity
import RelGraph.Proofs.Sparql.Membership
import RelGraph.Proofs.Sparql.NormalForm
import RelGraph.Proofs.Sparql.PushDown
import RelGraph.Proofs.Sparql.Solutions
import RelGraph.Proofs.Sparql.Support
import RelGraph.Proofs.Sparql.Truth
import RelGraph.Proofs.Sparql.ValueOrder
import RelGraph.Proofs.Sparql.Variables
import RelGraph.Proofs.Sql.AliasIndexes
import RelGraph.Proofs.Sql.Aliases
import RelGraph.Proofs.Sql.Answer
import RelGraph.Proofs.Sql.Conditions
import RelGraph.Proofs.Sql.Copies
import RelGraph.Proofs.Sql.Distinct
import RelGraph.Proofs.Sql.Emptiness
import RelGraph.Proofs.Sql.Evaluation
import RelGraph.Proofs.Sql.Join
import RelGraph.Proofs.Sql.JoinAll
import RelGraph.Proofs.Sql.JoinOrder
import RelGraph.Proofs.Sql.Junction
import RelGraph.Proofs.Sql.Legible
import RelGraph.Proofs.Sql.Name
import RelGraph.Proofs.Sql.Normal
import RelGraph.Proofs.Sql.OpenCursors
import RelGraph.Proofs.Sql.Picks
import RelGraph.Proofs.Sql.Places
import RelGraph.Proofs.Sql.Product
import RelGraph.Proofs.Sql.Readability
import RelGraph.Proofs.Sql.Relation
import RelGraph.Proofs.Sql.RenameTables
import RelGraph.Proofs.Sql.RenamedRows
import RelGraph.Proofs.Sql.RenamedValues
import RelGraph.Proofs.Sql.Renaming
import RelGraph.Proofs.Sql.Restriction
import RelGraph.Proofs.Sql.SeparateCopies
import RelGraph.Proofs.Sql.Simplified
import RelGraph.Proofs.Sql.Typing
import RelGraph.Proofs.Sql.UniqueReading
import RelGraph.Proofs.Text.Bytes
import RelGraph.Proofs.Text.Split
import RelGraph.Proofs.Xsd.DateTime
import RelGraph.Rdf.Binding
import RelGraph.Rdf.BlankLabel
import RelGraph.Rdf.Iri
import RelGraph.Rdf.LanguageTag
import RelGraph.Rdf.Term
import RelGraph.Rdf.TriplePattern
import RelGraph.Sparql.Algebra
import RelGraph.Sparql.Clauses
import RelGraph.Sparql.Evaluation
import RelGraph.Sparql.Expression
import RelGraph.Sparql.ExpressionText
import RelGraph.Sparql.Pattern
import RelGraph.Sparql.PushDown
import RelGraph.Sparql.Support
import RelGraph.Sparql.Value
import RelGraph.Sql.Aliases
import RelGraph.Sql.Cursor
import RelGraph.Sql.Database
import RelGraph.Sql.Expr
import RelGraph.Sql.Join
import RelGraph.Sql.Name
import RelGraph.Sql.Relation
import RelGraph.Sql.Row
import RelGraph.Sql.Select
import RelGraph.Sql.Value
import RelGraph.Text.Case
import RelGraph.Text.Case.Folding
import RelGraph.Text.Case.Runs
import RelGraph.Text.CharSet
import RelGraph.Text.Percent
import RelGraph.Text.Property.Alphabetic
import RelGraph.Text.Property.Binary
import RelGraph.Text.Property.Casing
import RelGraph.Text.Property.Category
import RelGraph.Text.Property.Number
import RelGraph.Text.Property.Ranges
import RelGraph.Text.Property.Script
import RelGraph.Text.Property.Table
import RelGraph.Text.Property.Word
import RelGraph.Text.Regex
import RelGraph.Text.Regex.Interpretation
import RelGraph.Text.Regex.Marked
import RelGraph.Text.Regex.Parser
import RelGraph.Text.Regex.Pattern
import RelGraph.Text.Regex.Property
import RelGraph.Text.Regex.Size
import RelGraph.Text.Regex.Tree
import RelGraph.Text.Regex.Utf8
import RelGraph.Text.Split
import RelGraph.Xsd.Binary
import RelGraph.Xsd.DateTime
import RelGraph.Xsd.Decimal
import RelGraph.Xsd.Integer
