import InfraConfig.Analysis.Analyzer
import InfraConfig.Analysis.Configuration
import InfraConfig.Analysis.Diagnostic
import InfraConfig.Analysis.Error
import InfraConfig.Analysis.Report
import InfraConfig.Analysis.Rule
import InfraConfig.Analysis.Session
import InfraConfig.Block.Check
import InfraConfig.Block.DataSource
import InfraConfig.Block.Entity
import InfraConfig.Block.LocalValue
import InfraConfig.Block.Module
import InfraConfig.Block.Output
import InfraConfig.Block.Provider
import InfraConfig.Block.Variable
import InfraConfig.Decimal.Binary64
import InfraConfig.Decimal.Layout
import InfraConfig.Decimal.Numeral
import InfraConfig.Decimal.Shortest
import InfraConfig.Declaration
import InfraConfig.Document.Basic
import InfraConfig.Document.Declarations
import InfraConfig.Document.Expression
import InfraConfig.Document.Reader
import InfraConfig.Document.Spacing
import InfraConfig.Document.Template
import InfraConfig.Document.Token
import InfraConfig.Keyed
import InfraConfig.Locals.Evaluator
import InfraConfig.Locals.Substitution
import InfraConfig.Reference.Basic
import InfraConfig.Reference.Embedded
import InfraConfig.Reference.Occurrence
import InfraConfig.Settings.Basic
import InfraConfig.Settings.Reader
import InfraConfig.Settings.Yaml
import InfraConfig.Source.Cache
import InfraConfig.Source.ModuleSource
import InfraConfig.Source.ProviderAddress
import InfraConfig.Source.Resolver
import InfraConfig.Source.Version
import InfraConfig.Template.Basic
import InfraConfig.Text.Blank
import InfraConfig.Text.Category
import InfraConfig.Text.CharClass
import InfraConfig.Text.LowerCase
import InfraConfig.Text.Ranges
import InfraConfig.Text.Split
import InfraConfig.Trace
import InfraConfig.TypeConstraint.Basic
import InfraConfig.TypeConstraint.Check
import InfraConfig.TypeConstraint.Expression
import InfraConfig.TypeConstraint.Reader
import InfraConfig.TypeConstraint.Text
import InfraConfig.Value.Basic
import InfraConfig.Value.Reader
import InfraConfig.Value.Text
import InfraConfig.Proofs.Locals.Coverage
import InfraConfig.Proofs.Locals.Graph
import InfraConfig.Proofs.Locals.Consistency
import InfraConfig.Proofs.Locals.Visit
import InfraConfig.Proofs.Locals.Run
import InfraConfig.Proofs.Locals.Pass
import InfraConfig.Proofs.Locals.Recomputation
import InfraConfig.Proofs.Locals.Calls
import InfraConfig.Proofs.Locals.Failure
import InfraConfig.Proofs.Locals.Reordering
import InfraConfig.Proofs.TypeConstraint.Conformance
import InfraConfig.Proofs.TypeConstraint.Validation
import InfraConfig.Proofs.TypeConstraint.Tokens
import InfraConfig.Proofs.Reference.Grammar
import InfraConfig.Proofs.Reference.Canonical
import InfraConfig.Proofs.Reference.Operators
import InfraConfig.Proofs.TypeConstraint.Reading
import InfraConfig.Proofs.TypeConstraint.Writing
import InfraConfig.Proofs.TypeConstraint.Defaults
import InfraConfig.Proofs.TypeConstraint.ObjectForm
import InfraConfig.Proofs.TypeConstraint.DepthBound
import InfraConfig.Proofs.Source.Answers
import InfraConfig.Proofs.Analysis.Outcome
import InfraConfig.Proofs.Analysis.Batch
import InfraConfig.Proofs.Source.History
import InfraConfig.Proofs.Source.Faithful
import InfraConfig.Analysis.Team
import InfraConfig.Proofs.Analysis.Freshness
import InfraConfig.Proofs.Analysis.Secrecy
import InfraConfig.Proofs.Analysis.Attribution
import InfraConfig.Proofs.Source.Windows
import InfraConfig.Proofs.Analysis.Documents
import InfraConfig.Proofs.Locals.Cycles
import InfraConfig.Proofs.Block.Condition
import InfraConfig.Proofs.Block.Dependencies
import InfraConfig.Proofs.Text.Classes
import InfraConfig.Proofs.Text.Slice
import InfraConfig.Proofs.Text.Lowering
import InfraConfig.Proofs.Template.Reading
import InfraConfig.Proofs.Reference.Masking
import InfraConfig.Proofs.Reference.Quoting
import InfraConfig.Proofs.Locals.Splicing
import InfraConfig.Proofs.Value.Numerals
import InfraConfig.Proofs.Locals.Pasting
import InfraConfig.Proofs.Source.Addresses
import InfraConfig.Proofs.Analysis.Uniqueness
import InfraConfig.Proofs.Block.SensitiveKeys
import InfraConfig.Proofs.TypeConstraint.RaisedBound
import InfraConfig.Proofs.Document.Gathering
import InfraConfig.Proofs.Document.LocalValues
import InfraConfig.Proofs.Template.Joining
import InfraConfig.Proofs.Document.Consumption
import InfraConfig.Proofs.Document.Sources
import InfraConfig.Proofs.Document.Interpolations
import InfraConfig.Proofs.Source.Storage
import InfraConfig.Proofs.Block.Classification
import InfraConfig.Proofs.Source.Constraints
import InfraConfig.Proofs.Reference.SingleTraversal
import InfraConfig.Proofs.TypeConstraint.Cursor
import InfraConfig.Proofs.TypeConstraint.Closing
import InfraConfig.Proofs.Locals.NestedCalls
