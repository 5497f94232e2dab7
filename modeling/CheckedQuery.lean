import CheckedQuery.Condition.Branch
import CheckedQuery.Condition.Discriminator
import CheckedQuery.ConfigError
import CheckedQuery.Json.Members
import CheckedQuery.Json.Printer
import CheckedQuery.Json.Reader
import CheckedQuery.Json.Value
import CheckedQuery.Keyed
import CheckedQuery.Number.Decimal
import CheckedQuery.Number.Layout
import CheckedQuery.Number.Reading
import CheckedQuery.Path
import CheckedQuery.Pattern
import CheckedQuery.Pattern.Bracket
import CheckedQuery.Pattern.Escape
import CheckedQuery.Pattern.Fault
import CheckedQuery.Pattern.Flags
import CheckedQuery.Pattern.LiteralTree
import CheckedQuery.Pattern.Matching
import CheckedQuery.Pattern.Normal
import CheckedQuery.Pattern.Parser
import CheckedQuery.Pattern.Program
import CheckedQuery.Pattern.Program.CharStates
import CheckedQuery.Pattern.Program.Meter
import CheckedQuery.Pattern.Tree
import CheckedQuery.Projection
import CheckedQuery.Projection.Compile
import CheckedQuery.Query
import CheckedQuery.Query.Building
import CheckedQuery.Query.Operation
import CheckedQuery.Report
import CheckedQuery.Schema
import CheckedQuery.Text.Blank
import CheckedQuery.Text.Identifier
import CheckedQuery.Text.Quoted
import CheckedQuery.Unicode.Age
import CheckedQuery.Unicode.Break
import CheckedQuery.Unicode.Category
import CheckedQuery.Unicode.CharSet
import CheckedQuery.Unicode.Folding
import CheckedQuery.Unicode.Lookup
import CheckedQuery.Unicode.Name
import CheckedQuery.Unicode.Property
import CheckedQuery.Unicode.Script
import CheckedQuery.Unicode.Utf8
import CheckedQuery.Validator
import CheckedQuery.Validator.Fields
import CheckedQuery.Validator.Items
import CheckedQuery.Validator.Number
import CheckedQuery.Validator.Text
import CheckedQuery.Proofs.Outcomes
import CheckedQuery.Proofs.Branches
import CheckedQuery.Proofs.Compilation
import CheckedQuery.Proofs.DocumentWalk
import CheckedQuery.Proofs.GroupMeaning
import CheckedQuery.Proofs.IssuePlaces
import CheckedQuery.Proofs.ProjectionTree
import CheckedQuery.Proofs.DeclaredValues
import CheckedQuery.Proofs.WellFormedness
import CheckedQuery.Proofs.DeclaredKeys
import CheckedQuery.Proofs.FinalValidator
import CheckedQuery.Proofs.Stripping
import CheckedQuery.Proofs.ValidationIndependence
import CheckedQuery.Proofs.UndeclaredData
import CheckedQuery.Proofs.PathText
import CheckedQuery.Proofs.ReportText
import CheckedQuery.Proofs.NumeralText
import CheckedQuery.Proofs.DocumentText
import CheckedQuery.Proofs.EqualityConditions
import CheckedQuery.Proofs.Selection
import CheckedQuery.Proofs.Revalidation
import CheckedQuery.Proofs.Reordering
import CheckedQuery.Proofs.ManyResults
import CheckedQuery.Proofs.ReboundFields
import CheckedQuery.Proofs.ReaderLocality
import CheckedQuery.Proofs.ConditionGrammar
import CheckedQuery.Proofs.EmittedText
import CheckedQuery.Proofs.KeyLists
import CheckedQuery.Proofs.TypeFilters
import CheckedQuery.Proofs.PolicyAgreement
import CheckedQuery.Proofs.FirstApplicable
import CheckedQuery.Proofs.LayerNesting
import CheckedQuery.Proofs.SpreadFields
import CheckedQuery.Proofs.TextCalls
import CheckedQuery.Proofs.AbsentValidators
import CheckedQuery.Proofs.Collecting
