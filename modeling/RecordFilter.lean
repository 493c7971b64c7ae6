import RecordFilter.Main
import RecordFilter.Evaluation.Evaluator
import RecordFilter.Filter.OptionsReader
import RecordFilter.Filter.Parser
import RecordFilter.Filter.Token
import RecordFilter.Json.Reader
import RecordFilter.Predicate.Basic
import RecordFilter.Query.Builder
import RecordFilter.Query.Stream
import RecordFilter.Report.Format
import RecordFilter.Schema.DocumentReader
import RecordFilter.Value.FromJson
import RecordFilter.Url.Reader
import RecordFilter.Yaml.Reader
import RecordFilter.Proofs.BooleanLiterals
import RecordFilter.Proofs.ChainedFilters
import RecordFilter.Proofs.Chains
import RecordFilter.Proofs.LeftFold
import RecordFilter.Proofs.RoundTrip
import RecordFilter.Proofs.SortedPages
import RecordFilter.Proofs.StringConstants
import RecordFilter.Proofs.TypeSoundness
import RecordFilter.Proofs.VacantFilters
import RecordFilter.Proofs.RecordOrder
import RecordFilter.Proofs.SqlConditions
import RecordFilter.Proofs.SqlSelection
import RecordFilter.Proofs.Rounding
import RecordFilter.Proofs.ShortestDigits
import RecordFilter.Proofs.NumberTexts
import RecordFilter.Proofs.NumberLiterals
import RecordFilter.Proofs.NumericTexts
import RecordFilter.Proofs.NumericRoundTrip
import RecordFilter.Proofs.EncodedTexts
import RecordFilter.Proofs.QueryTexts
import RecordFilter.Proofs.TimestampTexts
import RecordFilter.Proofs.JsonRoundTrip
import RecordFilter.Proofs.SchemaBuilding
import RecordFilter.Proofs.QuotedLiterals
import RecordFilter.Proofs.QuotedParentheses
import RecordFilter.Proofs.BracketedChains
import RecordFilter.Proofs.OperatorCase
import RecordFilter.Proofs.MirroredComparisons
import RecordFilter.Proofs.LiteralSides
import RecordFilter.Proofs.CultureNumbers
import RecordFilter.Proofs.JoinedOperands
import RecordFilter.Proofs.UnwritableNodes
import RecordFilter.Proofs.LikePatterns
import RecordFilter.Proofs.Inlining
import RecordFilter.Proofs.FreeParameters
import RecordFilter.Proofs.Navigation
import RecordFilter.Proofs.LoweredLambdas
import RecordFilter.Proofs.Selectors
import RecordFilter.Proofs.ExactOrder
import RecordFilter.Proofs.StringPositions
import RecordFilter.Proofs.SharedSelections
import RecordFilter.Proofs.InterleavedCallers
import RecordFilter.Proofs.OuterParentheses
import RecordFilter.Proofs.ParsingSteps
import RecordFilter.Proofs.JoinedArguments
