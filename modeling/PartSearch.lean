import PartSearch.Main
import PartSearch.Quantity.Display
import PartSearch.Proofs.LetterCase
import PartSearch.Proofs.LikeScan
import PartSearch.Proofs.LikeMatching
import PartSearch.Proofs.PageFilling
import PartSearch.Proofs.AttributeNames
import PartSearch.Proofs.AttributePatterns
import PartSearch.Proofs.ClauseAndCheck
import PartSearch.Proofs.FilterGrouping
import PartSearch.Proofs.GroupUnion
import PartSearch.Proofs.VerdictRecord
import PartSearch.Proofs.PatternReading
import PartSearch.Proofs.VisibleText
import PartSearch.Proofs.SpanCutting
import PartSearch.Proofs.ValueSpans
import PartSearch.Proofs.StageProgress
import PartSearch.Proofs.ConnectorFilters
import PartSearch.Proofs.NumberText
import PartSearch.Proofs.Paging
import PartSearch.Proofs.RowOrder
import PartSearch.Proofs.PatternChoice
import PartSearch.Proofs.UnitReading
import PartSearch.Proofs.ValueSpelling
import PartSearch.Proofs.TierTotals
import PartSearch.Proofs.ColumnComparison
import PartSearch.Proofs.SqlParameters
import PartSearch.Proofs.BlobReading
import PartSearch.Proofs.AlikeRows
import PartSearch.Proofs.CorruptBlobs
import PartSearch.Proofs.GivenConditions
import PartSearch.Proofs.NoFeeFirst
import PartSearch.Proofs.NarrowedSearches
import PartSearch.Proofs.GreedySelection
import PartSearch.Proofs.VerdictConditions
import PartSearch.Proofs.TextClauses
import PartSearch.Proofs.ListedValues
import PartSearch.Proofs.GroupedFilters
import PartSearch.Proofs.CompiledGroups
import PartSearch.Proofs.RowChecks
import PartSearch.Proofs.TrimmedText
import PartSearch.Proofs.QuotedPhrases
import PartSearch.Proofs.RefusedRequests
import PartSearch.Proofs.FilterExpressions
import PartSearch.Proofs.Backtracking
import PartSearch.Proofs.ExpressionPattern
import PartSearch.Proofs.NameResolution
import PartSearch.Proofs.StandingPhrases
import PartSearch.Proofs.PhraseTables
import PartSearch.Proofs.KeywordChoice
import PartSearch.Proofs.CutTraces
import PartSearch.Proofs.CutSteps
import PartSearch.Proofs.DescriptorTraces
import PartSearch.Proofs.WordOccurrences
import PartSearch.Proofs.SpelledNames
import PartSearch.Proofs.DesignatorAnatomy
import PartSearch.Proofs.PackageLookalikes
import PartSearch.Proofs.InlineResistances
import PartSearch.Proofs.UnsignedReadings
import PartSearch.Proofs.TwinParts
import PartSearch.Proofs.StandaloneNumbers
import PartSearch.Proofs.SeparatedTexts
import PartSearch.Proofs.ColumnReadings
import PartSearch.Proofs.LayeredFilters
import PartSearch.Proofs.FiniteReadings
import PartSearch.Proofs.ResidueWords
import PartSearch.Proofs.Surroundings
import PartSearch.Proofs.CanonicalPackages
import PartSearch.Proofs.FamilyLetters
import PartSearch.Proofs.FamilySearch
import PartSearch.Proofs.HyphenatedPackages
import PartSearch.Proofs.BoundedHeaps
import PartSearch.Proofs.EscapedText
import PartSearch.Proofs.BoundIntegers
import PartSearch.Proofs.ByteRanges
