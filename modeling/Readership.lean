import Readership.Main
import Readership.Proofs.Agreement
import Readership.Proofs.Answers
import Readership.Proofs.Appending
import Readership.Proofs.Authors
import Readership.Proofs.Baselines
import Readership.Proofs.CivilDays
import Readership.Proofs.Coarsening
import Readership.Proofs.Conjunctions
import Readership.Proofs.FilterMeaning
import Readership.Proofs.FilterTyping
import Readership.Proofs.FirstViolation
import Readership.Proofs.Flooring
import Readership.Proofs.GroupedCounts
import Readership.Proofs.InstantText
import Readership.Proofs.KeyPaths
import Readership.Proofs.Leaves
import Readership.Proofs.LiteralSearch
import Readership.Proofs.Membership
import Readership.Proofs.NamedColumns
import Readership.Proofs.Narrowing
import Readership.Proofs.Negation
import Readership.Proofs.NormalPredicates
import Readership.Proofs.NullTests
import Readership.Proofs.ParameterBlanks
import Readership.Proofs.Parameters
import Readership.Proofs.Parts
import Readership.Proofs.PathResolution
import Readership.Proofs.PathSeparators
import Readership.Proofs.PeriodFaults
import Readership.Proofs.PeriodFilter
import Readership.Proofs.PeriodLabels
import Readership.Proofs.PeriodStarts
import Readership.Proofs.PrecedingPeriods
import Readership.Proofs.RangeEdge
import Readership.Proofs.Relations
import Readership.Proofs.RequestFaults
import Readership.Proofs.Rewriting
import Readership.Proofs.Series
import Readership.Proofs.StorageOrder
import Readership.Proofs.TimeConditions
import Readership.Proofs.Top
import Readership.Proofs.Validation
import Readership.Proofs.WellTyped
import Readership.Proofs.WindowFilter
import Readership.Proofs.Windows
