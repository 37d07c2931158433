import RecordQuery.Dataset.Related
import RecordQuery.Dataset.Union
import RecordQuery.Lookup.Predicate
import RecordQuery.Proofs.FanOut
import RecordQuery.Proofs.Built
import RecordQuery.Proofs.Truncation
import RecordQuery.Proofs.ExactOrder
import RecordQuery.Proofs.WellFormed
import RecordQuery.Proofs.Rereading
import RecordQuery.Proofs.Spelling
import RecordQuery.Proofs.Addressing
import RecordQuery.Proofs.Projection
import RecordQuery.Proofs.Registration
import RecordQuery.Proofs.KeyGrammar
import RecordQuery.Proofs.Conjunction
import RecordQuery.Proofs.LowerCase
import RecordQuery.Proofs.Meaning
import RecordQuery.Proofs.Indistinguishable
import RecordQuery.Proofs.Repeats
import RecordQuery.Proofs.OrderedUnion
import RecordQuery.Proofs.Stability
import RecordQuery.Proofs.RecordGrammar
import RecordQuery.Proofs.Lossless
import RecordQuery.Proofs.ScalarOrder
import RecordQuery.Proofs.RangeQueries
import RecordQuery.Proofs.LastRegistration
import RecordQuery.Proofs.Reloading
import RecordQuery.Proofs.OneOf
import RecordQuery.Proofs.ReadNames
import RecordQuery.Proofs.StringOperands
import RecordQuery.Proofs.RelatedQueries
import RecordQuery.Proofs.Exclusion
import RecordQuery.Proofs.AcceptedShapes
import RecordQuery.Proofs.Tails
import RecordQuery.Proofs.DepthFirst
import RecordQuery.Proofs.FirstField
import RecordQuery.Proofs.RegisteredNames
