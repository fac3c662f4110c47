import RecordQuery.Condition.Family
import RecordQuery.Main
import RecordQuery.Query.Operation
import RecordQuery.Proofs.Expr.Eval
import RecordQuery.Proofs.Query.Filter
import RecordQuery.Proofs.Query.Clone
import RecordQuery.Proofs.Query.Build
import RecordQuery.Proofs.Translation.Shape
import RecordQuery.Proofs.Translation.Meaning
import RecordQuery.Proofs.Translation.Faults
import RecordQuery.Proofs.Query.Built
import RecordQuery.Proofs.Query.Reachable
import RecordQuery.Proofs.Query.Flags
import RecordQuery.Proofs.Query.FixedValues
import RecordQuery.Proofs.Lambda.Lexemes
import RecordQuery.Proofs.Lambda.TokenForms
import RecordQuery.Proofs.Lambda.Spans
import RecordQuery.Proofs.Lambda.Derives
import RecordQuery.Proofs.Lambda.Grammar
import RecordQuery.Proofs.Lambda.Soundness
import RecordQuery.Proofs.Lambda.Completeness
import RecordQuery.Proofs.Lambda.RoundTrip
import RecordQuery.Proofs.Query.WellFormed
import RecordQuery.Proofs.Query.Bookkeeping
import RecordQuery.Proofs.Query.Steps
import RecordQuery.Proofs.Query.Failure
import RecordQuery.Proofs.Query.Erasure
import RecordQuery.Proofs.Fields
import RecordQuery.Proofs.Manager.GlobalConditions
import RecordQuery.Proofs.Shell.Turn
import RecordQuery.Proofs.Shell.Session
import RecordQuery.Proofs.Lambda.Blame
import RecordQuery.Proofs.Lambda.Bindings
import RecordQuery.Proofs.Value.Sorting
import RecordQuery.Proofs.Value.Equality
import RecordQuery.Proofs.Translation.Methods
import RecordQuery.Proofs.Translation.NullOperands
import RecordQuery.Proofs.StableSort
import RecordQuery.Proofs.Query.Sorting
import RecordQuery.Proofs.Query.Single
import RecordQuery.Proofs.Query.Groups
import RecordQuery.Proofs.Query.Nested
import RecordQuery.Proofs.Expr.Conversions
import RecordQuery.Proofs.Translation.Membership
import RecordQuery.Proofs.Translation.Sides
import RecordQuery.Proofs.Translation.Outline
import RecordQuery.Proofs.Query.Joins
import RecordQuery.Proofs.Query.Identity
import RecordQuery.Proofs.Expr.Arithmetic
import RecordQuery.Proofs.Lambda.IntLiterals
import RecordQuery.Proofs.Value.Json
import RecordQuery.Proofs.Condition.Copies
import RecordQuery.Proofs.Query.DeepClone
import RecordQuery.Proofs.Lambda.Progress
