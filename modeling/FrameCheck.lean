import FrameCheck.Table
import FrameCheck.Text.Quoted
import FrameCheck.Number.Shortest
import FrameCheck.Frame
import FrameCheck.Schema.Reader
import FrameCheck.Typing.Expression
import FrameCheck.Typing.Join
import FrameCheck.Typing.Grouping
import FrameCheck.Typing.Subtype
import FrameCheck.Report.Verdict
import FrameCheck.Syntax.Stmt
import FrameCheck.Syntax.Scanner
import FrameCheck.Syntax.Grammar
import FrameCheck.Syntax.ExprGrammar
import FrameCheck.Syntax.StmtGrammar
import FrameCheck.Analysis.Script
import FrameCheck.Report.Diagnostic
import FrameCheck.Report.Listing
import FrameCheck.Text.Octets
import FrameCheck.Command.Check
import FrameCheck.Command.Options
import FrameCheck.Command.Run
import FrameCheck.Workload.Figures
import FrameCheck.Main
import FrameCheck.Proofs.Table
import FrameCheck.Proofs.Effects
import FrameCheck.Proofs.Parts
import FrameCheck.Proofs.Invariants
import FrameCheck.Proofs.PlainFrames
import FrameCheck.Proofs.Joins
import FrameCheck.Proofs.Termination
import FrameCheck.Proofs.Calls
import FrameCheck.Proofs.Alike
import FrameCheck.Proofs.JoinOrder
import FrameCheck.Proofs.FrameOperations
import FrameCheck.Proofs.ClearJoins
import FrameCheck.Proofs.TwoWalks
import FrameCheck.Proofs.Transparency
import FrameCheck.Proofs.SchemaGrammar
import FrameCheck.Proofs.SchemaSoundness
import FrameCheck.Proofs.SchemaCompleteness
import FrameCheck.Proofs.SchemaParsing
import FrameCheck.Proofs.Canonical
import FrameCheck.Proofs.Expressible
import FrameCheck.Proofs.RoundTrip
import FrameCheck.Proofs.Signatures
import FrameCheck.Proofs.WellFormed
import FrameCheck.Proofs.InStep
import FrameCheck.Proofs.Points
import FrameCheck.Proofs.Substitution
import FrameCheck.Proofs.Flattening
import FrameCheck.Proofs.Changes
import FrameCheck.Proofs.Hints
import FrameCheck.Proofs.Returns
import FrameCheck.Proofs.LostFrames
import FrameCheck.Proofs.JoinColumns
import FrameCheck.Proofs.MirroredJoins
import FrameCheck.Proofs.Runs
import FrameCheck.Proofs.ExitCodes
import FrameCheck.Proofs.Locations
import FrameCheck.Proofs.ArgumentChecks
import FrameCheck.Proofs.Binding
import FrameCheck.Proofs.References
import FrameCheck.Proofs.Assignments
import FrameCheck.Proofs.Correspondence
import FrameCheck.Proofs.Verdicts
import FrameCheck.Proofs.Chains
import FrameCheck.Proofs.Inlining
import FrameCheck.Proofs.GroupedColumns
import FrameCheck.Proofs.Monotonicity
import FrameCheck.Proofs.Unification
import FrameCheck.Proofs.Nullability
import FrameCheck.Proofs.FusedCalls
import FrameCheck.Proofs.TypeKeys
import FrameCheck.Proofs.ReaderSessions
import FrameCheck.Proofs.ColourMarks
import FrameCheck.Proofs.JsonGrammar
import FrameCheck.Proofs.JsonReports
