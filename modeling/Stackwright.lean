import Stackwright.Command.Arguments
import Stackwright.Command.Run
import Stackwright.Compilation
import Stackwright.Definition.Json
import Stackwright.Document
import Stackwright.Main
import Stackwright.Proofs.Command.Compile
import Stackwright.Proofs.Command.Effect
import Stackwright.Proofs.Command.Output
import Stackwright.Proofs.Command.Reading
import Stackwright.Proofs.Command.Recompile
import Stackwright.Proofs.Command.Replacement
import Stackwright.Proofs.Command.Residue
import Stackwright.Proofs.Compilation.Additions
import Stackwright.Proofs.Compilation.Conditions
import Stackwright.Proofs.Compilation.Defaults
import Stackwright.Proofs.Compilation.Environment
import Stackwright.Proofs.Compilation.Grants
import Stackwright.Proofs.Compilation.Grounding
import Stackwright.Proofs.Compilation.Independence
import Stackwright.Proofs.Compilation.NameKinds
import Stackwright.Proofs.Compilation.ParameterNames
import Stackwright.Proofs.Compilation.Parameters
import Stackwright.Proofs.Compilation.Portable
import Stackwright.Proofs.Compilation.Precedence
import Stackwright.Proofs.Compilation.Reads
import Stackwright.Proofs.Compilation.Reordering
import Stackwright.Proofs.Compilation.Sections
import Stackwright.Proofs.Compilation.Skeleton
import Stackwright.Proofs.Compilation.Warnings
import Stackwright.Proofs.Datum.Mirror
import Stackwright.Proofs.Definition.Numbers
import Stackwright.Proofs.Definition.RoundTrip
import Stackwright.Proofs.Dependency.Grouping
import Stackwright.Proofs.Deployment.Evaluation
import Stackwright.Proofs.Deployment.Meaning
import Stackwright.Proofs.Expr.Calls
import Stackwright.Proofs.Expr.Composition
import Stackwright.Proofs.Expr.Format
import Stackwright.Proofs.Expr.Placeholders
import Stackwright.Proofs.Expr.Reads
import Stackwright.Proofs.FileTree.Operations
import Stackwright.Proofs.FileTree.Paths
import Stackwright.Proofs.Fragment.OwnReads
import Stackwright.Proofs.Fragment.Reads
import Stackwright.Proofs.Json.Compact
import Stackwright.Proofs.Json.Lexing
import Stackwright.Proofs.Json.TextRoundTrip
import Stackwright.Proofs.Json.Words
import Stackwright.Proofs.Template.Grounded
import Stackwright.Proofs.Template.Resolution
import Stackwright.Proofs.Template.RoundTrip
import Stackwright.Proofs.Template.Text
import Stackwright.Proofs.Template.Uses
import Stackwright.Proofs.Template.Verdict
import Stackwright.Proofs.Validation.EmptyNames
import Stackwright.Proofs.Validation.Grants
import Stackwright.Proofs.Validation.Outcome
import Stackwright.Template.Fingerprint
import Stackwright.Validation
