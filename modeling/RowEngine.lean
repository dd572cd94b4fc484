import RowEngine.Function.Builtin
import RowEngine.Json.Codec
import RowEngine.Plan
import RowEngine.Proofs.Binary64.Value
import RowEngine.Proofs.Date.Text
import RowEngine.Proofs.Emission
import RowEngine.Proofs.Expr.Build
import RowEngine.Proofs.Expr.Calls
import RowEngine.Proofs.Expr.Conjuncts
import RowEngine.Proofs.Expr.Dependence
import RowEngine.Proofs.Expr.Exact
import RowEngine.Proofs.Expr.Failing
import RowEngine.Proofs.Expr.Flattening
import RowEngine.Proofs.Expr.Inside
import RowEngine.Proofs.Expr.Like
import RowEngine.Proofs.Expr.Predicates
import RowEngine.Proofs.Expr.References
import RowEngine.Proofs.Expr.Refolding
import RowEngine.Proofs.Expr.Refusing
import RowEngine.Proofs.Expr.Results
import RowEngine.Proofs.Expr.Typing
import RowEngine.Proofs.Failing
import RowEngine.Proofs.Frame
import RowEngine.Proofs.Function.Builtin
import RowEngine.Proofs.Function.Resolution
import RowEngine.Proofs.Join.Answer
import RowEngine.Proofs.Join.Condition
import RowEngine.Proofs.Join.Emission
import RowEngine.Proofs.Join.Failing
import RowEngine.Proofs.Join.Hashing
import RowEngine.Proofs.Join.Inside
import RowEngine.Proofs.Join.Loading
import RowEngine.Proofs.Join.NestedLoop
import RowEngine.Proofs.Join.Padding
import RowEngine.Proofs.Join.Partition
import RowEngine.Proofs.Join.Passes
import RowEngine.Proofs.Join.Permuting
import RowEngine.Proofs.Join.Planning
import RowEngine.Proofs.Join.Probing
import RowEngine.Proofs.Join.Resources
import RowEngine.Proofs.Join.Restart
import RowEngine.Proofs.Join.Retry
import RowEngine.Proofs.Join.Stopping
import RowEngine.Proofs.Join.Stream
import RowEngine.Proofs.Join.Table
import RowEngine.Proofs.Like.Language
import RowEngine.Proofs.Operator.Composition
import RowEngine.Proofs.Operator.Failing
import RowEngine.Proofs.Operator.Keeping
import RowEngine.Proofs.Operator.Replay
import RowEngine.Proofs.Operator.Retry
import RowEngine.Proofs.Operator.Sorting
import RowEngine.Proofs.Operator.Stability
import RowEngine.Proofs.Operator.Stack
import RowEngine.Proofs.Operator.Streaming
import RowEngine.Proofs.Plan
import RowEngine.Proofs.Plan.Closing
import RowEngine.Proofs.Plan.Conforming
import RowEngine.Proofs.Plan.Construction
import RowEngine.Proofs.Plan.Failing
import RowEngine.Proofs.Plan.Monitoring
import RowEngine.Proofs.Plan.Nullability
import RowEngine.Proofs.Plan.Soundness
import RowEngine.Proofs.Plan.Statistics
import RowEngine.Proofs.Projection
import RowEngine.Proofs.Regex.Plain
import RowEngine.Proofs.Row.Order
import RowEngine.Proofs.Value.Cast
import RowEngine.Proofs.Value.Conforming
import RowEngine.Proofs.Value.Equality
import RowEngine.Proofs.Value.Preorder
import RowEngine.Proofs.Value.Text
import RowEngine.Proofs.Value.Typing
import RowEngine.Regex.Plain
import RowEngine.Settings.File
