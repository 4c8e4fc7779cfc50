import BindPlan.Engine
import BindPlan.MySql.Protocol
import BindPlan.MySql.Query
import BindPlan.Settings.Reader
import BindPlan.Value.OfJson
import BindPlan.Proofs.Statement.Alignment
import BindPlan.Proofs.Template.Alignment
import BindPlan.Template.Cursor
import BindPlan.Proofs.Template.Stride
import BindPlan.Proofs.Template.Cursor
import BindPlan.Proofs.Template.Spans
import BindPlan.Proofs.Template.Rules
import BindPlan.Proofs.Template.Reading
import BindPlan.Proofs.Template.Opaque
import BindPlan.Proofs.Template.Bare
import BindPlan.Proofs.Template.Separation
import BindPlan.Proofs.Marker.Calls
import BindPlan.Proofs.Engine.Sharing
import BindPlan.Proofs.Statement.Filtering
import BindPlan.Proofs.Template.LateBinding
import BindPlan.Proofs.Template.Deferral
import BindPlan.Proofs.Criteria.Correspondence
import BindPlan.Proofs.Statement.Secrecy
import BindPlan.Proofs.Template.Insertion
import BindPlan.Proofs.MySql.Replay
import BindPlan.Proofs.Template.Recency
import BindPlan.Proofs.Template.EmptyRows
import BindPlan.Proofs.Template.Escaping
import BindPlan.Proofs.Statement.Refusal
import BindPlan.Proofs.Criteria.Pruning
import BindPlan.Proofs.Condition.Interleaving
import BindPlan.Proofs.Dialect.Identifier
import BindPlan.Proofs.Statement.Landmarks
import BindPlan.Proofs.Statement.Qualification
import BindPlan.Proofs.Dialect.Pagination
import BindPlan.Proofs.Statement.Pagination
import BindPlan.Proofs.Criteria.Conversion
import BindPlan.Proofs.Criteria.Portability
import BindPlan.Proofs.Statement.Ordering
import BindPlan.Proofs.Value.Conversion
import BindPlan.Proofs.Number.Binary64
import BindPlan.Proofs.Value.Lossless
import BindPlan.Proofs.Marker.Naming
import BindPlan.Proofs.Template.Overwriting
import BindPlan.Proofs.Template.Readback
import BindPlan.Proofs.Template.Rereading
import BindPlan.Proofs.Marker.Probing
