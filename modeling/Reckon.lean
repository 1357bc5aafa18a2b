import Reckon.Main
import Reckon.Proofs.Acceptance
import Reckon.Proofs.Appearance
import Reckon.Proofs.Assignments
import Reckon.Proofs.Balance
import Reckon.Proofs.BareCalls
import Reckon.Proofs.Blame
import Reckon.Proofs.Builds
import Reckon.Proofs.CacheLimit
import Reckon.Proofs.Conversion
import Reckon.Proofs.Cut
import Reckon.Proofs.Decimal.Extent
import Reckon.Proofs.Declarations
import Reckon.Proofs.Depth
import Reckon.Proofs.EngineRun
import Reckon.Proofs.Groups
import Reckon.Proofs.Inlining
import Reckon.Proofs.Joining
import Reckon.Proofs.Juxtaposition
import Reckon.Proofs.Listing
import Reckon.Proofs.Literal
import Reckon.Proofs.Loading
import Reckon.Proofs.Lookups
import Reckon.Proofs.Meaning
import Reckon.Proofs.Precedence
import Reckon.Proofs.Recency
import Reckon.Proofs.Replay
import Reckon.Proofs.Rereading
import Reckon.Proofs.Routes
import Reckon.Proofs.Shape
import Reckon.Proofs.Snapshots
import Reckon.Proofs.Spelling
import Reckon.Proofs.StoredForms
import Reckon.Proofs.TokenLine
import Reckon.Proofs.Unbound
import Reckon.Sequence
import Reckon.Stored.Expression
import Reckon.Stored.Settings
