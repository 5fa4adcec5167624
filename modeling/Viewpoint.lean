import Viewpoint.Main
import Viewpoint.Wire.Request
import Viewpoint.Wire.Snapshot
import Viewpoint.Wire.Stored
import Viewpoint.Proofs.Freshness
import Viewpoint.Proofs.Defaults
import Viewpoint.Proofs.Repetition
import Viewpoint.Proofs.WellFormed
import Viewpoint.Proofs.Convergence
import Viewpoint.Proofs.Accounting
import Viewpoint.Proofs.Query.Canonical
import Viewpoint.Proofs.Rejections
import Viewpoint.Proofs.Naming
import Viewpoint.Proofs.Unwinding
import Viewpoint.Proofs.Ownership
import Viewpoint.Proofs.Revisions
import Viewpoint.Proofs.Wire.RoundTrip
import Viewpoint.Proofs.Replay
import Viewpoint.Proofs.Slices
import Viewpoint.Proofs.Stages
import Viewpoint.Proofs.Clearing
import Viewpoint.Proofs.Footprint
import Viewpoint.Proofs.Latch
import Viewpoint.Proofs.Query.Pairs
import Viewpoint.Proofs.Wire.Config
import Viewpoint.Proofs.Construction
import Viewpoint.Proofs.Descent
import Viewpoint.Proofs.Labels
import Viewpoint.Proofs.Query.Ledger
