import Ninlil.AckIntent.Runs
import Ninlil.Airtime.Exact
import Ninlil.Control.Activation
import Ninlil.Control.Codecs
import Ninlil.Control.Deadlines
import Ninlil.Control.Joint
import Ninlil.Control.Queues
import Ninlil.Control.Rebind
import Ninlil.Control.Sequence
import Ninlil.Desired.Reducers
import Ninlil.EspStorage.PowerCut
import Ninlil.Fabric.Foundation
import Ninlil.Fabric.PrivateRecords
import Ninlil.Fabric.Reordered
import Ninlil.Fabric.SchemaCodec
import Ninlil.FragSession.Replays
import Ninlil.Mfdt.ActiveRecord
import Ninlil.Mfdt.LabCommit
import Ninlil.Mfdt.Sha256
import Ninlil.N6.RecordRoundTrip
import Ninlil.Permit.ClockFence
import Ninlil.R7Frag.CommitUnknown
import Ninlil.R7Frag.RestartRuns
import Ninlil.R7Frag.RxCounters
import Ninlil.R7Frag.Tombstones
import Ninlil.R7Frag.TxCounters
import Ninlil.Resource.AllOrNothing
import Ninlil.RouteRelay.SlotImage
import Ninlil.RuntimeStore.Canonical
import Ninlil.RuntimeStore.CanonicalApply
import Ninlil.RuntimeStore.Rotation
import Ninlil.Scheduler.Candidate
import Ninlil.Submission.CanonicalFit
import Ninlil.Submission.Idempotency
import Ninlil.Submission.Limits
import Ninlil.Wifi.ArenaRuns
import Ninlil.Wifi.Nwb1Exact
import Ninlil.Wifi.RecordQueue
import Ninlil.Wifi.Stream
