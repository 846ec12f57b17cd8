import SteelInspection.Tasks.Settled
import SteelInspection.Tasks.Attempts
import SteelInspection.Tasks.Capacity
import SteelInspection.Tasks.Idempotence
import SteelInspection.Tasks.Chains
import SteelInspection.Tasks.Unblocking
import SteelInspection.Tasks.Propagation
import SteelInspection.Calibration.Reconciliation
import SteelInspection.Calibration.AtMostOnce
import SteelInspection.Trigger.Replay
import SteelInspection.Trigger.Drain
import SteelInspection.Images.Current
import SteelInspection.Repair.Cleanup
import SteelInspection.Capture.Bars
import SteelInspection.Capture.Segments
import SteelInspection.Capture.Regions
import SteelInspection.Storage.Blocks
import SteelInspection.Storage.Quiescence
import SteelInspection.Locks.Recovery
import SteelInspection.Modes.Isolation
import SteelInspection.Modes.Starting
import SteelInspection.Modes.Recovery
import SteelInspection.Modes.Refusals
import SteelInspection.Tiles.Coverage
import SteelInspection.Production.ImageBatches
import SteelInspection.Production.Closing
import SteelInspection.Production.Provenance
import SteelInspection.Alarms.Acknowledgement
import SteelInspection.Artifacts.Removal
import SteelInspection.Repair.Segments
import SteelInspection.Service.Requests
import SteelInspection.Service.Query
import SteelInspection.Service.BoundedTail
import SteelInspection.Algorithm.RequestFields
