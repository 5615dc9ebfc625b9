import SddsReceiver.CivilYear
import SddsReceiver.Config.Load
import SddsReceiver.Proofs.NewYear
import SddsReceiver.Proofs.NumberJumps
import SddsReceiver.Proofs.Pipeline.EndMark
import SddsReceiver.Proofs.Pipeline.Mirror
import SddsReceiver.Proofs.Pipeline.Restart
import SddsReceiver.Proofs.PoolHistory
import SddsReceiver.Proofs.Push.Segmentation
import SddsReceiver.Proofs.Receiver.BatchLength
import SddsReceiver.Proofs.Receiver.Conservation
import SddsReceiver.Proofs.SampleBytes
import SddsReceiver.Proofs.Session.Atomicity
import SddsReceiver.Proofs.Session.Isolation
import SddsReceiver.Proofs.Session.ReportedOrder
import SddsReceiver.Proofs.Session.Staleness
import SddsReceiver.Proofs.Signal.CleanStream
import SddsReceiver.Proofs.SocketTable
import SddsReceiver.Proofs.SpacingLatch
import SddsReceiver.Proofs.StreamCut
import SddsReceiver.Proofs.TimeTagNumbers
import SddsReceiver.Receiver.Timetable
import SddsReceiver.Session.Traffic
import SddsReceiver.Sri.Load
