import Egress.Catalogue
import Egress.Handles
import Egress.MessageStream
import Egress.Proofs.Framing
import Egress.Proofs.LedgerLaws
import Egress.Proofs.Output
import Egress.Proofs.WriterHistory
import Egress.Settings.Reader
import Egress.WaitingRoom
import Egress.Watch
import Egress.Writer
import Egress.Proofs.Logged
import Egress.Proofs.WriterSteps
import Egress.Proofs.WireLaw
import Egress.Proofs.WriterRest
import Egress.Proofs.OwnTicket
import Egress.Proofs.LawfulCarrier
import Egress.Proofs.Completion
import Egress.Proofs.AnsweredOnce
import Egress.Proofs.Traffic
import Egress.Proofs.StreamedMessage
import Egress.Proofs.MessageBegun
import Egress.Proofs.WriterEnding
import Egress.Proofs.TakenContent
import Egress.Proofs.FailedEnding
import Egress.Proofs.TextOnWire
import Egress.Proofs.WireReading
import Egress.Proofs.AfterFailure
import Egress.Proofs.InTurn
import Egress.Proofs.OrderlyCarrier
import Egress.Proofs.FirstFailure
import Egress.Proofs.WaitingFrames
import Egress.Proofs.OwnMode
import Egress.Proofs.ModeChanges
import Egress.Proofs.DeadWriter
import Egress.Proofs.BatchAtRest
import Egress.Proofs.MessageReleased
import Egress.Proofs.CompletedMessages
import Egress.Proofs.PendingCount
import Egress.Proofs.ChunkedMessage
import Egress.Proofs.CallbackFamilies
import Egress.Proofs.CharacterBridge
import Egress.Proofs.WrittenValues
import Egress.Proofs.FedStreams
import Egress.Proofs.ObjectShapes
import Egress.Proofs.UnbrokenMessage
import Egress.Proofs.WrittenBatch
import Egress.Proofs.AwaitedFlushes
import Egress.Proofs.ControlFrames
import Egress.Proofs.ClosingFrames
import Egress.Proofs.Registrations
import Egress.Proofs.BufferLoans
import Egress.Proofs.PooledStreams
import Egress.Proofs.BufferReuse
import Egress.Proofs.ScannedText
import Egress.Proofs.SettingsRoundTrip
import Egress.Proofs.RemainingSlices
import Egress.Proofs.RoomInBuffer
import Egress.Proofs.CarrierInvariants
import Egress.Proofs.IdleTime
