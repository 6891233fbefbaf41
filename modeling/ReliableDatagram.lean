import ReliableDatagram.Wire.Decode
import ReliableDatagram.Sequence
import ReliableDatagram.Window.SlotRing
import ReliableDatagram.Window.SegmentBuffer
import ReliableDatagram.Window.Retransmit
import ReliableDatagram.Exchange
import ReliableDatagram.Socket
import ReliableDatagram.EventLog
import ReliableDatagram.EventLog.Standard
import ReliableDatagram.Proofs.Reachable
import ReliableDatagram.Conversation
import ReliableDatagram.Proofs.Codec
import ReliableDatagram.Proofs.Talk
import ReliableDatagram.Proofs.Flow
import ReliableDatagram.Proofs.Sides
import ReliableDatagram.Proofs.Agreement
import ReliableDatagram.Proofs.Checksum
import ReliableDatagram.Proofs.RoundTrip
import ReliableDatagram.Proofs.WindowMap
import ReliableDatagram.Proofs.Shift.Windows
import ReliableDatagram.Proofs.Shift.Wire
import ReliableDatagram.Proofs.Shift.Actions
import ReliableDatagram.Proofs.Shift.Transfer
import ReliableDatagram.Proofs.Shift.Run
import ReliableDatagram.Proofs.Moves
import ReliableDatagram.Proofs.PeerSize
import ReliableDatagram.Proofs.QueueBooks
import ReliableDatagram.Proofs.WindowsSound
import ReliableDatagram.Proofs.Guards
import ReliableDatagram.Proofs.Corruption
import ReliableDatagram.Proofs.Reopen
import ReliableDatagram.Proofs.Receiver
import ReliableDatagram.Proofs.ReceivingHalf
import ReliableDatagram.Proofs.InOrder
import ReliableDatagram.Proofs.Answers
import ReliableDatagram.Proofs.SendingHalf
import ReliableDatagram.Proofs.Storms
import ReliableDatagram.Proofs.Framing
import ReliableDatagram.Proofs.Admission
import ReliableDatagram.Proofs.Cumulative
import ReliableDatagram.Proofs.Outstanding
import ReliableDatagram.Proofs.Resending
import ReliableDatagram.Proofs.Strays
import ReliableDatagram.Proofs.Retries
import ReliableDatagram.Proofs.KeepAlive
import ReliableDatagram.Proofs.SlotList
import ReliableDatagram.Proofs.LinkedSlots
import ReliableDatagram.Proofs.BufferView
import ReliableDatagram.Proofs.DeliveryLoop
import ReliableDatagram.Proofs.Unanswered
