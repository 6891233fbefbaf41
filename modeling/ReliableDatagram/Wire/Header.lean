import ReliableDatagram.Config
import ReliableDatagram.Wire.Flags
/-!
# Segment headers

Every segment starts with a 12-byte common part: description, protocol version, a reserved
byte (an RST's error code), the header length, the sequence and acknowledgment numbers and the
checksum. What follows depends on the kind of segment:

* a SYN carries the sender's configuration (10 bytes);
* an RST and a NUL carry nothing more;
* an acknowledgment carries a payload length (2 bytes);
* an extended acknowledgment carries a payload length and a list of out-of-order sequence
  numbers it has received (2 bytes each).

A header is at most 255 bytes, so an extended acknowledgment lists at most 120 numbers.

The builders fill in the protocol version, zero the header length and checksum (encoding sets
them), set ACK exactly when an acknowledgment number is given, and set CHK exactly when a
payload is announced.
-/

namespace ReliableDatagram

/-- The protocol version this engine speaks. -/
def protocolVersion : UInt8 := 1

/-- The fields every segment header starts with. -/
structure Common where
  /-- The description byte. -/
  flags : Flags := {}
  /-- The protocol version byte. -/
  version : UInt8 := protocolVersion
  /-- The reserved byte; an RST carries its error code here. -/
  reserved : UInt8 := 0
  /-- The header length, filled in by encoding. -/
  headerLength : UInt8 := 0
  /-- The sequence number. -/
  seq : UInt16 := 0
  /-- The acknowledgment number; meaningful when ACK is set. -/
  ack : UInt16 := 0
  /-- The checksum, filled in by encoding. -/
  checksum : UInt32 := 0
  deriving DecidableEq, Repr

/-- A segment header, by kind. -/
inductive Header where
  /-- Opens a connection and announces the sender's configuration. -/
  | syn (common : Common) (config : Config)
  /-- Resets a connection. -/
  | rst (common : Common)
  /-- A keep-alive probe. -/
  | nul (common : Common)
  /-- An acknowledgment, possibly with a payload. -/
  | ack (common : Common) (payloadLength : UInt16)
  /-- An acknowledgment listing out-of-order sequence numbers received. -/
  | eack (common : Common) (payloadLength : UInt16) (acks : List UInt16)
  deriving DecidableEq, Repr

/-- The kinds of segment. -/
inductive Kind where
  | syn
  | rst
  | nul
  | ack
  | eack
  deriving DecidableEq, Repr

/-- The length of the common part of every header. -/
def commonHeaderLength : Nat := 12

/-- The length of an acknowledgment header without extended acknowledgments. -/
def ackHeaderLength : Nat := 14

/-- The most sequence numbers an extended acknowledgment header can list. -/
def maxExtendedAcks : Nat := 120

namespace Kind

/-- The kind's name as rendered. -/
def label : Kind → String
  | syn => "Syn"
  | rst => "Rst"
  | nul => "Nul"
  | ack => "Ack"
  | eack => "Eack"

/-- The header length of a kind, and for an extended acknowledgment of `count` numbers, how
many of them fit. -/
def headerLength (k : Kind) (count : Nat) : Nat × Nat :=
  match k with
  | syn => (22, 0)
  | rst => (12, 0)
  | nul => (12, 0)
  | ack => (ackHeaderLength, 0)
  | eack =>
    let fit := min count maxExtendedAcks
    (ackHeaderLength + 2 * fit, fit)

end Kind

namespace Header

/-- The common part of a header. -/
def common : Header → Common
  | syn c _ | rst c | nul c | ack c _ | eack c _ _ => c

/-- The header with its common part replaced. -/
def setCommon (h : Header) (c : Common) : Header :=
  match h with
  | syn _ cfg => syn c cfg
  | rst _ => rst c
  | nul _ => nul c
  | ack _ n => ack c n
  | eack _ n acks => eack c n acks

/-- The number of payload bytes a header announces; zero for SYN, RST and NUL. -/
def payloadLength : Header → UInt16
  | ack _ n | eack _ n _ => n
  | _ => 0

/-- The kind of a header. -/
def kind : Header → Kind
  | syn .. => .syn
  | rst .. => .rst
  | nul .. => .nul
  | ack .. => .ack
  | eack .. => .eack

/-- The common part of a fresh header: the given flags, ACK exactly when an acknowledgment
number is given, version one, everything else zero. -/
def fresh (flags : Flags) (seq : UInt16) (ack : Option UInt16) : Common :=
  { flags := flags.set .ack ack.isSome, seq := seq, ack := ack.getD 0 }

/-- A SYN announcing `config`; with `ack`, it also acknowledges the peer's SYN. -/
def buildSyn (config : Config) (seq : UInt16) (ack : Option UInt16) : Header :=
  syn (fresh (Flags.ofList [.syn]) seq ack) config

/-- An RST carrying `code` in its reserved byte. -/
def buildRst (code : UInt8) (seq : UInt16) (ack : Option UInt16) : Header :=
  rst { fresh (Flags.ofList [.rst]) seq ack with reserved := code }

/-- A NUL probe, always acknowledging. -/
def buildNul (seq ack : UInt16) : Header :=
  nul (fresh (Flags.ofList [.nul]) seq (some ack))

/-- An acknowledgment announcing `payloadLength` bytes; CHK is set when that is nonzero. -/
def buildData (seq ack payloadLength : UInt16) : Header :=
  Header.ack (fresh ((Flags.ofList []).set .chk (payloadLength > 0)) seq (some ack)) payloadLength

/-- A bare acknowledgment. -/
def buildAck (seq ack : UInt16) : Header :=
  buildData seq ack 0

/-- An extended acknowledgment with a payload; only the first 120 numbers are kept. -/
def buildEackData (seq ack : UInt16) (acks : List UInt16) (payloadLength : UInt16) : Header :=
  let fit := (Kind.eack.headerLength acks.length).2
  eack (fresh ((Flags.ofList [.eack]).set .chk (payloadLength > 0)) seq (some ack))
    payloadLength (acks.take fit)

/-- A bare extended acknowledgment. -/
def buildEack (seq ack : UInt16) (acks : List UInt16) : Header :=
  buildEackData seq ack acks 0

end Header

end ReliableDatagram
