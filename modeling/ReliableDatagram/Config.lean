/-!
# Connection configuration

Each side of a connection has a configuration: the parameters it announces in its SYN and by
which its peer must abide. The timeouts are whole milliseconds.

A configuration is usable when it allows at least one outstanding segment, its segment size
can hold a SYN segment (22 bytes), and its retransmission timeout is nonzero. The checks run in
that order and the first that fails names the error.
-/

namespace ReliableDatagram

/-- The parameters one side of a connection announces and enforces. -/
structure Config where
  /-- Option bits, carried but not interpreted. -/
  options : UInt16 := 0
  /-- Milliseconds before an unacknowledged segment or SYN is sent again. -/
  retransmissionTimeout : UInt16 := 600
  /-- Milliseconds of silence after which an active opener sends a NUL; zero disables it. -/
  nullSegmentTimeout : UInt16 := 2000
  /-- The largest datagram this side accepts. -/
  maxSegmentSize : UInt16 := 1400
  /-- How often a segment or SYN is sent again before giving up. -/
  maxRetransmissions : UInt8 := 5
  /-- How many segments this side holds unacknowledged or out of order. -/
  maxOutstanding : UInt8 := 32
  deriving DecidableEq, Repr

/-- Why a configuration cannot be used. -/
inductive ConfigError where
  /-- No segment could ever be outstanding. -/
  | zeroWindow
  /-- The segment size (carried) is below the size of a SYN segment. -/
  | segmentSizeTooSmall (size : UInt16)
  /-- Retransmissions would never wait. -/
  | zeroRetransmissionTimeout
  deriving DecidableEq, Repr

namespace ConfigError

/-- The name of the error's kind. -/
def name : ConfigError → String
  | zeroWindow => "ZeroWindow"
  | segmentSizeTooSmall _ => "SegmentSizeTooSmall"
  | zeroRetransmissionTimeout => "ZeroRetransmissionTimeout"

/-- The sentence that explains the error. -/
def message : ConfigError → String
  | zeroWindow => "The maximum number of outstanding segments must be at least one"
  | segmentSizeTooSmall size =>
    "A maximum segment size of " ++ toString size.toNat ++ " bytes cannot hold a SYN segment"
  | zeroRetransmissionTimeout => "The retransmission timeout must be nonzero"

end ConfigError

namespace Config

/-- The length of a SYN segment, the smallest usable segment size. -/
def minSegmentSize : UInt16 := 22

/-- Checks a configuration: a nonzero window first, then the segment size, then the
retransmission timeout. -/
def validate (c : Config) : Except ConfigError Unit :=
  if c.maxOutstanding = 0 then .error .zeroWindow
  else if c.maxSegmentSize < minSegmentSize then .error (.segmentSizeTooSmall c.maxSegmentSize)
  else if c.retransmissionTimeout = 0 then .error .zeroRetransmissionTimeout
  else .ok ()

/-- Whether `validate` accepts the configuration. -/
def isValid (c : Config) : Bool :=
  match c.validate with
  | .ok _ => true
  | .error _ => false

/-- The fields a configuration can be updated by. -/
inductive Field where
  | options
  | retransmissionTimeout
  | nullSegmentTimeout
  | maxSegmentSize
  | maxRetransmissions
  | maxOutstanding
  deriving DecidableEq, Repr

/-- The largest value a field holds: the 16-bit fields and the 8-bit counts. -/
def Field.bound : Field → Nat
  | .maxRetransmissions | .maxOutstanding => 255
  | _ => 65535

/-- The configuration with one field replaced. -/
def update (c : Config) : Field → Nat → Config
  | .options, v => { c with options := v.toUInt16 }
  | .retransmissionTimeout, v => { c with retransmissionTimeout := v.toUInt16 }
  | .nullSegmentTimeout, v => { c with nullSegmentTimeout := v.toUInt16 }
  | .maxSegmentSize, v => { c with maxSegmentSize := v.toUInt16 }
  | .maxRetransmissions, v => { c with maxRetransmissions := v.toUInt8 }
  | .maxOutstanding, v => { c with maxOutstanding := v.toUInt8 }

/-- The retransmission timeout in milliseconds. -/
def retransmissionDelay (c : Config) : Nat :=
  c.retransmissionTimeout.toNat

/-- The idle period after which an active opener sends a NUL, in milliseconds. -/
def nullSegmentDelay (c : Config) : Nat :=
  c.nullSegmentTimeout.toNat

end Config

end ReliableDatagram
