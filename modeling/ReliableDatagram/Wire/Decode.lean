import ReliableDatagram.Wire.Encode
/-!
# Decoding a segment

Decoding reads the 12-byte common part and then checks, in this order, stopping at the first
failure:

1. the common part is complete;
2. the protocol version is one;
3. the description is valid;
4. the lengths agree: an acknowledgment has a payload length field, a header of at least 14
   bytes, a header and payload that together fill the datagram exactly, and CHK whenever the
   payload is nonempty; a SYN, RST or NUL has exactly its fixed header length, which is also
   the datagram's length;
5. the checksum residue over the header (and the payload under CHK) is zero;
6. an extended acknowledgment lists whole 16-bit numbers, and a plain acknowledgment lists
   none.

The kind of the segment is the first of SYN, RST, NUL, EACK that is set, and a plain
acknowledgment otherwise.
-/

namespace ReliableDatagram

/-- Why a datagram is not a segment. -/
inductive ParseError where
  /-- The datagram is truncated or its lengths disagree. -/
  | invalid
  /-- The datagram speaks another protocol version (carried). -/
  | versionMismatch (actual : UInt8)
  /-- The checksum leaves a nonzero residue (carried). -/
  | checksumMismatch (residue : UInt32)
  deriving DecidableEq, Repr

namespace ParseError

/-- The name of the error's kind. -/
def name : ParseError → String
  | invalid => "PacketInvalid"
  | versionMismatch _ => "ProtocolVersionMismatch"
  | checksumMismatch _ => "ChecksumMismatch"

/-- The sentence that explains the error; bytes are shown as `0x` and two hex digits, the
residue as `0x` and eight. -/
def message : ParseError → String
  | invalid => "The segment is truncated or its lengths are inconsistent"
  | versionMismatch actual =>
    "Expected protocol version 0x" ++ Word.hexDigits protocolVersion.toNat 2 ++
      " but the segment carries 0x" ++ Word.hexDigits actual.toNat 2
  | checksumMismatch residue =>
    "The checksum did not verify, leaving residue 0x" ++ Word.hexDigits residue.toNat 8

end ParseError

/-- A decoded segment: its header and the payload after it. -/
structure Segment where
  /-- The header as read. -/
  header : Header
  /-- The bytes after the header. -/
  payload : Bytes
  deriving DecidableEq, Repr

namespace Config

/-- Reads the ten configuration bytes of a SYN. -/
def read : Bytes → Option Config
  | o0 :: o1 :: r0 :: r1 :: n0 :: n1 :: m0 :: m1 :: retries :: window :: _ =>
    some { options := Word.toUInt16 o0 o1, retransmissionTimeout := Word.toUInt16 r0 r1,
           nullSegmentTimeout := Word.toUInt16 n0 n1, maxSegmentSize := Word.toUInt16 m0 m1,
           maxRetransmissions := retries, maxOutstanding := window }
  | _ => none

end Config

namespace Segment

/-- The fixed header length of a SYN, RST or NUL description. -/
def fixedLength (flags : Flags) : Nat :=
  if flags.has .syn then 22 else 12

/-- Step 4: the payload length a header announces, if the lengths agree. `rest` is what
follows the common part. -/
def checkLengths (flags : Flags) (headerLength : UInt8) (total : Nat) (rest : Bytes) :
    Except ParseError Nat :=
  if flags.carriesLength then
    match Word.read16 rest with
    | none => .error .invalid
    | some (n, _) =>
      if headerLength.toNat < ackHeaderLength || headerLength.toNat + n.toNat ≠ total ||
          (n.toNat > 0 && !flags.has .chk) then .error .invalid
      else .ok n.toNat
  else if headerLength.toNat ≠ fixedLength flags || total ≠ headerLength.toNat then
    .error .invalid
  else .ok 0

/-- Step 6: the header of the given kind, reading what lies between the common part and the
payload. -/
def readHeader (common : Common) (payloadLength : Nat) (bytes rest : Bytes) :
    Except ParseError Header :=
  let flags := common.flags
  if flags.has .syn then
    match Config.read rest with
    | some config => .ok (.syn common config)
    | none => .error .invalid
  else if flags.has .rst then .ok (.rst common)
  else if flags.has .nul then .ok (.nul common)
  else
    let region := (bytes.take common.headerLength.toNat).drop ackHeaderLength
    if flags.has .eack then
      match Word.readWords region with
      | some acks => .ok (.eack common payloadLength.toUInt16 acks)
      | none => .error .invalid
    else if region.isEmpty then .ok (.ack common payloadLength.toUInt16)
    else .error .invalid

/-- Decodes a datagram into a segment, or says why it is not one. -/
def parse (bytes : Bytes) : Except ParseError Segment :=
  match bytes with
  | d :: v :: r :: len :: s0 :: s1 :: a0 :: a1 :: c0 :: c1 :: c2 :: c3 :: rest =>
    let flags : Flags := ⟨d⟩
    if v ≠ protocolVersion then .error (.versionMismatch v)
    else if !flags.valid then .error .invalid
    else do
      let payloadLength ← checkLengths flags len bytes.length rest
      let residue := Checksum.ofRegion len.toNat (flags.has .chk) bytes payloadLength
      if residue ≠ 0 then throw (.checksumMismatch residue)
      let common : Common :=
        { flags, version := v, reserved := r, headerLength := len, seq := Word.toUInt16 s0 s1,
          ack := Word.toUInt16 a0 a1, checksum := Word.toUInt32 c0 c1 c2 c3 }
      let header ← readHeader common payloadLength bytes rest
      pure ⟨header, bytes.drop len.toNat⟩
  | _ => .error .invalid

/-- The handler a datagram is handed to, with what that handler receives: the common part of
the header, the configuration of a SYN, the numbers listed by an extended acknowledgment and the
payload of an acknowledgment; or why the datagram is no segment. -/
inductive Delivery where
  | syn (common : Common) (config : Config)
  | rst (common : Common)
  | nul (common : Common)
  | eack (common : Common) (acks : List UInt16) (payload : Bytes)
  | regular (common : Common) (payload : Bytes)
  | invalid (error : ParseError)
  deriving DecidableEq, Repr

/-- The handler call for a decoded segment, by the kind of its header. -/
def dispatch (seg : Segment) : Delivery :=
  match seg.header with
  | .syn c config => .syn c config
  | .rst c => .rst c
  | .nul c => .nul c
  | .ack c _ => .regular c seg.payload
  | .eack c _ acks => .eack c acks seg.payload

/-- Decodes a datagram and hands the outcome to exactly one handler. -/
def deserialize (bytes : Bytes) : Delivery :=
  match parse bytes with
  | .ok seg => seg.dispatch
  | .error err => .invalid err

end Segment

end ReliableDatagram
