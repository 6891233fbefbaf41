import ReliableDatagram.Wire.Checksum
import ReliableDatagram.Wire.Header
import ReliableDatagram.Wire.Word
/-!
# Encoding a segment

A header and its payload are written as the header's bytes followed by the payload. The
header's bytes are its `layout`: the common part with every field as stored, then the
kind-specific part. Encoding first checks the payload against the header, then computes the
header length, then the checksum over the segment with a zero checksum field, and returns the
header with both fields filled in together with the segment, which is that header's layout
followed by the payload.

The checks, in order: the payload fits a 16-bit length; SYN, RST and NUL carry no payload; the
announced payload length is the actual one; the header fits in 255 bytes.
-/

namespace ReliableDatagram

/-- Why a header and payload cannot be encoded. -/
inductive BuildError where
  /-- The payload is longer than a 16-bit length can announce. -/
  | overlongPayload
  /-- The header announces `declared` payload bytes but `actual` were given. -/
  | lengthMismatch (declared actual : UInt16)
  /-- A SYN, RST or NUL was given a payload. -/
  | payloadNotAllowed
  /-- The header would be longer than 255 bytes. -/
  | overlongHeader
  deriving DecidableEq, Repr

namespace BuildError

/-- The name of the error's kind. -/
def name : BuildError → String
  | overlongPayload => "OverlyLongPayload"
  | lengthMismatch .. => "PayloadLengthMismatch"
  | payloadNotAllowed => "PayloadNotAllowed"
  | overlongHeader => "OverlyLongHeader"

/-- The sentence that explains the error. -/
def message : BuildError → String
  | overlongPayload => "The payload is longer than can fit into a single segment"
  | lengthMismatch declared actual =>
    "The header declares " ++ toString declared.toNat ++ " payload bytes but " ++
      toString actual.toNat ++ " were given"
  | payloadNotAllowed => "SYN, RST and NUL segments cannot carry a payload"
  | overlongHeader => "The header does not fit in 255 bytes"

end BuildError

namespace Config

/-- The ten bytes of a configuration inside a SYN. -/
def bytes (c : Config) : Bytes :=
  Word.ofUInt16 c.options ++ Word.ofUInt16 c.retransmissionTimeout ++
    Word.ofUInt16 c.nullSegmentTimeout ++ Word.ofUInt16 c.maxSegmentSize ++
    [c.maxRetransmissions, c.maxOutstanding]

end Config

namespace Common

/-- The twelve bytes of the common part, every field as stored. -/
def bytes (c : Common) : Bytes :=
  [c.flags.bits, c.version, c.reserved, c.headerLength] ++ Word.ofUInt16 c.seq ++
    Word.ofUInt16 c.ack ++ Word.ofUInt32 c.checksum

end Common

namespace Header

/-- The kind-specific bytes after the common part. -/
def extension : Header → Bytes
  | syn _ config => config.bytes
  | rst _ | nul _ => []
  | ack _ n => Word.ofUInt16 n
  | eack _ n acks => Word.ofUInt16 n ++ Word.ofWords acks

/-- The bytes of a header, every field as stored. -/
def layout (h : Header) : Bytes :=
  h.common.bytes ++ h.extension

/-- The payload checks, in order: length, permission, agreement with the header. -/
def checkPayload (h : Header) (payload : Bytes) : Except BuildError Unit :=
  if payload.length > 65535 then .error .overlongPayload
  else if !h.common.flags.carriesLength && payload.length > 0 then .error .payloadNotAllowed
  else if h.payloadLength ≠ payload.length.toUInt16 then
    .error (.lengthMismatch h.payloadLength payload.length.toUInt16)
  else .ok ()

/-- Encodes a header and payload: the header with its length and checksum filled in, and the
segment, which is that header's layout followed by the payload. -/
def encode (h : Header) (payload : Bytes) : Except BuildError (Header × Bytes) := do
  h.checkPayload payload
  let length := commonHeaderLength + h.extension.length
  if length > 255 then throw .overlongHeader
  let c := h.common
  let unsummed := h.setCommon { c with headerLength := length.toUInt8, checksum := 0 }
  let sum := Checksum.ofRegion length (c.flags.has .chk) (unsummed.layout ++ payload)
    payload.length
  let sealed := h.setCommon { c with headerLength := length.toUInt8, checksum := sum }
  pure (sealed, sealed.layout ++ payload)

/-- Encodes a header and payload after the bytes already in `out`: the number of bytes written,
the header as it went on the wire, and the buffer afterwards. When encoding fails, nothing is
written and the header is left as it was. -/
def serialize (h : Header) (payload out : Bytes) : Except BuildError Nat × Header × Bytes :=
  match h.encode payload with
  | .ok (sealed, segment) => (.ok segment.length, sealed, out ++ segment)
  | .error err => (.error err, h, out)

end Header

end ReliableDatagram
