/-!
# The description byte

The first byte of every segment describes it. Bits 0 to 5 are the flags SYN, RST, NUL, ACK,
EACK and CHK; bits 6 and 7 are carried but have no meaning.

SYN, RST and NUL are exclusive: at most one of them may be set. A segment with none of them is
an acknowledgment and must carry ACK or EACK; it also carries a payload length field. CHK
extends the checksum over the payload.

The rendering lists the set flags in the order above, separated by `", "`, inside
`Description(...)`.
-/

namespace ReliableDatagram

/-- The six named bits of the description byte. -/
inductive Flag where
  | syn
  | rst
  | nul
  | ack
  | eack
  | chk
  deriving DecidableEq, Repr

namespace Flag

/-- The bit position of a flag. -/
def bit : Flag → UInt8
  | syn => 0
  | rst => 1
  | nul => 2
  | ack => 3
  | eack => 4
  | chk => 5

/-- The flag's name as rendered. -/
def label : Flag → String
  | syn => "SYN"
  | rst => "RST"
  | nul => "NUL"
  | ack => "ACK"
  | eack => "EACK"
  | chk => "CHK"

/-- All flags, in bit order. -/
def all : List Flag := [syn, rst, nul, ack, eack, chk]

end Flag

/-- A description byte. -/
structure Flags where
  /-- The byte as written on the wire. -/
  bits : UInt8 := 0
  deriving DecidableEq, Repr

namespace Flags

/-- Whether a flag is set. -/
def has (d : Flags) (f : Flag) : Bool :=
  (d.bits >>> f.bit) &&& 1 == 1

/-- The byte with one flag set or cleared and all other bits kept. -/
def set (d : Flags) (f : Flag) (on : Bool) : Flags :=
  ⟨(d.bits &&& ~~~((1 : UInt8) <<< f.bit)) ||| ((if on then 1 else 0) <<< f.bit)⟩

/-- The byte with exactly the given flags set. -/
def ofList (fs : List Flag) : Flags :=
  fs.foldl (fun d f ↦ d.set f true) {}

/-- The number of exclusive flags (SYN, RST, NUL) that are set. -/
def exclusiveCount (d : Flags) : Nat :=
  [Flag.syn, Flag.rst, Flag.nul].countP d.has

/-- A description is valid when at most one of SYN, RST, NUL is set, and, when none is, ACK
or EACK is. -/
def valid (d : Flags) : Bool :=
  match d.exclusiveCount with
  | 0 => d.has .ack || d.has .eack
  | 1 => true
  | _ => false

/-- Segments without SYN, RST and NUL carry a payload length field. -/
def carriesLength (d : Flags) : Bool :=
  !(d.has .syn || d.has .rst || d.has .nul)

/-- The set flags by name, in bit order, as `Description(SYN, ACK)`. -/
def render (d : Flags) : String :=
  "Description(" ++ ", ".intercalate ((Flag.all.filter d.has).map Flag.label) ++ ")"

end Flags

end ReliableDatagram
