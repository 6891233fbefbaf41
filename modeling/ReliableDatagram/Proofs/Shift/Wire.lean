import ReliableDatagram.Proofs.RoundTrip
/-!
# Moving the numbers of a segment

Each side of a connection numbers its own segments from a start of its choosing, and nothing it
does may depend on where either count starts. To say so, this module moves the numbers of a
segment: `Header.shift ds da de` adds `ds` to the sequence number, `da` to the acknowledgment
and `de` to every extended acknowledgment, and leaves every other field alone.

When a side starts its own count `a` later and its peer starts `b` later, what it sends moves by
`Header.shiftOut a b`: the sequence number by `a`, the acknowledgment by `b` when it is flagged,
the extended acknowledgments by `b`. What it receives is related by `Header.MovedIn a b`, the
other way round, the acknowledgment field whether flagged or not; fields the engine never reads,
such as the checksum, are left free there. The builders commute with
`shiftOut` (`buildData_shiftOut`, ...), and moving keeps whether a header can be encoded
(`encode_shift_ok_iff`). `Datagram.Shifted a b d d'` says that `d'` encodes the header and
payload that `d` encodes, moved by `shiftOut a b`, with its checksum computed afresh.
-/

namespace ReliableDatagram

/-- Two moves of a number commute. -/
theorem Seq.add_right_comm (q k j : UInt16) : q + k + j = q + j + k := by
  rw [UInt16.add_assoc, UInt16.add_comm k j, ← UInt16.add_assoc]

/-- Moving two numbers alike keeps whether they are equal. -/
@[simp] theorem Seq.beq_add_add (q q' k : UInt16) : (q + k == q' + k) = (q == q') := by
  rw [Bool.eq_iff_iff, beq_iff_eq, beq_iff_eq, UInt16.add_left_inj]

namespace Common

/-- The common part with its sequence number moved by `ds` and its acknowledgment by `da`. -/
def shift (c : Common) (ds da : UInt16) : Common :=
  { c with seq := c.seq + ds, ack := c.ack + da }

@[simp] theorem flags_shift (c : Common) (ds da : UInt16) : (c.shift ds da).flags = c.flags :=
  rfl

@[simp] theorem ack_shift (c : Common) (ds da : UInt16) : (c.shift ds da).ack = c.ack + da :=
  rfl

theorem shift_shift (c : Common) (ds da ds' da' : UInt16) :
    (c.shift ds da).shift ds' da' = c.shift (ds + ds') (da + da') := by
  simp only [shift, UInt16.add_assoc]

@[simp] theorem shift_zero (c : Common) : c.shift 0 0 = c := by
  simp only [shift, UInt16.add_zero]

/-- `c'` is the common part `c` with its sequence number `ds` further on and its acknowledgment
`da` further on, and the same flags. The fields the engine never reads (version, lengths,
checksum) may differ: a segment whose numbers move has its checksum computed afresh. -/
structure Moved (ds da : UInt16) (c c' : Common) : Prop where
  flags : c'.flags = c.flags
  seq : c'.seq = c.seq + ds
  ack : c'.ack = c.ack + da

end Common

namespace Header

/-- The header with its sequence number moved by `ds`, its acknowledgment by `da` and each
extended acknowledgment by `de`. -/
def shift (h : Header) (ds da de : UInt16) : Header :=
  match h with
  | syn c config => syn (c.shift ds da) config
  | rst c => rst (c.shift ds da)
  | nul c => nul (c.shift ds da)
  | ack c n => ack (c.shift ds da) n
  | eack c n acks => eack (c.shift ds da) n (acks.map (· + de))

section Shift

variable (h : Header) (ds da de : UInt16)

@[simp] theorem common_shift : (h.shift ds da de).common = h.common.shift ds da := by
  cases h <;> rfl

@[simp] theorem kind_shift : (h.shift ds da de).kind = h.kind := by
  cases h <;> rfl

@[simp] theorem payloadLength_shift : (h.shift ds da de).payloadLength = h.payloadLength := by
  cases h <;> rfl

@[simp] theorem length_extension_shift :
    (h.shift ds da de).extension.length = h.extension.length := by
  cases h <;> simp [shift, extension]

@[simp] theorem size_shift : (h.shift ds da de).size = h.size := by
  simp only [size, length_extension_shift]

theorem checkPayload_shift (payload : Bytes) :
    (h.shift ds da de).checkPayload payload = h.checkPayload payload := by
  simp only [checkPayload, common_shift, Common.flags_shift, payloadLength_shift]

theorem shift_shift (ds' da' de' : UInt16) :
    (h.shift ds da de).shift ds' da' de' = h.shift (ds + ds') (da + da') (de + de') := by
  cases h <;>
    simp only [shift, Common.shift_shift, List.map_map, Function.comp_def, UInt16.add_assoc]

@[simp] theorem shift_zero : h.shift 0 0 0 = h := by
  cases h <;> simp [shift]

end Shift

/-- Moving the numbers keeps a header encodable: the checks look only at lengths and flags. -/
theorem encode_shift_ok {h sealed : Header} {payload bytes : Bytes}
    (he : h.encode payload = .ok (sealed, bytes)) (ds da de : UInt16) :
    ∃ sealed' bytes', (h.shift ds da de).encode payload = .ok (sealed', bytes') := by
  obtain ⟨hc, hl, -⟩ := encode_eq_ok he
  refine ⟨_, _, encode_eq_of_fits ?_ ?_⟩
  · rw [checkPayload_shift]
    exact hc
  · rw [size_shift]
    exact hl

theorem encode_shift_ok_iff (h : Header) (ds da de : UInt16) (payload : Bytes) :
    (∃ r, (h.shift ds da de).encode payload = .ok r) ↔ ∃ r, h.encode payload = .ok r := by
  constructor
  · -- Moving back by the opposite amounts gives the header again.
    rintro ⟨⟨sealed, bytes⟩, he⟩
    obtain ⟨sealed', bytes', he'⟩ := encode_shift_ok he (-ds) (-da) (-de)
    rw [shift_shift, UInt16.add_right_neg, UInt16.add_right_neg, UInt16.add_right_neg,
      shift_zero] at he'
    exact ⟨_, he'⟩
  · rintro ⟨⟨sealed, bytes⟩, he⟩
    obtain ⟨sealed', bytes', he'⟩ := encode_shift_ok he ds da de
    exact ⟨_, he'⟩

/-- A header as sent by a side whose own numbers are `a` further on and whose peer's are `b`
further on: the sequence number moves by `a`, the acknowledgment by `b` when it is flagged, the
extended acknowledgments by `b`. -/
def shiftOut (h : Header) (a b : UInt16) : Header :=
  h.shift a (if h.common.flags.has .ack then b else 0) b

/-! ### The builders move with their arguments -/

section Builders

variable (a b : UInt16)

theorem buildSyn_shiftOut (config : Config) (seq : UInt16) (ack : Option UInt16) :
    (buildSyn config seq ack).shiftOut a b = buildSyn config (seq + a) (ack.map (· + b)) := by
  cases ack with
  | none =>
    have hf : ((Flags.ofList [.syn]).set .ack false).has .ack = false := by decide
    simp only [buildSyn, shiftOut, shift, common, fresh, Common.shift, Option.isSome_none,
      Option.map_none, Option.getD_none, hf, Bool.false_eq_true, ↓reduceIte, UInt16.add_zero]
  | some n =>
    have hf : ((Flags.ofList [.syn]).set .ack true).has .ack = true := by decide
    simp only [buildSyn, shiftOut, shift, common, fresh, Common.shift, Option.isSome_some,
      Option.map_some, Option.getD_some, hf, ↓reduceIte]

theorem buildRst_shiftOut (code : UInt8) (seq : UInt16) (ack : Option UInt16) :
    (buildRst code seq ack).shiftOut a b = buildRst code (seq + a) (ack.map (· + b)) := by
  cases ack with
  | none =>
    have hf : ((Flags.ofList [.rst]).set .ack false).has .ack = false := by decide
    simp only [buildRst, shiftOut, shift, common, fresh, Common.shift, Option.isSome_none,
      Option.map_none, Option.getD_none, hf, Bool.false_eq_true, ↓reduceIte, UInt16.add_zero]
  | some n =>
    have hf : ((Flags.ofList [.rst]).set .ack true).has .ack = true := by decide
    simp only [buildRst, shiftOut, shift, common, fresh, Common.shift, Option.isSome_some,
      Option.map_some, Option.getD_some, hf, ↓reduceIte]

theorem buildNul_shiftOut (seq ack : UInt16) :
    (buildNul seq ack).shiftOut a b = buildNul (seq + a) (ack + b) := by
  have hf : ((Flags.ofList [.nul]).set .ack true).has .ack = true := by decide
  simp only [buildNul, shiftOut, shift, common, fresh, Common.shift, Option.isSome_some,
    Option.getD_some, hf, ↓reduceIte]

theorem buildData_shiftOut (seq ack payloadLength : UInt16) :
    (buildData seq ack payloadLength).shiftOut a b = buildData (seq + a) (ack + b) payloadLength := by
  have hf : (((Flags.ofList []).set .chk (decide (payloadLength > 0))).set .ack true).has .ack =
      true := by
    cases decide (payloadLength > 0) <;> decide
  simp only [buildData, shiftOut, shift, common, fresh, Common.shift, Option.isSome_some,
    Option.getD_some, hf, ↓reduceIte]

theorem buildEackData_shiftOut (seq ack : UInt16) (acks : List UInt16) (payloadLength : UInt16) :
    (buildEackData seq ack acks payloadLength).shiftOut a b =
      buildEackData (seq + a) (ack + b) (acks.map (· + b)) payloadLength := by
  have hf : (((Flags.ofList [.eack]).set .chk (decide (payloadLength > 0))).set .ack true).has
      .ack = true := by
    cases decide (payloadLength > 0) <;> decide
  simp only [buildEackData, shiftOut, shift, common, fresh, Common.shift, Option.isSome_some,
    Option.getD_some, hf, ↓reduceIte, List.length_map, List.map_take]

end Builders

/-- `h'` is the header `h` as received by a side whose own numbers are `a` further on and whose
peer's are `b` further on: the same kind, flags, configuration and lengths, the sequence number
`b` further on, the acknowledgment field and every extended acknowledgment `a` further on. -/
inductive MovedIn (a b : UInt16) : Header → Header → Prop
  | syn {c c' : Common} (config : Config) : Common.Moved b a c c' →
      MovedIn a b (.syn c config) (.syn c' config)
  | rst {c c' : Common} : Common.Moved b a c c' → MovedIn a b (.rst c) (.rst c')
  | nul {c c' : Common} : Common.Moved b a c c' → MovedIn a b (.nul c) (.nul c')
  | ack {c c' : Common} (n : UInt16) : Common.Moved b a c c' → MovedIn a b (.ack c n) (.ack c' n)
  | eack {c c' : Common} (n : UInt16) (acks : List UInt16) : Common.Moved b a c c' →
      MovedIn a b (.eack c n acks) (.eack c' n (acks.map (· + a)))

/-- A header whose numbers move keeps its size. -/
theorem MovedIn.size_eq {a b : UInt16} {h h' : Header} (hm : MovedIn a b h h') : h'.size = h.size := by
  cases hm <;> simp [size, extension, Word.ofWords, Function.comp_def]

/-- The length and checksum encoding fills in do not depend on the numbers. -/
theorem length_layout_setCommon (h : Header) (c : Common) :
    (h.setCommon c).layout.length = h.size := by
  simp [layout, size, Common.bytes, commonHeaderLength]
  omega

end Header

namespace Segment

/-- A decoded datagram is its header followed by its payload. -/
theorem length_of_parse {d : Bytes} {seg : Segment} (hp : parse d = .ok seg) :
    d.length = seg.header.size + seg.payload.length := by
  obtain ⟨c, rest, pl, rfl, -, hl, -, hr, hpay⟩ := parse_eq_ok hp
  obtain ⟨-, -, hsize, hext, -⟩ := readHeader_inv hl hr
  rw [hpay, ← hsize]
  have hrest := congrArg List.length hext
  simp only [List.length_append, Common.length_bytes] at hrest ⊢
  rw [List.length_drop, hsize, Header.size] at *
  simp only [List.length_append, Common.length_bytes] at *
  omega

end Segment

namespace Datagram

/-- `d'` is the datagram `d` as sent by a side whose own numbers are `a` further on and whose
peer's are `b` further on: both encode one header and payload, `d'` with the header's numbers
moved by `shiftOut a b` and its checksum computed afresh. -/
def Shifted (a b : UInt16) (d d' : Bytes) : Prop :=
  ∃ (h : Header) (payload : Bytes) (sealed sealed' : Header),
    h.encode payload = .ok (sealed, d) ∧ (h.shiftOut a b).encode payload = .ok (sealed', d')

namespace Shifted

variable {a b : UInt16} {d d' : Bytes}

theorem length_eq (h : Shifted a b d d') : d'.length = d.length := by
  obtain ⟨h, payload, sealed, sealed', he, he'⟩ := h
  obtain ⟨-, -, sum, rfl, rfl⟩ := Header.encode_eq_ok he
  obtain ⟨-, -, sum', rfl, rfl⟩ := Header.encode_eq_ok he'
  simp only [List.length_append, Header.length_layout_setCommon, Header.shiftOut,
    Header.size_shift]

end Shifted

end Datagram

end ReliableDatagram
