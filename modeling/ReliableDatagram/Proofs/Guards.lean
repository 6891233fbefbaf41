import ReliableDatagram.Proofs.RoundTrip
import ReliableDatagram.Proofs.WindowsSound
/-!
# Every guard holds

Handling an event computes with fixed-width numbers, indexes into rings and byte strings, and has
branches for failures that should never happen. This module shows that none of it goes wrong,
for every event a reachable endpoint can be handed:

* adding a word to a checksum folds its carry back in without wrapping again
  (`Checksum.toNat_addWord_carry`);
* a datagram whose lengths pass the check has its header end within it, after an
  acknowledgment's 14-byte fixed part (`Segment.le_of_checkLengths`), and a SYN that passes
  carries its whole configuration (`Segment.isSome_read_of_checkLengths`);
* a header length always fits its byte (`Kind.headerLength_le`), a builder's header always
  serializes, so every control segment goes out (`Act.transmit_built`), and a payload is refused
  as too large only when it is (`Act.lt_of_sendData_payloadTooLarge`);
* the handshake count grows by at most one without wrapping (`Act.handshakeCount_handshakeTimeout`),
  and a resent segment counts exactly one more transmission
  (`RetransmitQueue.transmissions_fire_rescheduled`);
* every buffer position names a region and a record, no record claims more than its region and
  a slot in use is counted by the buffer's counter (`SegmentBuffer.WellFormed.addressable`); every
  decrease of the retransmission count finds what it takes away counted
  (`RetransmitQueue.Counted.covers`). Both hold of the windows a reachable session holds
  (`Endpoint.Reachable.windowsSound`), of the windows it opens, and of everything their
  operations make of them.

Main statement: `Endpoint.Reachable.guards_hold`.
-/

namespace ReliableDatagram

/-! ### The wire format -/

namespace Checksum

/-- The end-around carry never wraps: a 32-bit sum that wrapped lies below the word added, so
there is room to add the carry back. -/
theorem toNat_addWord_carry (c : Checksum) (w : UInt32) :
    (c.addWord w).sum.toNat = (c.sum + w).toNat + if c.sum + w < w then 1 else 0 := by
  unfold addWord
  dsimp only
  split
  · rename_i hlt
    have hs : (c.sum + w).toNat < w.toNat := UInt32.lt_iff_toNat_lt.1 hlt
    have hw := w.toNat_lt
    rw [UInt32.toNat_add, UInt32.toNat_one, Nat.mod_eq_of_lt (by omega)]
  · rfl

end Checksum

/-- Ten bytes hold a whole configuration. -/
theorem Config.isSome_read {bytes : Bytes} (h : bytes.length = 10) : (Config.read bytes).isSome := by
  rcases bytes with _ | ⟨_, _ | ⟨_, _ | ⟨_, _ | ⟨_, _ | ⟨_, _ | ⟨_, _ | ⟨_, _ | ⟨_, _ | ⟨_, _ |
    ⟨_, _⟩⟩⟩⟩⟩⟩⟩⟩⟩⟩ <;> simp at h
  rfl

namespace Segment

/-- Lengths pass the check for a segment announcing its payload length only when the header
spans at least the acknowledgment's fixed part and ends within the datagram. -/
theorem le_of_checkLengths_carrying {flags : Flags} {len : UInt8} {total : Nat} {rest : Bytes}
    {n : Nat} (hcl : flags.carriesLength = true) (h : checkLengths flags len total rest = .ok n) :
    ackHeaderLength ≤ len.toNat ∧ len.toNat ≤ total := by
  unfold checkLengths at h
  rw [if_pos hcl] at h
  split at h
  · cases h
  · split at h
    · cases h
    · rename_i hok
      simp only [Bool.or_eq_true, decide_eq_true_eq, not_or, ne_eq, Decidable.not_not] at hok
      omega

/-- Lengths pass the check for any other segment only when the header has the kind's fixed
length and is the whole datagram. -/
theorem eq_of_checkLengths_fixed {flags : Flags} {len : UInt8} {total : Nat} {rest : Bytes}
    {n : Nat} (hcl : flags.carriesLength = false) (h : checkLengths flags len total rest = .ok n) :
    len.toNat = fixedLength flags ∧ total = len.toNat := by
  unfold checkLengths at h
  rw [if_neg (by simp [hcl])] at h
  split at h
  · cases h
  · rename_i hok
    simp only [Bool.or_eq_true, decide_eq_true_eq, not_or, ne_eq, Decidable.not_not] at hok
    exact hok

/-- A datagram whose lengths pass the check has its header end within it and, when it is an
acknowledgment, after the 14 bytes of its fixed part: both the payload after the header and the
numbers an acknowledgment lists before the header's end are there to read. -/
theorem le_of_checkLengths {flags : Flags} {len : UInt8} {rest : Bytes} {n : Nat}
    (h : checkLengths flags len (rest.length + 12) rest = .ok n) :
    len.toNat ≤ rest.length + 12 ∧ (flags.carriesLength = true → ackHeaderLength ≤ len.toNat) := by
  cases hcl : flags.carriesLength with
  | true =>
    have hle := le_of_checkLengths_carrying hcl h
    exact ⟨hle.2, fun _ ↦ hle.1⟩
  | false =>
    have heq := eq_of_checkLengths_fixed hcl h
    exact ⟨heq.2.ge, fun h' ↦ absurd h' Bool.false_ne_true⟩

/-- A SYN announces no payload length, so a SYN whose lengths pass the check is exactly its
22-byte header and carries its whole configuration. -/
theorem isSome_read_of_checkLengths {flags : Flags} {len : UInt8} {rest : Bytes} {n : Nat}
    (hs : flags.has .syn = true) (h : checkLengths flags len (rest.length + 12) rest = .ok n) :
    (Config.read rest).isSome := by
  have hcl : flags.carriesLength = false := by simp [Flags.carriesLength, hs]
  have hfixed : fixedLength flags = 22 := by simp [fixedLength, hs]
  have heq := eq_of_checkLengths_fixed hcl h
  exact Config.isSome_read (by omega)

end Segment

/-- A header length always fits its byte: an extended acknowledgment keeps at most 120 numbers,
which take 240 bytes after the 14 of the fixed part. -/
theorem Kind.headerLength_le (k : Kind) (count : Nat) : (k.headerLength count).1 ≤ 255 := by
  cases k <;> simp only [Kind.headerLength, ackHeaderLength, maxExtendedAcks] <;> omega

namespace Header

/-- A builder's header serializes with every payload of the length it announces. -/
theorem Built.exists_encode_eq_ok {h : Header} (hb : h.Built) (payload : Bytes)
    (hp : payload.length = h.payloadLength.toNat) : ∃ r, h.encode payload = .ok r :=
  ⟨_, encode_eq_of_fits (checkPayload_eq_ok hb.sendable.formed hp) hb.sendable.fits⟩

end Header

namespace Act

/-- A builder's header announcing no payload always goes out: transmitting it never meets the
failure branch. -/
theorem transmit_built (e : Endpoint) {h : Header} (hb : h.Built) (hp : h.payloadLength = 0) :
    ∃ d, ((transmit h).run e).2.effects = e.effects ++ [.transmit d] := by
  obtain ⟨⟨sealed, d⟩, he⟩ := hb.exists_encode_eq_ok [] (by simp [hp])
  refine ⟨d, ?_⟩
  rw [run_transmit, he]

/-- A payload is refused as too large only when it is longer than the limit: a payload within
the peer's segment size always serializes behind its header. -/
theorem lt_of_sendData_payloadTooLarge (e : Endpoint) {payload : Bytes} {n m : Nat}
    (h : ((sendData payload).run e).1 = .error (.payloadTooLarge n m)) : m < n := by
  rw [sendData, run_bind, run_session] at h
  cases hr : e.session.info.remote with
  | none =>
    simp only [run_pure, hr] at h
    cases h
  | some r =>
  by_cases hp : payload.isEmpty = true
  · simp only [run_pure, hr, hp, ↓reduceIte] at h
    cases h
  by_cases hl : payload.length > r.maxSegmentSize.toNat - ackHeaderLength
  · simp only [run_pure, hr, hp, hl, ↓reduceIte, Bool.false_eq_true] at h
    obtain ⟨rfl, rfl⟩ := SendError.payloadTooLarge.inj (Except.error.inj h)
    exact hl
  -- the payload fits: its data header serializes, so the only refusals left are not about size
  have hfit : payload.length ≤ 65535 := by
    have := r.maxSegmentSize.toNat_lt
    omega
  obtain ⟨res, henc⟩ := (Header.Built.data e.session.info.sendNext e.session.info.receiveAcked
    payload.length.toUInt16).exists_encode_eq_ok payload (by
      simp only [Header.buildData, Header.payloadLength, UInt16.toNat_ofNat', Nat.toUInt16_eq]
      omega)
  by_cases hc : e.session.canSend = true
  swap
  · simp only [run_pure, hr, hp, hl, hc, ↓reduceIte, Bool.false_eq_true, Bool.not_false] at h
    cases h
  cases hring : e.session.sendRing with
  | none =>
    simp only [run_pure, hr, hp, hl, hc, hring, ↓reduceIte, Bool.false_eq_true, Bool.not_true] at h
    cases h
  | some ring =>
  cases hq : e.session.retransmit with
  | none =>
    simp only [run_pure, hr, hp, hl, hc, hring, hq, ↓reduceIte, Bool.false_eq_true,
      Bool.not_true] at h
    cases h
  | some queue =>
    -- what is left is the accepting branch, which returns `ok`
    simp only [hr, hp, hl, hc, hring, hq, henc, ↓reduceIte, Bool.false_eq_true, Bool.not_true] at h
    cases h

/-- A handshake wake-up counts at most one more retry, and only below the limit, which a byte
holds: the count never wraps. -/
theorem handshakeCount_handshakeTimeout (e : Endpoint) (h : Handle) :
    e.session.timers.handshakeCount.toNat ≤
        ((handshakeTimeout h).run e).2.session.timers.handshakeCount.toNat ∧
      ((handshakeTimeout h).run e).2.session.timers.handshakeCount.toNat ≤
        e.session.timers.handshakeCount.toNat + 1 := by
  rw [run_handshakeTimeout]
  split
  · exact ⟨le_refl _, Nat.le_succ _⟩
  · split
    · exact ⟨le_refl _, Nat.le_succ _⟩
    · rename_i hlt
      dsimp only
      rw [run_rearmHandshake]
      -- below the limit, the count is at most 254
      have hbelow : e.session.timers.handshakeCount.toNat <
          e.session.info.config.maxRetransmissions.toNat := by
        have := UInt8.lt_iff_toNat_lt.1 (UInt8.not_le.1 hlt)
        omega
      have hmax := e.session.info.config.maxRetransmissions.toNat_lt
      have hsucc : (e.session.timers.handshakeCount + 1).toNat =
          e.session.timers.handshakeCount.toNat + 1 := by
        rw [UInt8.toNat_add, UInt8.toNat_one, Nat.mod_eq_of_lt (by omega)]
      dsimp only
      rw [hsucc]
      exact ⟨Nat.le_succ _, le_refl _⟩

end Act

/-! ### The windows -/

namespace SegmentBuffer

/-- What indexing a buffer relies on: positions are taken modulo a nonzero capacity and name one
of its regions and one of its records, no record claims more bytes than a region holds, and a
slot in use is counted, so releasing it takes the counter down by one it has. -/
structure Addressable (b : SegmentBuffer) : Prop where
  capacity_pos : 0 < b.capacity
  position_lt : ∀ o, b.position o < b.frames.length ∧ b.position o < b.slots.length
  len_le : ∀ i, (b.slotAt i).len ≤ b.slotSize
  counted : ∀ q, b.isInUse q = true → 1 ≤ b.inUse

theorem WellFormed.addressable {b : SegmentBuffer} (h : b.WellFormed) : b.Addressable where
  capacity_pos := h.capacity_pos
  position_lt o := by
    have hlt : b.position o < b.capacity := position_lt h.capacity_pos o
    refine ⟨?_, hlt⟩
    rw [← frames_toRing, h.ring.frames_length, capacity_toRing]
    exact hlt
  len_le := h.len_le
  counted q hq := by
    -- the slot of `q` is on the list, whose length the counter keeps
    unfold isInUse at hq
    cases hi : b.index q with
    | none => rw [hi] at hq; cases hq
    | some i =>
      rw [hi] at hq
      have hmem : i ∈ b.order := h.mem_order_iff.2 ⟨lt_of_index_eq_some hi, hq⟩
      rw [h.count]
      exact List.length_pos_of_mem hmem

end SegmentBuffer

namespace RetransmitQueue

/-- A resent segment counts exactly one more transmission when it had fewer than 255: the count
saturates only at the top of its byte. -/
theorem transmissions_fire_rescheduled {q : RetransmitQueue} {s : Schedule} {seq : UInt16}
    {h : Handle} {resend : Entry → Bool} {x : Entry} (hd : q.due? seq h = some x)
    (hr : (q.fire s seq h resend).1 = .rescheduled) (h255 : x.transmissions.toNat < 255) :
    ∃ y, RetransmitQueue.entry? (q.fire s seq h resend).2.1 seq = some y ∧
      y.transmissions.toNat = x.transmissions.toNat + 1 := by
  obtain ⟨o, ho, hfire⟩ := fire_of_due? hd s resend
  rw [hfire] at hr ⊢
  by_cases hres : resend x = true
  · rw [if_pos hres]
    refine ⟨_, by rw [entry?_set ho, if_pos rfl], ?_⟩
    have hne : x.transmissions ≠ 255 := fun he ↦ by rw [he] at h255; exact absurd h255 (by decide)
    dsimp only
    rw [if_neg hne, UInt8.toNat_add, UInt8.toNat_one, Nat.mod_eq_of_lt (by omega)]
  · rw [if_neg hres] at hr
    cases hr

end RetransmitQueue

/-! ### Every guard holds -/

namespace Endpoint

/-- What handling any event from `e` relies on never to go wrong. -/
structure Guarded (e : Endpoint) : Prop where
  /-- Adding a word to a checksum folds the carry back in without wrapping. -/
  checksum : ∀ (c : Checksum) (w : UInt32),
    (c.addWord w).sum.toNat = (c.sum + w).toNat + if c.sum + w < w then 1 else 0
  /-- A datagram whose lengths pass the check has its header end within it, after the fixed
  part of an acknowledgment. -/
  lengths : ∀ (flags : Flags) (len : UInt8) (rest : Bytes) (n : Nat),
    Segment.checkLengths flags len (rest.length + 12) rest = .ok n →
      len.toNat ≤ rest.length + 12 ∧ (flags.carriesLength = true → ackHeaderLength ≤ len.toNat)
  /-- A SYN whose lengths pass the check carries its whole configuration. -/
  synConfig : ∀ (flags : Flags) (len : UInt8) (rest : Bytes) (n : Nat), flags.has .syn = true →
    Segment.checkLengths flags len (rest.length + 12) rest = .ok n → (Config.read rest).isSome
  /-- Every header length fits its byte. -/
  headerLength : ∀ (k : Kind) (count : Nat), (k.headerLength count).1 ≤ 255
  /-- A builder's header announcing no payload, as every control segment is, goes out. -/
  transmit : ∀ h : Header, h.Built → h.payloadLength = 0 →
    ∃ d, ((Act.transmit h).run e).2.effects = e.effects ++ [.transmit d]
  /-- A payload is refused as too large only when it is. -/
  payload : ∀ (payload : Bytes) (n m : Nat),
    ((Act.sendData payload).run e).1 = .error (.payloadTooLarge n m) → m < n
  /-- A handshake wake-up counts at most one more retry, without wrapping. -/
  handshake : ∀ h : Handle,
    e.session.timers.handshakeCount.toNat ≤
        ((Act.handshakeTimeout h).run e).2.session.timers.handshakeCount.toNat ∧
      ((Act.handshakeTimeout h).run e).2.session.timers.handshakeCount.toNat ≤
        e.session.timers.handshakeCount.toNat + 1
  /-- A segment resent on a retransmission wake-up counts exactly one more transmission. -/
  resend : ∀ (q : RetransmitQueue) (s : Schedule) (seq : UInt16) (h : Handle) (inUse : Bool)
    (x : Entry), q.due? seq h = some x →
    (q.fire s seq h fun y ↦ decide (y.transmissions < e.session.info.config.maxRetransmissions) &&
      inUse).1 = .rescheduled →
    ∃ y, RetransmitQueue.entry? (q.fire s seq h fun y ↦
      decide (y.transmissions < e.session.info.config.maxRetransmissions) && inUse).2.1 seq = some y ∧
      y.transmissions.toNat = x.transmissions.toNat + 1
  /-- The buffers held, and everything their operations make of them, are addressable. -/
  rings : ∀ r, (e.session.sendRing = some r ∨ e.session.receiveRing = some r) →
    ∀ ops, (r.runOps ops).2.Addressable
  /-- So are the buffers a connection opens. -/
  openedRings : ∀ (size : UInt16) (count : UInt8) (b : UInt16) (ops : List SlotRing.Op),
    (((SegmentBuffer.new size count).setBase b).runOps ops).2.Addressable
  /-- The retransmission queue held, and everything its operations make of it, find every
  decrease of the count covered. -/
  queue : ∀ q, e.session.retransmit = some q →
    ∀ s ops, (q.runOps s ops).1.CountCovers
  /-- So does the queue a connection opens. -/
  openedQueue : ∀ (count : UInt8) (s : Schedule) (b : UInt16) (s' : Schedule)
    (ops : List RetransmitQueue.Op),
    ((((RetransmitQueue.new count).setBase s b).1).runOps s' ops).1.CountCovers

/-- Handling any event from a reachable endpoint meets no overflow, no index out of range and
no branch meant to be unreachable. -/
theorem Reachable.guards_hold {e : Endpoint} (h : e.Reachable) : e.Guarded where
  checksum := Checksum.toNat_addWord_carry
  lengths _ _ _ _ := Segment.le_of_checkLengths
  synConfig _ _ _ _ := Segment.isSome_read_of_checkLengths
  headerLength := Kind.headerLength_le
  transmit _ := Act.transmit_built e
  payload _ _ _ := Act.lt_of_sendData_payloadTooLarge e
  handshake := Act.handshakeCount_handshakeTimeout e
  resend q s seq hd inUse x hx hres := by
    -- the session resends only below its limit, which a byte holds
    refine RetransmitQueue.transmissions_fire_rescheduled hx hres ?_
    obtain ⟨o, -, hfire⟩ := RetransmitQueue.fire_of_due? hx s
      fun y ↦ decide (y.transmissions < e.session.info.config.maxRetransmissions) && inUse
    rw [hfire] at hres
    split at hres
    · rename_i hyes
      have hlt := UInt8.lt_iff_toNat_lt.1 (of_decide_eq_true (Bool.and_eq_true_iff.1 hyes).1)
      have hmax := e.session.info.config.maxRetransmissions.toNat_lt
      omega
    · cases hres
  rings r hr ops := by
    have hb : r.WellFormed := by
      rcases hr with hr | hr
      · exact h.windowsSound.sendRing r hr
      · exact h.windowsSound.receiveRing r hr
    exact (hb.runOps ops).addressable
  openedRings size count b ops :=
    (((SegmentBuffer.WellFormed.new size count).setBase b).runOps ops).addressable
  queue q hq s ops := ((h.windowsSound.queue q hq).runOps s ops).covers
  openedQueue count s b s' ops :=
    ((RetransmitQueue.counted_setBase (RetransmitQueue.new count) s b).runOps s' ops).covers

theorem synAcked_guarded : synAcked.Reachable ∧ synAcked.Guarded :=
  ⟨synAcked_reachable, Reachable.guards_hold synAcked_reachable⟩

end Endpoint

end ReliableDatagram
