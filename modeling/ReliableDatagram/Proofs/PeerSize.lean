import ReliableDatagram.Proofs.Moves
import ReliableDatagram.Proofs.Flow
import ReliableDatagram.Proofs.WindowsSound
import ReliableDatagram.Proofs.Shift.Wire
/-!
# Datagrams fit the peer's segment size

A peer drops every datagram longer than its own segment size, so a session must never send one
longer than the size its peer announced. The main statement,
`Endpoint.Reachable.datagrams_fit_peer`, says that every datagram a reachable session transmits
in one event is at most `r.maxSegmentSize` bytes long, for `r` the peer configuration on record
before the event or after it; and that an acknowledgment, walking the list of the receive
buffer, lists the numbers whose slots are in use, smallest offset first, as many as fit
(`ackLimit`): at most 120, and at most `(r.maxSegmentSize - 14) / 2`. The order and the count
come from the buffer's representation invariant (`SegmentBuffer.Wf.enumerate_eq_take`,
`SegmentBuffer.Wf.length_enumerate`), which every buffer a session holds keeps.

The bound has a different reason for each kind of datagram:

* SYN, RST, NUL and plain acknowledgments are at most 22 bytes long, the least segment size a
  usable configuration may announce (`Config.minSegmentSize_le`);
* an extended acknowledgment lists at most `(r.maxSegmentSize - 14) / 2` numbers, two bytes
  each after a 14-byte header;
* a data segment carries at most `r.maxSegmentSize - 14` bytes after its 14-byte header;
* a retransmission resends the bytes the send ring keeps, and it keeps only data segments.

Within an event the laws of `Endpoint.FitsTo r` hold after every action, for a fixed usable
peer configuration `r`: every datagram so far fits `r`, the peer on record is `r` or nobody
(and then there are no windows), the send ring keeps only segments that fit `r`, and an
initiating session has no peer yet. Taking the peer's SYN is the one action that changes `r`;
it happens only while the peer is unknown, before anything is sent, and only for a usable
configuration (`Endpoint.FitsAfter`).
-/

namespace ReliableDatagram

/-- A usable configuration announces a segment size of at least 22 bytes. -/
theorem Config.minSegmentSize_le {c : Config} (h : c.isValid = true) :
    Config.minSegmentSize.toNat ≤ c.maxSegmentSize.toNat := by
  by_contra hlt
  have hs : c.maxSegmentSize < Config.minSegmentSize := UInt16.lt_iff_toNat_lt.2 (by omega)
  by_cases hz : c.maxOutstanding = 0 <;> simp [Config.isValid, Config.validate, hs, hz] at h

namespace Header

/-- A header encoded without payload is exactly as long as its size. -/
theorem length_encode_nil {h sealed : Header} {bytes : Bytes}
    (he : h.encode [] = .ok (sealed, bytes)) : bytes.length = h.size := by
  obtain ⟨-, -, sum, rfl, rfl⟩ := encode_eq_ok he
  rw [List.append_nil, length_layout_setCommon]

@[simp] theorem size_buildSyn (config : Config) (seq : UInt16) (ack : Option UInt16) :
    (buildSyn config seq ack).size = 22 := by
  rw [(Built.syn config seq ack).size_eq]
  rfl

@[simp] theorem size_buildRst (code : UInt8) (seq : UInt16) (ack : Option UInt16) :
    (buildRst code seq ack).size = 12 := by
  rw [(Built.rst code seq ack).size_eq]
  rfl

@[simp] theorem size_buildNul (seq ack : UInt16) : (buildNul seq ack).size = 12 := by
  rw [(Built.nul seq ack).size_eq]
  rfl

@[simp] theorem size_buildAck (seq ack : UInt16) : (buildAck seq ack).size = ackHeaderLength := by
  rw [(Built.ack seq ack).size_eq]
  rfl

@[simp] theorem size_buildEack (seq ack : UInt16) (acks : List UInt16) :
    (buildEack seq ack acks).size = ackHeaderLength + 2 * min acks.length maxExtendedAcks := by
  rw [(Built.eack seq ack acks).size_eq]
  simp [kind, Header.acks, buildEack, buildEackData, Kind.headerLength]

end Header

/-- How many held numbers an acknowledgment to a peer of configuration `r` lists: at most 120,
and at most as many as fit, two bytes each, after a 14-byte header in `r`'s segment size. -/
def ackLimit (r : Config) : Nat :=
  min maxExtendedAcks ((r.maxSegmentSize.toNat - ackHeaderLength) / 2)

namespace SlotRing

/-- A ring enumerates the numbers of its offsets in use, smallest offset first, as many as
asked. -/
theorem enumerate_eq_take (ring : SlotRing) (n : Nat) :
    ring.enumerate n = (((List.range ring.capacity).filter fun o ↦ (ring.markAt o).isSome).take n).map
      fun o ↦ ring.base + o.toUInt16 := by
  rw [enumerate, inUseSeqs, usedOffsets_eq_filter, List.map_take]

end SlotRing

namespace SegmentBuffer

variable {ring : SegmentBuffer}

/-- Walking a well-formed buffer's list from its head meets the slots in use by increasing
offset: it enumerates the numbers of the offsets whose physical slot is in use, smallest offset
first, as many as asked. -/
theorem Wf.enumerate_eq_take (h : ring.Wf) (n : Nat) :
    ring.enumerate n = (((List.range ring.capacity).filter
      fun o ↦ (ring.slotAt (ring.position o)).inUse).take n).map
        fun o ↦ ring.base + o.toUInt16 := by
  -- the ring's marks at the offsets of the window are the records' flags
  have hf : (List.range ring.capacity).filter (fun o ↦ (ring.toRing.markAt o).isSome) =
      (List.range ring.capacity).filter fun o ↦ (ring.slotAt (ring.position o)).inUse :=
    List.filter_congr fun o ho ↦ by
      rw [markAt_toRing, if_pos (List.mem_range.1 ho), Slot.isSome_mark]
  rw [h.enumerate_eq, SlotRing.enumerate_eq_take, capacity_toRing, base_toRing, hf]

/-- The list of a well-formed buffer is as long as its counter says. -/
theorem Wf.length_enumerate (h : ring.Wf) (n : Nat) :
    (ring.enumerate n).length = min n ring.inUse := by
  rw [enumerate, List.length_take, h.length_iterInUse]

end SegmentBuffer

namespace Session

/-- A connecting session has taken its peer's configuration. -/
theorem WindowsFit.remote_of_connecting {s : Session} (hw : s.WindowsFit)
    (hst : s.state = .connecting) : s.info.remote ≠ none := by
  unfold WindowsFit at hw
  rw [hst] at hw
  obtain ⟨-, r, hr, -⟩ := hw
  rw [hr]
  exact nofun

end Session

namespace Endpoint

open Act Peer

/-- Every datagram transmitted so far fits `r`, the peer on record is `r` or nobody (and then
there are no windows), and the send ring keeps only segments that fit `r`. -/
structure SizedFor (r : Config) (e : Endpoint) : Prop where
  sent : ∀ d ∈ transmissions e.effects, d.length ≤ r.maxSegmentSize.toNat
  peer : e.session.info.remote = some r ∨
    e.session.info.remote = none ∧ e.session.sendRing = none ∧ e.session.receiveRing = none
  kept : ∀ ring, e.session.sendRing = some ring →
    ring.WellFormed ∧ ring.Keeps fun _ b ↦ b.length ≤ r.maxSegmentSize.toNat

/-- The laws that hold after every action of an event, for the peer configuration `r`: the
datagrams and the send ring fit `r`, and an initiating session has no peer yet. -/
structure FitsTo (r : Config) (e : Endpoint) : Prop extends SizedFor r e where
  initiating : e.session.state = .initiating → e.session.info.remote = none

/-- After an event from `e`, the endpoint fits a usable peer configuration: `r` itself, unless
the peer was unknown before the event. -/
def FitsAfter (r : Config) (e e' : Endpoint) : Prop :=
  ∃ c : Config, c.isValid = true ∧ (c = r ∨ e.session.info.remote = none) ∧ FitsTo c e'

variable {r : Config} {e : Endpoint}

theorem FitsTo.fitsAfter {e' : Endpoint} (h : FitsTo r e') (hv : r.isValid = true) :
    FitsAfter r e e' :=
  ⟨r, hv, .inl rfl, h⟩

namespace FitsTo

/-- A step that keeps the state, the peer and the windows and transmits only datagrams that fit
keeps the laws. -/
theorem frame (hf : FitsTo r e) {e' : Endpoint} (hst : e'.session.state = e.session.state)
    (hinfo : e'.session.info.remote = e.session.info.remote)
    (hsend : e'.session.sendRing = e.session.sendRing)
    (hrecv : e'.session.receiveRing = e.session.receiveRing)
    (hsent : ∀ d ∈ transmissions e'.effects, d.length ≤ r.maxSegmentSize.toNat) :
    FitsTo r e' where
  sent := hsent
  peer := by rw [hinfo, hsend, hrecv]; exact hf.peer
  kept := by rw [hsend]; exact hf.kept
  initiating := by rw [hst, hinfo]; exact hf.initiating

theorem of_sameTalk (hf : FitsTo r e) {e' : Endpoint} (h : SameTalk e e') : FitsTo r e' :=
  hf.frame h.1 (by rw [h.2.1]) h.2.2.1 h.2.2.2.1 (by rw [h.2.2.2.2]; exact hf.sent)

/-- Transmitting a header that fits. -/
theorem transmit (hf : FitsTo r e) {h : Header} (hs : h.size ≤ r.maxSegmentSize.toNat) :
    FitsTo r ((Act.transmit h).run e).2 := by
  rw [run_transmit]
  split
  · rename_i sealed bytes he
    refine hf.frame rfl rfl rfl rfl fun d hd ↦ ?_
    rw [transmissions_append, List.mem_append, transmissions_transmit, List.mem_singleton] at hd
    rcases hd with hd | rfl
    · exact hf.sent d hd
    · rw [Header.length_encode_nil he]
      exact hs
  · exact hf

/-- The numbers an acknowledgment lists: as many held numbers as the limit allows. -/
theorem length_acks_le (o : Option SegmentBuffer) (n : Nat) :
    ((o.map (·.enumerate n)).getD []).length ≤ n := by
  cases o <;> simp [SegmentBuffer.enumerate]

/-- Closing or waiting drops the peer with the windows. -/
theorem arrive_quiet (hf : FitsTo r e) {next : State} (hq : next = .closed ∨ next = .waiting) :
    FitsTo r ((Act.arrive next).run e).2 := by
  have hs := session_arrive_quiet e hq
  have heff : ((Act.arrive next).run e).2.effects = e.effects := by
    rcases hq with rfl | rfl
    · rw [run_arrive_closed, run_dropWindows]
      rw [(sameTalk_cancelRetransmissions _).2.2.2.2, (sameTalk_cancelAllTimers e).2.2.2.2]
    · rw [run_arrive_waiting, run_dropWindows]
      rw [(sameTalk_cancelRetransmissions _).2.2.2.2, (sameTalk_cancelAllTimers e).2.2.2.2]
  refine ⟨⟨?_, ?_, ?_⟩, ?_⟩
  · rw [heff]
    exact hf.sent
  · rw [hs]
    exact .inr ⟨rfl, rfl, rfl⟩
  · rw [hs]
    exact nofun
  · rw [hs]
    exact fun _ ↦ rfl

section Control

variable (hv : r.isValid = true)
include hv

/-- The headers without payload are at most 22 bytes long, and every usable peer takes that. -/
theorem le_of_le_minSegmentSize {n : Nat} (hn : n ≤ 22) : n ≤ r.maxSegmentSize.toNat := by
  have hmin := Config.minSegmentSize_le hv
  have h22 : Config.minSegmentSize.toNat = 22 := rfl
  omega

theorem sendSyn (hf : FitsTo r e) (ack : Option UInt16) : FitsTo r ((Act.sendSyn ack).run e).2 := by
  rw [run_sendSyn]
  exact hf.transmit (by simpa using le_of_le_minSegmentSize hv (le_refl 22))

theorem sendRst (hf : FitsTo r e) : FitsTo r (Act.sendRst.run e).2 := by
  rw [run_sendRst]
  exact hf.transmit (by simpa using le_of_le_minSegmentSize hv (by omega : 12 ≤ 22))

theorem replyRst (hf : FitsTo r e) (c : Common) : FitsTo r ((Act.replyRst c).run e).2 := by
  rw [run_replyRst]
  split
  · rename_i h hh
    -- the answering RST is one of the two built by `rstFor`
    unfold rstFor at hh
    split at hh
    · cases hh
    · split at hh <;> cases hh <;>
        exact hf.transmit (by simpa using le_of_le_minSegmentSize hv (by omega : 12 ≤ 22))
  · exact hf

/-- An acknowledgment lists no more numbers than fit the peer's segment size; with no peer on
record there is no receive ring, and the acknowledgment is a plain one. -/
theorem sendAck (hf : FitsTo r e) : FitsTo r (Act.sendAck.run e).2 := by
  rw [run_sendAck]
  refine hf.transmit ?_
  split
  · rw [Header.size_buildAck]
    exact le_of_le_minSegmentSize hv (by simp [ackHeaderLength])
  · rename_i hne
    rcases hf.peer with hr | ⟨-, -, hrecv⟩
    · have hlimit : eackLimit e.session.info.remote =
          min maxExtendedAcks ((r.maxSegmentSize.toNat - ackHeaderLength) / 2) := by
        rw [hr]
        rfl
      generalize hacks : (e.session.receiveRing.map
        (·.enumerate (eackLimit e.session.info.remote))).getD [] = acks
      have hl : acks.length ≤ eackLimit e.session.info.remote := hacks ▸ length_acks_le _ _
      rw [hlimit] at hl
      rw [Header.size_buildEack]
      have hmin := le_of_le_minSegmentSize hv (le_refl 22)
      simp only [ackHeaderLength, maxExtendedAcks] at hl ⊢
      omega
    · simp [hrecv] at hne

/-- Arriving in a state: closing or waiting drops the peer with the windows, opening sends a
SYN, and the windows opened on connecting are built for the peer on record. -/
theorem arrive (hf : FitsTo r e) (next : State)
    (hc : next = .connected → e.session.info.remote ≠ none) :
    FitsTo r ((Act.arrive next).run e).2 := by
  cases next with
  | closed => exact hf.arrive_quiet (.inl rfl)
  | waiting => exact hf.arrive_quiet (.inr rfl)
  | initiating =>
    rw [run_arrive_initiating]
    exact (hf.sendSyn hv _).of_sameTalk (sameTalk_armHandshake _)
  | connecting =>
    rw [run_arrive_connecting]
    exact (hf.sendSyn hv _).of_sameTalk (sameTalk_armHandshake _)
  | connected =>
    -- the windows are opened for the peer on record, which is `r`
    have hr : e.session.info.remote = some r := by
      rcases hf.peer with hr | ⟨hr, -⟩
      · exact hr
      · exact absurd hr (hc rfl)
    have hopen : FitsTo r (openWindows.run e).2 := by
      rw [run_openWindows]
      refine ⟨⟨hf.sent, .inl hr, fun ring hring ↦ ?_⟩, hf.initiating⟩
      cases hring
      rw [hr, Option.getD_some]
      exact ⟨(SegmentBuffer.WellFormed.new _ _).setBase _, SegmentBuffer.Keeps.setBase _⟩
    rw [run_arrive_connected]
    split
    · exact hopen
    · exact hopen.of_sameTalk (sameTalk_armKeepAlive _)
  | disconnecting =>
    rw [run_arrive_disconnecting]
    exact hf.of_sameTalk (sameTalk_armDisconnect e)

end Control

end FitsTo

namespace SizedFor

variable (hv : r.isValid = true)
include hv

/-- Entering a state keeps the laws, provided an opening session has no peer yet and a
connecting one has. The laws need not hold of the state being left: a session that has just
taken its peer's SYN while initiating moves on at once. -/
theorem enter (hs : SizedFor r e) {next : State}
    (hi : next = .initiating → e.session.info.remote = none)
    (hc : next = .connected → e.session.info.remote ≠ none) :
    FitsTo r ((Act.enter next).run e).2 := by
  rw [run_enter]
  split
  · rename_i hst
    exact ⟨hs, fun h ↦ hi (hst ▸ h)⟩
  · dsimp only
    have hl := sameTalk_leave e e.session.state
    -- the windows and the peer pass through leaving; the new state is set before arriving
    have h₁ : FitsTo r { ((Act.leave e.session.state).run e).2 with
        session := { ((Act.leave e.session.state).run e).2.session with state := next } } := by
      refine ⟨⟨?_, ?_, ?_⟩, ?_⟩
      · rw [hl.2.2.2.2]
        exact hs.sent
      · show _ = _ ∨ _
        rw [hl.2.1, hl.2.2.1, hl.2.2.2.1]
        exact hs.peer
      · show ∀ ring, _ = _ → _
        rw [hl.2.2.1]
        exact hs.kept
      · show next = _ → _
        rw [hl.2.1]
        exact hi
    have h₂ := h₁.arrive hv next fun hn ↦ by
      show ((Act.leave e.session.state).run e).2.session.info.remote ≠ none
      rw [hl.2.1]
      exact hc hn
    refine h₂.frame rfl rfl rfl rfl fun d hd ↦ h₂.sent d ?_
    simpa using hd

/-- Completing the handshake with the peer on record. -/
theorem establish (hs : SizedFor r e) (hc : e.session.info.remote ≠ none) :
    FitsTo r (Act.establish.run e).2 := by
  rw [run_establish]
  refine SizedFor.enter hv ?_ ?_ fun _ ↦ hc
  · exact ⟨hs.sent, hs.peer, hs.kept⟩
  · exact nofun

end SizedFor

namespace FitsTo

/-- Taking the peer's SYN while the peer is unknown and nothing has been sent: the laws hold
for the peer's configuration. -/
theorem accepted {c : Config} (hf : FitsTo r e)
    (hnone : e.session.info.remote = none) (he : e.effects = []) (seg : Common) :
    SizedFor c { e with session := { e.session with info := { e.session.info with
      remote := some c, receiveInitial := seg.seq, receiveAcked := seg.seq } } } where
  sent d hd := by
    rw [he] at hd
    cases hd
  peer := .inl rfl
  kept ring hring := by
    rcases hf.peer with hr | ⟨-, hsend, -⟩
    · rw [hr] at hnone
      cases hnone
    · rw [hsend] at hring
      cases hring

section Lifecycle

variable (hv : r.isValid = true)
include hv

theorem enter (hf : FitsTo r e) {next : State}
    (hi : next = .initiating → e.session.info.remote = none)
    (hc : next = .connected → e.session.info.remote ≠ none) :
    FitsTo r ((Act.enter next).run e).2 :=
  hf.toSizedFor.enter hv hi hc

theorem reset (hf : FitsTo r e) : FitsTo r (Act.reset.run e).2 := by
  rw [run_reset]
  exact hf.enter hv (by split <;> simp) (by split <;> simp)

end Lifecycle

/-! ### Moving data -/

/-- A step that moves the send ring within the laws: a send ring means the peer is on record. -/
theorem withSendRing (hf : FitsTo r e) {ring ring' : SegmentBuffer} (hring : e.session.sendRing = some ring)
    (hkeep : ring.WellFormed → ring.Keeps (fun _ b ↦ b.length ≤ r.maxSegmentSize.toNat) →
      ring'.WellFormed ∧ ring'.Keeps fun _ b ↦ b.length ≤ r.maxSegmentSize.toNat)
    {e' : Endpoint} (hst : e'.session.state = e.session.state)
    (hinfo : e'.session.info.remote = e.session.info.remote)
    (hsend : e'.session.sendRing = some ring')
    (hsent : ∀ d ∈ transmissions e'.effects, d.length ≤ r.maxSegmentSize.toNat) :
    FitsTo r e' where
  sent := hsent
  peer := by
    rcases hf.peer with hr | ⟨-, hs, -⟩
    · exact .inl (hinfo.trans hr)
    · rw [hring] at hs
      cases hs
  kept ring'' h := by
    rw [hsend] at h
    cases h
    obtain ⟨hwf, hk⟩ := hf.kept ring hring
    exact hkeep hwf hk
  initiating := by rw [hst, hinfo]; exact hf.initiating

/-- A step that moves the receive ring keeps the laws: a receive ring means the peer is on
record. -/
theorem withReceiveRing (hf : FitsTo r e) {ring : SegmentBuffer}
    (hring : e.session.receiveRing = some ring) {e' : Endpoint}
    (hst : e'.session.state = e.session.state)
    (hinfo : e'.session.info.remote = e.session.info.remote)
    (hsend : e'.session.sendRing = e.session.sendRing)
    (hsent : ∀ d ∈ transmissions e'.effects, d.length ≤ r.maxSegmentSize.toNat) :
    FitsTo r e' where
  sent := hsent
  peer := by
    rcases hf.peer with hr | ⟨-, -, hs⟩
    · exact .inl (hinfo.trans hr)
    · rw [hring] at hs
      cases hs
  kept := by rw [hsend]; exact hf.kept
  initiating := by rw [hst, hinfo]; exact hf.initiating

theorem acknowledge (hf : FitsTo r e) (ack : UInt16) : FitsTo r ((Act.acknowledge ack).run e).2 :=
  Act.acknowledge_cases e ack hf fun _ _ hs _ _ ↦
    hf.withSendRing hs (fun hwf hk ↦ ⟨hwf.advanceBase _, hk.advanceBase hwf _⟩) rfl rfl rfl hf.sent

theorem acknowledgeEach (hf : FitsTo r e) (acks : List UInt16) :
    FitsTo r ((Act.acknowledgeEach acks).run e).2 :=
  Act.acknowledgeEach_induction e acks hf fun _ _ _ _ hs _ _ h ↦
    h.withSendRing hs (fun hwf hk ↦ ⟨hwf.unmark _, hk.unmark hwf _⟩) rfl rfl rfl h.sent

theorem drainHeld (hf : FitsTo r e) (fuel : Nat) : FitsTo r ((Act.drainHeld fuel).run e).2 :=
  Act.drainHeld_induction e fuel hf
    (fun _ _ _ hr _ _ h ↦ h.withReceiveRing hr rfl rfl rfl (by simpa using h.sent))
    fun _ _ hr _ h ↦ h.withReceiveRing hr rfl rfl rfl h.sent

theorem deliver (hf : FitsTo r e) (seq : UInt16) (payload : Bytes) :
    FitsTo r ((Act.deliver seq payload).run e).2 := by
  rw [run_deliver]
  refine drainHeld ?_ _
  exact hf.frame rfl rfl rfl rfl (by simpa using hf.sent)

/-- A data segment is its payload behind a 14-byte header, and the payload fits what the peer
takes after the header; the send ring keeps it whole. -/
theorem sendData (hf : FitsTo r e) (payload : Bytes) :
    FitsTo r ((Act.sendData payload).run e).2 := by
  rcases run_sendData e payload with ⟨err, hrun⟩ |
    ⟨r', ring, queue, hdr, bytes, hr', hs, -, hne, hlen, -, henc, hrun⟩
  · rw [hrun]
    exact hf
  · rw [hrun]
    have hr : r' = r := by
      rcases hf.peer with hr | ⟨hr, -⟩
      · rw [hr] at hr'
        exact (Option.some.inj hr').symm
      · rw [hr] at hr'
        cases hr'
    subst hr
    have hbytes : bytes.length ≤ r'.maxSegmentSize.toNat := by
      rw [Header.length_encode_data henc]
      have hpos : 0 < payload.length := List.length_pos_iff.2 hne
      simp only [ackHeaderLength] at hlen ⊢
      omega
    refine hf.withSendRing hs (fun hwf hk ↦ ⟨hwf.store _ _, hk.store hwf ?_⟩) rfl rfl rfl ?_
    · exact (List.length_take_le' _ _).trans hbytes
    · intro d hd
      simp only [transmissions_append, transmissions_transmit, transmissions_accepted,
        List.append_nil, List.mem_append, List.mem_singleton] at hd
      rcases hd with hd | rfl
      · exact hf.sent d hd
      · exact hbytes

/-- A retransmission resends bytes the send ring keeps, which fit. -/
theorem retransmitFired (hf : FitsTo r e) (seq : UInt16) (h : Handle) :
    FitsTo r ((Act.retransmitFired seq h).run e).2 := by
  refine Act.retransmitFired_cases e seq h hf fun ring _ hs _ ↦
    ⟨hf.frame rfl rfl rfl rfl hf.sent, fun _ _ ↦ hf.frame rfl rfl rfl rfl fun d hd ↦ ?_⟩
  -- what the ring keeps for `seq`: a segment that fits, or nothing
  have hslot : ((ring.slot seq).getD []).length ≤ r.maxSegmentSize.toNat := by
    cases hu : ring.isInUse seq with
    | false =>
      rw [(hf.kept ring hs).1.slot_getD_of_not_isInUse hu]
      exact Nat.zero_le _
    | true =>
      obtain ⟨b, hb, hlen⟩ := (hf.kept ring hs).2 seq hu
      rw [hb, Option.getD_some]
      exact hlen
  rw [transmissions_append, List.mem_append, transmissions_transmit, List.mem_singleton] at hd
  rcases hd with hd | rfl
  · exact hf.sent d hd
  · exact hslot

theorem handshakeTimeout (hf : FitsTo r e) (h : Handle) :
    FitsTo r ((Act.handshakeTimeout h).run e).2 := by
  rw [run_handshakeTimeout]
  split
  · exact hf
  · split
    · exact hf.frame rfl rfl rfl rfl hf.sent
    · dsimp only
      rw [run_rearmHandshake]
      exact hf.frame rfl rfl rfl rfl hf.sent

section Answers

variable (hv : r.isValid = true)
include hv

theorem keepAliveFired (hf : FitsTo r e) (h : Handle) : FitsTo r ((Act.keepAliveFired h).run e).2 := by
  rw [run_keepAliveFired]
  split
  · exact hf
  · dsimp only
    have h₁ : FitsTo r { e with
        session := { e.session with timers := { e.session.timers with keepAlive := none } } } :=
      hf.frame rfl rfl rfl rfl hf.sent
    refine FitsTo.of_sameTalk ?_ (sameTalk_armKeepAlive _)
    split
    · exact h₁.transmit (by simpa using le_of_le_minSegmentSize hv (by omega : 12 ≤ 22))
    · exact h₁

theorem segmentArrives (hf : FitsTo r e) (c : Common) (acks : List UInt16) (payload : Bytes) :
    FitsTo r ((Act.segmentArrives c acks payload).run e).2 := by
  rw [run_segmentArrives]
  split
  · dsimp only
    -- the acknowledgments first, then the payload, delivered or held, and the answer
    have h₁ : FitsTo r (if c.flags.has .ack then ((Act.acknowledge c.ack).run e).2 else e) := by
      split
      · exact hf.acknowledge c.ack
      · exact hf
    generalize (if c.flags.has .ack then ((Act.acknowledge c.ack).run e).2 else e) = e₁ at h₁ ⊢
    have h₂ : FitsTo r (if acks.isEmpty then e₁ else ((Act.acknowledgeEach acks).run e₁).2) := by
      split
      · exact h₁
      · exact h₁.acknowledgeEach acks
    generalize (if acks.isEmpty then e₁ else ((Act.acknowledgeEach acks).run e₁).2) = e₂ at h₂ ⊢
    split
    · exact h₂
    · refine FitsTo.sendAck hv ?_
      split
      · exact h₂.deliver _ _
      · split
        · rename_i ring hring
          split
          · exact h₂.withReceiveRing hring rfl rfl rfl h₂.sent
          · exact h₂
        · exact h₂
  · exact hf.sendAck hv

theorem nulArrives (hf : FitsTo r e) (c : Common) : FitsTo r ((Act.nulArrives c).run e).2 := by
  rw [run_nulArrives]
  refine FitsTo.sendAck hv ?_
  split
  · exact hf.acknowledge c.ack
  · exact hf

end Answers

end FitsTo

/-! ### Reactions -/

/-- Opening from `closed`: the session starts with no peer, and a closed session keeps no
windows. -/
theorem FitsTo.started (hf : FitsTo r e) (hw : e.session.WindowsFit)
    (hst : e.session.state = .closed) (iss : UInt16) (passive : Bool) :
    FitsTo r ((start iss passive).run e).2 := by
  have hq : e.session.sendRing = none ∧ e.session.receiveRing = none := by
    unfold Session.WindowsFit at hw
    rw [hst] at hw
    exact ⟨hw.1, hw.2.2.1⟩
  rw [run_start]
  refine ⟨⟨hf.sent, .inr ⟨rfl, hq.1, hq.2⟩, fun ring hring ↦ ?_⟩, fun _ ↦ rfl⟩
  rw [show _ = _ from hq.1] at hring
  cases hring

theorem FitsTo.send (hf : FitsTo r e) (payload : Bytes) : FitsTo r ((Act.send payload).run e).2 :=
  Act.send_cases (motive := FitsTo r) e payload hf fun _ ↦ hf.sendData payload

section Reactions

variable (hv : r.isValid = true)
include hv

theorem FitsTo.onSyn (hf : FitsTo r e) (hw : e.session.WindowsFit) (he : e.effects = [])
    (c : Common) (config : Config) : FitsAfter r e ((Act.onSyn c config).run e).2 := by
  -- a waiting or initiating session knows no peer yet
  have hnone : e.session.state = .waiting ∨ e.session.state = .initiating →
      e.session.info.remote = none := by
    rintro (hst | hst)
    · unfold Session.WindowsFit at hw
      rw [hst] at hw
      exact hw.2.2.2.1
    · exact hf.initiating hst
  exact Act.onSyn_cases (motive := FitsAfter r e) e c config
    (fun _ ↦ (hf.replyRst hv c).fitsAfter hv)
    (fun hs _ hvc ↦ ⟨config, hvc, .inr (hnone hs),
      (hf.accepted (hnone hs) he c).enter hvc (fun h ↦ by cases h) (fun h ↦ by cases h)⟩)
    (fun hst _ hvc ↦ ⟨config, hvc, .inr (hnone (.inr hst)),
      ((hf.accepted (hnone (.inr hst)) he c).establish hvc (by simp)).sendAck hvc⟩)
    (fun _ ↦ ((hf.replyRst hv c).reset hv).fitsAfter hv)
    (fun hst _ _ ↦
      ((hf.toSizedFor.establish hv (hw.remote_of_connecting hst)).sendAck hv).fitsAfter hv)
    (fun _ _ _ ↦ (hf.sendSyn hv _).fitsAfter hv) (fun _ _ ↦ (hf.sendAck hv).fitsAfter hv)
    (fun _ _ ↦ FitsTo.fitsAfter (by exact (hf.replyRst hv c).enter hv nofun nofun) hv)
    (fun _ ↦ hf.fitsAfter hv)

theorem FitsTo.onRst (hf : FitsTo r e) : FitsTo r (Act.onRst.run e).2 :=
  Act.onRst_cases (motive := FitsTo r) e (fun _ ↦ hf.reset hv)
    (fun _ ↦ (hf.sendRst hv).enter hv nofun nofun) (fun _ ↦ hf.enter hv nofun nofun) (fun _ ↦ hf)

theorem FitsTo.onNul (hf : FitsTo r e) (hw : e.session.WindowsFit) (c : Common) :
    FitsTo r ((Act.onNul c).run e).2 :=
  Act.onNul_cases (motive := FitsTo r) e c (fun _ ↦ hf.replyRst hv c)
    (fun hst _ ↦ (hf.toSizedFor.establish hv (hw.remote_of_connecting hst)).nulArrives hv c)
    (fun _ _ ↦ hf.replyRst hv c) (fun _ ↦ hf.nulArrives hv c) (fun _ ↦ hf)

theorem FitsTo.onEack (hf : FitsTo r e) (c : Common) (acks : List UInt16) (payload : Bytes) :
    FitsTo r ((Act.onEack c acks payload).run e).2 :=
  Act.onEack_cases (motive := FitsTo r) e c acks payload (fun _ ↦ hf.replyRst hv c)
    (fun _ ↦ (hf.replyRst hv c).reset hv) (fun _ ↦ hf.segmentArrives hv c acks payload)
    (fun _ ↦ hf)

theorem FitsTo.onAck (hf : FitsTo r e) (hw : e.session.WindowsFit) (c : Common) (payload : Bytes) :
    FitsTo r ((Act.onAck c payload).run e).2 :=
  Act.onAck_cases (motive := FitsTo r) e c payload (fun _ ↦ hf.replyRst hv c)
    (fun hst _ ↦
      (hf.toSizedFor.establish hv (hw.remote_of_connecting hst)).segmentArrives hv c [] payload)
    (fun _ _ ↦ hf.replyRst hv c) (fun _ ↦ hf.segmentArrives hv c [] payload) (fun _ ↦ hf)

theorem FitsTo.receive (hf : FitsTo r e) (hw : e.session.WindowsFit) (he : e.effects = [])
    (datagram : Bytes) : FitsAfter r e ((Act.receive datagram).run e).2 := by
  refine Act.receive_cases e datagram (hf.fitsAfter hv) fun seg _ _ ↦ ?_
  unfold Act.onSegment
  split
  · exact hf.onSyn hv hw he _ _
  · exact (hf.onRst hv).fitsAfter hv
  · exact (hf.onNul hv hw _).fitsAfter hv
  · exact (hf.onAck hv hw _ _).fitsAfter hv
  · exact (hf.onEack hv _ _ _).fitsAfter hv

/-- The handshake wake-up of an opening session: a retry sends the SYN again, giving up drops
the peer. -/
theorem FitsTo.handshakeFired (hf : FitsTo r e) (hd : Handle) (retry : Act Unit)
    (hr : ∀ e', FitsTo r e' → FitsTo r (retry.run e').2) :
    FitsTo r ((do
      match ← Act.handshakeTimeout hd with
      | some true => retry
      | some false => Act.reset
      | none => pure () : Act Unit).run e).2 := by
  have h₁ := hf.handshakeTimeout hd
  rw [run_bind]
  generalize (Act.handshakeTimeout hd).run e = p at h₁ ⊢
  obtain ⟨res, e₁⟩ := p
  rcases res with _ | ⟨_ | _⟩
  · exact h₁
  · exact h₁.reset hv
  · exact hr e₁ h₁

theorem FitsTo.timerFired (hf : FitsTo r e) (hd : Handle) (timer : Timer) :
    FitsTo r ((Act.timerFired hd timer).run e).2 :=
  Act.timerFired_cases (motive := FitsTo r) e hd timer hf
    (fun seq _ _ _ ↦ hf.retransmitFired seq hd)
    (fun seq _ _ _ ↦ ((hf.retransmitFired seq hd).sendRst hv).enter hv nofun nofun)
    (fun _ _ ↦ hf.keepAliveFired hv hd)
    (fun _ _ ↦ hf.handshakeFired hv hd _ fun _ h' ↦ h'.sendSyn hv none)
    (fun _ _ ↦ hf.handshakeFired hv hd _ fun _ h' ↦ by
      rw [run_bind, run_info]
      exact h'.sendSyn hv _)
    (fun _ _ _ ↦ FitsTo.enter hv (by exact hf.frame rfl rfl rfl rfl hf.sent) nofun nofun)

theorem FitsTo.connect (hf : FitsTo r e) (hw : e.session.WindowsFit) (iss : UInt16) :
    FitsTo r ((Act.connect iss).run e).2 :=
  Act.connect_cases (motive := FitsTo r) e iss hf fun hst ↦
    (hf.started hw hst iss false).enter hv (fun _ ↦ by rw [run_start]) nofun

theorem FitsTo.wait (hf : FitsTo r e) (hw : e.session.WindowsFit) (iss : UInt16) :
    FitsTo r ((Act.wait iss).run e).2 :=
  Act.wait_cases (motive := FitsTo r) e iss hf fun hst ↦
    (hf.started hw hst iss true).enter hv nofun nofun

theorem FitsTo.close (hf : FitsTo r e) : FitsTo r (Act.close.run e).2 := by
  refine Act.close_cases (motive := FitsTo r) e hf (fun _ ↦ hf.enter hv nofun nofun) ?withdrawn
    (fun _ ↦ (hf.sendRst hv).enter hv nofun nofun) (fun _ ↦ (hf.sendRst hv).enter hv nofun nofun)
  case withdrawn =>
    intro _
    refine FitsTo.enter hv (hf.transmit ?_) nofun nofun
    simpa using le_of_le_minSegmentSize hv (by omega : 12 ≤ 22)

theorem FitsTo.invalidate (hf : FitsTo r e) : FitsTo r (Act.invalidate.run e).2 :=
  hf.enter hv nofun nofun

end Reactions

/-! ### Runs -/

theorem FitsTo.prepare (hf : FitsTo r e) (ev : Event) : FitsTo r (e.prepare ev) :=
  hf.frame (by simp) (by simp) (by simp) (by simp) (by simp [transmissions])

/-- One event keeps the laws, for the peer on record before it or, when there was none, for
the one it takes. -/
theorem FitsTo.handle (hv : r.isValid = true) (hf : FitsTo r e) (hw : e.session.WindowsFit)
    (ev : Event) : FitsAfter r e (e.handle ev) := by
  have h₀ := hf.prepare ev
  have hw₀ : (e.prepare ev).session.WindowsFit := by
    rw [session_prepare]
    exact hw
  -- the event starts from `e.prepare ev`, which records the same peer as `e`
  suffices hp : FitsAfter r (e.prepare ev) (e.handle ev) by
    obtain ⟨c, hc, hcr, hfc⟩ := hp
    exact ⟨c, hc, by simpa using hcr, hfc⟩
  cases ev with
  | connect iss => exact (h₀.connect hv hw₀ iss).fitsAfter hv
  | wait iss => exact (h₀.wait hv hw₀ iss).fitsAfter hv
  | close => exact (h₀.close hv).fitsAfter hv
  | invalidate => exact (h₀.invalidate hv).fitsAfter hv
  | send payload =>
    simp only [Endpoint.handle, Event.act, run_bind, run_pure]
    exact (h₀.send payload).fitsAfter hv
  | receive datagram => exact h₀.receive hv hw₀ (effects_prepare e _) datagram
  | fire hd timer => exact (h₀.timerFired hv hd timer).fitsAfter hv

theorem fitsTo_fresh {c : Config} {s : Session} (hs : Session.new c = .ok s) :
    c.isValid = true ∧ FitsTo c { session := s } := by
  obtain ⟨hv, rfl⟩ := Session.new_eq_ok_iff.1 hs
  exact ⟨hv, ⟨⟨fun _ hd ↦ (by cases hd), .inr ⟨rfl, rfl, rfl⟩, nofun⟩, fun _ ↦ rfl⟩⟩

/-- Every reachable endpoint fits a usable peer configuration: the one on record, if any. -/
theorem Reachable.fitsTo {e : Endpoint} (h : e.Reachable) : ∃ r, r.isValid = true ∧ FitsTo r e := by
  induction h with
  | fresh hs => exact ⟨_, fitsTo_fresh hs⟩
  | handle ev he ih =>
    obtain ⟨r, hv, hf⟩ := ih
    obtain ⟨c, hc, -, hfc⟩ := hf.handle hv he.invariant.windows ev
    exact ⟨c, hc, hfc⟩

/-! ### What an acknowledgment lists -/

/-- With the peer `r` on record and something held, the acknowledgment is an extended one: it
lists the first held numbers, as many as fit both a header and `r`'s segment size. -/
theorem sendAck_of_held (hv : r.isValid = true) {ring : SegmentBuffer}
    (hr : e.session.info.remote = some r) (hring : e.session.receiveRing = some ring)
    (hwf : ring.WellFormed) (hu : ring.inUse ≠ 0) :
    Act.sendAck.run e = (Act.transmit (Header.buildEack e.session.info.sendNext
      e.session.info.receiveAcked (ring.enumerate (ackLimit r)))).run e := by
  have hlimit : eackLimit (some r) = ackLimit r := rfl
  have hpos : 0 < ackLimit r := by
    have := FitsTo.le_of_le_minSegmentSize hv (le_refl 22)
    simp only [ackLimit, maxExtendedAcks, ackHeaderLength]
    omega
  have hne : (ring.enumerate (ackLimit r)).isEmpty = false := by
    rw [List.isEmpty_eq_false_iff_exists_mem]
    apply List.exists_mem_of_length_pos
    rw [hwf.length_enumerate]
    omega
  rw [run_sendAck, hr, hring, Option.map_some, Option.getD_some, hlimit, hne]
  rfl

/-! ### Datagrams fit the peer -/

/-- **Datagrams fit the peer.** Every datagram a reachable session transmits in one event is at
most `r.maxSegmentSize` bytes long, for `r` the peer configuration on record before the event or
after it, so a peer of configuration `r` never drops it for its size. The receive buffers held
before and after the event are well formed, and an acknowledgment sent while `r` is on record
and a well-formed receive buffer counts `h ≠ 0` slots in use walks the buffer's list: it lists
the numbers of the offsets whose physical slot is in use, smallest first, `min h (ackLimit r)`
of them. -/
theorem Reachable.datagrams_fit_peer {e : Endpoint} (h : e.Reachable) (ev : Event) {r : Config}
    (hr : e.session.info.remote = some r ∨ (e.handle ev).session.info.remote = some r) :
    (∀ d ∈ transmissions (e.handle ev).effects, d.length ≤ r.maxSegmentSize.toNat) ∧
    (∀ ring, (e.session.receiveRing = some ring ∨ (e.handle ev).session.receiveRing = some ring) →
      ring.WellFormed) ∧
    ∀ (e₁ : Endpoint) (ring : SegmentBuffer), e₁.session.info.remote = some r →
      e₁.session.receiveRing = some ring → ring.WellFormed → ring.inUse ≠ 0 →
      Act.sendAck.run e₁ = (Act.transmit (Header.buildEack e₁.session.info.sendNext
        e₁.session.info.receiveAcked ((((List.range ring.capacity).filter
          fun o ↦ (ring.slotAt (ring.position o)).inUse).take (ackLimit r)).map
            fun o ↦ ring.base + o.toUInt16))).run e₁ ∧
      (ring.enumerate (ackLimit r)).length = min ring.inUse (ackLimit r) := by
  obtain ⟨r₀, hv₀, hf₀⟩ := h.fitsTo
  obtain ⟨c, hc, hcr, hfc⟩ := hf₀.handle hv₀ h.invariant.windows ev
  -- the configuration the event ends on is the one on record before or after it
  have hcr' : c = r := by
    rcases hr with hr | hr
    · rcases hcr with rfl | hnone
      · rcases hf₀.peer with h₀ | ⟨h₀, -⟩ <;> rw [hr] at h₀
        · exact (Option.some.inj h₀).symm
        · cases h₀
      · rw [hr] at hnone
        cases hnone
    · rcases hfc.peer with h₁ | ⟨h₁, -⟩ <;> rw [hr] at h₁
      · exact (Option.some.inj h₁).symm
      · cases h₁
  subst hcr'
  refine ⟨hfc.sent, fun ring hring ↦ ?_, fun e₁ ring hr₁ hring hwf hu ↦ ⟨?_, ?_⟩⟩
  · rcases hring with hring | hring
    · exact h.windowsSound.receiveRing ring hring
    · exact (h.handle ev).windowsSound.receiveRing ring hring
  · rw [sendAck_of_held hc hr₁ hring hwf hu, hwf.enumerate_eq_take]
  · rw [hwf.length_enumerate, Nat.min_comm]

theorem synAcked_close_fits_peer :
    ∃ r, synAcked.session.info.remote = some r ∧
      ∀ d ∈ transmissions (synAcked.handle .close).effects, d.length ≤ r.maxSegmentSize.toNat := by
  obtain ⟨r, hr⟩ := Option.isSome_iff_exists.1 (by decide : synAcked.session.info.remote.isSome)
  exact ⟨r, hr, (Reachable.datagrams_fit_peer synAcked_reachable .close (.inl hr)).1⟩

end Endpoint

end ReliableDatagram
