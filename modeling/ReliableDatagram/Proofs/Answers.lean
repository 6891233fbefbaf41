import ReliableDatagram.Proofs.Moves
import ReliableDatagram.Proofs.Guards
/-!
# What a session says in one event

Each event makes a session transmit at most one datagram. This module says which: an
`Endpoint.Utters P e e'` step adds at most one transmission, with property `P`, and every
action of the engine is such a step. The actions that speak are the five senders of
`Session.Output`, the data path and the retransmission wake-up; every other action is silent.

For a datagram that arrives, the answer is one of three (`Endpoint.Answer`):

* an RST, and an RST is answered only by a connected session, which leaves for
  `disconnecting`;
* the session's own SYN acknowledging the peer's, only while connecting, and only to a SYN that
  does not acknowledge the session's own;
* an acknowledgment without payload, numbered with the session's `sendNext`, from a connected
  session, and to an acknowledgment without payload only when that one lies outside the receive
  window of an engaged session.

These are what bound an exchange of answers between two sessions.
-/

namespace ReliableDatagram

namespace Header

/-- `d` reads back as a segment without payload, of the kind of `h` and with its flags and
numbers. -/
def ReadsAs (h : Header) (d : Bytes) : Prop :=
  ∃ seg, Segment.parse d = .ok seg ∧ seg.payload = [] ∧ seg.header.kind = h.kind ∧
    seg.header.common.flags = h.common.flags ∧ seg.header.common.seq = h.common.seq ∧
    seg.header.common.ack = h.common.ack

/-- A builder's header without payload is encoded into bytes that read back as it. -/
theorem Built.readsAs {h sealed : Header} {d : Bytes} (hb : h.Built) (hp : h.payloadLength = 0)
    (he : h.encode [] = .ok (sealed, d)) : h.ReadsAs d := by
  have hs := hb.sendable
  have hlen : ([] : Bytes).length = h.payloadLength.toNat := by simp [hp]
  rw [encode_eq_of_fits (checkPayload_eq_ok hs.formed hlen) hs.fits] at he
  obtain ⟨-, rfl⟩ := Prod.mk.inj (Except.ok.inj he)
  exact ⟨_, parse_stamp hs hlen, rfl, by simp, by simp [stamp], by simp [stamp], by simp [stamp]⟩

end Header

namespace Segment

/-- `d` reads back as an RST. -/
def Resets (d : Bytes) : Prop :=
  ∃ seg, parse d = .ok seg ∧ seg.header.kind = .rst

/-- `d` reads back as an acknowledgment without payload, plain or extended, numbered `seq` and
acknowledging `ack`. -/
def AcksAt (seq ack : UInt16) (d : Bytes) : Prop :=
  ∃ seg, parse d = .ok seg ∧ seg.payload = [] ∧
    (seg.header.kind = .ack ∨ seg.header.kind = .eack) ∧ seg.header.common.flags.has .ack = true ∧
    seg.header.common.seq = seq ∧ seg.header.common.ack = ack

end Segment

namespace Header

theorem ReadsAs.resets {h : Header} {d : Bytes} (hd : h.ReadsAs d) (hk : h.kind = .rst) :
    Segment.Resets d := by
  obtain ⟨seg, hp, -, hkind, -⟩ := hd
  exact ⟨seg, hp, hkind.trans hk⟩

theorem ReadsAs.acksAt_buildAck {seq ack : UInt16} {d : Bytes} (hd : (buildAck seq ack).ReadsAs d) :
    Segment.AcksAt seq ack d := by
  obtain ⟨seg, hp, hpl, hk, hf, hs, ha⟩ := hd
  refine ⟨seg, hp, hpl, .inl hk, ?_, hs, ha⟩
  rw [hf]
  simp only [buildAck, buildData, fresh, common, Option.isSome_some]
  decide

theorem ReadsAs.acksAt_buildEack {seq ack : UInt16} {acks : List UInt16} {d : Bytes}
    (hd : (buildEack seq ack acks).ReadsAs d) : Segment.AcksAt seq ack d := by
  obtain ⟨seg, hp, hpl, hk, hf, hs, ha⟩ := hd
  refine ⟨seg, hp, hpl, .inr hk, ?_, hs, ha⟩
  rw [hf]
  simp only [buildEack, buildEackData, fresh, common, Option.isSome_some]
  decide

end Header

namespace Endpoint

/-- `e'` follows `e` within an event having transmitted nothing. -/
def Silent (e e' : Endpoint) : Prop :=
  Peer.transmissions e'.effects = Peer.transmissions e.effects

/-- `e'` follows `e` within an event having transmitted at most one datagram, one with property
`P`. -/
def Utters (P : Bytes → Prop) (e e' : Endpoint) : Prop :=
  Silent e e' ∨ ∃ d, P d ∧ Peer.transmissions e'.effects = Peer.transmissions e.effects ++ [d]

variable {e₁ e₂ e₃ : Endpoint} {P Q : Bytes → Prop}

namespace Silent

theorem refl (e : Endpoint) : Silent e e := rfl

theorem trans (h₁ : Silent e₁ e₂) (h₂ : Silent e₂ e₃) : Silent e₁ e₃ := Eq.trans h₂ h₁

theorem of_effects (h : e₂.effects = e₁.effects) : Silent e₁ e₂ := by
  unfold Silent
  rw [h]

theorem of_sameTalk (h : SameTalk e₁ e₂) : Silent e₁ e₂ := of_effects h.2.2.2.2

/-- Effects that transmit nothing. -/
theorem of_append {xs : List Effect} (h : e₂.effects = e₁.effects ++ xs)
    (hx : Peer.transmissions xs = []) : Silent e₁ e₂ := by
  unfold Silent
  rw [h, Peer.transmissions_append, hx, List.append_nil]

theorem utters (h : Silent e₁ e₂) : Utters P e₁ e₂ := .inl h

/-- Silence, then at most one datagram. -/
theorem then_utters (h₁ : Silent e₁ e₂) (h₂ : Utters P e₂ e₃) : Utters P e₁ e₃ := by
  rcases h₂ with h₂ | ⟨d, hd, h₂⟩
  · exact .inl (h₁.trans h₂)
  · exact .inr ⟨d, hd, by rw [h₂, h₁]⟩

end Silent

namespace Utters

theorem mono (h : Utters P e₁ e₂) (hPQ : ∀ d, P d → Q d) : Utters Q e₁ e₂ := by
  rcases h with h | ⟨d, hd, h⟩
  · exact .inl h
  · exact .inr ⟨d, hPQ d hd, h⟩

/-- At most one datagram, then silence. -/
theorem then_silent (h₁ : Utters P e₁ e₂) (h₂ : Silent e₂ e₃) : Utters P e₁ e₃ := by
  rcases h₁ with h₁ | ⟨d, hd, h₁⟩
  · exact .inl (h₁.trans h₂)
  · exact .inr ⟨d, hd, by rw [h₂, h₁]⟩

/-- At most one datagram adds at most one transmission. -/
theorem length_le (h : Utters P e₁ e₂) :
    (Peer.transmissions e₂.effects).length ≤ (Peer.transmissions e₁.effects).length + 1 := by
  rcases h with h | ⟨d, -, h⟩
  · rw [h]
    exact Nat.le_succ _
  · rw [h, List.length_append, List.length_singleton]

/-- Every datagram transmitted since `e₁` has property `P`. -/
theorem forall_mem (h : Utters P e₁ e₂) (he : e₁.effects = []) :
    ∀ d ∈ Peer.transmissions e₂.effects, P d := by
  intro d hd
  rcases h with h | ⟨d', hd', h⟩
  · rw [h, he] at hd
    cases hd
  · rw [h, he] at hd
    simp only [Peer.transmissions, List.filterMap_nil, List.nil_append, List.mem_singleton] at hd
    exact hd ▸ hd'

end Utters

end Endpoint

/-! ### What each action says -/

namespace Act

open Endpoint

variable (e : Endpoint)

theorem utters_transmit {h : Header} (hb : h.Built) (hp : h.payloadLength = 0) :
    Utters h.ReadsAs e ((transmit h).run e).2 := by
  rw [run_transmit]
  split
  · rename_i sealed d he
    exact .inr ⟨d, hb.readsAs hp he, by simp⟩
  · exact (Silent.refl e).utters

theorem utters_sendSyn (ack : Option UInt16) :
    Utters (Header.buildSyn e.session.info.config e.session.info.sendInitial ack).ReadsAs e
      ((sendSyn ack).run e).2 := by
  rw [run_sendSyn]
  exact utters_transmit e (.syn _ _ _) rfl

theorem utters_sendAck :
    Utters (Segment.AcksAt e.session.info.sendNext e.session.info.receiveAcked) e
      (sendAck.run e).2 := by
  rw [run_sendAck]
  split
  · exact (utters_transmit e (.ack _ _) rfl).mono fun _ hd ↦ hd.acksAt_buildAck
  · exact (utters_transmit e (.eack _ _ _) rfl).mono fun _ hd ↦ hd.acksAt_buildEack

theorem utters_sendRst : Utters Segment.Resets e (sendRst.run e).2 := by
  rw [run_sendRst]
  exact (utters_transmit e (.rst _ _ _) rfl).mono fun _ hd ↦ hd.resets rfl

theorem utters_replyRst (c : Common) : Utters Segment.Resets e ((replyRst c).run e).2 := by
  rw [run_replyRst]
  split
  · rename_i h hh
    unfold rstFor at hh
    split at hh
    · cases hh
    split at hh <;> cases hh <;>
      exact (utters_transmit e (.rst _ _ _) rfl).mono fun _ hd ↦ hd.resets rfl
  · exact (Silent.refl e).utters

/-! ### Wake-ups and changes of state -/

/-- What arriving in state `next` transmits, for a session with connection information `i`: its
SYN when initiating, and its SYN acknowledging the peer's when connecting. -/
def arrivalSays (i : Info) (next : State) (d : Bytes) : Prop :=
  (next = .initiating ∧ (Header.buildSyn i.config i.sendInitial none).ReadsAs d) ∨
    (next = .connecting ∧ (Header.buildSyn i.config i.sendInitial (some i.receiveAcked)).ReadsAs d)

theorem silent_handshakeTimeout (h : Handle) : Silent e ((handshakeTimeout h).run e).2 := by
  rw [run_handshakeTimeout]
  split
  · exact Silent.refl e
  split
  · exact Silent.of_effects rfl
  · exact Silent.of_effects (by rw [run_rearmHandshake])

theorem silent_openWindows : Silent e (openWindows.run e).2 := Silent.of_effects rfl

theorem silent_dropWindows : Silent e (dropWindows.run e).2 :=
  Silent.of_effects (sameTalk_cancelRetransmissions e).2.2.2.2

theorem utters_arrive (next : State) :
    Utters (arrivalSays e.session.info next) e ((arrive next).run e).2 := by
  cases next with
  | closed =>
    rw [run_arrive_closed]
    exact ((Silent.of_sameTalk (sameTalk_cancelAllTimers e)).trans (silent_dropWindows _)).utters
  | waiting =>
    rw [run_arrive_waiting]
    exact ((Silent.of_sameTalk (sameTalk_cancelAllTimers e)).trans (silent_dropWindows _)).utters
  | initiating =>
    rw [run_arrive_initiating]
    exact ((utters_sendSyn e none).then_silent (.of_sameTalk (sameTalk_armHandshake _))).mono
      fun _ hd ↦ .inl ⟨rfl, hd⟩
  | connecting =>
    rw [run_arrive_connecting]
    exact ((utters_sendSyn e _).then_silent (.of_sameTalk (sameTalk_armHandshake _))).mono
      fun _ hd ↦ .inr ⟨rfl, hd⟩
  | connected =>
    rw [run_arrive_connected]
    split
    · exact (silent_openWindows e).utters
    · exact ((silent_openWindows e).trans (.of_sameTalk (sameTalk_armKeepAlive _))).utters
  | disconnecting =>
    rw [run_arrive_disconnecting]
    exact (Silent.of_sameTalk (sameTalk_armDisconnect e)).utters

/-- Entering a state says what arriving there says, with the connection information the session
had: leaving the old state changes none of it. -/
theorem utters_enter (next : State) :
    Utters (arrivalSays e.session.info next) e ((enter next).run e).2 := by
  rw [run_enter]
  split
  · exact (Silent.refl e).utters
  · dsimp only
    have hl := sameTalk_leave e e.session.state
    have ha := utters_arrive { ((leave e.session.state).run e).2 with
      session := { ((leave e.session.state).run e).2.session with state := next } } next
    rw [show ({ ((leave e.session.state).run e).2 with session :=
        { ((leave e.session.state).run e).2.session with state := next } } : Endpoint).session.info =
        e.session.info from hl.2.1] at ha
    refine ((Silent.of_effects hl.2.2.2.2).then_utters ha).then_silent ?_
    exact Silent.of_append rfl rfl

theorem silent_enter {next : State} (hn : next ≠ .initiating ∧ next ≠ .connecting) :
    Silent e ((enter next).run e).2 := by
  rcases utters_enter e next with h | ⟨d, hd, -⟩
  · exact h
  · rcases hd with ⟨rfl, -⟩ | ⟨rfl, -⟩
    · exact absurd rfl hn.1
    · exact absurd rfl hn.2

/-- Arriving anywhere but `closed` and `waiting` keeps the connection information. -/
theorem info_arrive {next : State} (hn : next ≠ .closed ∧ next ≠ .waiting) :
    ((arrive next).run e).2.session.info = e.session.info := by
  cases next with
  | closed => exact absurd rfl hn.1
  | waiting => exact absurd rfl hn.2
  | initiating =>
    rw [run_arrive_initiating, (sameTalk_armHandshake _).2.1, (spoken_sendSyn e _).info]
  | connecting =>
    rw [run_arrive_connecting, (sameTalk_armHandshake _).2.1, (spoken_sendSyn e _).info]
  | connected =>
    rw [run_arrive_connected]
    split
    · rfl
    · exact (sameTalk_armKeepAlive _).2.1
  | disconnecting =>
    rw [run_arrive_disconnecting]
    exact (sameTalk_armDisconnect e).2.1

/-- Entering any state but `closed` and `waiting` keeps the connection information. -/
theorem info_enter {next : State} (hn : next ≠ .closed ∧ next ≠ .waiting) :
    ((enter next).run e).2.session.info = e.session.info := by
  rw [run_enter]
  split
  · rfl
  · exact (info_arrive _ hn).trans (sameTalk_leave e e.session.state).2.1

theorem info_establish :
    (establish.run e).2.session.info =
      { e.session.info with sendUnacked := e.session.info.sendInitial + 1 } := by
  rw [run_establish]
  exact info_enter _ ⟨nofun, nofun⟩

theorem silent_reset : Silent e (reset.run e).2 := by
  rw [run_reset]
  apply silent_enter
  split <;> exact ⟨nofun, nofun⟩

theorem silent_establish : Silent e (establish.run e).2 := by
  rw [run_establish]
  exact silent_enter _ ⟨nofun, nofun⟩

theorem utters_keepAliveFired (h : Handle) :
    Utters (Header.buildNul e.session.info.sendNext e.session.info.receiveAcked).ReadsAs e
      ((keepAliveFired h).run e).2 := by
  rw [run_keepAliveFired]
  split
  · exact (Silent.refl e).utters
  · dsimp only
    refine Utters.then_silent ?_ (.of_sameTalk (sameTalk_armKeepAlive _))
    split
    · exact (Silent.of_effects rfl).then_utters (utters_transmit _ (.nul _ _) rfl)
    · exact (Silent.of_effects rfl).utters

/-! ### Moving data -/

/-- An acknowledgment is numbered and acknowledges as the session stands once it is sent. -/
theorem utters_sendAck_after :
    Utters (Segment.AcksAt (sendAck.run e).2.session.info.sendNext
      (sendAck.run e).2.session.info.receiveAcked) e (sendAck.run e).2 := by
  rw [(spoken_sendAck e).info]
  exact utters_sendAck e

theorem silent_acknowledge (ack : UInt16) : Silent e ((acknowledge ack).run e).2 :=
  acknowledge_cases e ack (Silent.refl e) fun _ _ _ _ _ ↦ Silent.of_effects rfl

theorem silent_acknowledgeEach (acks : List UInt16) :
    Silent e ((acknowledgeEach acks).run e).2 :=
  acknowledgeEach_induction e acks (Silent.refl e) fun _ _ _ _ _ _ _ h ↦
    h.trans (Silent.of_effects rfl)

theorem silent_drainHeld (fuel : Nat) : Silent e ((drainHeld fuel).run e).2 :=
  drainHeld_induction e fuel (Silent.refl e) (fun _ _ _ _ _ _ h ↦ h.trans (Silent.of_append rfl rfl))
    fun _ _ _ _ h ↦ h.trans (Silent.of_effects rfl)

theorem silent_deliver (seq : UInt16) (payload : Bytes) :
    Silent e ((deliver seq payload).run e).2 := by
  rw [run_deliver]
  exact (Silent.of_append rfl rfl).trans (silent_drainHeld _ _)

/-- A segment while connected is answered by one acknowledgment, as the session stands at the
end; one without payload is answered only when it lies outside the receive window. -/
theorem utters_segmentArrives (c : Common) (acks : List UInt16) (payload : Bytes) :
    Utters (fun d ↦ Segment.AcksAt ((segmentArrives c acks payload).run e).2.session.info.sendNext
        ((segmentArrives c acks payload).run e).2.session.info.receiveAcked d ∧
      (payload = [] → Seq.inWindow c.seq (e.session.info.receiveAcked + 1)
        e.session.info.config.maxOutstanding.toUInt16 = false)) e
      ((segmentArrives c acks payload).run e).2 := by
  rw [run_segmentArrives]
  split
  · rename_i hw
    dsimp only
    -- the acknowledgments say nothing; a payload is then answered
    have h₁ : Silent e (if c.flags.has .ack then ((acknowledge c.ack).run e).2 else e) := by
      split
      · exact silent_acknowledge e c.ack
      · exact Silent.refl e
    generalize (if c.flags.has .ack then ((acknowledge c.ack).run e).2 else e) = e₁ at h₁ ⊢
    have h₂ : Silent e (if acks.isEmpty then e₁ else ((acknowledgeEach acks).run e₁).2) := by
      split
      · exact h₁
      · exact h₁.trans (silent_acknowledgeEach e₁ acks)
    generalize (if acks.isEmpty then e₁ else ((acknowledgeEach acks).run e₁).2) = e₂ at h₂ ⊢
    split
    · exact h₂.utters
    · rename_i hp
      have hne : payload ≠ [] := fun h ↦ hp (by rw [h]; rfl)
      refine ((h₂.trans ?_).then_utters (utters_sendAck_after _)).mono
        fun _ hd ↦ ⟨hd, fun h ↦ absurd h hne⟩
      -- delivering or storing the payload says nothing
      split
      · exact silent_deliver e₂ _ _
      · split
        · split
          · exact Silent.of_effects rfl
          · exact Silent.refl e₂
        · exact Silent.refl e₂
  · rename_i hw
    exact (utters_sendAck_after e).mono fun _ hd ↦ ⟨hd, fun _ ↦ by simpa using hw⟩

/-- A NUL while connected is answered by one acknowledgment, as the session stands at the end. -/
theorem utters_nulArrives (c : Common) :
    Utters (Segment.AcksAt ((nulArrives c).run e).2.session.info.sendNext
      ((nulArrives c).run e).2.session.info.receiveAcked) e ((nulArrives c).run e).2 := by
  rw [run_nulArrives]
  refine Silent.then_utters ?_ (utters_sendAck_after _)
  split
  · exact silent_acknowledge e c.ack
  · exact Silent.refl e

/-- An accepted payload goes out once, as a data segment numbered `sendNext` that acknowledges
what was delivered. -/
theorem utters_sendData (payload : Bytes) :
    Utters (fun d ↦ ∃ hdr, (Header.buildData e.session.info.sendNext e.session.info.receiveAcked
      payload.length.toUInt16).encode payload = .ok (hdr, d)) e ((sendData payload).run e).2 := by
  rcases run_sendData e payload with ⟨err, hr⟩ |
    ⟨r, ring, queue, hdr, bytes, -, -, -, -, -, -, henc, hr⟩
  · rw [hr]
    exact (Silent.refl e).utters
  · rw [hr]
    exact .inr ⟨bytes, ⟨hdr, henc⟩, by simp [Peer.transmissions]⟩

/-- A retransmission wake-up resends what the send ring holds for its number. -/
theorem utters_retransmitFired (seq : UInt16) (h : Handle) :
    Utters (fun d ↦ ∃ ring, e.session.sendRing = some ring ∧ d = (ring.slot seq).getD []) e
      ((retransmitFired seq h).run e).2 :=
  retransmitFired_cases e seq h (Silent.refl e).utters fun ring _ hs _ ↦
    ⟨(Silent.of_effects rfl).utters, fun _ _ ↦ .inr ⟨_, ⟨ring, hs, rfl⟩, by simp⟩⟩

end Act

/-! ### Answers to what arrives -/

namespace Endpoint

/-- What a session that stood at `e` when segment `seg` arrived may answer, standing at `e'` once
the event is over. -/
inductive Answer (e e' : Endpoint) (seg : Segment) (d : Bytes) : Prop
  /-- An RST; one that answers an RST comes from a connected session, which leaves for
  `disconnecting`. -/
  | reset : Segment.Resets d → (seg.header.kind = .rst →
      e.session.state = .connected ∧ e'.session.state = .disconnecting) → Answer e e' seg d
  /-- The session's SYN acknowledging the peer's, while connecting, to a SYN that does not
  acknowledge the session's own. -/
  | syn : (Header.buildSyn e'.session.info.config e'.session.info.sendInitial
        (some e'.session.info.receiveAcked)).ReadsAs d → e'.session.state = .connecting →
      (∃ c cfg, seg.header = .syn c cfg ∧
        ¬ (c.flags.has .ack = true ∧ c.ack = e.session.info.sendInitial)) → Answer e e' seg d
  /-- An acknowledgment without payload from a connected session, numbered with its `sendNext`,
  to anything but an RST; to an acknowledgment without payload only when that one lies outside
  the receive window of an engaged session. -/
  | ack : Segment.AcksAt e'.session.info.sendNext e'.session.info.receiveAcked d →
      e'.session.state = .connected → seg.header.kind ≠ .rst →
      ((seg.header.kind = .ack ∨ seg.header.kind = .eack) → seg.payload = [] →
        e.session.state.isEngaged = true ∧ Seq.inWindow seg.header.common.seq
          (e.session.info.receiveAcked + 1) e.session.info.config.maxOutstanding.toUInt16 = false) →
      Answer e e' seg d

end Endpoint

namespace Act

open Endpoint

variable (e : Endpoint)

/-- An RST in reply refuses a segment other than an RST. -/
theorem answers_replyRst {e' : Endpoint} {seg : Segment} (c : Common) (hk : seg.header.kind ≠ .rst) :
    Utters (Answer e e' seg) e ((replyRst c).run e).2 :=
  (utters_replyRst e c).mono fun _ hd ↦ .reset hd fun h ↦ absurd h hk

/-- Refusing a segment other than an RST and starting over. -/
theorem answers_refuse {e' : Endpoint} {seg : Segment} (c : Common) (hk : seg.header.kind ≠ .rst) :
    Utters (Answer e e' seg) e (reset.run ((replyRst c).run e).2).2 :=
  (answers_replyRst e c hk).then_silent (silent_reset _)

/-- Completing the handshake and acknowledging, in answer to a SYN. -/
theorem answers_establish_sendAck (e₀ : Endpoint) {seg : Segment} {c : Common} {config : Config}
    (hs : seg.header = .syn c config) :
    Utters (Answer e₀ (sendAck.run (establish.run e).2).2 seg) e (sendAck.run (establish.run e).2).2 := by
  refine ((silent_establish e).then_utters (utters_sendAck_after _)).mono fun _ hd ↦ .ack hd ?_ ?_ ?_
  · rw [(spoken_sendAck _).state, run_establish, state_enter]
  · rw [hs]
    nofun
  · rw [hs]
    rintro (h | h) <;> cases h

/-- Recording the peer's SYN and moving on to connecting, in answer to a SYN without ACK. -/
theorem answers_acceptRemote_enter {seg : Segment} {c : Common} {config : Config}
    (hs : seg.header = .syn c config) (hack : c.flags.has .ack = false) :
    let e₁ : Endpoint := { e with session := { e.session with info := { e.session.info with
      remote := some config, receiveInitial := c.seq, receiveAcked := c.seq } } }
    Utters (Answer e ((enter .connecting).run e₁).2 seg) e ((enter .connecting).run e₁).2 := by
  intro e₁
  have hi := @info_enter e₁ .connecting ⟨nofun, nofun⟩
  refine ((Silent.of_effects rfl).then_utters (utters_enter e₁ .connecting)).mono fun _ hd ↦ ?_
  rcases hd with ⟨h, -⟩ | ⟨-, hd⟩
  · cases h
  refine .syn (by rw [hi]; exact hd) (state_enter _ _) ⟨c, config, hs, fun h ↦ ?_⟩
  rw [hack] at h
  exact Bool.false_ne_true h.1

/-- Reaction to a SYN. -/
theorem answers_onSyn {seg : Segment} {c : Common} {config : Config}
    (hs : seg.header = .syn c config) :
    Utters (Answer e ((onSyn c config).run e).2 seg) e ((onSyn c config).run e).2 := by
  have hk : seg.header.kind ≠ .rst := by
    rw [hs]
    nofun
  refine onSyn_cases (motive := fun x ↦ Utters (Answer e x seg) e x) e c config
    (fun _ ↦ answers_replyRst e c hk) (fun _ hack _ ↦ answers_acceptRemote_enter e hs hack)
    (fun _ _ _ ↦ (Silent.of_effects rfl).then_utters (answers_establish_sendAck _ e hs))
    (fun _ ↦ answers_refuse e c hk) (fun _ _ _ ↦ answers_establish_sendAck e e hs) ?repeated
    ?reacknowledged
    (fun _ _ ↦ (answers_replyRst e c hk).then_silent (@silent_enter _ .closed ⟨nofun, nofun⟩))
    (fun _ ↦ (Silent.refl e).utters)
  case repeated =>
    intro hst _ has
    -- the SYN acknowledging the peer's goes out again, as the session stands
    refine (utters_sendSyn e _).mono fun _ hd ↦ .syn ?_ ?_ ⟨c, config, hs, fun h ↦ ?_⟩
    · rw [(spoken_sendSyn e _).info]
      exact hd
    · rw [(spoken_sendSyn e _).state, hst]
    · simp [h.1, h.2] at has
  case reacknowledged =>
    intro hst _
    refine (utters_sendAck_after e).mono fun _ hd ↦ .ack hd ?_ hk ?_
    · rw [(spoken_sendAck e).state, hst]
    · rw [hs]
      rintro (h | h) <;> cases h

/-- Reaction to an RST: only a connected session answers it, with its own RST, and leaves for
`disconnecting`. -/
theorem answers_onRst (seg : Segment) :
    Utters (Answer e (onRst.run e).2 seg) e (onRst.run e).2 :=
  onRst_cases (motive := fun x ↦ Utters (Answer e x seg) e x) e (fun _ ↦ (silent_reset e).utters)
    (fun hst ↦ ((utters_sendRst e).then_silent (@silent_enter _ .disconnecting ⟨nofun, nofun⟩)).mono
      fun _ hd ↦ .reset hd fun _ ↦ ⟨hst, state_enter _ _⟩)
    (fun _ ↦ (@silent_enter e .closed ⟨nofun, nofun⟩).utters) (fun _ ↦ (Silent.refl e).utters)

/-- An acknowledgment while connected, in answer to a segment that is no RST and that, when it
is an acknowledgment without payload, lies outside the receive window of `e₀`. -/
theorem answer_of_arrives (e₀ : Endpoint) {e' : Endpoint} {seg : Segment} {d : Bytes}
    (hd : Segment.AcksAt e'.session.info.sendNext e'.session.info.receiveAcked d)
    (hst : e'.session.state = .connected) (hk : seg.header.kind ≠ .rst)
    (hw : (seg.header.kind = .ack ∨ seg.header.kind = .eack) → seg.payload = [] →
      e₀.session.state.isEngaged = true ∧ Seq.inWindow seg.header.common.seq
        (e₀.session.info.receiveAcked + 1) e₀.session.info.config.maxOutstanding.toUInt16 = false) :
    Answer e₀ e' seg d :=
  .ack hd hst hk hw

/-- Reaction to a NUL. -/
theorem answers_onNul {seg : Segment} {c : Common} (hs : seg.header = .nul c) :
    Utters (Answer e ((onNul c).run e).2 seg) e ((onNul c).run e).2 := by
  have hk : seg.header.kind ≠ .rst := by
    rw [hs]
    nofun
  have hnack : ¬ (seg.header.kind = .ack ∨ seg.header.kind = .eack) := by
    rw [hs]
    rintro (h | h) <;> cases h
  refine onNul_cases (motive := fun x ↦ Utters (Answer e x seg) e x) e c
    (fun _ ↦ answers_replyRst e c hk) ?established (fun _ _ ↦ answers_replyRst e c hk) ?arrived
    (fun _ ↦ (Silent.refl e).utters)
  case established =>
    intro _ _
    refine ((silent_establish e).then_utters (utters_nulArrives _ c)).mono fun _ hd ↦
      answer_of_arrives e hd ?_ hk (absurd · hnack)
    rw [(unmoved_nulArrives _ c).state, run_establish, state_enter]
  case arrived =>
    intro hst
    refine (utters_nulArrives e c).mono fun _ hd ↦ answer_of_arrives e hd ?_ hk (absurd · hnack)
    rw [(unmoved_nulArrives e c).state, hst]

/-- A segment taken while connected, by a session whose receive window is that of `e₀`. -/
theorem answers_segmentArrives (e₀ : Endpoint) {seg : Segment} {c : Common} {acks : List UInt16}
    {payload : Bytes} (hc : seg.header.common = c) (hp : seg.payload = payload) (hk : seg.header.kind ≠ .rst)
    (hst : e.session.state = .connected) (heng : e₀.session.state.isEngaged = true)
    (hra : e.session.info.receiveAcked = e₀.session.info.receiveAcked)
    (hcfg : e.session.info.config = e₀.session.info.config) :
    Utters (Answer e₀ ((segmentArrives c acks payload).run e).2 seg) e
      ((segmentArrives c acks payload).run e).2 := by
  refine (utters_segmentArrives e c acks payload).mono fun _ ⟨hd, hw⟩ ↦
    answer_of_arrives e₀ hd ?_ hk fun _ hpl ↦ ⟨heng, ?_⟩
  · rw [(unmoved_segmentArrives e c acks payload).state, hst]
  · rw [hc, ← hra, ← hcfg]
    exact hw (hp ▸ hpl)

/-- Reaction to an extended acknowledgment. -/
theorem answers_onEack {seg : Segment} {c : Common} {n : UInt16} {acks : List UInt16}
    (hs : seg.header = .eack c n acks) :
    Utters (Answer e ((onEack c acks seg.payload).run e).2 seg) e
      ((onEack c acks seg.payload).run e).2 := by
  have hk : seg.header.kind ≠ .rst := by
    rw [hs]
    nofun
  exact onEack_cases (motive := fun x ↦ Utters (Answer e x seg) e x) e c acks seg.payload
    (fun _ ↦ answers_replyRst e c hk) (fun _ ↦ answers_refuse e c hk)
    (fun hst ↦ answers_segmentArrives e e (by rw [hs]; rfl) rfl hk hst (by rw [hst]; rfl) rfl rfl)
    (fun _ ↦ (Silent.refl e).utters)

/-- Reaction to a plain acknowledgment. -/
theorem answers_onAck {seg : Segment} {c : Common} {n : UInt16} (hs : seg.header = .ack c n) :
    Utters (Answer e ((onAck c seg.payload).run e).2 seg) e ((onAck c seg.payload).run e).2 := by
  have hk : seg.header.kind ≠ .rst := by
    rw [hs]
    nofun
  have hc : seg.header.common = c := by
    rw [hs]
    rfl
  refine onAck_cases (motive := fun x ↦ Utters (Answer e x seg) e x) e c seg.payload
    (fun _ ↦ answers_replyRst e c hk) ?established (fun _ _ ↦ answers_replyRst e c hk)
    (fun hst ↦ answers_segmentArrives e e hc rfl hk hst (by rw [hst]; rfl) rfl rfl)
    (fun _ ↦ (Silent.refl e).utters)
  case established =>
    intro hst _
    -- completing the handshake keeps the receive window the segment is judged by
    have hi := info_establish e
    refine (silent_establish e).then_utters (answers_segmentArrives _ e hc rfl hk ?_
      (by rw [hst]; rfl) (by rw [hi]) (by rw [hi]))
    rw [run_establish, state_enter]

/-- Reaction to a decoded segment. -/
theorem answers_onSegment (seg : Segment) :
    Utters (Answer e ((onSegment seg).run e).2 seg) e ((onSegment seg).run e).2 := by
  unfold onSegment
  split
  · rename_i c config hh
    exact answers_onSyn e hh
  · rename_i c hh
    exact answers_onRst e seg
  · rename_i c hh
    exact answers_onNul e hh
  · rename_i c n hh
    exact answers_onAck e hh
  · rename_i c n acks hh
    exact answers_onEack e hh

/-- **What a datagram that arrives is answered with.** Nothing, unless it decodes; then at most
one datagram, an `Answer` to its segment. -/
theorem answers_receive (datagram : Bytes) :
    Utters (fun d ↦ ∃ seg, Segment.parse datagram = .ok seg ∧
      Answer e ((receive datagram).run e).2 seg d) e ((receive datagram).run e).2 := by
  unfold receive
  simp only [run_bind, run_info]
  by_cases hl : datagram.length > e.session.info.config.maxSegmentSize.toNat
  · simp only [hl, ↓reduceIte]
    exact (Silent.refl e).utters
  · simp only [hl, ↓reduceIte]
    split
    · rename_i seg hseg
      exact (answers_onSegment e seg).mono fun d hd ↦ ⟨seg, hseg, hd⟩
    · exact (Silent.refl e).utters

end Act

/-! ### Every event says at most one thing -/

namespace Endpoint

/-- A datagram that acknowledges anything acknowledges the last number delivered by the session
as it stands at `e'`, and goes out only while engaged: a SYN while connecting, anything else
while connected. -/
def Vouches (e' : Endpoint) (d : Bytes) : Prop :=
  ∀ seg, Segment.parse d = .ok seg → seg.header.kind ≠ .rst →
    seg.header.common.flags.has .ack = true →
    seg.header.common.ack = e'.session.info.receiveAcked ∧
      (if seg.header.kind = .syn then e'.session.state = .connecting
        else e'.session.state = .connected)

/-- Bytes that the send ring of a connected `e` holds for some number, or none at all. -/
def Resent (e : Endpoint) (d : Bytes) : Prop :=
  e.session.state = .connected ∧ ∃ ring q, e.session.sendRing = some ring ∧ d = (ring.slot q).getD []

variable {e e' : Endpoint} {d : Bytes}

theorem vouches_of_resets (h : Segment.Resets d) : Vouches e' d := by
  obtain ⟨seg, hp, hk⟩ := h
  intro seg' hp' hk' _
  obtain rfl := Except.ok.inj (hp.symm.trans hp')
  exact absurd hk hk'

/-- A header-only datagram vouches for what its header does. -/
theorem vouches_of_readsAs {h : Header} (hd : h.ReadsAs d)
    (hack : h.common.flags.has .ack = true → h.common.ack = e'.session.info.receiveAcked ∧
      (if h.kind = .syn then e'.session.state = .connecting else e'.session.state = .connected)) :
    Vouches e' d := by
  obtain ⟨seg, hp, -, hk, hf, -, ha⟩ := hd
  intro seg' hp' _ hack'
  obtain rfl := Except.ok.inj (hp.symm.trans hp')
  rw [hk, ha]
  rw [hf] at hack'
  exact hack hack'

theorem vouches_of_bareSyn {config : Config} {seq : UInt16}
    (hd : (Header.buildSyn config seq none).ReadsAs d) : Vouches e' d :=
  vouches_of_readsAs hd fun h ↦ by
    simp only [Header.buildSyn, Header.fresh, Header.common, Option.isSome_none] at h
    exact absurd h (by decide)

theorem vouches_of_synAck {config : Config} {seq : UInt16}
    (hd : (Header.buildSyn config seq (some e'.session.info.receiveAcked)).ReadsAs d)
    (hst : e'.session.state = .connecting) : Vouches e' d :=
  vouches_of_readsAs hd fun _ ↦ ⟨rfl, by simp [Header.buildSyn, Header.kind, hst]⟩

theorem vouches_of_acksAt {seq : UInt16} (hd : Segment.AcksAt seq e'.session.info.receiveAcked d)
    (hst : e'.session.state = .connected) : Vouches e' d := by
  obtain ⟨seg, hp, -, hk, -, -, ha⟩ := hd
  intro seg' hp' _ _
  obtain rfl := Except.ok.inj (hp.symm.trans hp')
  refine ⟨ha, ?_⟩
  rcases hk with hk | hk <;> simp [hk, hst]

theorem vouches_of_nul {seq : UInt16}
    (hd : (Header.buildNul seq e'.session.info.receiveAcked).ReadsAs d)
    (hst : e'.session.state = .connected) : Vouches e' d :=
  vouches_of_readsAs hd fun _ ↦ ⟨rfl, by simp [Header.buildNul, Header.kind, hst]⟩

theorem vouches_of_data {seq n : UInt16} {p : Bytes} {hdr : Header}
    (he : (Header.buildData seq e'.session.info.receiveAcked n).encode p = .ok (hdr, d))
    (hst : e'.session.state = .connected) : Vouches e' d := by
  intro seg hp _ _
  obtain rfl := Header.parse_encode (Header.formed_buildData _ _ _) he hp
  obtain ⟨-, -, sum, rfl, -⟩ := Header.encode_eq_ok he
  simp only [Header.common_setCommon, Header.kind_setCommon]
  exact ⟨rfl, by simp [Header.buildData, Header.kind, hst]⟩

/-- What a session answers vouches for it. -/
theorem Answer.vouches {seg : Segment} (h : Answer e e' seg d) : Vouches e' d := by
  cases h with
  | reset hd _ => exact vouches_of_resets hd
  | syn hd hst _ => exact vouches_of_synAck hd hst
  | ack hd hst _ _ => exact vouches_of_acksAt hd hst

end Endpoint

namespace Act

open Endpoint

variable (e : Endpoint)

/-- A retransmission wake-up that ends the connection has resent nothing. -/
theorem silent_retransmitFired_of_false {seq : UInt16} {h : Handle}
    (hf : ((retransmitFired seq h).run e).1 = false) : Silent e ((retransmitFired seq h).run e).2 := by
  cases hs : e.session.sendRing with
  | none =>
    rw [run_retransmitFired_of_none e (.inl hs)] at hf
    cases hf
  | some ring =>
  cases hq : e.session.retransmit with
  | none =>
    rw [run_retransmitFired_of_none e (.inr hq)] at hf
    cases hf
  | some queue =>
    rw [run_retransmitFired e hs hq seq h] at hf ⊢
    dsimp only at hf ⊢
    split
    · rename_i hres
      rw [hres] at hf
      cases hf
    · exact Silent.of_effects rfl
    · exact Silent.of_effects rfl

theorem info_handshakeTimeout (h : Handle) :
    ((handshakeTimeout h).run e).2.session.info = e.session.info := by
  rw [run_handshakeTimeout]
  split
  · rfl
  split
  · rfl
  · rw [run_rearmHandshake]

theorem info_keepAliveFired (h : Handle) :
    ((keepAliveFired h).run e).2.session.info = e.session.info := by
  rw [run_keepAliveFired]
  split
  · rfl
  · dsimp only
    rw [(sameTalk_armKeepAlive _).2.1]
    split
    · rw [(spoken_transmit _ _).info]
    · rfl

theorem receiveAcked_sendData (payload : Bytes) :
    ((sendData payload).run e).2.session.info.receiveAcked = e.session.info.receiveAcked := by
  rcases run_sendData e payload with ⟨err, hr⟩ |
    ⟨r, ring, queue, hdr, bytes, -, -, -, -, -, -, -, hr⟩ <;> rw [hr]

/-- A handshake wake-up sends the SYN again, as the session stands, or gives up in silence;
when it sends, the session ends the event with its connection information and state. -/
theorem utters_handshakeFired (hd : Handle) {retry : Act Unit} {Q : Bytes → Prop}
    (hr : ∀ e₁, Unmoved e e₁ → e₁.session.info = e.session.info →
      Utters (fun d ↦ Q d ∧ (retry.run e₁).2.session.info = e.session.info ∧
        (retry.run e₁).2.session.state = e.session.state) e₁ (retry.run e₁).2) :
    Utters (fun d ↦ Q d ∧ ((do
      match ← handshakeTimeout hd with
      | some true => retry
      | some false => reset
      | none => pure () : Act Unit).run e).2.session.info = e.session.info ∧ ((do
      match ← handshakeTimeout hd with
      | some true => retry
      | some false => reset
      | none => pure () : Act Unit).run e).2.session.state = e.session.state) e ((do
      match ← handshakeTimeout hd with
      | some true => retry
      | some false => reset
      | none => pure () : Act Unit).run e).2 := by
  have hu := unmoved_handshakeTimeout e hd
  have hs := silent_handshakeTimeout e hd
  have hi := info_handshakeTimeout e hd
  rw [run_bind]
  generalize (handshakeTimeout hd).run e = r at hu hs hi ⊢
  obtain ⟨res, e₁⟩ := r
  rcases res with _ | ⟨_ | _⟩
  · exact hs.utters
  · exact (hs.trans (silent_reset _)).utters
  · exact hs.then_utters (hr e₁ hu hi)

/-- Sending the SYN again keeps the connection information and the state. -/
theorem utters_sendSyn_again (e₀ : Endpoint) (ack : Option UInt16) (hu : Unmoved e₀ e)
    (hi : e.session.info = e₀.session.info) :
    Utters (fun d ↦ (Header.buildSyn e₀.session.info.config e₀.session.info.sendInitial ack).ReadsAs d ∧
      ((sendSyn ack).run e).2.session.info = e₀.session.info ∧
      ((sendSyn ack).run e).2.session.state = e₀.session.state) e ((sendSyn ack).run e).2 :=
  (utters_sendSyn e ack).mono fun _ hd ↦ ⟨by rw [← hi]; exact hd,
    (spoken_sendSyn e ack).info.trans hi, (spoken_sendSyn e ack).state.trans hu.state⟩

/-- Reaction to a wake-up: at most one datagram, which vouches for the session or is one the
send ring holds. -/
theorem vouches_timerFired (hd : Handle) (timer : Timer) :
    Utters (fun d ↦ Vouches ((timerFired hd timer).run e).2 d ∨ Resent e d) e
      ((timerFired hd timer).run e).2 := by
  refine timerFired_cases (motive := fun x ↦ Utters (fun d ↦ Vouches x d ∨ Resent e d) e x) e hd
    timer (Silent.refl e).utters ?resent ?exhausted ?keptAlive ?retriedSyn ?retriedSynAck ?finished
  case resent =>
    intro seq hst _ _
    exact (utters_retransmitFired e seq hd).mono fun _ ⟨ring, hring, hd⟩ ↦
      .inr ⟨hst, ring, seq, hring, hd⟩
  case exhausted =>
    intro seq _ _ hr
    -- a segment that ran out of retries is followed by this side's RST
    have hs := silent_retransmitFired_of_false e hr
    exact ((hs.then_utters (utters_sendRst _)).then_silent
      (@silent_enter _ .disconnecting ⟨nofun, nofun⟩)).mono fun _ hd ↦ .inl (vouches_of_resets hd)
  case keptAlive =>
    intro hst _
    refine (utters_keepAliveFired e hd).mono fun _ hn ↦
      .inl (@vouches_of_nul _ _ e.session.info.sendNext ?_ ?_)
    · rw [info_keepAliveFired]
      exact hn
    · rw [(unmoved_keepAliveFired e hd).state, hst]
  case retriedSyn =>
    intro _ _
    exact (utters_handshakeFired e hd fun e₁ hu hi ↦ utters_sendSyn_again e₁ e none hu hi).mono
      fun _ h ↦ .inl (vouches_of_bareSyn h.1)
  case retriedSynAck =>
    intro hst _
    refine (utters_handshakeFired e hd (Q := (Header.buildSyn e.session.info.config
      e.session.info.sendInitial (some e.session.info.receiveAcked)).ReadsAs) fun e₁ hu hi ↦ ?_).mono
      fun _ h ↦ .inl (@vouches_of_synAck _ _ e.session.info.config e.session.info.sendInitial
        (by convert h.1 using 4; exact h.2.1) (h.2.2.trans hst))
    rw [run_bind, run_info, hi]
    exact utters_sendSyn_again e₁ e _ hu hi
  case finished =>
    intro _ _ _
    exact ((Silent.of_effects rfl).trans (@silent_enter _ .closed ⟨nofun, nofun⟩)).utters

/-- Closing sends at most an RST. -/
theorem utters_close : Utters Segment.Resets e (close.run e).2 :=
  close_cases (motive := Utters Segment.Resets e) e (Silent.refl e).utters
    (fun _ ↦ (@silent_enter e .closed ⟨nofun, nofun⟩).utters)
    (fun _ ↦ ((utters_transmit e (.rst _ _ _) rfl).then_silent
      (@silent_enter _ .closed ⟨nofun, nofun⟩)).mono fun _ hd ↦ hd.resets rfl)
    (fun _ ↦ (utters_sendRst e).then_silent (@silent_enter _ .closed ⟨nofun, nofun⟩))
    (fun _ ↦ (utters_sendRst e).then_silent (@silent_enter _ .disconnecting ⟨nofun, nofun⟩))

/-- Offering a payload sends at most the data segment that carries it. -/
theorem vouches_send (payload : Bytes) :
    Utters (Vouches ((send payload).run e).2) e ((send payload).run e).2 := by
  refine send_cases (motive := fun x ↦ Utters (Vouches x) e x) e payload (Silent.refl e).utters
    fun hst ↦ ?_
  have hra := receiveAcked_sendData e payload
  have hst' : ((sendData payload).run e).2.session.state = .connected := by
    rw [(unmoved_sendData e payload).state, hst]
  exact (utters_sendData e payload).mono fun _ ⟨hdr, he⟩ ↦
    @vouches_of_data _ _ e.session.info.sendNext payload.length.toUInt16 payload hdr
      (by rw [hra]; exact he) hst'

end Act

namespace Endpoint

open Act

/-- **Every event makes a session transmit at most one datagram**, and that datagram vouches
for the session as the event leaves it, or is one its send ring held while connected. -/
theorem utters_handle (e : Endpoint) (ev : Event) :
    Utters (fun d ↦ Vouches (e.handle ev) d ∨ Resent e d) (e.prepare ev) (e.handle ev) := by
  cases ev with
  | connect iss =>
    simp only [handle, Event.act, Act.connect, run_bind, run_session, session_prepare]
    by_cases hst : e.session.state = .closed
    · simp only [hst, ↓reduceIte, run_bind]
      exact ((Silent.of_effects rfl).then_utters (utters_enter _ _)).mono fun _ hd ↦ by
        rcases hd with ⟨-, hd⟩ | ⟨h, -⟩
        · exact .inl (vouches_of_bareSyn hd)
        · cases h
    · simp only [hst, ↓reduceIte, run_pure]
      exact (Silent.refl _).utters
  | wait iss =>
    simp only [handle, Event.act, Act.wait, run_bind, run_session, session_prepare]
    by_cases hst : e.session.state = .closed
    · simp only [hst, ↓reduceIte, run_bind]
      exact ((Silent.of_effects rfl).trans (@silent_enter _ .waiting ⟨by decide, by decide⟩)).utters
    · simp only [hst, ↓reduceIte, run_pure]
      exact (Silent.refl _).utters
  | close => exact (utters_close _).mono fun _ hd ↦ .inl (vouches_of_resets hd)
  | invalidate => exact (@silent_enter _ .closed ⟨by decide, by decide⟩).utters
  | send payload =>
    simp only [handle, Event.act, run_bind, run_pure]
    exact (vouches_send _ payload).mono fun _ ↦ .inl
  | receive datagram =>
    exact (answers_receive _ datagram).mono fun _ h ↦ h.elim fun _ hs ↦ .inl hs.2.vouches
  | fire hd timer =>
    refine (vouches_timerFired _ hd timer).mono fun _ h ↦ ?_
    rcases h with h | ⟨hst, ring, q, hr, rfl⟩
    · exact .inl h
    · exact .inr ⟨by simpa using hst, ring, q, by simpa using hr, rfl⟩

/-- **No event makes a session transmit more than one datagram.** -/
theorem length_transmissions_handle_le (e : Endpoint) (ev : Event) :
    (Peer.transmissions (e.handle ev).effects).length ≤ 1 := by
  have h := (utters_handle e ev).length_le
  rwa [effects_prepare, show Peer.transmissions [] = [] from rfl, List.length_nil] at h

end Endpoint

end ReliableDatagram
