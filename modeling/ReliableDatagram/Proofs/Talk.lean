import ReliableDatagram.Conversation
import ReliableDatagram.Proofs.Codec
import ReliableDatagram.Proofs.Reachable
/-!
# What one side of a conversation keeps

In a conversation each side only ever receives what its partner transmitted. This module states
what a side keeps towards its partner, between the actions of an event as well as between
events, as `Endpoint.Talks`, and shows that the lifecycle actions keep it.

The side is described by a `Ledger`: its own initial number, configuration and passive flag,
the payloads it accepted and delivered before the current event, and its partner's initial
number, configuration and accepted payloads. What a side keeps is then:

* its numbers: the initial number, configuration and passive flag never change, and `sendNext`
  counts the accepted payloads past the SYN;
* the truth of what it transmits (`TrueTo`): a SYN announces the side's initial number and
  configuration, and a payload is the one the side accepted under that number, the `j`-th
  going out as number `iss + 1 + j`; the send ring stores only such segments;
* what it knows of its partner: once connecting, the partner's SYN has been accepted, and a
  datagram that acknowledges anything is transmitted only then;
* its deliveries: nothing is delivered while opening; once connected, the last delivered number
  is the partner's initial number plus the count of deliveries, the receive ring holds only
  payloads the partner accepted under their numbers, and (while the partner has accepted fewer
  than `2^16` payloads, so that numbers do not come round) the deliveries are a prefix of what
  the partner accepted;
* how it got connected: the parameter `trigger` of `Talks` is what the current event must be
  for the side to end it connected.

The state of the session matters only through a few fields: the timers, the schedule and the
retransmission queue never do (`Endpoint.SameTalk`). Entering a state asks of the ledger what
the new state needs (`Ledger.Admits`), in the way `Info.CanEnter` does for the invariant of a
single session.
-/

namespace ReliableDatagram

/-! ### What a datagram says -/

/-- `q` is the payload accepted under number `n` by a side that opened with initial number
`iss` and has accepted `acc`: the `j`-th of `acc`, numbered `iss + 1 + j`. -/
def Numbered (iss : UInt16) (acc : List Bytes) (n : UInt16) (q : Bytes) : Prop :=
  ∃ j : Nat, acc[j]? = some q ∧ n = iss + 1 + j.toUInt16

/-- A payload stays numbered as its side accepts more. -/
theorem Numbered.mono {iss n : UInt16} {acc acc' : List Bytes} {q : Bytes}
    (h : Numbered iss acc n q) (hp : acc <+: acc') : Numbered iss acc' n q := by
  obtain ⟨j, hj, hn⟩ := h
  obtain ⟨t, rfl⟩ := hp
  exact ⟨j, by rw [List.getElem?_append_left (List.getElem?_eq_some_iff.1 hj).1, hj], hn⟩

/-- While numbers do not come round, the payload numbered one past a prefix of the accepted
payloads extends the prefix: its number pins down its index. -/
theorem Numbered.extend {iss : UInt16} {acc D : List Bytes} {q : Bytes}
    (h : Numbered iss acc (iss + D.length.toUInt16 + 1) q) (hD : D <+: acc)
    (hlt : acc.length < 2 ^ 16) : D ++ [q] <+: acc := by
  obtain ⟨j, hj, hn⟩ := h
  have hj_lt : j < acc.length := (List.getElem?_eq_some_iff.1 hj).1
  have hD_le : D.length ≤ acc.length := hD.length_le
  -- equal numbers modulo `2^16`, both below it
  have hmod : D.length.toUInt16 = j.toUInt16 := by grind
  have hidx : D.length = j := by
    have := congrArg UInt16.toNat hmod
    simp only [UInt16.toNat_ofNat', Nat.toUInt16_eq] at this
    omega
  subst hidx
  rw [List.prefix_iff_eq_take] at hD ⊢
  rw [List.length_append, List.length_singleton, List.take_add_one, ← hD, hj, Option.toList_some]

/-- A datagram true to a side that opened with initial number `iss` and configuration `config`
and has accepted the payloads `acc`: when it decodes at all, a SYN announces `iss` and `config`,
and a payload is one the side accepted, under its number. -/
def TrueTo (iss : UInt16) (config : Config) (acc : List Bytes) (d : Bytes) : Prop :=
  ∀ seg, Segment.parse d = .ok seg →
    (∀ c cfg, seg.header = .syn c cfg → c.seq = iss ∧ cfg = config) ∧
    (seg.payload ≠ [] → Numbered iss acc seg.header.common.seq seg.payload)

/-- A datagram stays true to its sender as the sender accepts more payloads. -/
theorem TrueTo.mono {iss : UInt16} {config : Config} {acc acc' : List Bytes} {d : Bytes}
    (h : TrueTo iss config acc d) (hp : acc <+: acc') : TrueTo iss config acc' d := by
  intro seg hseg
  obtain ⟨hsyn, hpay⟩ := h seg hseg
  exact ⟨hsyn, fun hne ↦ (hpay hne).mono hp⟩

/-- Nothing decodes from no bytes. -/
theorem trueTo_nil (iss : UInt16) (config : Config) (acc : List Bytes) : TrueTo iss config acc [] := by
  intro seg hseg
  cases hseg

/-- A datagram acknowledges something of its receiver when it decodes to a segment other than
an RST that carries ACK. -/
def Acknowledging (d : Bytes) : Prop :=
  ∃ seg, Segment.parse d = .ok seg ∧ seg.header.kind ≠ .rst ∧
    seg.header.common.flags.has .ack = true

namespace Header

theorem setCommon_eq_syn {h : Header} {c c' : Common} {config : Config}
    (hs : h.setCommon c' = .syn c config) : ∃ c₀, h = .syn c₀ config ∧ c = c' := by
  cases h <;> simp only [setCommon, reduceCtorEq, syn.injEq] at hs
  obtain ⟨rfl, rfl⟩ := hs
  exact ⟨_, rfl, rfl⟩

/-- A header-only datagram of a header announcing its kind carries no payload, and a SYN among
them announces what the header does. -/
theorem trueTo_encode {h sealed : Header} {bytes : Bytes} (hf : h.Formed)
    (he : h.encode [] = .ok (sealed, bytes)) {iss : UInt16} {config : Config} (acc : List Bytes)
    (hsyn : ∀ c cfg, h = .syn c cfg → c.seq = iss ∧ cfg = config) : TrueTo iss config acc bytes := by
  intro seg hseg
  obtain rfl := parse_encode hf he hseg
  obtain ⟨-, -, sum, rfl, -⟩ := encode_eq_ok he
  refine ⟨fun c cfg hc ↦ ?_, fun hne ↦ absurd rfl hne⟩
  obtain ⟨c₀, rfl, rfl⟩ := setCommon_eq_syn hc
  exact hsyn c₀ cfg rfl

/-- A header-only datagram acknowledges only when its header is not an RST and carries ACK. -/
theorem acknowledging_encode {h sealed : Header} {bytes : Bytes} (hf : h.Formed)
    (he : h.encode [] = .ok (sealed, bytes)) (hack : Acknowledging bytes) :
    h.kind ≠ .rst ∧ h.common.flags.has .ack = true := by
  obtain ⟨seg, hseg, hk, ha⟩ := hack
  obtain rfl := parse_encode hf he hseg
  obtain ⟨-, -, sum, rfl, -⟩ := encode_eq_ok he
  simp only [kind_setCommon, common_setCommon] at hk ha
  exact ⟨hk, ha⟩

end Header

/-! ### The ledger of a side -/

/-- What a side of a conversation stands on: its own opening numbers, the payloads it accepted
and delivered before the current event, and what it can count on from its partner. -/
structure Ledger where
  /-- The side's initial number. -/
  iss : UInt16
  /-- The side's configuration. -/
  config : Config
  /-- Whether the side opened passively. -/
  passive : Bool
  /-- The payloads the side accepted before the current event. -/
  accepted : List Bytes
  /-- The payloads the side delivered before the current event. -/
  delivered : List Bytes
  /-- The partner's initial number. -/
  peerIss : UInt16
  /-- The partner's configuration. -/
  peerConfig : Config
  /-- The payloads the partner has accepted. -/
  peerAccepted : List Bytes

namespace Ledger

/-- A send ring true to its side: well formed, with room for a segment of the partner's size,
and every segment in use one the side may have transmitted. -/
structure Stores (l : Ledger) (ring : SegmentBuffer) : Prop where
  wf : ring.WellFormed
  room : l.peerConfig.maxSegmentSize.toNat ≤ ring.slotSize
  true_to : ring.Keeps fun _ b ↦ TrueTo l.iss l.config l.accepted b

/-- A receive ring true to the partner: well formed, with room for a datagram of the side's own
segment size, and every segment held a payload the partner accepted under its number. -/
structure Holds (l : Ledger) (ring : SegmentBuffer) : Prop where
  wf : ring.WellFormed
  room : l.config.maxSegmentSize.toNat ≤ ring.slotSize
  held : ring.Keeps (Numbered l.peerIss l.peerAccepted)

end Ledger

namespace State

/-- Waiting, initiating or connecting: the connection is being opened. -/
def isOpening : State → Bool
  | .waiting | .initiating | .connecting => true
  | _ => false

/-- Connecting or connected: the peer's SYN has been accepted. -/
def isEngaged : State → Bool
  | .connecting | .connected => true
  | _ => false

end State

/-! ### Datagrams and deliveries among the effects -/

namespace Peer

@[simp] theorem transmissions_append (es es' : List Effect) :
    transmissions (es ++ es') = transmissions es ++ transmissions es' :=
  List.filterMap_append

@[simp] theorem transmissions_nil : transmissions [] = [] := rfl

@[simp] theorem transmissions_transmit (d : Bytes) : transmissions [.transmit d] = [d] := rfl

@[simp] theorem transmissions_deliver (p : Bytes) : transmissions [.deliver p] = [] := rfl

@[simp] theorem transmissions_accepted (n : UInt16) : transmissions [.accepted n] = [] := rfl

@[simp] theorem transmissions_entered (st : State) : transmissions [.entered st] = [] := rfl

end Peer

namespace Side

@[simp] theorem deliveries_nil : deliveries [] = [] := rfl

@[simp] theorem deliveries_append (es es' : List Effect) :
    deliveries (es ++ es') = deliveries es ++ deliveries es' :=
  List.filterMap_append

@[simp] theorem deliveries_transmit (d : Bytes) : deliveries [.transmit d] = [] := rfl

@[simp] theorem deliveries_deliver (p : Bytes) : deliveries [.deliver p] = [p] := rfl

@[simp] theorem deliveries_accepted (n : UInt16) : deliveries [.accepted n] = [] := rfl

@[simp] theorem deliveries_entered (st : State) : deliveries [.entered st] = [] := rfl

end Side

namespace Endpoint

/-- What a side of a conversation keeps towards its partner, between the actions of an event as
well as between events. `l.delivered` and `l.accepted` are the side's payloads before the
event; its effects are the event's so far. -/
structure Talks (e : Endpoint) (l : Ledger) (trigger : Prop) : Prop where
  config : e.session.info.config = l.config
  sendInitial : e.session.info.sendInitial = l.iss
  passive : e.session.info.passive = l.passive
  /-- Each accepted payload took one number after the SYN. -/
  sendNext : e.session.info.sendNext = l.iss + 1 + l.accepted.length.toUInt16
  /-- The send ring stores only segments true to the side. -/
  stored : ∀ ring, e.session.sendRing = some ring → l.Stores ring
  /-- The receive ring holds only payloads the partner accepted. -/
  held : ∀ ring, e.session.receiveRing = some ring → l.Holds ring
  /-- Every datagram transmitted is true to the side. -/
  true_to : ∀ d ∈ Peer.transmissions e.effects, TrueTo l.iss l.config l.accepted d
  /-- A datagram that acknowledges anything goes out only once the partner's SYN is accepted. -/
  answers : ∀ d ∈ Peer.transmissions e.effects, Acknowledging d →
    e.session.info.receiveInitial = l.peerIss ∧ e.session.info.remote = some l.peerConfig
  /-- An opening side has delivered and accepted nothing. -/
  quiet : e.session.state.isOpening = true →
    l.delivered ++ Side.deliveries e.effects = [] ∧ l.accepted = []
  /-- An engaged side has accepted its partner's SYN. -/
  engaged : e.session.state.isEngaged = true →
    e.session.info.receiveInitial = l.peerIss ∧ e.session.info.remote = some l.peerConfig
  /-- A connecting side has delivered nothing past its partner's SYN. -/
  connecting : e.session.state = .connecting → e.session.info.receiveAcked = l.peerIss
  /-- Each delivery took one number after the partner's SYN. -/
  receiveAcked : e.session.state = .connected →
    e.session.info.receiveAcked = l.peerIss + (l.delivered ++ Side.deliveries e.effects).length.toUInt16
  /-- While the partner's numbers do not come round, the side delivers what the partner
  accepted, in order. -/
  ordered : l.peerAccepted.length < 2 ^ 16 → l.delivered ++ Side.deliveries e.effects <+: l.peerAccepted
  /-- A side ends an event connected only for the event's reason. -/
  entry : e.session.state = .connected → trigger

/-- Two endpoints alike in all a side of a conversation is judged by: the state, the
connection information, the two rings and the effects. -/
def SameTalk (e e' : Endpoint) : Prop :=
  e'.session.state = e.session.state ∧ e'.session.info = e.session.info ∧
    e'.session.sendRing = e.session.sendRing ∧ e'.session.receiveRing = e.session.receiveRing ∧
    e'.effects = e.effects

/-- Every datagram transmitted in the event so far leaves the partner nothing acknowledged. -/
def Quiet (e : Endpoint) : Prop :=
  ∀ d ∈ Peer.transmissions e.effects, ¬ Acknowledging d

variable {e : Endpoint} {l : Ledger} {t : Prop}

theorem SameTalk.trans {e₁ e₂ e₃ : Endpoint} (h₁ : SameTalk e₁ e₂) (h₂ : SameTalk e₂ e₃) :
    SameTalk e₁ e₃ := by
  obtain ⟨a₁, b₁, c₁, d₁, f₁⟩ := h₁
  obtain ⟨a₂, b₂, c₂, d₂, f₂⟩ := h₂
  exact ⟨a₂.trans a₁, b₂.trans b₁, c₂.trans c₁, d₂.trans d₁, f₂.trans f₁⟩

/-- What a side keeps depends only on what `SameTalk` compares. -/
theorem Talks.of_same {e' : Endpoint} (h : e.Talks l t) (hs : SameTalk e e') : e'.Talks l t := by
  obtain ⟨hst, hi, hsr, hrr, hef⟩ := hs
  exact { config := hi ▸ h.config, sendInitial := hi ▸ h.sendInitial, passive := hi ▸ h.passive,
          sendNext := hi ▸ h.sendNext,
          stored := by rw [hsr]; exact h.stored
          held := by rw [hrr]; exact h.held
          true_to := by rw [hef]; exact h.true_to
          answers := by rw [hef, hi]; exact h.answers
          quiet := by rw [hst, hef]; exact h.quiet
          engaged := by rw [hst, hi]; exact h.engaged
          connecting := by rw [hst, hi]; exact h.connecting
          receiveAcked := by rw [hst, hi, hef]; exact h.receiveAcked
          ordered := by rw [hef]; exact h.ordered
          entry := by rw [hst]; exact h.entry }

theorem Quiet.of_effects {e' : Endpoint} (h : e.Quiet) (hef : e'.effects = e.effects) :
    e'.Quiet := by
  unfold Quiet
  rw [hef]
  exact h

theorem Quiet.of_same {e' : Endpoint} (h : e.Quiet) (hs : SameTalk e e') : e'.Quiet :=
  h.of_effects hs.2.2.2.2

theorem quiet_of_effects_nil (he : e.effects = []) : e.Quiet := by
  intro d hd
  rw [he] at hd
  cases hd

/-! ### Speaking -/

/-- Transmitting a datagram true to the side, which acknowledges something only once the
partner's SYN is accepted, keeps what the side keeps; the timers may change alongside. -/
theorem Talks.speak (h : e.Talks l t) {d : Bytes} (hd : TrueTo l.iss l.config l.accepted d)
    (hack : Acknowledging d → e.session.info.receiveInitial = l.peerIss ∧
      e.session.info.remote = some l.peerConfig) (T : Timers) :
    Talks { e with effects := e.effects ++ [.transmit d], session := { e.session with timers := T } }
      l t where
  config := h.config
  sendInitial := h.sendInitial
  passive := h.passive
  sendNext := h.sendNext
  stored := h.stored
  held := h.held
  true_to x hx := by
    simp only [Peer.transmissions_append, Peer.transmissions_transmit, List.mem_append,
      List.mem_singleton] at hx
    rcases hx with hx | rfl
    · exact h.true_to x hx
    · exact hd
  answers x hx := by
    simp only [Peer.transmissions_append, Peer.transmissions_transmit, List.mem_append,
      List.mem_singleton] at hx
    rcases hx with hx | rfl
    · exact h.answers x hx
    · exact hack
  quiet := by simpa using h.quiet
  engaged := h.engaged
  connecting := h.connecting
  receiveAcked := by simpa using h.receiveAcked
  ordered := by simpa using h.ordered
  entry := h.entry

theorem Quiet.speak (h : e.Quiet) {d : Bytes} (hd : ¬ Acknowledging d) (T : Timers) :
    Quiet { e with effects := e.effects ++ [.transmit d], session := { e.session with timers := T } } := by
  intro x hx
  simp only [Peer.transmissions_append, Peer.transmissions_transmit, List.mem_append,
    List.mem_singleton] at hx
  rcases hx with hx | rfl
  · exact h x hx
  · exact hd

/-- Transmitting a header-only segment whose header announces its kind keeps what a side keeps,
when a SYN among them announces the side's numbers and an acknowledging one goes out only once
the partner's SYN is accepted. -/
theorem Talks.transmit (h : e.Talks l t) {hdr : Header} (hf : hdr.Formed)
    (hsyn : ∀ c cfg, hdr = .syn c cfg → c.seq = l.iss ∧ cfg = l.config)
    (hack : hdr.kind ≠ .rst → hdr.common.flags.has .ack = true →
      e.session.info.receiveInitial = l.peerIss ∧ e.session.info.remote = some l.peerConfig) :
    ((Act.transmit hdr).run e).2.Talks l t := by
  rw [Act.run_transmit]
  split
  · rename_i sealed bytes he
    refine h.speak (hdr.trueTo_encode hf he l.accepted hsyn) (fun ha ↦ ?_) _
    obtain ⟨hk, hak⟩ := Header.acknowledging_encode hf he ha
    exact hack hk hak
  · exact h

/-- An RST, or a header without ACK, leaves the partner nothing acknowledged. -/
theorem Quiet.transmit (h : e.Quiet) {hdr : Header} (hf : hdr.Formed)
    (hq : hdr.kind = .rst ∨ hdr.common.flags.has .ack = false) : ((Act.transmit hdr).run e).2.Quiet := by
  rw [Act.run_transmit]
  split
  · rename_i sealed bytes he
    refine h.speak (fun ha ↦ ?_) _
    obtain ⟨hk, hak⟩ := Header.acknowledging_encode hf he ha
    rcases hq with hq | hq
    · exact hk hq
    · rw [hq] at hak
      cases hak
  · exact h

theorem Talks.sendSyn (h : e.Talks l t) (ack : Option UInt16)
    (hack : ack.isSome = true → e.session.info.receiveInitial = l.peerIss ∧
      e.session.info.remote = some l.peerConfig) :
    ((Act.sendSyn ack).run e).2.Talks l t := by
  rw [Act.run_sendSyn]
  refine h.transmit (Header.formed_buildSyn _ _ _) (fun c cfg hc ↦ ?_) (fun _ ha ↦ hack ?_)
  · simp only [Header.buildSyn, Header.syn.injEq] at hc
    obtain ⟨rfl, rfl⟩ := hc
    exact ⟨h.sendInitial, h.config⟩
  · cases ack with
    | none => exact absurd ha (by simp [Header.buildSyn, Header.common, Header.fresh]; decide)
    | some a => rfl

theorem Talks.sendRst (h : e.Talks l t) : (Act.sendRst.run e).2.Talks l t := by
  rw [Act.run_sendRst]
  exact h.transmit (Header.formed_buildRst _ _ _) (fun c cfg hc ↦ by cases hc)
    (fun hk _ ↦ absurd rfl hk)

theorem Talks.replyRst (h : e.Talks l t) (c : Common) : ((Act.replyRst c).run e).2.Talks l t := by
  rw [Act.run_replyRst]
  unfold Act.rstFor
  split
  · rename_i hdr hr
    split at hr
    · cases hr
    · split at hr <;> cases hr <;>
        exact h.transmit (Header.formed_buildRst _ _ _) (fun c cfg hc ↦ by cases hc)
          (fun hk _ ↦ absurd rfl hk)
  · exact h

/-- An acknowledgment goes out only from a side that has accepted its partner's SYN. -/
theorem Talks.sendAck (h : e.Talks l t) (he : e.session.info.receiveInitial = l.peerIss ∧
      e.session.info.remote = some l.peerConfig) : (Act.sendAck.run e).2.Talks l t := by
  rw [Act.run_sendAck]
  split
  · exact h.transmit (Header.formed_buildData _ _ _) (fun c cfg hc ↦ by cases hc) (fun _ _ ↦ he)
  · exact h.transmit (Header.formed_buildEackData _ _ _ _) (fun c cfg hc ↦ by cases hc)
      (fun _ _ ↦ he)

theorem Quiet.sendRst (h : e.Quiet) : (Act.sendRst.run e).2.Quiet := by
  rw [Act.run_sendRst]
  exact h.transmit (Header.formed_buildRst _ _ _) (.inl rfl)

theorem Quiet.replyRst (h : e.Quiet) (c : Common) : ((Act.replyRst c).run e).2.Quiet := by
  rw [Act.run_replyRst]
  unfold Act.rstFor
  split
  · rename_i hdr hr
    split at hr
    · cases hr
    · split at hr <;> cases hr <;> exact h.transmit (Header.formed_buildRst _ _ _) (.inl rfl)
  · exact h


/-! ### Wake-ups are not what a side is judged by -/

section Wakeups

variable (e : Endpoint)

theorem sameTalk_cancelHandshake : SameTalk e (Act.cancelHandshake.run e).2 := by
  rw [Act.run_cancelHandshake]
  exact ⟨rfl, rfl, rfl, rfl, rfl⟩

theorem sameTalk_armHandshake : SameTalk e (Act.armHandshake.run e).2 := by
  rw [Act.run_armHandshake, Act.run_rearmHandshake]
  exact ⟨rfl, rfl, rfl, rfl, rfl⟩

theorem sameTalk_cancelKeepAlive : SameTalk e (Act.cancelKeepAlive.run e).2 := by
  rw [Act.run_cancelKeepAlive]
  exact ⟨rfl, rfl, rfl, rfl, rfl⟩

theorem sameTalk_armKeepAlive : SameTalk e (Act.armKeepAlive.run e).2 := by
  rw [Act.run_armKeepAlive]
  split
  · exact ⟨rfl, rfl, rfl, rfl, rfl⟩
  · split <;> exact ⟨rfl, rfl, rfl, rfl, rfl⟩

theorem sameTalk_cancelDisconnect : SameTalk e (Act.cancelDisconnect.run e).2 := by
  rw [Act.run_cancelDisconnect]
  exact ⟨rfl, rfl, rfl, rfl, rfl⟩

theorem sameTalk_armDisconnect : SameTalk e (Act.armDisconnect.run e).2 := by
  rw [Act.run_armDisconnect]
  exact ⟨rfl, rfl, rfl, rfl, rfl⟩

theorem sameTalk_cancelRetransmissions : SameTalk e (Act.cancelRetransmissions.run e).2 := by
  rw [Act.run_cancelRetransmissions]
  split <;> exact ⟨rfl, rfl, rfl, rfl, rfl⟩

theorem sameTalk_cancelAllTimers : SameTalk e (Act.cancelAllTimers.run e).2 := by
  rw [Act.run_cancelAllTimers]
  exact (((sameTalk_cancelRetransmissions e).trans (sameTalk_cancelHandshake _)).trans
    (sameTalk_cancelKeepAlive _)).trans (sameTalk_cancelDisconnect _)

theorem sameTalk_leave (st : State) : SameTalk e ((Act.leave st).run e).2 := by
  cases st with
  | closed | waiting => exact ⟨rfl, rfl, rfl, rfl, rfl⟩
  | initiating | connecting => exact sameTalk_cancelHandshake e
  | connected =>
    rw [Act.run_leave_connected]
    exact (sameTalk_cancelRetransmissions e).trans (sameTalk_cancelKeepAlive _)
  | disconnecting => exact sameTalk_cancelDisconnect e

end Wakeups

/-! ### Changing state -/

/-- What entering `next` needs of a side: for a state that forgets the partner, nothing
acknowledged to it in the event so far; for an opening state, nothing delivered or accepted;
for an engaged state, the partner's SYN accepted, with nothing delivered past it while
connecting; and, to connect, the last delivered number in step with the deliveries and the
event's reason. -/
def Admits (e : Endpoint) (l : Ledger) (t : Prop) : State → Prop
  | .closed => e.Quiet
  | .waiting => e.Quiet ∧ l.delivered ++ Side.deliveries e.effects = [] ∧ l.accepted = []
  | .initiating => l.delivered ++ Side.deliveries e.effects = [] ∧ l.accepted = []
  | .connecting => (l.delivered ++ Side.deliveries e.effects = [] ∧ l.accepted = []) ∧
      (e.session.info.receiveInitial = l.peerIss ∧ e.session.info.remote = some l.peerConfig) ∧
      e.session.info.receiveAcked = l.peerIss
  | .connected => (e.session.info.receiveInitial = l.peerIss ∧
      e.session.info.remote = some l.peerConfig) ∧
      e.session.info.receiveAcked = l.peerIss + (l.delivered ++ Side.deliveries e.effects).length.toUInt16 ∧
      t
  | .disconnecting => True

theorem Admits.of_same {e' : Endpoint} {next : State} (h : e.Admits l t next) (hs : SameTalk e e') :
    e'.Admits l t next := by
  obtain ⟨-, hi, -, -, hef⟩ := hs
  cases next with
  | closed => exact Quiet.of_effects h hef
  | waiting =>
    refine ⟨Quiet.of_effects h.1 hef, ?_⟩
    rw [hef]
    exact h.2
  | initiating => rw [Admits, hef]; exact h
  | connecting => rw [Admits, hef, hi]; exact h
  | connected => rw [Admits, hef, hi]; exact h
  | disconnecting => trivial

/-- Marking the session with the state it is entering, given what that state needs. -/
theorem Talks.setState (h : e.Talks l t) {next : State} (hreq : e.Admits l t next) :
    Talks { e with session := { e.session with state := next } } l t where
  config := h.config
  sendInitial := h.sendInitial
  passive := h.passive
  sendNext := h.sendNext
  stored := h.stored
  held := h.held
  true_to := h.true_to
  answers := h.answers
  quiet hst := by
    cases next with
    | waiting => exact hreq.2
    | initiating => exact hreq
    | connecting => exact hreq.1
    | closed | connected | disconnecting => cases hst
  engaged hst := by
    cases next with
    | connecting => exact hreq.2.1
    | connected => exact hreq.1
    | closed | waiting | initiating | disconnecting => cases hst
  connecting hst := by
    cases hst
    exact hreq.2.2
  receiveAcked hst := by
    cases hst
    exact hreq.2.1
  ordered := h.ordered
  entry hst := by
    cases hst
    exact hreq.2.2

/-- Arriving in `closed` or `waiting` forgets the partner and the windows; the event has
acknowledged nothing to the partner. -/
theorem Talks.arrive_quiet (h : e.Talks l t) (hq : e.Quiet)
    (hst : e.session.state = .closed ∨ e.session.state = .waiting) {next : State}
    (hnext : next = .closed ∨ next = .waiting) : ((Act.arrive next).run e).2.Talks l t := by
  have harr : ((Act.arrive next).run e).2 = (Act.dropWindows.run (Act.cancelAllTimers.run e).2).2 := by
    rcases hnext with rfl | rfl
    · exact Act.run_arrive_closed e
    · exact Act.run_arrive_waiting e
  rw [harr, Act.run_dropWindows]
  have h₁ := h.of_same ((sameTalk_cancelAllTimers e).trans (sameTalk_cancelRetransmissions _))
  have hq₁ := hq.of_same ((sameTalk_cancelAllTimers e).trans (sameTalk_cancelRetransmissions _))
  have hst₁ : ((Act.cancelRetransmissions.run (Act.cancelAllTimers.run e).2).2).session.state =
      e.session.state :=
    ((sameTalk_cancelAllTimers e).trans (sameTalk_cancelRetransmissions _)).1
  generalize (Act.cancelRetransmissions.run (Act.cancelAllTimers.run e).2).2 = e₁ at h₁ hq₁ hst₁
  rw [← hst₁] at hst
  exact { config := h₁.config, sendInitial := h₁.sendInitial, passive := h₁.passive,
          sendNext := h₁.sendNext
          stored := fun ring hr ↦ by cases hr
          held := fun ring hr ↦ by cases hr
          true_to := h₁.true_to
          answers := fun d hd ha ↦ absurd ha (hq₁ d hd)
          quiet := h₁.quiet
          engaged := fun he ↦ by rcases hst with hst | hst <;> simp [hst, State.isEngaged] at he
          connecting := fun hc ↦ by rcases hst with hst | hst <;> simp [hst] at hc
          receiveAcked := fun hc ↦ by rcases hst with hst | hst <;> simp [hst] at hc
          ordered := h₁.ordered
          entry := fun hc ↦ by rcases hst with hst | hst <;> simp [hst] at hc }

/-- Opening the windows, once the partner's configuration is known, starts them empty: nothing
stored, nothing held. -/
theorem Talks.openWindows (h : e.Talks l t) (hr : e.session.info.remote = some l.peerConfig) :
    (Act.openWindows.run e).2.Talks l t := by
  rw [Act.run_openWindows]
  exact { config := h.config, sendInitial := h.sendInitial, passive := h.passive,
          sendNext := h.sendNext
          stored := fun ring hring ↦ by
            cases hring
            rw [hr, Option.getD_some]
            exact ⟨(SegmentBuffer.WellFormed.new _ _).setBase _, by simp, SegmentBuffer.Keeps.setBase _⟩
          held := fun ring hr ↦ by
            cases hr
            exact ⟨(SegmentBuffer.WellFormed.new _ _).setBase _, by simp [h.config],
              SegmentBuffer.Keeps.setBase _⟩
          true_to := h.true_to
          answers := h.answers
          quiet := h.quiet
          engaged := h.engaged
          connecting := h.connecting
          receiveAcked := h.receiveAcked
          ordered := h.ordered
          entry := h.entry }

/-- Arriving in the state the session is marked with. -/
theorem Talks.arrive (h : e.Talks l t) {next : State} (hst : e.session.state = next)
    (hq : next = .closed ∨ next = .waiting → e.Quiet) : ((Act.arrive next).run e).2.Talks l t := by
  cases next with
  | closed => exact h.arrive_quiet (hq (.inl rfl)) (.inl hst) (.inl rfl)
  | waiting => exact h.arrive_quiet (hq (.inr rfl)) (.inr hst) (.inr rfl)
  | initiating =>
    rw [Act.run_arrive_initiating]
    exact (h.sendSyn none (fun hs ↦ by cases hs)).of_same (sameTalk_armHandshake _)
  | connecting =>
    rw [Act.run_arrive_connecting]
    refine (h.sendSyn _ (fun _ ↦ h.engaged ?_)).of_same (sameTalk_armHandshake _)
    rw [hst]
    rfl
  | connected =>
    rw [Act.run_arrive_connected]
    have hr := (h.engaged (by rw [hst]; rfl)).2
    split
    · exact h.openWindows hr
    · exact (h.openWindows hr).of_same (sameTalk_armKeepAlive _)
  | disconnecting =>
    rw [Act.run_arrive_disconnecting]
    exact h.of_same (sameTalk_armDisconnect e)

/-- Reporting the state entered changes nothing a side keeps. -/
theorem Talks.entered (h : e.Talks l t) (st : State) :
    Talks { e with effects := e.effects ++ [.entered st] } l t where
  config := h.config
  sendInitial := h.sendInitial
  passive := h.passive
  sendNext := h.sendNext
  stored := h.stored
  held := h.held
  true_to := by simpa using h.true_to
  answers := by simpa using h.answers
  quiet := by simpa using h.quiet
  engaged := h.engaged
  connecting := h.connecting
  receiveAcked := by simpa using h.receiveAcked
  ordered := by simpa using h.ordered
  entry := h.entry

/-- Entering a state keeps what a side keeps, given what the state needs. -/
theorem Talks.enter (h : e.Talks l t) {next : State} (hreq : e.Admits l t next) :
    ((Act.enter next).run e).2.Talks l t := by
  rw [Act.run_enter]
  split
  · exact h
  · dsimp only
    have hs := sameTalk_leave e e.session.state
    refine Talks.entered (Talks.arrive ((h.of_same hs).setState (hreq.of_same hs)) rfl ?_) next
    intro hq
    have hquiet : e.Quiet := by
      rcases hq with rfl | rfl
      · exact hreq
      · exact hreq.1
    exact hquiet.of_effects hs.2.2.2.2

end Endpoint

end ReliableDatagram
