import ReliableDatagram.Proofs.Sides
/-!
# Two sides agree, and deliver in order

A conversation is two sessions that only ever hear each other. Each side keeps what it keeps
towards its partner (`Side.Sound`): what `Endpoint.Talks` asks of its endpoint between events,
against the side's `ledger`, and, of everything it ever transmitted, that the datagram is true
to it and that one which acknowledges anything went out once the partner's SYN was accepted.

The ledger is read off the two sides: each side's own initial number, configuration and passive
flag, the payloads it accepted and delivered, and its partner's numbers and accepted payloads. The
numbers read off a session are those of its opening, since `Talks` fixes them for good.

Both sides keep this from the opening on (`Conversation.Reachable.sound`): an event at one
side keeps its own part by `Side.Sound.take`, and its partner's part by `Side.Sound.partner`,
since the side's numbers stay and its accepted payloads only grow. The two properties of a
conversation are read off:

* `Conversation.Reachable.delivered_prefix`: while a side has accepted fewer than `2^16`
  payloads, its partner has delivered a prefix of them;
* `Conversation.Reachable.handshake_agreement`: a connected side holds its partner's initial
  number and configuration, and counts its deliveries and its accepted payloads from the two
  initial numbers; an opening side has delivered and accepted nothing; and a side becomes
  connected only while opening, on the arrival of a datagram its partner transmitted after
  accepting the side's SYN.
-/

namespace ReliableDatagram

@[simp] theorem Party.peer_peer (p : Party) : p.peer.peer = p := by
  cases p <;> rfl

/-- There are two parties: one that is not `p` is `p`'s partner. -/
theorem Party.eq_peer_of_ne {p q : Party} (h : q ≠ p) : q = p.peer := by
  revert h
  cases p <;> cases q <;> decide

namespace Endpoint

variable {e : Endpoint} {l : Ledger} {t : Prop}

/-- Once an event is over, its deliveries join the ledger and its effects are cleared; the
reason for connecting has served. -/
theorem Talks.settle (h : e.Talks l t) :
    Talks { e with effects := [] } { l with delivered := l.delivered ++ Side.deliveries e.effects }
      True where
  config := h.config
  sendInitial := h.sendInitial
  passive := h.passive
  sendNext := h.sendNext
  stored ring hr := let hs := h.stored ring hr; ⟨hs.wf, hs.room, hs.true_to⟩
  held ring hr := let hh := h.held ring hr; ⟨hh.wf, hh.room, hh.held⟩
  true_to d hd := by cases hd
  answers d hd := by cases hd
  quiet hop := by simpa using h.quiet hop
  engaged := h.engaged
  connecting := h.connecting
  receiveAcked hc := by simpa using h.receiveAcked hc
  ordered hlt := by simpa using h.ordered hlt
  entry _ := trivial

/-- What a side keeps survives its partner accepting more payloads. -/
theorem Talks.grow (h : e.Talks l t) {acc : List Bytes} (hp : l.peerAccepted <+: acc) :
    e.Talks { l with peerAccepted := acc } t :=
  { h with
    stored := fun ring hr ↦ let hs := h.stored ring hr; ⟨hs.wf, hs.room, hs.true_to⟩
    held := fun ring hr ↦ by
      obtain ⟨hwf, hroom, hheld⟩ := h.held ring hr
      exact ⟨hwf, hroom, hheld.mono fun _ _ hn ↦ hn.mono hp⟩
    ordered := fun hlt ↦ (h.ordered (Nat.lt_of_le_of_lt hp.length_le hlt)).trans hp }

end Endpoint

namespace Side

@[simp] theorem record_endpoint (x : Side) (e : Endpoint) (acc : List Bytes) :
    (x.record e acc).endpoint = e := rfl

@[simp] theorem record_accepted (x : Side) (e : Endpoint) (acc : List Bytes) :
    (x.record e acc).accepted = x.accepted ++ acc := rfl

@[simp] theorem record_delivered (x : Side) (e : Endpoint) (acc : List Bytes) :
    (x.record e acc).delivered = x.delivered ++ deliveries e.effects := rfl

@[simp] theorem record_outbox (x : Side) (e : Endpoint) (acc : List Bytes) :
    (x.record e acc).outbox =
      x.outbox ++ (Peer.transmissions e.effects).map fun d ↦ ⟨d, e.session.info⟩ := rfl

/-- The datagram a side transmitted last, if any. -/
def lastSent (x : Side) : Bytes :=
  (x.outbox.map (·.datagram)).getLastD []

/-- The ledger of side `x` talking to side `y`: the numbers of both sessions, the payloads each
side accepted, and those `x` delivered. -/
def ledger (x y : Side) : Ledger where
  iss := x.endpoint.session.info.sendInitial
  config := x.endpoint.session.info.config
  passive := x.endpoint.session.info.passive
  accepted := x.accepted
  delivered := x.delivered
  peerIss := y.endpoint.session.info.sendInitial
  peerConfig := y.endpoint.session.info.config
  peerAccepted := y.accepted

/-- What side `x` keeps towards its partner `y` between events: `Talks` of its endpoint against
its ledger, every datagram it ever transmitted true to it, and each that acknowledges anything
transmitted once the partner's numbers were recorded. -/
structure Sound (x y : Side) : Prop where
  talks : Endpoint.Talks { x.endpoint with effects := [] } (x.ledger y) True
  sent : ∀ m ∈ x.outbox, TrueTo x.endpoint.session.info.sendInitial
    x.endpoint.session.info.config x.accepted m.datagram
  answered : ∀ m ∈ x.outbox, Acknowledging m.datagram →
    m.sender.receiveInitial = y.endpoint.session.info.sendInitial ∧
      m.sender.remote = some y.endpoint.session.info.config

variable {x y : Side}

/-- Recording an event whose endpoint keeps what the side keeps, against a ledger with the side's
payloads before the event and its partner's numbers, keeps the side sound. -/
theorem Sound.record {e : Endpoint} {acc : List Bytes} {l : Ledger} {t : Prop} (h : e.Talks l t)
    (hacc : l.accepted = x.accepted ++ acc) (hdl : l.delivered = x.delivered)
    (hpi : l.peerIss = y.endpoint.session.info.sendInitial)
    (hpc : l.peerConfig = y.endpoint.session.info.config) (hpa : l.peerAccepted = y.accepted)
    (hsent : ∀ m ∈ x.outbox, TrueTo l.iss l.config x.accepted m.datagram)
    (hans : ∀ m ∈ x.outbox, Acknowledging m.datagram →
      m.sender.receiveInitial = l.peerIss ∧ m.sender.remote = some l.peerConfig) :
    (x.record e acc).Sound y := by
  have hl : (x.record e acc).ledger y =
      { l with delivered := l.delivered ++ Side.deliveries e.effects } := by
    show Ledger.mk e.session.info.sendInitial e.session.info.config e.session.info.passive
      (x.accepted ++ acc) (x.delivered ++ deliveries e.effects) y.endpoint.session.info.sendInitial
      y.endpoint.session.info.config y.accepted = _
    rw [h.sendInitial, h.config, h.passive, ← hacc, ← hdl, ← hpi, ← hpc, ← hpa]
  have hprefix : x.accepted <+: x.accepted ++ acc := List.prefix_append _ _
  refine ⟨?_, ?_, ?_⟩
  · rw [hl]
    exact h.settle
  · intro m hm
    show TrueTo e.session.info.sendInitial e.session.info.config (x.accepted ++ acc) m.datagram
    rw [h.sendInitial, h.config, ← hacc]
    simp only [record_outbox, List.mem_append, List.mem_map] at hm
    rcases hm with hm | ⟨d, hd, rfl⟩
    · exact (hsent m hm).mono (hacc ▸ hprefix)
    · exact h.true_to d hd
  · intro m hm ha
    rw [← hpi, ← hpc]
    simp only [record_outbox, List.mem_append, List.mem_map] at hm
    rcases hm with hm | ⟨d, hd, rfl⟩
    · exact hans m hm ha
    · exact h.answers d hd ha

/-- A side stays sound while its partner keeps its numbers and accepts more payloads. -/
theorem Sound.partner {y' : Side} (h : x.Sound y)
    (hiss : y'.endpoint.session.info.sendInitial = y.endpoint.session.info.sendInitial)
    (hcfg : y'.endpoint.session.info.config = y.endpoint.session.info.config)
    (hacc : y.accepted <+: y'.accepted) : x.Sound y' := by
  have hl : x.ledger y' = { x.ledger y with peerAccepted := y'.accepted } := by
    simp only [ledger, hiss, hcfg]
  refine ⟨?_, h.sent, ?_⟩
  · rw [hl]
    exact h.talks.grow hacc
  · intro m hm ha
    rw [hiss, hcfg]
    exact h.answered m hm ha

/-- **One event at a side.** An event other than opening, handed only datagrams the partner
transmitted, leaves a side's endpoint keeping what the side keeps against its ledger before the
event, with the payload it accepted, for the event's reason. -/
theorem Sound.talks_take (hx : x.Sound y) (hy : y.Sound x) {ev : Event}
    (hrecv : ∀ d, ev = .receive d → ∃ m ∈ y.outbox, m.datagram = d)
    (hopen : ∀ iss, ev ≠ .connect iss ∧ ev ≠ .wait iss) :
    ∃ e acc, x.take ev = x.record e acc ∧
      e.Talks { x.ledger y with accepted := x.accepted ++ acc } (x.endpoint.ConnectReason ev) := by
  have h₀ := hx.talks.prepare ev
  have hq := Endpoint.quiet_prepare x.endpoint ev
  -- every event but an offer accepts nothing, and the ledger before it is the side's own
  have hl : ∀ {e : Endpoint}, e.Talks (x.ledger y) (x.endpoint.ConnectReason ev) →
      e.Talks { x.ledger y with accepted := x.accepted ++ [] } (x.endpoint.ConnectReason ev) :=
    fun he ↦ by rw [List.append_nil]; exact he
  cases ev with
  | connect iss => exact absurd rfl (hopen iss).1
  | wait iss => exact absurd rfl (hopen iss).2
  | close => exact ⟨_, [], rfl, hl (h₀.close hq)⟩
  | invalidate => exact ⟨_, [], rfl, hl (h₀.invalidate hq)⟩
  | fire hd timer => exact ⟨_, [], rfl, hl (h₀.timerFired hq hd timer)⟩
  | receive d =>
    obtain ⟨m, hm, rfl⟩ := hrecv d rfl
    refine ⟨_, [], rfl, hl (h₀.receive hq (hy.sent m hm) fun ha hop ↦ .inr ⟨_, rfl, ha, hop⟩)⟩
  | send p =>
    refine ⟨((Act.send p).run (x.endpoint.prepare (.send p))).2,
      if ((Act.send p).run (x.endpoint.prepare (.send p))).1.toBool then [p] else [], rfl, ?_⟩
    have hs := h₀.send p
    -- an accepted offer is the one payload the ledger gains
    cases hok : ((Act.send p).run (x.endpoint.prepare (.send p))).1.toBool
    · rw [hok] at hs
      simp only [Bool.false_eq_true, ↓reduceIte]
      exact hl hs
    · rw [hok] at hs
      simp only [↓reduceIte]
      exact hs

/-- An event keeps a side sound. -/
theorem Sound.take (hx : x.Sound y) (hy : y.Sound x) {ev : Event}
    (hrecv : ∀ d, ev = .receive d → ∃ m ∈ y.outbox, m.datagram = d)
    (hopen : ∀ iss, ev ≠ .connect iss ∧ ev ≠ .wait iss) : (x.take ev).Sound y := by
  obtain ⟨e, acc, htake, h⟩ := hx.talks_take hy hrecv hopen
  rw [htake]
  exact Sound.record h rfl rfl rfl rfl rfl hx.sent hx.answered

/-- An event keeps a side's numbers, and its accepted payloads only grow. -/
theorem Sound.take_keeps (hx : x.Sound y) (hy : y.Sound x) {ev : Event}
    (hrecv : ∀ d, ev = .receive d → ∃ m ∈ y.outbox, m.datagram = d)
    (hopen : ∀ iss, ev ≠ .connect iss ∧ ev ≠ .wait iss) :
    (x.take ev).endpoint.session.info.sendInitial = x.endpoint.session.info.sendInitial ∧
      (x.take ev).endpoint.session.info.config = x.endpoint.session.info.config ∧
      x.accepted <+: (x.take ev).accepted := by
  obtain ⟨e, acc, htake, h⟩ := hx.talks_take hy hrecv hopen
  rw [htake]
  exact ⟨h.sendInitial, h.config, List.prefix_append _ _⟩

/-- An event leaves a side connected only for the event's reason. -/
theorem Sound.take_connected (hx : x.Sound y) (hy : y.Sound x) {ev : Event}
    (hrecv : ∀ d, ev = .receive d → ∃ m ∈ y.outbox, m.datagram = d)
    (hopen : ∀ iss, ev ≠ .connect iss ∧ ev ≠ .wait iss)
    (hc : (x.take ev).endpoint.session.state = .connected) : x.endpoint.ConnectReason ev := by
  obtain ⟨e, acc, htake, h⟩ := hx.talks_take hy hrecv hopen
  rw [htake] at hc
  exact h.entry hc

end Side

namespace Conversation

@[simp] theorem side_step_self (c : Conversation) (p : Party) (ev : Event) :
    (c.step p ev).side p = (c.side p).take ev := by
  cases p <;> rfl

@[simp] theorem side_step_peer (c : Conversation) (p : Party) (ev : Event) :
    (c.step p ev).side p.peer = c.side p.peer := by
  cases p <;> rfl

/-- Each party of the conversation is sound towards the other. -/
def Sound (c : Conversation) : Prop :=
  ∀ p, (c.side p).Sound (c.side p.peer)

/-- An allowed event is no opening, and hands over only what the partner transmitted. -/
theorem Allows.receive {c : Conversation} {p : Party} {ev : Event} (h : c.Allows p ev) :
    ∀ d, ev = .receive d → ∃ m ∈ (c.side p.peer).outbox, m.datagram = d := by
  rintro d rfl
  exact h

theorem Allows.not_open {c : Conversation} {p : Party} {ev : Event} (h : c.Allows p ev) :
    ∀ iss, ev ≠ .connect iss ∧ ev ≠ .wait iss := by
  intro iss
  constructor <;> rintro rfl <;> exact h

/-- One allowed event keeps both parties sound. -/
theorem Sound.step {c : Conversation} (h : c.Sound) {p : Party} {ev : Event} (hallow : c.Allows p ev) :
    (c.step p ev).Sound := by
  have hx := h p
  have hy : (c.side p.peer).Sound (c.side p) := by simpa using h p.peer
  intro q
  by_cases hq : q = p
  · subst hq
    rw [side_step_self, side_step_peer]
    exact hx.take hy hallow.receive hallow.not_open
  · obtain rfl := Party.eq_peer_of_ne hq
    obtain ⟨hiss, hcfg, hacc⟩ := hx.take_keeps hy hallow.receive hallow.not_open
    rw [side_step_peer, Party.peer_peer, side_step_self]
    exact hy.partner hiss hcfg hacc

/-- Opening a fresh session with the numbers of a ledger that has accepted and delivered
nothing. -/
theorem talks_opened {ca : Config} {sa : Session} (ha : Session.new ca = .ok sa) {l : Ledger}
    (hc : l.config = ca) (hacc : l.accepted = []) (hdl : l.delivered = []) :
    ∃ e, (Side.fresh sa).take (if l.passive then .wait l.iss else .connect l.iss) =
      (Side.fresh sa).record e [] ∧ e.Talks l True := by
  obtain rfl := Session.eq_of_new ha
  cases hp : l.passive
  · exact ⟨_, rfl, Endpoint.Talks.connect rfl rfl rfl rfl hc.symm hacc hdl hp⟩
  · exact ⟨_, rfl, Endpoint.Talks.wait rfl rfl rfl rfl hc.symm hacc hdl hp⟩

/-- Both sides of an opening are sound. -/
theorem sound_opening {ca cb : Config} {sa sb : Session} (ha : Session.new ca = .ok sa)
    (hb : Session.new cb = .ok sb) (x y : UInt16) (bActive : Bool) :
    (opening sa sb x y bActive).Sound := by
  let la : Ledger := ⟨x, ca, false, [], [], y, cb, []⟩
  let lb : Ledger := ⟨y, cb, !bActive, [], [], x, ca, []⟩
  obtain ⟨ea, hta, hA⟩ := talks_opened ha (l := la) rfl rfl rfl
  obtain ⟨eb, htb, hB⟩ := talks_opened hb (l := lb) rfl rfl rfl
  have hopen : opening sa sb x y bActive =
      ⟨(Side.fresh sa).record ea [], (Side.fresh sb).record eb []⟩ := by
    rw [← hta, ← htb]
    cases bActive <;> rfl
  rw [hopen]
  -- each side's partner has the numbers of its own ledger and has accepted nothing
  intro p
  cases p
  · exact Side.Sound.record hA rfl rfl hB.sendInitial.symm hB.config.symm rfl (fun m hm ↦ by cases hm)
      (fun m hm ↦ by cases hm)
  · exact Side.Sound.record hB rfl rfl hA.sendInitial.symm hA.config.symm rfl (fun m hm ↦ by cases hm)
      (fun m hm ↦ by cases hm)

/-- **Every conversation that can arise is sound.** -/
theorem Reachable.sound {c : Conversation} (h : c.Reachable) : c.Sound := by
  induction h with
  | opened ha hb x y bActive => exact sound_opening ha hb x y bActive
  | step p ev _ hallow ih => exact ih.step hallow

/-! ### A run: one payload across -/

/-- Two sessions of the default configuration, the first opened actively with initial number
`0`, the second passively with initial number `100`. -/
def pair : Conversation :=
  opening { info := { config := {} } } { info := { config := {} } } 0 100 false

/-- The passive side takes the active side's SYN and answers it. -/
def pairAnswered : Conversation := pair.step .b (.receive pair.a.lastSent)

/-- The active side takes the answer and connects. -/
def pairConnected : Conversation := pairAnswered.step .a (.receive pairAnswered.b.lastSent)

/-- The active side accepts the payload `[104, 105]` and sends it. -/
def pairSent : Conversation := pairConnected.step .a (.send [104, 105])

/-- The passive side takes the data segment: it connects and delivers the payload. -/
def pairDelivered : Conversation := pairSent.step .b (.receive pairSent.a.lastSent)

theorem pairSent_reachable : pairSent.Reachable := by
  have hnew : Session.new {} = .ok { info := { config := {} } } := rfl
  refine .step .a _ (.step .a _ (.step .b _ (.opened hnew hnew 0 100 false) ?_) ?_) trivial
  · unfold Allows
    decide +kernel
  · unfold Allows
    decide +kernel

theorem pairDelivered_reachable : pairDelivered.Reachable := by
  refine .step .b _ pairSent_reachable ?_
  unfold Allows
  decide +kernel

/-- **In-order delivery.** In every conversation that can arise, while a party has accepted
fewer than `2^16` payloads, the payloads its partner has delivered are a prefix of them: each
delivered once, in the order accepted, none invented. -/
theorem Reachable.delivered_prefix {c : Conversation} (hc : c.Reachable) (p : Party)
    (hlt : (c.side p).accepted.length < 2 ^ 16) :
    (c.side p.peer).delivered <+: (c.side p).accepted := by
  have hs := (hc.sound p.peer).talks
  have hord := hs.ordered (by simpa [Side.ledger] using hlt)
  simpa [Side.ledger] using hord

/-- In the run above, the payload the active side accepted is the one the passive side
delivered. -/
theorem pairDelivered_prefix : pairDelivered.Reachable ∧
    (pairDelivered.side .a).accepted.length < 2 ^ 16 ∧
    (pairDelivered.side .b).delivered = [[104, 105]] ∧
    (pairDelivered.side .b).delivered <+: (pairDelivered.side .a).accepted :=
  ⟨pairDelivered_reachable, by decide +kernel, by decide +kernel,
    Reachable.delivered_prefix pairDelivered_reachable .a (by decide +kernel)⟩

/-- **Handshake agreement.** In every conversation that can arise, a connected side holds its
partner's initial number and configuration, its last delivered number is the partner's initial
number moved on by one for each delivery, and its next number to send is its own initial number
moved on past the SYN and each accepted payload; an opening side has delivered and accepted
nothing; and a side becomes connected only from an opening state, on the arrival of a datagram
that its partner transmitted once it had recorded the side's initial number and
configuration. -/
theorem Reachable.handshake_agreement {c : Conversation} (hc : c.Reachable) (p : Party) :
    ((c.side p).endpoint.session.state = .connected →
      (c.side p).endpoint.session.info.receiveInitial =
          (c.side p.peer).endpoint.session.info.sendInitial ∧
        (c.side p).endpoint.session.info.remote =
          some (c.side p.peer).endpoint.session.info.config ∧
        (c.side p).endpoint.session.info.receiveAcked =
          (c.side p.peer).endpoint.session.info.sendInitial + (c.side p).delivered.length.toUInt16 ∧
        (c.side p).endpoint.session.info.sendNext =
          (c.side p).endpoint.session.info.sendInitial + 1 + (c.side p).accepted.length.toUInt16) ∧
    ((c.side p).endpoint.session.state.isOpening = true →
      (c.side p).delivered = [] ∧ (c.side p).accepted = []) ∧
    (∀ ev, c.Allows p ev → (c.side p).endpoint.session.state ≠ .connected →
      ((c.step p ev).side p).endpoint.session.state = .connected →
      (c.side p).endpoint.session.state.isOpening = true ∧
        ∃ m ∈ (c.side p.peer).outbox, ev = .receive m.datagram ∧
          m.sender.receiveInitial = (c.side p).endpoint.session.info.sendInitial ∧
          m.sender.remote = some (c.side p).endpoint.session.info.config) := by
  have hs := hc.sound p
  have hy : (c.side p.peer).Sound (c.side p) := by simpa using hc.sound p.peer
  refine ⟨fun hcon ↦ ?_, fun hop ↦ ?_, fun ev hallow hnot hcon ↦ ?_⟩
  · obtain ⟨hri, hrem⟩ := hs.talks.engaged (by rw [show (c.side p).endpoint.session.state = _ from hcon]; rfl)
    exact ⟨hri, hrem, by simpa [Side.ledger] using hs.talks.receiveAcked hcon, hs.talks.sendNext⟩
  · simpa [Side.ledger] using hs.talks.quiet hop
  · rw [side_step_self] at hcon
    -- the side was not connected, so the event is the arrival of an acknowledging datagram
    rcases hs.take_connected hy hallow.receive hallow.not_open hcon with hwas | ⟨d, rfl, hack, hop⟩
    · exact absurd hwas hnot
    · obtain ⟨m, hm, rfl⟩ := hallow.receive d rfl
      exact ⟨hop, m, hm, rfl, hy.answered m hm hack⟩

/-- In the run above, the passive side connects on the data segment, which the active side
transmitted after recording the passive side's numbers. -/
theorem pairDelivered_agreement : pairSent.Reachable ∧
    (pairSent.side .b).endpoint.session.state = .connecting ∧
    (pairDelivered.side .b).endpoint.session.state = .connected ∧
    ∃ m ∈ (pairSent.side .a).outbox, Event.receive pairSent.a.lastSent = .receive m.datagram ∧
      m.sender.receiveInitial = (pairSent.side .b).endpoint.session.info.sendInitial ∧
      m.sender.remote = some (pairSent.side .b).endpoint.session.info.config := by
  have hentry := (Reachable.handshake_agreement pairSent_reachable .b).2.2
    (.receive pairSent.a.lastSent) (by unfold Allows; decide +kernel) (by decide +kernel)
    (by decide +kernel)
  exact ⟨pairSent_reachable, by decide +kernel, by decide +kernel, hentry.2⟩

end Conversation

end ReliableDatagram
