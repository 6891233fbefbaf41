import ReliableDatagram.Proofs.ReceivingHalf
/-!
# In-order delivery against any input

Each event moves the receiving half of a session (`Session.receiver`) by one step of the
receiver on the payload the event hands it (`Session.arrival`), read in the terms of
`Endpoint.Takes`: an event that leaves a session anywhere but `connected` delivers nothing; one
from `connecting` or `connected` to `connected` delivers what the receiver delivers and leaves it
holding what the receiver holds; and completing the handshake from `initiating` starts with
nothing held. The handshake itself is the one place the receive ring is built anew
(`Act.establish_receives`), so the only fact about the past it needs is that a connected session's
ring fits its window (`Session.ReadyToReceive`), kept by every event (`Reachable.readyToReceive`).

So a stay in `connected`, from a point where nothing is held, is a run of the receiver over the
payloads the events hand it (`Endpoint.Reachable.runs_receiver`), and the receiver's theorem
applies. The main statement, `Endpoint.Reachable.delivers_in_order`, says that no event leaving a
session outside `connected` delivers anything, that a stay begins from `connecting` or with
nothing held, and that in a stay the `j`-th payload delivered is the first that arrived for the
`j`-th number after the last delivered one at the start, numbered so in its segment, that nothing
has arrived for the number after the last delivered one, and that the last delivered number moves
with each delivery.
-/

namespace ReliableDatagram

namespace Session

/-- What the receiving half needs of a session before an event: its windows fit its state, its
buffers are well formed and, while connected, have room for a segment, and its configuration is
usable. -/
structure ReadyToReceive (s : Session) : Prop where
  fit : s.WindowsFit
  sound : s.WindowsSound
  roomy : s.Roomy
  valid : s.info.config.isValid = true

/-- A connected session ready to receive holds its receive ring as the receiving half needs
it. -/
theorem ReadyToReceive.receiving {s : Session} (h : s.ReadyToReceive) (hst : s.state = .connected) :
    ∃ ring, s.receiveRing = some ring ∧ s.Receiving ring := by
  have hfit := h.fit
  unfold WindowsFit at hfit
  rw [hst] at hfit
  obtain ⟨_, _, _, ring, -, -, -, hr, hw⟩ := hfit
  exact ⟨ring, hr, hw.recv_base, hw.recv_capacity, h.roomy hst ring hr, h.sound.receiveRing ring hr⟩

end Session

/-! ### What an action does to the receiving half -/

namespace Endpoint

open Side

/-- What an action does to the receiving half on arrival `a`: it keeps the receive ring roomy;
ending anywhere but `connected` it delivers nothing; from `connecting` or `connected` to
`connected` it takes the arrival as the receiver does; and from `initiating` to `connected` it
starts with nothing held and nothing delivered. -/
structure Takes (e e' : Endpoint) (a : Option (Nat × Bytes)) : Prop where
  roomy : e'.session.Roomy
  quiet : e'.session.state ≠ .connected → deliveries e'.effects = deliveries e.effects
  received : e.session.state = .connected ∨ e.session.state = .connecting →
    e'.session.state = .connected → Received e e' a
  fresh : e.session.state = .initiating → e'.session.state = .connected →
    e'.session.receiver = .empty e'.session.info.config.maxOutstanding.toNat ∧
      deliveries e'.effects = deliveries e.effects

variable {e e₁ e₂ : Endpoint} {a : Option (Nat × Bytes)}

theorem Received.receiveAcked_none (h : Received e e₁ none) :
    e₁.session.info.receiveAcked = e.session.info.receiveAcked := by
  rw [h.receiveAcked, Receiver.step_none]
  simp

theorem Received.receiver_none (h : Received e e₁ none) :
    e₁.session.receiver = e.session.receiver := by
  rw [h.receiver, Receiver.step_none]

theorem Received.arrivalOf_none (h : Received e e₁ none) (n : UInt16) (p : Bytes) :
    e₁.session.info.arrivalOf n p = e.session.info.arrivalOf n p := by
  unfold Info.arrivalOf
  rw [h.receiveAcked_none, h.config]

/-- Taking nothing, then an arrival. -/
theorem Received.none_trans (h : Received e e₁ none) (h' : Received e₁ e₂ a) : Received e e₂ a where
  connected := h'.connected
  config := h'.config.trans h.config
  deliveries := by
    rw [h'.deliveries, h.deliveries, h.receiver_none, Receiver.step_none, List.append_nil]
  receiver := by rw [h'.receiver, h.receiver_none]
  receiveAcked := by rw [h'.receiveAcked, h.receiveAcked_none, h.receiver_none]
  roomy := h'.roomy

namespace Takes

/-- An action that leaves the receiving half alone, on an arrival a connected session does not
take. -/
theorem of_receivesAs (hr : e.session.Roomy) (h : ReceivesAs e e₁)
    (ha : e.session.state = .connected → a = none) : Takes e e₁ a where
  roomy := h.roomy hr
  quiet _ := h.deliveries
  received _ hst₁ := by
    rw [ha (h.state ▸ hst₁)]
    exact h.received hst₁ hr
  fresh hst hst₁ := by
    rw [h.state, hst] at hst₁
    cases hst₁

/-- An action that ends anywhere but `connected`, delivering nothing. -/
theorem of_not_connected (hst : e₁.session.state ≠ .connected)
    (hd : deliveries e₁.effects = deliveries e.effects) : Takes e e₁ a where
  roomy h := absurd h hst
  quiet _ := hd
  received _ h := absurd h hst
  fresh _ h := absurd h hst

/-- An action from `connecting` or `connected` that ends connected, taking the arrival. -/
theorem of_received (h : Received e e₁ a)
    (hst : e.session.state = .connected ∨ e.session.state = .connecting) : Takes e e₁ a where
  roomy := h.roomy
  quiet h' := absurd h.connected h'
  received _ _ := h
  fresh h' _ := by
    rcases hst with hst | hst <;> rw [hst] at h' <;> cases h'

/-- Completing the handshake from `initiating`: the session reaches `connected` through an
endpoint outside it that has delivered nothing more, taking nothing, so it holds nothing. -/
theorem of_fresh (hst : e.session.state = .initiating) (hst₁ : e₁.session.state ≠ .connected)
    (hd : deliveries e₁.effects = deliveries e.effects) (h : Received e₁ e₂ none) :
    Takes e e₂ a where
  roomy := h.roomy
  quiet h' := absurd h.connected h'
  received h' _ := by
    rcases h' with h' | h' <;> rw [hst] at h' <;> cases h'
  fresh _ _ := by
    refine ⟨?_, ?_⟩
    · rw [h.receiver_none, Session.receiver_of_not_connected hst₁, h.config]
    · rw [h.deliveries, Receiver.step_none, List.append_nil, hd]

end Takes

end Endpoint

/-! ### Entering a state and completing the handshake -/

namespace Act

open Endpoint Side

variable (e : Endpoint)

theorem deliveries_arrive (next : State) :
    deliveries ((arrive next).run e).2.effects = deliveries e.effects := by
  cases next with
  | closed | waiting =>
    first
      | rw [run_arrive_closed, run_dropWindows]
      | rw [run_arrive_waiting, run_dropWindows]
    rw [(sameTalk_cancelRetransmissions _).2.2.2.2, (sameTalk_cancelAllTimers e).2.2.2.2]
  | initiating =>
    rw [run_arrive_initiating, (sameTalk_armHandshake _).2.2.2.2]
    exact (receivesAs_sendSyn e _).deliveries
  | connecting =>
    rw [run_arrive_connecting, (sameTalk_armHandshake _).2.2.2.2]
    exact (receivesAs_sendSyn e _).deliveries
  | connected =>
    rw [run_arrive_connected]
    split
    · rw [run_openWindows]
    · rw [(sameTalk_armKeepAlive _).2.2.2.2, run_openWindows]
  | disconnecting =>
    rw [run_arrive_disconnecting, (sameTalk_armDisconnect e).2.2.2.2]

/-- Entering a state delivers nothing. -/
theorem deliveries_enter (next : State) :
    deliveries ((enter next).run e).2.effects = deliveries e.effects := by
  rw [run_enter]
  split
  · rfl
  · dsimp only
    rw [deliveries_append, deliveries_entered, List.append_nil, deliveries_arrive,
      (sameTalk_leave e e.session.state).2.2.2.2]

/-- Arriving in `connected` opens a fresh receive ring starting two past the last delivered
number, and keeps the state, the connection information and the effects. -/
theorem arrive_connected_opens :
    ((arrive .connected).run e).2.session.state = e.session.state ∧
      ((arrive .connected).run e).2.session.info = e.session.info ∧
      ((arrive .connected).run e).2.session.receiveRing = some ((SegmentBuffer.new
        e.session.info.config.maxSegmentSize e.session.info.config.maxOutstanding).setBase
        (e.session.info.receiveAcked + 2)) ∧
      ((arrive .connected).run e).2.effects = e.effects := by
  rw [run_arrive_connected]
  split
  · exact ⟨rfl, rfl, rfl, rfl⟩
  · obtain ⟨hst, hi, -, hr, hef⟩ := sameTalk_armKeepAlive (openWindows.run e).2
    rw [hst, hi, hr, hef, run_openWindows]
    exact ⟨rfl, rfl, rfl, rfl⟩

/-- Entering `connected` from elsewhere: the connection information stays, the receive ring is
a fresh one, and the change is reported. -/
theorem enter_connected_opens (hne : e.session.state ≠ .connected) :
    ((enter .connected).run e).2.session.state = .connected ∧
      ((enter .connected).run e).2.session.info = e.session.info ∧
      ((enter .connected).run e).2.session.receiveRing = some ((SegmentBuffer.new
        e.session.info.config.maxSegmentSize e.session.info.config.maxOutstanding).setBase
        (e.session.info.receiveAcked + 2)) ∧
      ((enter .connected).run e).2.effects = e.effects ++ [.entered .connected] := by
  rw [run_enter, if_neg hne]
  obtain ⟨-, hi₁, -, -, hef₁⟩ := sameTalk_leave e e.session.state
  obtain ⟨hst₂, hi₂, hr₂, hef₂⟩ := arrive_connected_opens { ((leave e.session.state).run e).2 with
    session := { ((leave e.session.state).run e).2.session with state := .connected } }
  dsimp only at hst₂ hi₂ hr₂ hef₂ ⊢
  exact ⟨hst₂, hi₂.trans hi₁, hr₂.trans (by rw [hi₁]), by rw [hef₂, hef₁]⟩

/-- The receive ring built on completing the handshake is as the receiving half needs it, and
holds nothing. -/
theorem receiving_opened {s : Session} (hc : s.info.config.isValid = true) :
    s.Receiving ((SegmentBuffer.new s.info.config.maxSegmentSize
      s.info.config.maxOutstanding).setBase (s.info.receiveAcked + 2)) ∧
    ((SegmentBuffer.new s.info.config.maxSegmentSize s.info.config.maxOutstanding).setBase
      (s.info.receiveAcked + 2)).view.heldList = List.replicate s.info.config.maxOutstanding.toNat none := by
  have hM := Config.maxOutstanding_pos hc
  have hcap : max s.info.config.maxOutstanding.toNat 1 = s.info.config.maxOutstanding.toNat :=
    Nat.max_eq_left hM
  refine ⟨⟨SegmentBuffer.base_setBase _ _, by rw [SegmentBuffer.capacity_new_setBase, hcap], ?_,
    (SegmentBuffer.WellFormed.new _ _).setBase _⟩, ?_⟩
  · rw [SegmentBuffer.slotSize_setBase, SegmentBuffer.slotSize_new]
    exact Nat.le_max_left _ _
  · rw [SegmentBuffer.view_setBase, WindowMap.heldList_reset, SegmentBuffer.capacity_view,
      SegmentBuffer.capacity_new, hcap]

/-- Completing the handshake from `initiating` or `connecting` takes nothing: the session ends
connected with a fresh receive ring as its receiving half needs it, and holds nothing, as
before. -/
theorem establish_receives (hst : e.session.state = .initiating ∨ e.session.state = .connecting)
    (hc : e.session.info.config.isValid = true) :
    Received e (establish.run e).2 none ∧
      ∃ ring, (establish.run e).2.session.receiveRing = some ring ∧
        (establish.run e).2.session.Receiving ring := by
  have hne : e.session.state ≠ .connected := by
    rcases hst with hst | hst <;> rw [hst] <;> nofun
  rw [run_establish]
  obtain ⟨hst₁, hi₁, hr₁, hef₁⟩ := enter_connected_opens { e with session := { e.session with info :=
    { e.session.info with sendUnacked := e.session.info.sendInitial + 1 } } } hne
  generalize ((enter .connected).run { e with session := { e.session with info :=
    { e.session.info with sendUnacked := e.session.info.sendInitial + 1 } } }).2 = e₁
    at hst₁ hi₁ hr₁ hef₁
  have hc₁ : e₁.session.info.config = e.session.info.config := by rw [hi₁]
  have hra₁ : e₁.session.info.receiveAcked = e.session.info.receiveAcked := by rw [hi₁]
  obtain ⟨hring, hheld⟩ := receiving_opened (s := e₁.session) (by rw [hc₁]; exact hc)
  have hroomy : e₁.session.Roomy := by
    intro _ ring hr
    rw [hr₁, ← hc₁, ← hra₁] at hr
    cases hr
    exact hring.room
  refine ⟨⟨hst₁, hc₁, ?_, ?_, ?_, hroomy⟩, _, by rw [hr₁, ← hc₁, ← hra₁], hring⟩
  · rw [hef₁, Receiver.step_none]
    simp
  · rw [Receiver.step_none, Session.receiver_of_not_connected hne,
      Session.receiver_of_connected hst₁ (by rw [hr₁, ← hc₁, ← hra₁]), hheld, hc₁]
    rfl
  · rw [hra₁, Receiver.step_none]
    simp

end Act

/-! ### The reactions -/

namespace Act

open Endpoint Side

variable (e : Endpoint) {a : Option (Nat × Bytes)}

/-- Entering any state but `connected` after actions that delivered nothing. -/
theorem takes_enter {e₁ : Endpoint} {next : State} (hn : next ≠ .connected)
    (hd : deliveries e₁.effects = deliveries e.effects) : Takes e ((enter next).run e₁).2 a :=
  .of_not_connected (by rw [state_enter]; exact hn) (by rw [deliveries_enter, hd])

/-- Giving up after actions that delivered nothing. -/
theorem takes_reset {e₁ : Endpoint} (hd : deliveries e₁.effects = deliveries e.effects) :
    Takes e (reset.run e₁).2 a := by
  rw [run_reset]
  exact takes_enter e (by split <;> nofun) hd

variable {e} (hR : e.session.ReadyToReceive)
include hR

/-- An action that leaves the receiving half alone takes nothing. -/
theorem takes_of_receivesAs {e₁ : Endpoint} (h : ReceivesAs e e₁) : Takes e e₁ none :=
  .of_receivesAs hR.roomy h fun _ ↦ rfl

/-- Completing the handshake from `connecting`, then an action that leaves the receiving half
alone. -/
theorem takes_establish (hst : e.session.state = .connecting) {f : Endpoint → Endpoint}
    (hf : ∀ e', ReceivesAs e' (f e')) : Takes e (f (establish.run e).2) none :=
  .of_received (((establish_receives e (.inr hst) hR.valid).1).trans_receivesAs (hf _)) (.inr hst)

theorem takes_onSyn (c : Common) (config : Config) : Takes e ((onSyn c config).run e).2 none := by
  refine onSyn_cases (motive := fun x ↦ Takes e x none) e c config
    (fun _ ↦ takes_of_receivesAs hR (receivesAs_replyRst e c))
    (fun _ _ _ ↦ takes_enter e (by decide) rfl) ?crossed
    (fun _ ↦ takes_reset e (receivesAs_replyRst e c).deliveries)
    (fun hst _ _ ↦ takes_establish hR hst fun e' ↦ receivesAs_sendAck e')
    (fun _ _ _ ↦ takes_of_receivesAs hR (receivesAs_sendSyn e _))
    (fun _ _ ↦ takes_of_receivesAs hR (receivesAs_sendAck e))
    (fun _ _ ↦ takes_enter e (by decide) (receivesAs_replyRst e c).deliveries)
    (fun _ ↦ takes_of_receivesAs hR (.refl e))
  case crossed =>
    intro hst _ _
    -- the peer's initial number is recorded first, then the windows open empty
    refine @Takes.of_fresh _ { e with session := { e.session with info := { e.session.info with
      remote := some config, receiveInitial := c.seq, receiveAcked := c.seq } } } _ _ hst
      (by rw [hst]; decide) rfl ?_
    refine ((establish_receives _ ?_ ?_).1).trans_receivesAs (receivesAs_sendAck _)
    exacts [.inl hst, hR.valid]

theorem takes_onRst : Takes e (onRst.run e).2 none :=
  onRst_cases (motive := fun x ↦ Takes e x none) e (fun _ ↦ takes_reset e rfl)
    (fun _ ↦ takes_enter e (by decide) (receivesAs_sendRst e).deliveries)
    (fun _ ↦ takes_enter e (by decide) rfl) (fun _ ↦ takes_of_receivesAs hR (.refl e))

theorem takes_onNul (c : Common) : Takes e ((onNul c).run e).2 none :=
  onNul_cases (motive := fun x ↦ Takes e x none) e c
    (fun _ ↦ takes_of_receivesAs hR (receivesAs_replyRst e c))
    (fun hst _ ↦ takes_establish hR hst fun e' ↦ receivesAs_nulArrives e' c)
    (fun _ _ ↦ takes_of_receivesAs hR (receivesAs_replyRst e c))
    (fun _ ↦ takes_of_receivesAs hR (receivesAs_nulArrives e c))
    (fun _ ↦ takes_of_receivesAs hR (.refl e))

/-- A segment arriving at a connected session ready to receive is taken as the receiver takes
its payload. -/
theorem takes_segmentArrives (hst : e.session.state = .connected) (c : Common) (acks : List UInt16)
    {payload : Bytes} (hp : payload.length ≤ e.session.info.config.maxSegmentSize.toNat) :
    Takes e ((segmentArrives c acks payload).run e).2 (e.session.info.arrivalOf c.seq payload) := by
  obtain ⟨ring, hr, hring⟩ := hR.receiving hst
  exact .of_received (segmentArrives_receives e hst hr hring c acks hp) (.inl hst)

/-- Where a segment's payload is not taken, the arrival does not matter. -/
theorem takes_idle {e₁ : Endpoint} (hst : e.session.state ≠ .connected) (h : ReceivesAs e e₁) :
    Takes e e₁ a :=
  .of_receivesAs hR.roomy h fun h' ↦ absurd h' hst

theorem takes_onEack (c : Common) (acks : List UInt16) {payload : Bytes}
    (hp : payload.length ≤ e.session.info.config.maxSegmentSize.toNat) :
    Takes e ((onEack c acks payload).run e).2 (e.session.info.arrivalOf c.seq payload) :=
  onEack_cases (motive := fun x ↦ Takes e x (e.session.info.arrivalOf c.seq payload)) e c acks
    payload (fun h ↦ takes_idle hR (by rcases h with h | h <;> rw [h] <;> decide)
      (receivesAs_replyRst e c))
    (fun _ ↦ takes_reset e (receivesAs_replyRst e c).deliveries)
    (fun hst ↦ takes_segmentArrives hR hst c acks hp)
    (fun h ↦ takes_idle hR (by rcases h with h | h <;> rw [h] <;> decide) (.refl e))

theorem takes_onAck (c : Common) {payload : Bytes}
    (hp : payload.length ≤ e.session.info.config.maxSegmentSize.toNat) :
    Takes e ((onAck c payload).run e).2 (e.session.info.arrivalOf c.seq payload) := by
  refine onAck_cases (motive := fun x ↦ Takes e x (e.session.info.arrivalOf c.seq payload)) e c
    payload (fun h ↦ takes_idle hR (by rcases h with h | h <;> rw [h] <;> decide)
      (receivesAs_replyRst e c)) ?established
    (fun hst _ ↦ takes_idle hR (by rw [hst]; decide) (receivesAs_replyRst e c))
    (fun hst ↦ takes_segmentArrives hR hst c [] hp)
    (fun h ↦ takes_idle hR (by rcases h with h | h <;> rw [h] <;> decide) (.refl e))
  case established =>
    intro hst _
    -- the handshake completes, then the segment is taken by the fresh ring
    obtain ⟨h₁, ring, hr₁, hring₁⟩ := establish_receives e (.inr hst) hR.valid
    have h₂ := segmentArrives_receives _ h₁.connected hr₁ hring₁ c [] (by rw [h₁.config]; exact hp)
    rw [h₁.arrivalOf_none] at h₂
    exact .of_received (h₁.none_trans h₂) (.inr hst)

theorem takes_receive (d : Bytes) :
    Takes e ((receive d).run e).2 (e.session.arrival (.receive d)) := by
  unfold receive
  simp only [run_bind, run_info]
  by_cases hl : d.length > e.session.info.config.maxSegmentSize.toNat
  · -- too long for this side: ignored
    have ha : e.session.arrival (.receive d) = none := by simp [Session.arrival, hl]
    simp only [hl, ↓reduceIte]
    rw [ha]
    exact takes_of_receivesAs hR (.refl e)
  simp only [hl, ↓reduceIte]
  cases hparse : Segment.parse d with
  | error _ =>
    have ha : e.session.arrival (.receive d) = none := by simp [Session.arrival, hl, hparse]
    rw [ha]
    exact takes_of_receivesAs hR (.refl e)
  | ok seg =>
    have hp : seg.payload.length ≤ e.session.info.config.maxSegmentSize.toNat :=
      (Segment.length_payload_le hparse).trans (Nat.le_of_not_lt hl)
    have ha : e.session.arrival (.receive d) =
        seg.data?.bind fun x ↦ e.session.info.arrivalOf x.1 x.2 := by
      simp [Session.arrival, hl, hparse]
    rw [ha]
    dsimp only
    unfold onSegment Segment.data?
    -- only an acknowledgment, plain or extended, carries a payload to take
    cases seg.header with
    | syn c config => exact takes_onSyn hR c config
    | rst _ => exact takes_onRst hR
    | nul c => exact takes_onNul hR c
    | ack c _ => exact takes_onAck hR c hp
    | eack c _ acks => exact takes_onEack hR c acks hp

/-- The handshake wake-up of an opening session: a retry leaves the receiving half alone, giving
up leaves `connected` out of reach. -/
theorem takes_handshakeFired (hd : Handle) (retry : Act Unit)
    (hr : ∀ e', ReceivesAs e' (retry.run e').2) :
    Takes e ((do
      match ← handshakeTimeout hd with
      | some true => retry
      | some false => reset
      | none => pure () : Act Unit).run e).2 none := by
  have hu := receivesAs_handshakeTimeout e hd
  rw [run_bind]
  generalize (handshakeTimeout hd).run e = r at hu ⊢
  obtain ⟨res, e₁⟩ := r
  rcases res with _ | ⟨_ | _⟩
  · exact takes_of_receivesAs hR hu
  · exact takes_reset e hu.deliveries
  · exact takes_of_receivesAs hR (hu.trans (hr e₁))

theorem takes_timerFired (hd : Handle) (timer : Timer) :
    Takes e ((timerFired hd timer).run e).2 none :=
  timerFired_cases (motive := fun x ↦ Takes e x none) e hd timer (takes_of_receivesAs hR (.refl e))
    (fun seq _ _ _ ↦ takes_of_receivesAs hR (receivesAs_retransmitFired e seq hd))
    (fun seq _ _ _ ↦ takes_enter e (by decide)
      ((receivesAs_retransmitFired e seq hd).trans (receivesAs_sendRst _)).deliveries)
    (fun _ _ ↦ takes_of_receivesAs hR (receivesAs_keepAliveFired e hd))
    (fun _ _ ↦ takes_handshakeFired hR hd _ fun e' ↦ receivesAs_sendSyn e' none)
    (fun _ _ ↦ takes_handshakeFired hR hd _ fun e' ↦ by
      rw [run_bind, run_info]
      exact receivesAs_sendSyn e' _)
    (fun _ _ _ ↦ takes_enter e (by decide) rfl)

/-- Opening a closed session enters `initiating` or `waiting`. -/
theorem takes_open (iss : UInt16) (passive : Bool) {next : State} (hn : next ≠ .connected) :
    Takes e ((do
      if (← session).state = .closed then
        start iss passive
        enter next : Act Unit).run e).2 none := by
  rw [run_bind, run_session]
  by_cases hst : e.session.state = .closed
  · simp only [hst, ↓reduceIte, run_bind]
    rw [run_start]
    exact takes_enter e hn rfl
  · simp only [hst, ↓reduceIte, run_pure]
    exact takes_of_receivesAs hR (.refl e)

theorem takes_close : Takes e (close.run e).2 none :=
  close_cases (motive := fun x ↦ Takes e x none) e (takes_of_receivesAs hR (.refl e))
    (fun _ ↦ takes_enter e (by decide) rfl)
    (fun _ ↦ takes_enter e (by decide) (receivesAs_transmit e _).deliveries)
    (fun _ ↦ takes_enter e (by decide) (receivesAs_sendRst e).deliveries)
    (fun _ ↦ takes_enter e (by decide) (receivesAs_sendRst e).deliveries)

theorem takes_send (payload : Bytes) : Takes e ((send payload).run e).2 none :=
  send_cases (motive := fun x ↦ Takes e x none) e payload (takes_of_receivesAs hR (.refl e))
    fun _ ↦ takes_of_receivesAs hR (receivesAs_sendData e payload)

end Act

/-! ### Events -/

namespace Endpoint

open Act

variable {e : Endpoint}

/-- Each event moves the receiving half of a session ready to receive by one step of the
receiver on the payload the event hands it. -/
theorem takes_handle (hR : e.session.ReadyToReceive) (ev : Event) :
    Takes (e.prepare ev) (e.handle ev) (e.session.arrival ev) := by
  have h₀ : (e.prepare ev).session.ReadyToReceive := by
    rw [session_prepare]
    exact hR
  cases ev with
  | connect iss => exact takes_open h₀ iss false nofun
  | wait iss => exact takes_open h₀ iss true nofun
  | close => exact takes_close h₀
  | invalidate => exact takes_enter _ nofun rfl
  | send payload =>
    simp only [handle, Event.act, run_bind, run_pure]
    exact takes_send h₀ payload
  | receive datagram =>
    have := takes_receive h₀ datagram
    rwa [session_prepare] at this
  | fire hd timer => exact takes_timerFired h₀ hd timer

/-- A fresh session is closed, so its rings have nothing to fit. -/
theorem roomy_fresh {c : Config} {s : Session} (hs : Session.new c = .ok s) : s.Roomy := by
  obtain rfl := Session.eq_of_new hs
  nofun

/-- Every session a host can reach is ready to receive. -/
theorem Reachable.readyToReceive (h : e.Reachable) : e.session.ReadyToReceive := by
  induction h with
  | fresh hs =>
    exact ⟨(invariant_fresh hs).windows, windowsSound_fresh hs, roomy_fresh hs,
      (invariant_fresh hs).config⟩
  | handle ev h ih =>
    have h' := h.handle ev
    exact ⟨h'.invariant.windows, h'.windowsSound, (takes_handle ih ev).roomy, h'.invariant.config⟩

/-- One event of a stay in `connected`: it delivers what the receiver delivers on the payload the
event hands over, and leaves the receiving half as the receiver leaves it. -/
theorem Reachable.received_handle (h : e.Reachable)
    (hst : e.session.state = .connected ∨ e.session.state = .connecting) (ev : Event)
    (hst₁ : (e.handle ev).session.state = .connected) :
    Received (e.prepare ev) (e.handle ev) (e.session.arrival ev) :=
  (takes_handle h.readyToReceive ev).received (by rw [session_prepare]; exact hst) hst₁

/-! ### Stays -/

/-- The payloads delivered along a run of events. -/
def deliveredAlong : Endpoint → List Event → List Bytes
  | _, [] => []
  | e, ev :: evs => Side.deliveries (e.handle ev).effects ++ (e.handle ev).deliveredAlong evs

/-- The payloads the events of a run hand to the receiving half. -/
def arrivalsAlong : Endpoint → List Event → List (Option (Nat × Bytes))
  | _, [] => []
  | e, ev :: evs => e.session.arrival ev :: (e.handle ev).arrivalsAlong evs

/-- The payloads that arrive along a run for the receiving half, each with its index: the
payloads delivered before it, counted from `n`, plus its offset past the next expected
number. -/
def acceptedAlong : Endpoint → Nat → List Event → List (Nat × Bytes)
  | _, _, [] => []
  | e, n, ev :: evs => ((e.session.arrival ev).map fun x ↦ (n + x.1, x.2)).toList ++
      (e.handle ev).acceptedAlong (n + (Side.deliveries (e.handle ev).effects).length) evs

/-- Every endpoint a run passes through after its start is connected. -/
def StaysConnected : Endpoint → List Event → Prop
  | _, [] => True
  | e, ev :: evs => (e.handle ev).session.state = .connected ∧ (e.handle ev).StaysConnected evs

end Endpoint

/-- An event carrying a data segment numbered `n` with payload `p`: a datagram decoding to an
acknowledgment, plain or extended, with that number and payload. -/
def Event.Carries (ev : Event) (n : UInt16) (p : Bytes) : Prop :=
  ∃ d seg, ev = .receive d ∧ Segment.parse d = .ok seg ∧ seg.data? = some (n, p)

namespace Session

/-- A payload handed to the receiving half lies within the window, and comes in a data segment
numbered its offset past the next expected number. -/
theorem arrival_eq_some {s : Session} {ev : Event} {o : Nat} {p : Bytes}
    (h : s.arrival ev = some (o, p)) :
    o ≤ s.info.config.maxOutstanding.toNat ∧ ev.Carries (s.info.receiveAcked + 1 + o.toUInt16) p := by
  cases ev with
  | receive d =>
    by_cases hl : d.length > s.info.config.maxSegmentSize.toNat
    · simp [arrival, hl] at h
    cases hparse : Segment.parse d with
    | error _ => simp [arrival, hl, hparse] at h
    | ok seg =>
      cases hdata : seg.data? with
      | none => simp [arrival, hl, hparse, hdata] at h
      | some x =>
        have h' : s.info.arrivalOf x.1 x.2 = some (o, p) := by
          simpa [arrival, hl, hparse, hdata] using h
        unfold Info.arrivalOf at h'
        by_cases hw : (Seq.inWindow x.1 (s.info.receiveAcked + 1)
            s.info.config.maxOutstanding.toUInt16 && !x.2.isEmpty) = true
        · rw [if_pos hw, Option.some.injEq, Prod.mk.injEq] at h'
          obtain ⟨rfl, rfl⟩ := h'
          refine ⟨?_, d, seg, rfl, hparse, ?_⟩
          · -- the window is `maxOutstanding` numbers past the next expected one
            rw [Bool.and_eq_true] at hw
            have hin := hw.1
            unfold Seq.inWindow at hin
            have := UInt16.le_iff_toNat_le.1 (of_decide_eq_true hin)
            rwa [UInt8.toNat_toUInt16] at this
          · rw [hdata, Nat.toUInt16_eq, UInt16.ofNat_toNat]
            unfold Seq.offset
            rw [UInt16.add_comm _ (x.1 - _), UInt16.sub_add_cancel]
        · rw [if_neg hw] at h'
          cases h'
  | _ => simp [arrival] at h

end Session

namespace Endpoint

open Side

variable {e : Endpoint}

/-- One event of a stay, read off the endpoints before and after: the payloads delivered, the
window held, the last delivered number and the configuration after the event. -/
theorem Reachable.step_of_stay (h : e.Reachable)
    (hst : e.session.state = .connected ∨ e.session.state = .connecting) (ev : Event)
    (hst₁ : (e.handle ev).session.state = .connected) :
    deliveries (e.handle ev).effects = (e.session.receiver.step (e.session.arrival ev)).1 ∧
      (e.handle ev).session.receiver = (e.session.receiver.step (e.session.arrival ev)).2 ∧
      (e.handle ev).session.info.receiveAcked = e.session.info.receiveAcked +
        (deliveries (e.handle ev).effects).length.toUInt16 ∧
      (e.handle ev).session.info.config = e.session.info.config := by
  have hr := h.received_handle hst ev hst₁
  have hd : deliveries (e.handle ev).effects = (e.session.receiver.step (e.session.arrival ev)).1 := by
    rw [hr.deliveries, effects_prepare, session_prepare, deliveries_nil, List.nil_append]
  refine ⟨hd, ?_, ?_, ?_⟩
  · rw [hr.receiver, session_prepare]
  · rw [hr.receiveAcked, session_prepare, hd]
  · rw [hr.config, session_prepare]

/-- A stay in `connected` is a run of the receiver: from a reachable endpoint in `connecting` or
`connected`, along events after each of which it is connected, the payloads delivered are those
the receiver delivers on the payloads the events hand it, the payloads that arrive are those it
indexes, each within the window, and the window ends as the receiver's. -/
theorem Reachable.runs_receiver (h : e.Reachable)
    (hst : e.session.state = .connected ∨ e.session.state = .connecting) (n : Nat) {evs : List Event}
    (hs : e.StaysConnected evs) :
    e.deliveredAlong evs = (e.session.receiver.run n (e.arrivalsAlong evs)).1 ∧
      e.acceptedAlong n evs = (e.session.receiver.run n (e.arrivalsAlong evs)).2.1 ∧
      (evs.foldl Endpoint.handle e).session.receiver = (e.session.receiver.run n (e.arrivalsAlong evs)).2.2 ∧
      ∀ a ∈ e.arrivalsAlong evs, ∀ x ∈ a, x.1 ≤ e.session.info.config.maxOutstanding.toNat := by
  induction evs generalizing e n with
  | nil => exact ⟨rfl, rfl, rfl, nofun⟩
  | cons ev evs ih =>
    obtain ⟨hst₁, hs₁⟩ := hs
    obtain ⟨hd, hR, -, hc⟩ := h.step_of_stay hst ev hst₁
    obtain ⟨ih₁, ih₂, ih₃, ih₄⟩ := ih (h.handle ev) (.inl hst₁) (n + (deliveries (e.handle ev).effects).length) hs₁
    rw [hR, hd] at ih₁ ih₂ ih₃
    rw [hc] at ih₄
    refine ⟨?_, ?_, ih₃, ?_⟩
    · rw [deliveredAlong, ih₁, hd]
      rfl
    · rw [acceptedAlong, hd, ih₂]
      rfl
    · intro a ha x hx
      rcases List.mem_cons.1 ha with rfl | ha
      · exact (Session.arrival_eq_some (Option.mem_def.1 hx)).1
      · exact ih₄ a ha x hx

/-- Along a stay the last delivered number moves with each delivery. -/
theorem Reachable.receiveAcked_of_stay (h : e.Reachable)
    (hst : e.session.state = .connected ∨ e.session.state = .connecting) {evs : List Event}
    (hs : e.StaysConnected evs) :
    (evs.foldl Endpoint.handle e).session.info.receiveAcked =
      e.session.info.receiveAcked + (e.deliveredAlong evs).length.toUInt16 := by
  induction evs generalizing e with
  | nil => simp [deliveredAlong]
  | cons ev evs ih =>
    obtain ⟨hst₁, hs₁⟩ := hs
    obtain ⟨-, -, hra, -⟩ := h.step_of_stay hst ev hst₁
    rw [List.foldl_cons, ih (h.handle ev) (.inl hst₁) hs₁, hra, deliveredAlong, List.length_append]
    simp only [Nat.toUInt16_eq, UInt16.ofNat_add, UInt16.add_assoc]

/-- Each payload that arrives along a stay at index `j` came in a data segment numbered `j` past
the number after the last delivered one at the start, counting indices from `n`. -/
theorem Reachable.carried_of_stay (h : e.Reachable)
    (hst : e.session.state = .connected ∨ e.session.state = .connecting) {r : UInt16} {n : Nat}
    (hr : e.session.info.receiveAcked = r + n.toUInt16) {evs : List Event}
    (hs : e.StaysConnected evs) :
    ∀ x ∈ e.acceptedAlong n evs, ∃ ev ∈ evs, ev.Carries (r + 1 + x.1.toUInt16) x.2 := by
  induction evs generalizing e n with
  | nil => nofun
  | cons ev evs ih =>
    obtain ⟨hst₁, hs₁⟩ := hs
    obtain ⟨-, -, hra, -⟩ := h.step_of_stay hst ev hst₁
    intro x hx
    rcases List.mem_append.1 hx with hx | hx
    · -- the payload of this event, numbered its offset past the next expected number
      obtain ⟨y, hy, rfl⟩ := Option.mem_map.1 (Option.mem_toList.1 hx)
      obtain ⟨-, hc⟩ := Session.arrival_eq_some (Option.mem_def.1 hy)
      refine ⟨ev, List.mem_cons_self .., ?_⟩
      rw [hr] at hc
      have : r + n.toUInt16 + 1 + y.1.toUInt16 = r + 1 + (n + y.1).toUInt16 := by
        simp only [Nat.toUInt16_eq, UInt16.ofNat_add]
        ac_rfl
      rwa [this] at hc
    · obtain ⟨ev', hev', hc⟩ := ih (h.handle ev) (.inl hst₁)
        (by rw [hra, hr, Nat.toUInt16_eq, Nat.toUInt16_eq, Nat.toUInt16_eq, UInt16.ofNat_add, UInt16.add_assoc])
        hs₁ x hx
      exact ⟨ev', List.mem_cons_of_mem _ hev', hc⟩

/-! ### In-order delivery -/

/-- What a stay delivers, read against what arrived in it: the `j`-th payload delivered is the
first that arrived for index `j`, nothing has arrived for the index after the last delivered
payload, each payload that arrived for index `j` came in a data segment numbered `j` past the
number after the last delivered one at the start, and the last delivered number moves with each
delivery. -/
structure DeliversAlong (e : Endpoint) (evs : List Event) : Prop where
  first : ∀ j (hj : j < (e.deliveredAlong evs).length),
    Receiver.firstCopy (e.acceptedAlong 0 evs) j = some (e.deliveredAlong evs)[j]
  next : Receiver.firstCopy (e.acceptedAlong 0 evs) (e.deliveredAlong evs).length = none
  numbered : ∀ x ∈ e.acceptedAlong 0 evs, ∃ ev ∈ evs,
    ev.Carries (e.session.info.receiveAcked + 1 + x.1.toUInt16) x.2
  receiveAcked : (evs.foldl Endpoint.handle e).session.info.receiveAcked =
    e.session.info.receiveAcked + (e.deliveredAlong evs).length.toUInt16

/-- How a session delivers from `e` on: no event that leaves it outside `connected` delivers
anything; a stay in `connected` begins from `connecting`, or from `initiating` with nothing held
and nothing delivered; and a stay from `connecting`, or from `connected` with nothing held,
delivers in order. -/
structure DeliversInOrder (e : Endpoint) : Prop where
  quiet : ∀ ev, (e.handle ev).session.state ≠ .connected → deliveries (e.handle ev).effects = []
  entry : ∀ ev, e.session.state ≠ .connected → (e.handle ev).session.state = .connected →
    e.session.state = .connecting ∨
      (e.handle ev).session.receiver = .empty (e.handle ev).session.info.config.maxOutstanding.toNat ∧
        deliveries (e.handle ev).effects = []
  stay : ∀ evs, e.session.state = .connecting ∨
      e.session.state = .connected ∧ e.session.receiver = .empty e.session.info.config.maxOutstanding.toNat →
    e.StaysConnected evs → e.DeliversAlong evs

theorem Reachable.quiet_handle (h : e.Reachable) (ev : Event)
    (hst : (e.handle ev).session.state ≠ .connected) : deliveries (e.handle ev).effects = [] := by
  rw [(takes_handle h.readyToReceive ev).quiet hst, effects_prepare, deliveries_nil]

theorem Reachable.enters_connected (h : e.Reachable) (ev : Event)
    (hst : e.session.state ≠ .connected) (hst₁ : (e.handle ev).session.state = .connected) :
    e.session.state = .connecting ∨
      (e.handle ev).session.receiver = .empty (e.handle ev).session.info.config.maxOutstanding.toNat ∧
        deliveries (e.handle ev).effects = [] := by
  have hm := (moved_handle e h.openedRight ev).move (by rw [hst₁]; exact Ne.symm hst)
  rw [hst₁] at hm
  -- only two edges of the state diagram lead to `connected`
  cases hs : e.session.state with
  | initiating =>
    obtain ⟨hR, hd⟩ := (takes_handle h.readyToReceive ev).fresh (by rw [session_prepare]; exact hs) hst₁
    rw [effects_prepare, deliveries_nil] at hd
    exact .inr ⟨hR, hd⟩
  | connecting => exact .inl rfl
  | _ =>
    rw [hs] at hm
    cases hm

theorem Reachable.deliversAlong (h : e.Reachable)
    (hst : e.session.state = .connecting ∨
      e.session.state = .connected ∧ e.session.receiver = .empty e.session.info.config.maxOutstanding.toNat)
    {evs : List Event} (hs : e.StaysConnected evs) : e.DeliversAlong evs := by
  have hst' : e.session.state = .connected ∨ e.session.state = .connecting :=
    hst.elim .inr fun h ↦ .inl h.1
  -- a stay starts with nothing held, so it is a run of the receiver from an empty window
  have hempty : e.session.receiver = .empty e.session.info.config.maxOutstanding.toNat := by
    rcases hst with hst | ⟨-, hR⟩
    · exact Session.receiver_of_not_connected (by rw [hst]; nofun)
    · exact hR
  obtain ⟨hD, hH, -, hb⟩ := h.runs_receiver hst' 0 hs
  rw [hempty] at hD hH
  obtain ⟨hfirst, hnext⟩ := Receiver.delivers_first_copies _ hb
  rw [← hD, ← hH] at hfirst hnext
  exact ⟨hfirst, hnext, h.carried_of_stay hst' (by simp) hs, h.receiveAcked_of_stay hst' hs⟩

/-- Every reachable session delivers in order: no event that leaves it outside `connected`
delivers anything; a stay in `connected` begins from `connecting`, or from `initiating` with
nothing held; and along a stay from `connecting`, or from `connected` with nothing held, the
`j`-th payload delivered is the first that arrived for the `j`-th number after the last delivered
one at the start, nothing has arrived for the number after the last delivered one, and the last
delivered number moves with each delivery. -/
theorem Reachable.delivers_in_order (h : e.Reachable) : e.DeliversInOrder :=
  ⟨h.quiet_handle, h.enters_connected, fun _ hst hs ↦ h.deliversAlong hst hs⟩

theorem synAcked_delivers_in_order : synAcked.Reachable ∧ synAcked.DeliversInOrder :=
  ⟨synAcked_reachable, Reachable.delivers_in_order synAcked_reachable⟩

/-- Out of order and twice: the payload `[2]` numbered 102 is held, its copy `[9]` is dropped,
and both wait for 101. -/
example : synAcked.deliveredAlong
    [.receive [40, 1, 0, 14, 0, 102, 0, 0, 215, 152, 255, 238, 0, 1, 2],
      .receive [40, 1, 0, 14, 0, 102, 0, 0, 215, 152, 255, 231, 0, 1, 9],
      .receive [40, 1, 0, 14, 0, 101, 0, 0, 215, 153, 255, 239, 0, 1, 1]] = [[1], [2]] := by
  decide

end Endpoint

end ReliableDatagram
