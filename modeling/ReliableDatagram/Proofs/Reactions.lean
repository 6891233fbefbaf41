import ReliableDatagram.Proofs.Connected
/-!
# Every reaction keeps the invariant

A session reacts to what arrives from the network and to what its application asks. For each
handler this module shows that an endpoint with the invariant keeps it. Each proof splits on
the session's state, as the handler does, and closes each branch with the lemma of the action
it runs: answering is speaking (`Invariant.spoken`), a change of state is `Invariant.enter` or
`TimersKept.enter` given what the new state needs, and the data path while connected is
`Endpoint.Established`.

What a branch needs of the session comes from the invariant itself: an opening session has
sent only its SYN, and a connecting one has accepted a usable peer configuration
(`Invariant.sendNext_eq`, `Invariant.remote_usable`). These are what make the handshake's
completion land in aligned windows.
-/

namespace ReliableDatagram

namespace Endpoint

variable {e : Endpoint}

open Act

/-! ### What the invariant says of an opening session -/

/-- An opening session has sent only its SYN. -/
theorem Invariant.sendNext_eq (h : e.Invariant)
    (hst : e.session.state = .waiting ∨ e.session.state = .initiating ∨
      e.session.state = .connecting) :
    e.session.info.sendNext = e.session.info.sendInitial + 1 := by
  have hw := h.windows
  unfold Session.WindowsFit at hw
  rcases hst with hst | hst | hst <;> rw [hst] at hw
  · exact hw.2.2.2.2
  · exact hw
  · exact hw.1

/-- A connecting session has accepted a usable peer configuration. -/
theorem Invariant.remote_usable (h : e.Invariant) (hst : e.session.state = .connecting) :
    ∃ r, e.session.info.remote = some r ∧ r.isValid = true := by
  have hw := h.windows
  unfold Session.WindowsFit at hw
  rw [hst] at hw
  exact hw.2

/-- Completing the handshake leaves an opening session connected, with the invariant. -/
theorem TimersKept.established (h : e.TimersKept) (hc : e.session.info.config.isValid = true)
    (hs : e.session.state ≠ .connected)
    (hn : e.session.info.sendNext = e.session.info.sendInitial + 1)
    (hr : ∃ r, e.session.info.remote = some r ∧ r.isValid = true) :
    (Act.establish.run e).2.Established := by
  refine ⟨h.establish hc hs hn hr, ?_⟩
  rw [run_establish]
  exact state_enter _ _

/-- Recording a usable peer configuration keeps the timer half. -/
theorem TimersKept.accepted (h : e.TimersKept) (c : Common) (config : Config) :
    TimersKept { e with session := { e.session with info := { e.session.info with
      remote := some config, receiveInitial := c.seq, receiveAcked := c.seq } } } :=
  h.setInfo _ rfl

/-! ### Segments -/

/-- Completing the handshake from `connecting`, where the peer is known and usable. -/
theorem Invariant.established_connecting (h : e.Invariant) (hst : e.session.state = .connecting) :
    (Act.establish.run e).2.Established :=
  h.toTimersKept.established h.config (by simp [hst]) (h.sendNext_eq (.inr (.inr hst)))
    (h.remote_usable hst)

/-- Reaction to a SYN. -/
theorem Invariant.onSyn (h : e.Invariant) (c : Common) (config : Config) :
    ((Act.onSyn c config).run e).2.Invariant := by
  have hrst := h.spoken (spoken_replyRst e c)
  refine Act.onSyn_cases (motive := fun x ↦ x.Invariant) e c config (fun _ ↦ hrst) ?answered
    ?crossed (fun hs ↦ hrst.reset (by rw [(spoken_replyRst e c).info]; exact h.sendNext_eq hs))
    (fun hst _ _ ↦ ((h.established_connecting hst).spoken (spoken_sendAck _)).invariant)
    (fun _ _ _ ↦ h.spoken (spoken_sendSyn e _)) (fun _ _ ↦ h.spoken (spoken_sendAck e))
    (fun _ _ ↦ hrst.enter trivial) (fun _ ↦ h)
  case answered =>
    intro hs _ hv
    exact (h.toTimersKept.accepted c config).enter h.config
      (by rcases hs with hs | hs <;> simp [hs]) ⟨h.sendNext_eq (hs.imp_right .inl), config, rfl, hv⟩
  case crossed =>
    intro hst _ hv
    have hest := (h.toTimersKept.accepted c config).established h.config (by simp [hst])
      (h.sendNext_eq (.inr (.inl hst))) ⟨config, rfl, hv⟩
    exact (hest.spoken (spoken_sendAck _)).invariant

/-- Reaction to an RST. -/
theorem Invariant.onRst (h : e.Invariant) : (Act.onRst.run e).2.Invariant :=
  Act.onRst_cases (motive := fun x ↦ x.Invariant) e (fun hs ↦ h.reset (h.sendNext_eq (.inr hs)))
    (fun _ ↦ (h.spoken (spoken_sendRst e)).enter trivial) (fun _ ↦ h.enter trivial) (fun _ ↦ h)

/-- Reaction to a NUL. -/
theorem Invariant.onNul (h : e.Invariant) (c : Common) : ((Act.onNul c).run e).2.Invariant :=
  Act.onNul_cases (motive := fun x ↦ x.Invariant) e c
    (fun _ ↦ h.spoken (spoken_replyRst e c))
    (fun hst _ ↦ ((h.established_connecting hst).nulArrives c).invariant)
    (fun _ _ ↦ h.spoken (spoken_replyRst e c))
    (fun hst ↦ (Established.nulArrives ⟨h, hst⟩ c).invariant) (fun _ ↦ h)

/-- Reaction to an extended acknowledgment. -/
theorem Invariant.onEack (h : e.Invariant) (c : Common) (acks : List UInt16) (payload : Bytes) :
    ((Act.onEack c acks payload).run e).2.Invariant :=
  Act.onEack_cases (motive := fun x ↦ x.Invariant) e c acks payload
    (fun _ ↦ h.spoken (spoken_replyRst e c))
    (fun hst ↦ (h.spoken (spoken_replyRst e c)).reset
      (by rw [(spoken_replyRst e c).info]; exact h.sendNext_eq (.inr (.inr hst))))
    (fun hst ↦ (Established.segmentArrives ⟨h, hst⟩ c acks payload).invariant) (fun _ ↦ h)

/-- Reaction to a plain acknowledgment. -/
theorem Invariant.onAck (h : e.Invariant) (c : Common) (payload : Bytes) :
    ((Act.onAck c payload).run e).2.Invariant :=
  Act.onAck_cases (motive := fun x ↦ x.Invariant) e c payload
    (fun _ ↦ h.spoken (spoken_replyRst e c))
    (fun hst _ ↦ ((h.established_connecting hst).segmentArrives c [] payload).invariant)
    (fun _ _ ↦ h.spoken (spoken_replyRst e c))
    (fun hst ↦ (Established.segmentArrives ⟨h, hst⟩ c [] payload).invariant) (fun _ ↦ h)

/-- Reaction to a decoded segment. -/
theorem Invariant.onSegment (h : e.Invariant) (seg : Segment) :
    ((Act.onSegment seg).run e).2.Invariant := by
  unfold Act.onSegment
  split
  · exact h.onSyn _ _
  · exact h.onRst
  · exact h.onNul _
  · exact h.onAck _ _
  · exact h.onEack _ _ _

/-- Reaction to a datagram from the network, whatever its bytes. -/
theorem Invariant.receive (h : e.Invariant) (datagram : Bytes) :
    ((Act.receive datagram).run e).2.Invariant :=
  receive_cases e datagram h fun seg _ _ ↦ h.onSegment seg

/-! ### Intents -/

/-- Starting a connection attempt from a closed session keeps the timer half. -/
theorem TimersKept.started (h : e.TimersKept) (hst : e.session.state = .closed) (iss : UInt16)
    (passive : Bool) :
    TimersKept { e with session := { e.session with info := { e.session.info with
      sendInitial := iss, sendUnacked := iss, sendNext := iss + 1, remote := none, passive } } } where
  synced := h.synced.of_held rfl rfl
  allowed := by
    have hallowed := h.allowed
    unfold Session.TimersAllowed at hallowed ⊢
    dsimp only
    rw [hst] at hallowed ⊢
    exact hallowed
  queue_small := h.queue_small

theorem Invariant.connect (h : e.Invariant) (iss : UInt16) : ((Act.connect iss).run e).2.Invariant :=
  Act.connect_cases (motive := fun x ↦ x.Invariant) e iss h fun hst ↦
    (h.toTimersKept.started hst iss false).enter h.config (by simp [hst]) rfl

theorem Invariant.wait (h : e.Invariant) (iss : UInt16) : ((Act.wait iss).run e).2.Invariant :=
  Act.wait_cases (motive := fun x ↦ x.Invariant) e iss h fun hst ↦
    (h.toTimersKept.started hst iss true).enter h.config (by simp [hst]) rfl

theorem Invariant.close (h : e.Invariant) : (Act.close.run e).2.Invariant :=
  Act.close_cases (motive := fun x ↦ x.Invariant) e h (fun _ ↦ h.enter trivial)
    (fun _ ↦ (h.spoken (spoken_transmit e _)).enter trivial)
    (fun _ ↦ (h.spoken (spoken_sendRst e)).enter trivial)
    (fun _ ↦ (h.spoken (spoken_sendRst e)).enter trivial)

theorem Invariant.invalidate (h : e.Invariant) : (Act.invalidate.run e).2.Invariant :=
  h.enter trivial

theorem Invariant.send (h : e.Invariant) (payload : Bytes) :
    ((Act.send payload).run e).2.Invariant :=
  Act.send_cases (motive := fun x ↦ x.Invariant) e payload h fun hst ↦
    (Established.sendData ⟨h, hst⟩ payload).invariant

end Endpoint

end ReliableDatagram
