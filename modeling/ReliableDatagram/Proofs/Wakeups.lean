import ReliableDatagram.Proofs.Reactions
/-!
# Delivered wake-ups

The host forgets a wake-up just before it delivers it, and the session then hears of it. Two
cases are told apart by the session's record.

A delivery is *live* when its handle is the one the session holds for that timer. The schedule
no longer has it, so for a moment schedule and record disagree on exactly this timer; the
session's reaction begins by forgetting it too (`Synced.fired`), and from there the reaction is
like any other: a retransmission is sent again or gives up the connection, the keep-alive sends a
NUL and is armed again, the handshake is retried or given up, and the grace period ends.

A delivery is *stale* otherwise. Since the schedule holds only recorded wake-ups, a stale
delivery finds nothing to forget, and the session ignores it: the endpoint is left exactly as it
was (`Invariant.timerFired_stale`). This covers a handle cancelled or delivered before, a handle
the session never held, and a handle held for a different timer.
-/

namespace ReliableDatagram

namespace RetransmitQueue

/-- A wake-up is due for a number exactly when its handle is the one recorded there. -/
theorem due?_eq_none_of_handles_ne {q : RetransmitQueue} {seq : UInt16} {h : Handle}
    (hn : q.handles seq ≠ some h) : q.due? seq h = none := by
  unfold due?
  cases he : RetransmitQueue.entry? q seq with
  | none => rfl
  | some x =>
    have hx : x.handle ≠ h := fun hx ↦ hn (by simp [handles, he, hx])
    simp [Option.filter, hx]

theorem exists_due?_of_handles {q : RetransmitQueue} {seq : UInt16} {h : Handle}
    (hh : q.handles seq = some h) : ∃ x, q.due? seq h = some x ∧ RetransmitQueue.entry? q seq = some x := by
  unfold handles at hh
  cases he : RetransmitQueue.entry? q seq with
  | none => simp [he] at hh
  | some x =>
    rw [he] at hh
    exact ⟨x, due?_eq_some_iff.2 ⟨he, Option.some.inj hh⟩, rfl⟩

end RetransmitQueue

namespace Session

/-- While connected, what a session may hold depends on its handshake, keep-alive and
disconnect wake-ups and its passive flag alone. -/
theorem TimersAllowed.of_connected {s s' : Session} (h : s.TimersAllowed)
    (hst : s.state = .connected) (hst' : s'.state = .connected)
    (hp : s'.info.passive = s.info.passive) (ht : s'.timers = s.timers) : s'.TimersAllowed := by
  unfold TimersAllowed at h ⊢
  rw [hst] at h
  rw [hst']
  obtain ⟨hh, hd, hk⟩ := h
  refine ⟨?_, ?_, fun hp' ↦ ?_⟩
  · simpa [held, ht] using hh
  · simpa [held, ht] using hd
  · simpa [held, ht] using hk (hp ▸ hp')

/-- While opening, what a session may hold depends on everything but its handshake
wake-up. -/
theorem TimersAllowed.of_opening {s s' : Session} (h : s.TimersAllowed)
    (hst : s.state = .initiating ∨ s.state = .connecting) (hst' : s'.state = s.state)
    (hheld : ∀ t, t ≠ .handshake → s'.held t = s.held t) : s'.TimersAllowed := by
  unfold TimersAllowed at h ⊢
  rw [hst']
  rcases hst with hst | hst <;> rw [hst] at h ⊢ <;>
    exact fun t ht ↦ (hheld t ht).trans (h t ht)

end Session

namespace Endpoint

variable {e : Endpoint}

open Act

/-- Re-arming the handshake of an opening session establishes the invariant again. -/
theorem TimersKept.rearmHandshake (h : e.TimersKept)
    (hst : e.session.state = .initiating ∨ e.session.state = .connecting)
    (hw : e.session.WindowsFit) (hc : e.session.info.config.isValid = true) :
    (Act.rearmHandshake.run e).2.Invariant := by
  have hs := run_rearmHandshake e
  have hst' : (Act.rearmHandshake.run e).2.session.state = e.session.state := by rw [hs]
  refine ⟨⟨h.synced.rearmHandshake, ?_, by rw [hs]; exact h.queue_small⟩, ?_, ?_, by rw [hs]; exact hc⟩
  · refine h.allowed.of_opening hst hst' fun t ht ↦ ?_
    rw [hs]
    cases t with
    | handshake => exact absurd rfl ht
    | _ => rfl
  · unfold Session.TimersArmed
    rw [hst']
    rcases hst with hst | hst <;> rw [hst] <;> (rw [hs]; rfl)
  · rw [hs]
    exact hw

/-! ### Stale wake-ups -/

/-- A wake-up whose handle is not the one the session holds for its timer changes nothing. -/
theorem Invariant.timerFired_stale (h : e.Invariant) {hd : Handle} {t : Timer}
    (hn : e.session.held t ≠ some hd) : ((timerFired hd t).run e).2 = e := by
  unfold timerFired
  rw [run_bind, run_session]
  dsimp only
  cases hst : e.session.state with
  | connected =>
    cases t with
    | retransmission seq =>
      obtain ⟨r, send, queue, recv, -, hs, hq, -, -⟩ := (⟨h, hst⟩ : e.Established).windows
      have hdue : queue.due? seq hd = none := by
        refine RetransmitQueue.due?_eq_none_of_handles_ne ?_
        rwa [Session.held_eq, Session.retransmissions_of_some hq] at hn
      simp only [run_bind, run_retransmitFired e hs hq,
        RetransmitQueue.fire_of_due?_eq_none _ _ _ _ _ hdue, Bool.not_true, Bool.false_eq_true,
        ↓reduceIte, run_pure]
      rw [← hq]
    | keepAlive =>
      have hn' : e.session.timers.keepAlive ≠ some hd := hn
      rw [run_keepAliveFired, if_pos hn']
    | handshake | disconnect => rfl
  | initiating | connecting =>
    cases t with
    | handshake =>
      have hn' : e.session.timers.handshake ≠ some hd := hn
      simp only [run_bind, run_handshakeTimeout, if_pos hn']
      rfl
    | _ => rfl
  | disconnecting =>
    cases t with
    | disconnect =>
      have hn' : e.session.timers.disconnect ≠ some hd := hn
      simp only [hn', ↓reduceIte, run_pure]
    | _ => rfl
  | closed | waiting => rfl

/-! ### Live wake-ups -/

/-- Forgetting a delivered wake-up that the session held brings schedule and record back in
step. -/
theorem Synced.forgotten {t : Timer} {hd : Handle} (h : e.Synced) (ht : e.session.held t = some hd)
    {s' : Session} (hs' : s'.held = Function.update e.session.held t none) :
    Synced { e.prepare (.fire hd t) with session := s' } :=
  (h.fired ht hs').of_held rfl rfl

/-- Arming the keep-alive of an established active opener holding none keeps the invariant. -/
theorem Established.armKeepAlive (h : e.Established) (hk : e.session.timers.keepAlive = none)
    (hp : e.session.info.passive = false) : (Act.armKeepAlive.run e).2.Invariant := by
  obtain ⟨k, b, hs⟩ := session_armKeepAlive e
  exact h.invariant.setKeepAlive h.connected (h.invariant.synced.armKeepAlive hk) hs
    fun hp' ↦ absurd (hp ▸ hp') (by simp)

/-- The handshake wake-up of an opening session: the SYN is sent again and the wake-up armed
again, or, with the retries used up, the session gives up. -/
theorem Invariant.fired_handshake (h : e.Invariant) {hd : Handle}
    (hst : e.session.state = .initiating ∨ e.session.state = .connecting)
    (ht : e.session.held .handshake = some hd) :
    ((timerFired hd .handshake).run (e.prepare (.fire hd .handshake))).2.Invariant := by
  have hh : e.session.timers.handshake = some hd := ht
  have hn := h.sendNext_eq (.inr hst)
  -- the session forgets the wake-up as it takes it; what it may hold is otherwise unchanged
  have hkept : ∀ count, TimersKept { e.prepare (.fire hd .handshake) with
      session := { e.session with timers := { e.session.timers with
        handshake := none, handshakeCount := count } } } := fun count ↦
    { synced := h.synced.forgotten ht (Session.held_setHandshake _ _)
      allowed := h.allowed.of_opening hst rfl fun t ht' ↦ by
        cases t with
        | handshake => exact absurd rfl ht'
        | _ => rfl
      queue_small := h.queue_small }
  unfold timerFired
  rw [run_bind, run_session]
  dsimp only [Endpoint.prepare]
  -- the state picks the branch first; the wake-up is then honoured
  rcases hst with hst | hst <;> rw [hst] <;> dsimp only <;>
    simp only [run_bind, run_handshakeTimeout, hh, ne_eq, not_true_eq_false, ↓reduceIte] <;>
    by_cases hcount : e.session.timers.handshakeCount ≥ e.session.info.config.maxRetransmissions
  · simp only [hcount, ↓reduceIte]
    exact (hkept _).reset h.config (by simp [hst]) hn
  · simp only [hcount, ↓reduceIte]
    exact ((hkept _).rearmHandshake (.inl hst) h.windows h.config).spoken (spoken_sendSyn _ _)
  · simp only [hcount, ↓reduceIte]
    exact (hkept _).reset h.config (by simp [hst]) hn
  · simp only [hcount, ↓reduceIte]
    rw [run_bind, run_info]
    exact ((hkept _).rearmHandshake (.inr hst) h.windows h.config).spoken (spoken_sendSyn _ _)

/-- The keep-alive wake-up of an active opener: after an idle period a NUL is sent, and the
wake-up is armed again. -/
theorem Invariant.fired_keepAlive (h : e.Invariant) {hd : Handle}
    (hst : e.session.state = .connected) (ht : e.session.held .keepAlive = some hd) :
    ((timerFired hd .keepAlive).run (e.prepare (.fire hd .keepAlive))).2.Invariant := by
  have hk : e.session.timers.keepAlive = some hd := ht
  -- a passive opener holds no keep-alive, so this one is an active opener's
  have hp : e.session.info.passive = false := by
    have hallowed := h.allowed
    unfold Session.TimersAllowed at hallowed
    rw [hst] at hallowed
    cases hp : e.session.info.passive with
    | false => rfl
    | true => exact absurd (ht.symm.trans (hallowed.2.2 hp)) (by simp)
  have h₁ : Established { e.prepare (.fire hd .keepAlive) with
      session := { e.session with timers := { e.session.timers with keepAlive := none } } } :=
    ⟨h.setKeepAlive hst (h.synced.forgotten ht (Session.held_setKeepAlive _ _)) rfl fun _ ↦ rfl, hst⟩
  have hre : ∀ e', Spoken { e.prepare (.fire hd .keepAlive) with
      session := { e.session with timers := { e.session.timers with keepAlive := none } } } e' →
      (Act.armKeepAlive.run e').2.Invariant := by
    intro e' hs'
    refine (h₁.spoken hs').armKeepAlive ?_ ?_
    · rw [hs'.2]
    · rw [hs'.2]
      exact hp
  unfold timerFired
  rw [run_bind, run_session]
  dsimp only [Endpoint.prepare]
  rw [hst]
  dsimp only
  rw [run_keepAliveFired, if_neg (not_not.2 hk)]
  dsimp only
  split
  · exact hre _ (spoken_transmit _ _)
  · exact hre _ (Spoken.refl _)

/-- The end of the grace period closes a disconnecting session. -/
theorem Invariant.fired_disconnect (h : e.Invariant) {hd : Handle}
    (hst : e.session.state = .disconnecting) (ht : e.session.held .disconnect = some hd) :
    ((timerFired hd .disconnect).run (e.prepare (.fire hd .disconnect))).2.Invariant := by
  have hdis : e.session.timers.disconnect = some hd := ht
  have hkept : TimersKept { e.prepare (.fire hd .disconnect) with
      session := { e.session with timers := { e.session.timers with disconnect := none } } } :=
    { synced := h.synced.forgotten ht (Session.held_setDisconnect _ _)
      allowed := by
        have hallowed := h.allowed
        unfold Session.TimersAllowed at hallowed ⊢
        dsimp only
        rw [hst] at hallowed ⊢
        intro t ht'
        cases t with
        | disconnect => exact absurd rfl ht'
        | _ => exact hallowed _ ht'
      queue_small := h.queue_small }
  unfold timerFired
  rw [run_bind, run_session]
  dsimp only [Endpoint.prepare]
  rw [hst]
  dsimp only
  simp only [hdis, ↓reduceIte, run_bind, run_modifyTimers]
  refine hkept.enter h.config ?_ ?_
  · simp [hst]
  · trivial

/-- A retransmission wake-up of a connected session: the segment is sent again under a fresh
wake-up, or, with its retries used up while it is unacknowledged, the session gives up the
connection. -/
theorem Invariant.fired_retransmission (h : e.Invariant) {hd : Handle} {seq : UInt16}
    (hst : e.session.state = .connected) (ht : e.session.held (.retransmission seq) = some hd) :
    ((timerFired hd (.retransmission seq)).run (e.prepare (.fire hd (.retransmission seq)))).2.Invariant := by
  obtain ⟨r, send, queue, recv, hr, hs, hq, hrecv, hw⟩ := (⟨h, hst⟩ : e.Established).windows
  have hh : queue.handles seq = some hd := by
    rwa [Session.held_eq, Session.retransmissions_of_some hq] at ht
  obtain ⟨x, hdue, hx⟩ := RetransmitQueue.exists_due?_of_handles hh
  have hlive : (RetransmitQueue.entry? queue seq).isSome = true := by rw [hx]; rfl
  set S := e.schedule.deliver hd (.retransmission seq)
  -- whether an entry is sent again: retries left, and the segment still unacknowledged
  let R := fun x : Entry ↦
    decide (x.transmissions < e.session.info.config.maxRetransmissions) && send.isInUse seq
  -- the queue's reaction keeps the schedule in step: the delivered wake-up is already gone
  have hsync : Synced { e.prepare (.fire hd (.retransmission seq)) with
      schedule := (queue.fire S seq hd R).2.2
      session := { e.session with retransmit := some (queue.fire S seq hd R).2.1 } } := by
    have htr : S.Tracks (e.session.timers.held (Function.update queue.handles seq none)) := by
      rw [Timers.held_update, ← Session.retransmissions_of_some hq]
      exact h.synced.tracks.deliver ht
    exact Synced.of_queue rfl (RetransmitQueue.fresh_fire (h.synced.fresh.deliver _ _) _ _ _)
      (RetransmitQueue.tracks_fire hdue htr R)
  obtain ⟨o, ho, hfire⟩ := RetransmitQueue.fire_of_due? hdue S R
  rw [hfire] at hsync
  unfold timerFired
  rw [run_bind, run_session]
  dsimp only [Endpoint.prepare]
  rw [hst]
  dsimp only
  rw [run_bind, run_retransmitFired { e with schedule := S, effects := [] } hs hq]
  dsimp only
  rw [hfire]
  by_cases hres : R x = true
  · -- sent again: the entry is rearmed, the windows stay aligned
    rw [if_pos hres] at hsync
    simp only [hres, ↓reduceIte, Bool.not_true, Bool.false_eq_true, run_pure]
    have hest := (⟨h, hst⟩ : e.Established).of_step hsync ⟨rfl, rfl, rfl⟩ ⟨rfl, rfl, rfl⟩
      ⟨r, send, _, recv, hr, hs, rfl, hrecv, hw.rearm ho hlive _⟩
    refine (hest.spoken ?_).invariant
    exact ⟨rfl, rfl⟩
  · -- retries used up on a segment still in use: the session gives up the connection
    rw [if_neg hres] at hsync
    have hu : send.isInUse seq = true := by rw [hw.inUse_eq]; exact hlive
    simp only [hres, ↓reduceIte, Bool.false_eq_true, hu, Bool.not_true, Bool.not_false, run_bind]
    have hkept : TimersKept { e.prepare (.fire hd (.retransmission seq)) with
        schedule := S
        session := { e.session with retransmit := some { queue with
          entries := queue.entries.set o none, inUse := queue.inUse - 1 } } } :=
      { synced := hsync
        allowed := h.allowed.of_connected hst hst rfl rfl
        queue_small := by
          rintro q ⟨⟩
          simpa [RetransmitQueue.capacity] using h.queue_small queue hq }
    refine (hkept.spoken (spoken_sendRst _)).enter ?_ ?_ ?_
    · rw [(spoken_sendRst _).info]
      exact h.config
    · rw [(spoken_sendRst _).state]
      simp [hst]
    · trivial

/-- A wake-up the session holds keeps the invariant once delivered. -/
theorem Invariant.fired (h : e.Invariant) {hd : Handle} {t : Timer}
    (ht : e.session.held t = some hd) :
    ((timerFired hd t).run (e.prepare (.fire hd t))).2.Invariant := by
  have hallowed := h.allowed
  unfold Session.TimersAllowed at hallowed
  -- a held wake-up is one the state may hold
  cases hst : e.session.state with
  | closed | waiting =>
    rw [hst] at hallowed
    exact absurd ((hallowed t).symm.trans ht) (by simp)
  | initiating | connecting =>
    rw [hst] at hallowed
    cases t with
    | handshake => exact h.fired_handshake (by simp [hst]) ht
    | _ => exact absurd ((hallowed _ (by simp)).symm.trans ht) (by simp)
  | connected =>
    rw [hst] at hallowed
    cases t with
    | handshake => exact absurd (hallowed.1.symm.trans ht) (by simp)
    | disconnect => exact absurd (hallowed.2.1.symm.trans ht) (by simp)
    | keepAlive => exact h.fired_keepAlive hst ht
    | retransmission seq => exact h.fired_retransmission hst ht
  | disconnecting =>
    rw [hst] at hallowed
    cases t with
    | disconnect => exact h.fired_disconnect hst ht
    | _ => exact absurd ((hallowed _ (by simp)).symm.trans ht) (by simp)

end Endpoint

end ReliableDatagram
