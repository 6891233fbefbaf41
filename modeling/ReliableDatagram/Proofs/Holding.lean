import ReliableDatagram.Proofs.Actions
/-!
# The wake-ups a session holds

A session records the handles of the wake-ups it asked for: one for the handshake, one for the
keep-alive, one for the end of the disconnect grace period, and one per live retransmission
entry. `Session.held` collects them, one optional handle per timer.

`Endpoint.Synced` says that the host's schedule and this record agree: the pending wake-ups are
exactly the recorded ones, each pending for the timer it was recorded for, and their handles are
fresh. Every action of the engine that cancels or arms a wake-up keeps the two in step, and the
lemmas here say so action by action, with the one condition some of them need: an action that
arms a timer without cancelling first (`armKeepAlive`, `openWindows`) must find nothing held for
it.

Delivering a wake-up is the one place where the two part for a moment: the host forgets the
wake-up before the session hears of it; `Synced.fired` says that once the session forgets the
wake-up too, the two are in step again.
-/

namespace ReliableDatagram

namespace Session

/-- The handle of the live retransmission entry of each number, if the session has a queue. -/
def retransmissions (s : Session) (n : UInt16) : Option Handle :=
  s.retransmit.bind (·.handles n)

/-- The wake-up the session holds for each timer. -/
def held (s : Session) : Timer → Option Handle :=
  s.timers.held s.retransmissions

theorem retransmissions_of_some {s : Session} {q : RetransmitQueue} (h : s.retransmit = some q) :
    s.retransmissions = q.handles := by
  funext n
  simp [retransmissions, h]

theorem retransmissions_of_none {s : Session} (h : s.retransmit = none) :
    s.retransmissions = fun _ ↦ none := by
  funext n
  simp [retransmissions, h]

theorem held_eq {s : Session} : s.held = s.timers.held s.retransmissions := rfl

/-! ### Recording a timer changes what is held for that timer only -/

theorem held_setHandshake (s : Session) (x : Option Handle) :
    ({ s with timers := { s.timers with handshake := x } } : Session).held =
      Function.update s.held .handshake x := by
  funext t
  cases t <;> simp [held, retransmissions]

theorem held_setKeepAlive (s : Session) (x : Option Handle) :
    ({ s with timers := { s.timers with keepAlive := x } } : Session).held =
      Function.update s.held .keepAlive x := by
  funext t
  cases t <;> simp [held, retransmissions]

theorem held_setDisconnect (s : Session) (x : Option Handle) :
    ({ s with timers := { s.timers with disconnect := x } } : Session).held =
      Function.update s.held .disconnect x := by
  funext t
  cases t <;> simp [held, retransmissions]

theorem held_setIdleKeepAlive (s : Session) (b : Bool) (x : Option Handle) :
    ({ s with timers := { s.timers with idle := b, keepAlive := x } } : Session).held =
      Function.update s.held .keepAlive x := by
  funext t
  cases t <;> simp [held, retransmissions]

theorem held_setRetransmit (s : Session) (q : RetransmitQueue) :
    ({ s with retransmit := some q } : Session).held = s.timers.held q.handles := by
  rw [held_eq, retransmissions_of_some rfl]

/-- The wake-ups each state may hold: none when closed or waiting; the handshake's alone while
opening; while connected no handshake or disconnect wake-up, and no keep-alive for a passive
opener; the disconnect wake-up alone while disconnecting. -/
def TimersAllowed (s : Session) : Prop :=
  match s.state with
  | .closed | .waiting => ∀ t, s.held t = none
  | .initiating | .connecting => ∀ t, t ≠ .handshake → s.held t = none
  | .connected =>
    s.held .handshake = none ∧ s.held .disconnect = none ∧
      (s.info.passive = true → s.held .keepAlive = none)
  | .disconnecting => ∀ t, t ≠ .disconnect → s.held t = none

/-- Which wake-ups a state may hold depends on the state, the passive flag and the record. -/
theorem TimersAllowed.of_frame {s s' : Session} (h : s.TimersAllowed) (hst : s'.state = s.state)
    (hp : s'.info.passive = s.info.passive) (hheld : s'.held = s.held) : s'.TimersAllowed := by
  unfold TimersAllowed at h ⊢
  rw [hst, hp, hheld]
  exact h

end Session

namespace Endpoint

/-- The schedule and the session agree: the pending wake-ups are exactly the ones the session
holds, each for the timer it holds it for, and no handle is pending twice. -/
structure Synced (e : Endpoint) : Prop where
  fresh : e.schedule.Fresh
  tracks : e.schedule.Tracks e.session.held

end Endpoint

namespace Act

variable {e : Endpoint}

/-- Speaking to the peer touches no recorded handle. -/
theorem Spoken.held {e' : Endpoint} (hs : Spoken e e') : e'.session.held = e.session.held := by
  rw [hs.2]
  rfl

end Act

namespace Endpoint.Synced

open Act

variable {e : Endpoint}

/-- An action that leaves the schedule and every recorded handle alone keeps the two in
step. -/
theorem of_held {e' : Endpoint} (h : e.Synced) (hs : e'.schedule = e.schedule)
    (hh : e'.session.held = e.session.held) : e'.Synced :=
  ⟨hs ▸ h.fresh, by rw [hs, hh]; exact h.tracks⟩

/-- Cancelling the timer `t` and recording `none` for it keeps the two in step. -/
theorem cancel {t : Timer} (h : e.Synced) {s' : Session}
    (hs' : s'.held = Function.update e.session.held t none) :
    Synced { e with schedule := e.schedule.cancel? (e.session.held t), session := s' } :=
  ⟨h.fresh.cancel? _, hs' ▸ h.tracks.cancel? h.fresh rfl⟩

/-- Arming the timer `t`, which holds nothing, and recording the new handle for it keeps the two
in step. -/
theorem arm {t : Timer} (h : e.Synced) (hnone : e.session.held t = none) (d : Nat)
    {s' : Session} (hs' : s'.held = Function.update e.session.held t (some ⟨e.schedule.issued + 1⟩)) :
    Synced { e with schedule := (e.schedule.add d t).2, session := s' } :=
  ⟨h.fresh.add _ _, hs' ▸ h.tracks.add hnone d⟩

/-- A held wake-up that the host delivers, and the session then forgets, leaves the two in
step. -/
theorem fired {t : Timer} {hd : Handle} (h : e.Synced) (ht : e.session.held t = some hd)
    {s' : Session} (hs' : s'.held = Function.update e.session.held t none) :
    Synced { e with schedule := e.schedule.deliver hd t, session := s' } :=
  ⟨h.fresh.deliver _ _, hs' ▸ h.tracks.deliver ht⟩

theorem spoken {e' : Endpoint} (h : e.Synced) (hs : Spoken e e') : e'.Synced :=
  h.of_held hs.1 hs.held

theorem cancelHandshake (h : e.Synced) : (cancelHandshake.run e).2.Synced := by
  rw [run_cancelHandshake]
  exact h.cancel (Session.held_setHandshake _ _)

theorem rearmHandshake (h : e.Synced) : (rearmHandshake.run e).2.Synced := by
  have h₁ := h.cancelHandshake
  rw [run_cancelHandshake] at h₁
  rw [run_rearmHandshake]
  refine h₁.arm rfl _ ?_
  simp only [Session.held_setHandshake, Function.update_idem, Schedule.issued_cancel?]

theorem armHandshake (h : e.Synced) : (armHandshake.run e).2.Synced := by
  rw [run_armHandshake]
  exact rearmHandshake ⟨h.fresh, h.tracks⟩

theorem cancelKeepAlive (h : e.Synced) : (cancelKeepAlive.run e).2.Synced := by
  rw [run_cancelKeepAlive]
  exact h.cancel (Session.held_setKeepAlive _ _)

theorem cancelDisconnect (h : e.Synced) : (cancelDisconnect.run e).2.Synced := by
  rw [run_cancelDisconnect]
  exact h.cancel (Session.held_setDisconnect _ _)

theorem armDisconnect (h : e.Synced) : (armDisconnect.run e).2.Synced := by
  have h₁ := h.cancelDisconnect
  rw [run_cancelDisconnect] at h₁
  rw [run_armDisconnect]
  refine h₁.arm rfl _ ?_
  simp only [Session.held_setDisconnect, Function.update_idem, Schedule.issued_cancel?]

/-- The keep-alive wake-up is armed without cancelling first, so nothing may be held for it. -/
theorem armKeepAlive (h : e.Synced) (hk : e.session.timers.keepAlive = none) :
    (armKeepAlive.run e).2.Synced := by
  rw [run_armKeepAlive]
  split
  · exact h
  · split
    · exact h
    · exact h.arm (show e.session.held .keepAlive = none from hk) _
        (Session.held_setIdleKeepAlive _ _ _)

/-- The schedule of a synced session with queue `q` tracks the queue's entries. -/
theorem tracks_queue (h : e.Synced) {q : RetransmitQueue} (hq : e.session.retransmit = some q) :
    e.schedule.Tracks (e.session.timers.held q.handles) := by
  rw [← Session.retransmissions_of_some hq]
  exact h.tracks

/-- An endpoint whose schedule is fresh and tracks the entries of its queue is synced. -/
theorem of_queue {e' : Endpoint} {q : RetransmitQueue} (hq : e'.session.retransmit = some q)
    (hf : e'.schedule.Fresh) (ht : e'.schedule.Tracks (e'.session.timers.held q.handles)) :
    e'.Synced :=
  ⟨hf, by rw [Session.held_eq, Session.retransmissions_of_some hq]; exact ht⟩

/-- Dropping every retransmission entry withdraws their wake-ups. -/
theorem cancelRetransmissions (h : e.Synced)
    (hcap : ∀ q, e.session.retransmit = some q → q.capacity < 256) :
    (cancelRetransmissions.run e).2.Synced ∧
      ∀ n, (cancelRetransmissions.run e).2.session.retransmissions n = none := by
  rw [run_cancelRetransmissions]
  split
  · rename_i q hq
    refine ⟨of_queue rfl (RetransmitQueue.fresh_setBase h.fresh q.base)
      (RetransmitQueue.tracks_setBase (hcap q hq) h.fresh (h.tracks_queue hq) q.base), fun n ↦ ?_⟩
    simp [Session.retransmissions, RetransmitQueue.handles]
  · rename_i hq
    exact ⟨h, fun n ↦ by simp [Session.retransmissions, hq]⟩

/-- A new queue has no entries, so it replaces one with none live without touching the
schedule's tracking. -/
theorem openWindows (h : e.Synced) (hnone : ∀ n, e.session.retransmissions n = none) :
    (openWindows.run e).2.Synced := by
  rw [run_openWindows]
  set q := RetransmitQueue.new (e.session.info.remote.getD e.session.info.config).maxOutstanding
  have hcap : q.capacity < 256 := by
    have := (e.session.info.remote.getD e.session.info.config).maxOutstanding.toNat_lt
    simp only [q, RetransmitQueue.capacity_new]
    omega
  have hempty : q.handles = e.session.retransmissions := by
    funext n
    rw [hnone n]
    cases hn : q.entry? n with
    | none => simp [RetransmitQueue.handles, hn]
    | some x =>
      rw [RetransmitQueue.entry?_eq_some_iff] at hn
      simp [q, RetransmitQueue.new, List.getElem?_replicate] at hn
  have ht : e.schedule.Tracks (e.session.timers.held q.handles) := by
    rw [hempty]
    exact h.tracks
  exact of_queue rfl (RetransmitQueue.fresh_setBase h.fresh e.session.info.sendNext)
    (RetransmitQueue.tracks_setBase hcap h.fresh ht e.session.info.sendNext)

/-- Dropping the windows withdraws the retransmission wake-ups and leaves no queue. -/
theorem dropWindows (h : e.Synced) (hcap : ∀ q, e.session.retransmit = some q → q.capacity < 256) :
    (dropWindows.run e).2.Synced ∧ (dropWindows.run e).2.session.retransmit = none := by
  obtain ⟨h₁, hnone⟩ := h.cancelRetransmissions hcap
  rw [run_dropWindows]
  refine ⟨h₁.of_held rfl ?_, rfl⟩
  funext t
  cases t with
  | retransmission n => exact (hnone n).symm
  | _ => rfl

/-- Withdrawing every wake-up leaves nothing held. -/
theorem cancelAllTimers (h : e.Synced)
    (hcap : ∀ q, e.session.retransmit = some q → q.capacity < 256) :
    (cancelAllTimers.run e).2.Synced ∧ ∀ t, (cancelAllTimers.run e).2.session.held t = none := by
  obtain ⟨h₁, hnone⟩ := h.cancelRetransmissions hcap
  rw [run_cancelAllTimers]
  refine ⟨h₁.cancelHandshake.cancelKeepAlive.cancelDisconnect, fun t ↦ ?_⟩
  simp only [run_cancelDisconnect, run_cancelKeepAlive, run_cancelHandshake]
  cases t with
  | retransmission n => exact hnone n
  | _ => rfl

/-- The queue bound of a session survives dropping its entries. -/
theorem capacity_cancelRetransmissions
    (hcap : ∀ q, e.session.retransmit = some q → q.capacity < 256) :
    ∀ q, (Act.cancelRetransmissions.run e).2.session.retransmit = some q → q.capacity < 256 := by
  rw [run_cancelRetransmissions]
  split
  · rename_i q hq
    rintro q' ⟨⟩
    simpa using hcap q hq
  · exact hcap

/-- Leaving a state withdraws every wake-up the state may hold; the queue bound is kept. -/
theorem leave (h : e.Synced) (hallowed : e.session.TimersAllowed)
    (hcap : ∀ q, e.session.retransmit = some q → q.capacity < 256) :
    ((leave e.session.state).run e).2.Synced ∧
      (∀ t, ((leave e.session.state).run e).2.session.held t = none) ∧
      ∀ q, ((leave e.session.state).run e).2.session.retransmit = some q → q.capacity < 256 := by
  unfold Session.TimersAllowed at hallowed
  cases hs : e.session.state with
  | closed | waiting =>
    rw [hs] at hallowed
    simp only [run_leave_closed, run_leave_waiting]
    exact ⟨h, hallowed, hcap⟩
  | initiating | connecting =>
    rw [hs] at hallowed
    simp only [run_leave_initiating, run_leave_connecting]
    refine ⟨h.cancelHandshake, fun t ↦ ?_, by simpa [run_cancelHandshake] using hcap⟩
    rw [run_cancelHandshake, Session.held_setHandshake]
    by_cases ht : t = .handshake
    · rw [ht, Function.update_self]
    · rw [Function.update_of_ne ht]
      exact hallowed t ht
  | connected =>
    rw [hs] at hallowed
    obtain ⟨hh, hd, -⟩ := hallowed
    obtain ⟨h₁, hnone⟩ := h.cancelRetransmissions hcap
    have hkeep : (Act.cancelRetransmissions.run e).2.session.timers = e.session.timers := by
      rw [run_cancelRetransmissions]
      split <;> rfl
    rw [run_leave_connected, run_cancelKeepAlive]
    refine ⟨?_, fun t ↦ ?_, capacity_cancelRetransmissions hcap⟩
    · have h₂ := h₁.cancelKeepAlive
      rwa [run_cancelKeepAlive] at h₂
    · cases t with
      | retransmission n => exact hnone n
      | keepAlive => rfl
      | handshake => simpa [Session.held, hkeep] using hh
      | disconnect => simpa [Session.held, hkeep] using hd
  | disconnecting =>
    rw [hs] at hallowed
    rw [run_leave_disconnecting]
    refine ⟨h.cancelDisconnect, fun t ↦ ?_, by simpa [run_cancelDisconnect] using hcap⟩
    rw [run_cancelDisconnect, Session.held_setDisconnect]
    by_cases ht : t = .disconnect
    · rw [ht, Function.update_self]
    · rw [Function.update_of_ne ht]
      exact hallowed t ht

/-- Arriving in a state from one that holds nothing arms exactly the wake-ups of the new
state. -/
theorem arrive (h : e.Synced) (hnone : ∀ t, e.session.held t = none)
    (hcap : ∀ q, e.session.retransmit = some q → q.capacity < 256) (next : State) :
    ((arrive next).run e).2.Synced := by
  cases next with
  | closed | waiting =>
    simp only [run_arrive_closed, run_arrive_waiting]
    obtain ⟨h₁, -⟩ := h.cancelAllTimers hcap
    have hcap₁ : ∀ q, (Act.cancelAllTimers.run e).2.session.retransmit = some q →
        q.capacity < 256 := by
      simpa [run_cancelAllTimers, run_cancelDisconnect, run_cancelKeepAlive, run_cancelHandshake]
        using capacity_cancelRetransmissions hcap
    exact (h₁.dropWindows hcap₁).1
  | initiating =>
    rw [run_arrive_initiating]
    exact (h.spoken (spoken_sendSyn e _)).armHandshake
  | connecting =>
    rw [run_arrive_connecting]
    exact (h.spoken (spoken_sendSyn e _)).armHandshake
  | connected =>
    have hwin := h.openWindows fun n ↦ hnone (.retransmission n)
    rw [run_arrive_connected]
    split
    · exact hwin
    · exact hwin.armKeepAlive (hnone .keepAlive)
  | disconnecting =>
    rw [run_arrive_disconnecting]
    exact h.armDisconnect

/-- Moving the held run of the receive window touches neither the schedule nor any wake-up. -/
theorem drainHeld (h : e.Synced) (fuel : Nat) : ((drainHeld fuel).run e).2.Synced :=
  drainHeld_induction e fuel h (fun _ _ _ _ _ _ h ↦ h.of_held rfl rfl) fun _ _ _ _ h ↦ h.of_held rfl rfl

theorem deliver (h : e.Synced) (seq : UInt16) (payload : Bytes) :
    ((deliver seq payload).run e).2.Synced := by
  rw [run_deliver]
  apply drainHeld
  exact h.of_held rfl rfl

/-- A cumulative acknowledgment withdraws the wake-ups of the entries it releases. -/
theorem acknowledge (h : e.Synced) (hcap : ∀ q, e.session.retransmit = some q → q.capacity < 256)
    (ack : UInt16) : ((acknowledge ack).run e).2.Synced :=
  acknowledge_cases e ack h fun _ queue _ hq _ ↦ of_queue rfl (RetransmitQueue.fresh_advance h.fresh _)
    (RetransmitQueue.tracks_advance (hcap queue hq) h.fresh (h.tracks_queue hq) _)

/-- An extended acknowledgment withdraws the wake-ups of the entries it releases. -/
theorem acknowledgeEach (h : e.Synced)
    (hcap : ∀ q, e.session.retransmit = some q → q.capacity < 256) (acks : List UInt16) :
    ((acknowledgeEach acks).run e).2.Synced := by
  -- a release keeps the queue's capacity, so the bound the wake-ups rest on carries along
  refine (acknowledgeEach_induction (motive := fun x ↦ x.Synced ∧
      ∀ q, x.session.retransmit = some q → q.capacity < 256) e acks ⟨h, hcap⟩
    fun _ _ queue _ _ hq _ h ↦ ⟨?_, ?_⟩).1
  · exact of_queue rfl (RetransmitQueue.fresh_remove h.1.fresh _)
      (RetransmitQueue.tracks_remove h.1.fresh (h.1.tracks_queue hq) _)
  · rintro q ⟨⟩
    simpa using h.2 queue hq

/-- An accepted payload arms the retransmission wake-up of its new entry. -/
theorem sendData (h : e.Synced) (payload : Bytes) : ((sendData payload).run e).2.Synced := by
  rcases run_sendData e payload with ⟨err, hrun⟩ | ⟨r, ring, queue, hdr, bytes, -, -, hq, -, -, -, -, hrun⟩
  · rw [hrun]
    exact h
  · rw [hrun]
    exact of_queue rfl (RetransmitQueue.fresh_add h.fresh _ _)
      (RetransmitQueue.tracks_add h.fresh (h.tracks_queue hq) _ _)

end Endpoint.Synced

end ReliableDatagram
