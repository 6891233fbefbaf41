import ReliableDatagram.Proofs.Windows
/-!
# The invariant of a session

`Endpoint.Invariant` gathers what every endpoint a host can reach satisfies:

* its wake-ups are in step with the host's schedule, each is one its state may hold, and its
  retransmission queue is small enough to index (`Endpoint.TimersKept`);
* the wake-ups its state needs are armed: the handshake's while opening, the end of the grace
  period while disconnecting (`Session.TimersArmed`);
* its windows fit its state (`Session.WindowsFit`), and its own configuration is usable.

A change of state is where the invariant is rebuilt. Leaving a state withdraws everything the
state held, and arriving arms what the new state needs, so `TimersKept.enter` asks of the
endpoint only the timer half of the invariant and, of its numbers, what the new state needs
(`Info.CanEnter`). The timer half alone is also what holds on the way: after the peer's SYN is
accepted and before the new state is entered, and after the handshake's last wake-up is
forgotten and before the session gives up.

Everything else moves the invariant along by frame lemmas: speaking to the peer changes no part
of it, and a connected session keeps it whenever its schedule stays in step, it holds no
handshake or disconnect wake-up, and its windows stay aligned (`Invariant.of_connected`).
-/

namespace ReliableDatagram

namespace Session

/-- The wake-ups a state needs armed: the handshake's while opening, the end of the grace
period while disconnecting. -/
def TimersArmed (s : Session) : Prop :=
  match s.state with
  | .initiating | .connecting => (s.held .handshake).isSome
  | .disconnecting => (s.held .disconnect).isSome
  | .closed | .waiting | .connected => True

theorem TimersArmed.of_frame {s s' : Session} (h : s.TimersArmed) (hst : s'.state = s.state)
    (hheld : s'.held = s.held) : s'.TimersArmed := by
  unfold TimersArmed at h ⊢
  rw [hst, hheld]
  exact h

/-- Aligned windows hold a queue of at most 255 entries. -/
theorem Windowed.queue_small {s : Session} (h : s.Windowed) :
    ∀ q, s.retransmit = some q → q.capacity < 256 := by
  obtain ⟨r, send, queue, recv, -, -, hq, -, hw⟩ := h
  intro q hq'
  rw [hq] at hq'
  cases hq'
  have := r.maxOutstanding.toNat_lt
  rw [hw.queue_capacity]
  omega

end Session

namespace Info

/-- What entering `next` needs of the numbers and the peer: an opening session has sent only
its SYN, a connecting one has also accepted a usable peer configuration, and a session becomes
connected with nothing in flight and a usable peer configuration. -/
def CanEnter (i : Info) : State → Prop
  | .closed | .disconnecting => True
  | .waiting | .initiating => i.sendNext = i.sendInitial + 1
  | .connecting => i.sendNext = i.sendInitial + 1 ∧ ∃ r, i.remote = some r ∧ r.isValid = true
  | .connected => i.sendUnacked = i.sendNext ∧ ∃ r, i.remote = some r ∧ r.isValid = true

end Info

namespace Endpoint

/-- The timer half of the invariant. -/
structure TimersKept (e : Endpoint) : Prop where
  /-- The schedule holds exactly the recorded wake-ups. -/
  synced : e.Synced
  /-- Each recorded wake-up is one the state may hold. -/
  allowed : e.session.TimersAllowed
  /-- A retransmission queue covers fewer than 256 numbers. -/
  queue_small : ∀ q, e.session.retransmit = some q → q.capacity < 256

/-- What every endpoint a host can reach satisfies. -/
structure Invariant (e : Endpoint) : Prop extends TimersKept e where
  /-- The wake-ups the state needs are armed. -/
  armed : e.session.TimersArmed
  /-- The windows fit the state. -/
  windows : e.session.WindowsFit
  /-- This side's configuration is usable. -/
  config : e.session.info.config.isValid = true

end Endpoint

/-! ### What the lifecycle actions do to the session -/

namespace Act

variable (e : Endpoint)

/-- Leaving a state touches only the wake-ups and the retransmission queue. -/
theorem leave_keeps (st : State) :
    ((leave st).run e).2.session.state = e.session.state ∧
      ((leave st).run e).2.session.info = e.session.info ∧
      ((leave st).run e).2.session.sendRing = e.session.sendRing ∧
      ((leave st).run e).2.session.receiveRing = e.session.receiveRing := by
  cases st with
  | closed | waiting => exact ⟨rfl, rfl, rfl, rfl⟩
  | initiating | connecting | disconnecting => exact ⟨rfl, rfl, rfl, rfl⟩
  | connected =>
    rw [run_leave_connected, run_cancelKeepAlive, run_cancelRetransmissions]
    split <;> exact ⟨rfl, rfl, rfl, rfl⟩

/-- Arriving in `closed` or `waiting` forgets the peer, the windows and every wake-up. -/
theorem session_arrive_quiet {next : State} (hq : next = .closed ∨ next = .waiting) :
    ((arrive next).run e).2.session = { e.session with
      sendRing := none, receiveRing := none, retransmit := none
      info := { e.session.info with remote := none }
      timers := { e.session.timers with handshake := none, keepAlive := none, disconnect := none } } := by
  have harr : ((arrive next).run e).2 = (dropWindows.run (cancelAllTimers.run e).2).2 := by
    rcases hq with rfl | rfl
    · exact run_arrive_closed e
    · exact run_arrive_waiting e
  rw [harr, run_dropWindows, run_cancelAllTimers, run_cancelDisconnect, run_cancelKeepAlive,
    run_cancelHandshake]
  cases hr : e.session.retransmit with
  | none => simp only [run_cancelRetransmissions, hr]
  | some q => simp only [run_cancelRetransmissions, hr]

/-- Starting the handshake retries arms a fresh handshake wake-up. -/
theorem session_armHandshake :
    (armHandshake.run e).2.session = { e.session with timers := { e.session.timers with
      handshakeCount := 0, handshake := some ⟨e.schedule.issued + 1⟩ } } := by
  rw [run_armHandshake, run_rearmHandshake]

/-- Arming the end of the grace period records a fresh disconnect wake-up. -/
theorem session_armDisconnect :
    (armDisconnect.run e).2.session = { e.session with timers := { e.session.timers with
      disconnect := some ⟨e.schedule.issued + 1⟩ } } := by
  rw [run_armDisconnect]

/-- Arming the keep-alive changes the session's keep-alive wake-up and idle flag alone. -/
theorem session_armKeepAlive :
    ∃ k b, (armKeepAlive.run e).2.session =
      { e.session with timers := { e.session.timers with keepAlive := k, idle := b } } := by
  rw [run_armKeepAlive]
  split
  · exact ⟨_, _, rfl⟩
  · split
    · exact ⟨_, _, rfl⟩
    · exact ⟨_, _, rfl⟩

/-- Arriving in a state keeps the state the session is marked with. -/
theorem state_arrive (next : State) : ((arrive next).run e).2.session.state = e.session.state := by
  cases next with
  | closed => rw [session_arrive_quiet e (.inl rfl)]
  | waiting => rw [session_arrive_quiet e (.inr rfl)]
  | initiating => rw [run_arrive_initiating, session_armHandshake, (spoken_sendSyn e _).2]
  | connecting => rw [run_arrive_connecting, session_armHandshake, (spoken_sendSyn e _).2]
  | connected =>
    rw [run_arrive_connected]
    split
    · rfl
    · obtain ⟨k, b, hs⟩ := session_armKeepAlive (openWindows.run e).2
      rw [hs]
      rfl
  | disconnecting => rw [run_arrive_disconnecting, session_armDisconnect]

/-- Entering a state is entering it. -/
theorem state_enter (next : State) : ((enter next).run e).2.session.state = next := by
  rw [run_enter]
  split
  · assumption
  · dsimp only
    rw [state_arrive]

/-- Speaking to the peer keeps the state. -/
theorem Spoken.state {e' : Endpoint} (hs : Spoken e e') : e'.session.state = e.session.state := by
  rw [hs.2]

/-- Speaking to the peer keeps the connection information. -/
theorem Spoken.info {e' : Endpoint} (hs : Spoken e e') : e'.session.info = e.session.info := by
  rw [hs.2]

end Act

namespace Endpoint

variable {e : Endpoint}

open Act

/-! ### Frame lemmas -/

/-- Speaking to the peer keeps the timer half. -/
theorem TimersKept.spoken {e' : Endpoint} (h : e.TimersKept) (hs : Spoken e e') : e'.TimersKept where
  synced := h.synced.spoken hs
  allowed := h.allowed.of_frame (by rw [hs.2]) (by rw [hs.2]) hs.held
  queue_small := by rw [hs.2]; exact h.queue_small

/-- Speaking to the peer keeps the invariant. -/
theorem Invariant.spoken {e' : Endpoint} (h : e.Invariant) (hs : Spoken e e') : e'.Invariant where
  toTimersKept := h.toTimersKept.spoken hs
  armed := h.armed.of_frame (by rw [hs.2]) hs.held
  windows := by rw [hs.2]; exact h.windows
  config := by rw [hs.2]; exact h.config

/-- A new connection record that keeps the passive flag keeps the timer half. -/
theorem TimersKept.setInfo (h : e.TimersKept) (i : Info) (hp : i.passive = e.session.info.passive) :
    TimersKept { e with session := { e.session with info := i } } where
  synced := h.synced.of_held rfl rfl
  allowed := h.allowed.of_frame rfl hp rfl
  queue_small := h.queue_small

/-- A connected endpoint has the invariant when its schedule is in step, it holds only what a
connected session may, its windows are aligned and its configuration is usable. -/
theorem Invariant.of_connected (hsync : e.Synced) (hst : e.session.state = .connected)
    (hallowed : e.session.TimersAllowed) (hw : e.session.Windowed)
    (hc : e.session.info.config.isValid = true) : e.Invariant where
  synced := hsync
  allowed := hallowed
  queue_small := hw.queue_small
  armed := by
    unfold Session.TimersArmed
    rw [hst]
    trivial
  windows := by
    unfold Session.WindowsFit
    rw [hst]
    exact hw
  config := hc

/-- A connected endpoint's windows are aligned. -/
theorem Invariant.windowed (h : e.Invariant) (hst : e.session.state = .connected) :
    e.session.Windowed := by
  have hw := h.windows
  unfold Session.WindowsFit at hw
  rw [hst] at hw
  exact hw

/-- While connected, changing the keep-alive wake-up and the idle flag keeps the invariant, as
long as the schedule stays in step and a passive opener still holds no keep-alive. -/
theorem Invariant.setKeepAlive {e' : Endpoint} (h : e.Invariant) (hst : e.session.state = .connected)
    (hsync : e'.Synced) {k : Option Handle} {b : Bool}
    (hs : e'.session = { e.session with timers := { e.session.timers with keepAlive := k, idle := b } })
    (hp : e.session.info.passive = true → k = none) : e'.Invariant := by
  have hallowed := h.allowed
  unfold Session.TimersAllowed at hallowed
  rw [hst] at hallowed
  obtain ⟨hh, hd, -⟩ := hallowed
  refine Invariant.of_connected hsync (by rw [hs]; exact hst) ?_ ?_ (by rw [hs]; exact h.config)
  · unfold Session.TimersAllowed
    rw [hs]
    dsimp only
    rw [hst]
    exact ⟨hh, hd, hp⟩
  · rw [hs]
    exact h.windowed hst

/-! ### Changing state -/

/-- Arriving in `closed` or `waiting` leaves nothing held and nothing of the connection. -/
theorem Invariant.arrive_quiet {next : State} (hq : next = .closed ∨ next = .waiting)
    (hsync : e.Synced) (hnone : ∀ t, e.session.held t = none)
    (hcap : ∀ q, e.session.retransmit = some q → q.capacity < 256)
    (hst : e.session.state = next) (hc : e.session.info.config.isValid = true)
    (hreq : e.session.info.CanEnter next) : ((Act.arrive next).run e).2.Invariant := by
  have hs := session_arrive_quiet e hq
  have hheld : ∀ t, ((Act.arrive next).run e).2.session.held t = none := by
    intro t
    rw [hs]
    cases t with
    | retransmission n => simp [Session.held, Session.retransmissions]
    | _ => rfl
  have hst' : ((Act.arrive next).run e).2.session.state = next := by rw [hs]; exact hst
  refine ⟨⟨hsync.arrive hnone hcap next, ?_, by rw [hs]; simp⟩, ?_, ?_, by rw [hs]; exact hc⟩
  · unfold Session.TimersAllowed
    rw [hst']
    rcases hq with rfl | rfl <;> exact hheld
  · unfold Session.TimersArmed
    rw [hst']
    rcases hq with rfl | rfl <;> trivial
  · unfold Session.WindowsFit
    rw [hst']
    rcases hq with rfl | rfl
    · rw [hs]
      exact ⟨rfl, rfl, rfl, rfl⟩
    · rw [hs]
      exact ⟨rfl, rfl, rfl, rfl, hreq⟩

/-- Arriving in `initiating` or `connecting` sends the SYN and arms the handshake wake-up
alone. -/
theorem Invariant.arrive_opening {next : State} (hq : next = .initiating ∨ next = .connecting)
    (hsync : e.Synced) (hnone : ∀ t, e.session.held t = none)
    (hcap : ∀ q, e.session.retransmit = some q → q.capacity < 256)
    (hst : e.session.state = next) (hc : e.session.info.config.isValid = true)
    (hreq : e.session.info.CanEnter next) (ack : Option UInt16) :
    (armHandshake.run ((sendSyn ack).run e).2).2.Invariant := by
  obtain ⟨-, hses⟩ := spoken_sendSyn e ack
  have hs := session_armHandshake ((sendSyn ack).run e).2
  rw [hses] at hs
  have hst' : (armHandshake.run ((sendSyn ack).run e).2).2.session.state = next := by
    rw [hs]
    exact hst
  have hsync' := (hsync.spoken (spoken_sendSyn e ack)).armHandshake
  refine ⟨⟨hsync', ?_, by rw [hs]; exact hcap⟩, ?_, ?_, by rw [hs]; exact hc⟩
  · unfold Session.TimersAllowed
    rw [hst']
    have hother : ∀ t, t ≠ .handshake →
        (armHandshake.run ((sendSyn ack).run e).2).2.session.held t = none := by
      intro t ht
      rw [hs]
      cases t with
      | handshake => exact absurd rfl ht
      | keepAlive => exact hnone .keepAlive
      | disconnect => exact hnone .disconnect
      | retransmission n => exact hnone (.retransmission n)
    rcases hq with rfl | rfl <;> exact hother
  · unfold Session.TimersArmed
    rw [hst']
    rcases hq with rfl | rfl <;> (rw [hs]; rfl)
  · unfold Session.WindowsFit
    rw [hst']
    rcases hq with rfl | rfl
    · rw [hs]
      exact hreq
    · rw [hs]
      exact hreq

/-- Arriving in `connected` opens aligned windows and, for an active opener, arms the
keep-alive. -/
theorem Invariant.arrive_connected (hsync : e.Synced) (hnone : ∀ t, e.session.held t = none)
    (hst : e.session.state = .connected) (hc : e.session.info.config.isValid = true)
    (hreq : e.session.info.CanEnter .connected) : ((Act.arrive .connected).run e).2.Invariant := by
  obtain ⟨hnext, r, hr, hrv⟩ := hreq
  have hopen : (openWindows.run e).2.Invariant := by
    refine Invariant.of_connected (hsync.openWindows fun n ↦ hnone (.retransmission n)) hst ?_ ?_ hc
    · unfold Session.TimersAllowed
      rw [run_openWindows]
      dsimp only
      rw [hst]
      exact ⟨hnone .handshake, hnone .disconnect, fun _ ↦ hnone .keepAlive⟩
    · rw [run_openWindows]
      dsimp only
      rw [hr, Option.getD_some]
      exact ⟨r, _, _, _, hr, rfl, rfl, rfl, Session.Windows.opened hrv hc hnext _⟩
  rw [run_arrive_connected]
  split
  · exact hopen
  · rename_i hp
    have hk : (openWindows.run e).2.session.timers.keepAlive = none := hnone .keepAlive
    obtain ⟨k, b, hs⟩ := session_armKeepAlive (openWindows.run e).2
    exact hopen.setKeepAlive hst ((hopen.synced).armKeepAlive hk) hs fun hp' ↦ absurd hp' hp

/-- Arriving in `disconnecting` arms the end of the grace period alone. -/
theorem Invariant.arrive_disconnecting (hsync : e.Synced) (hnone : ∀ t, e.session.held t = none)
    (hcap : ∀ q, e.session.retransmit = some q → q.capacity < 256)
    (hst : e.session.state = .disconnecting) (hc : e.session.info.config.isValid = true) :
    ((Act.arrive .disconnecting).run e).2.Invariant := by
  rw [run_arrive_disconnecting]
  have hs := session_armDisconnect e
  have hst' : (armDisconnect.run e).2.session.state = .disconnecting := by rw [hs]; exact hst
  refine ⟨⟨hsync.armDisconnect, ?_, by rw [hs]; exact hcap⟩, ?_, ?_, by rw [hs]; exact hc⟩
  · unfold Session.TimersAllowed
    rw [hst']
    intro t ht
    rw [hs]
    cases t with
    | disconnect => exact absurd rfl ht
    | handshake => exact hnone .handshake
    | keepAlive => exact hnone .keepAlive
    | retransmission n => exact hnone (.retransmission n)
  · unfold Session.TimersArmed
    rw [hst', hs]
    rfl
  · unfold Session.WindowsFit
    rw [hst']
    trivial

/-- Arriving in the state the session is marked with, from an endpoint that holds no wake-up,
establishes the invariant, given what the new state needs. -/
theorem Invariant.arrive {next : State} (hsync : e.Synced) (hnone : ∀ t, e.session.held t = none)
    (hcap : ∀ q, e.session.retransmit = some q → q.capacity < 256)
    (hst : e.session.state = next) (hc : e.session.info.config.isValid = true)
    (hreq : e.session.info.CanEnter next) : ((Act.arrive next).run e).2.Invariant := by
  cases next with
  | closed => exact arrive_quiet (.inl rfl) hsync hnone hcap hst hc hreq
  | waiting => exact arrive_quiet (.inr rfl) hsync hnone hcap hst hc hreq
  | initiating =>
    rw [run_arrive_initiating]
    exact arrive_opening (.inl rfl) hsync hnone hcap hst hc hreq _
  | connecting =>
    rw [run_arrive_connecting]
    exact arrive_opening (.inr rfl) hsync hnone hcap hst hc hreq _
  | connected => exact arrive_connected hsync hnone hst hc hreq
  | disconnecting => exact arrive_disconnecting hsync hnone hcap hst hc

/-- Entering another state from an endpoint with the timer half of the invariant establishes
the whole invariant, given what the new state needs. -/
theorem TimersKept.enter {next : State} (h : e.TimersKept) (hc : e.session.info.config.isValid = true)
    (hne : e.session.state ≠ next) (hreq : e.session.info.CanEnter next) :
    ((Act.enter next).run e).2.Invariant := by
  obtain ⟨hsync, hnone, hcap⟩ := h.synced.leave h.allowed h.queue_small
  obtain ⟨-, hinfo, -, -⟩ := leave_keeps e e.session.state
  rw [← hinfo] at hc hreq
  rw [run_enter, if_neg hne]
  set e₁ := ((leave e.session.state).run e).2
  have harr : ((Act.arrive next).run { e₁ with session := { e₁.session with state := next } }).2.Invariant :=
    Invariant.arrive (hsync.of_held rfl rfl) hnone hcap rfl hc hreq
  exact harr.spoken ⟨rfl, rfl⟩

/-- Entering a state keeps the invariant, given what the new state needs. -/
theorem Invariant.enter {next : State} (h : e.Invariant) (hreq : e.session.info.CanEnter next) :
    ((Act.enter next).run e).2.Invariant := by
  by_cases hs : e.session.state = next
  · rw [run_enter, if_pos hs]
    exact h
  · exact h.toTimersKept.enter h.config hs hreq

/-- Giving up keeps the invariant of a session that has sent only its SYN. -/
theorem Invariant.reset (h : e.Invariant)
    (hn : e.session.info.sendNext = e.session.info.sendInitial + 1) : (reset.run e).2.Invariant := by
  rw [run_reset]
  apply h.enter
  split
  · exact hn
  · trivial

/-- Giving up from an opening state needs only the timer half of the invariant. -/
theorem TimersKept.reset (h : e.TimersKept) (hc : e.session.info.config.isValid = true)
    (hs : e.session.state = .initiating ∨ e.session.state = .connecting)
    (hn : e.session.info.sendNext = e.session.info.sendInitial + 1) : (reset.run e).2.Invariant := by
  rw [run_reset]
  refine h.enter hc ?_ ?_
  · rcases hs with hs | hs <;> split <;> simp [hs]
  · split
    · exact hn
    · trivial

/-- Completing the handshake from an opening state, with a usable peer configuration and only
the SYN sent, establishes the invariant. -/
theorem TimersKept.establish (h : e.TimersKept) (hc : e.session.info.config.isValid = true)
    (hs : e.session.state ≠ .connected)
    (hn : e.session.info.sendNext = e.session.info.sendInitial + 1)
    (hr : ∃ r, e.session.info.remote = some r ∧ r.isValid = true) :
    (establish.run e).2.Invariant := by
  rw [run_establish]
  exact (h.setInfo { e.session.info with sendUnacked := e.session.info.sendInitial + 1 } rfl).enter
    hc hs ⟨hn.symm, hr⟩

end Endpoint

end ReliableDatagram
