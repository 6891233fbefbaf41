import ReliableDatagram.Proofs.Wakeups
/-!
# What every reachable endpoint satisfies

A host creates a session with a usable configuration and then hands it events, one at a time:
intents of its application, datagrams with arbitrary bytes, and deliveries of wake-ups, live or
stale. `Endpoint.Reachable` collects the endpoints so reached. The invariant holds of the fresh
endpoint (`invariant_fresh`) and every event keeps it (`Invariant.handle`), so it holds of every
reachable endpoint (`Reachable.invariant`).

Two consequences are stated here in the terms a host observes.

* **Wake-up ownership** (`Reachable.owns_wakeups`). The pending wake-ups are exactly the ones the
  session records, each for the timer it is recorded for and at most once per timer; by state,
  closed and waiting sessions have nothing pending and keep no windows and no peer
  configuration, opening sessions have exactly their handshake wake-up pending, a connected one
  one retransmission wake-up per live entry and at most one keep-alive (none for a passive
  opener), and a disconnecting one exactly the end of its grace period. A delivery whose handle
  is not the one recorded for its timer changes nothing.
* **Aligned windows** (`Reachable.windows_aligned`). A connected session's send ring, retransmission
  queue and receive ring exist and satisfy the laws of `Session.Windows`.

The per-state counts come from one fact about schedules in step with a record
(`Schedule.Tracks.pending_for`): the handles pending for a timer are exactly the recorded one, if
any, since handles are never pending twice.
-/

namespace ReliableDatagram

namespace Schedule

variable {s : Schedule} {held : Timer → Option Handle}

/-- In a fresh schedule in step with a record, the handles pending for a timer are the one
recorded for it, if any. -/
theorem Tracks.pending_for (ht : s.Tracks held) (hs : s.Fresh) (t : Timer) :
    (s.pending.filter (·.timer == t)).map Alarm.handle = (held t).toList := by
  set L := (s.pending.filter (·.timer == t)).map Alarm.handle with hL
  have hnodup : L.Nodup := hs.nodup.sublist (List.filter_sublist.map _)
  have hmem : ∀ h, h ∈ L ↔ held t = some h := by
    intro h
    rw [← ht h t, hL]
    simp only [List.mem_map, List.mem_filter, beq_iff_eq, Has]
    constructor
    · rintro ⟨a, ⟨ha, hat⟩, rfl⟩
      exact ⟨a, ha, rfl, hat⟩
    · rintro ⟨a, ha, rfl, hat⟩
      exact ⟨a, ⟨ha, hat⟩, rfl⟩
  cases hh : held t with
  | none =>
    refine List.eq_nil_iff_forall_not_mem.2 fun h hm ↦ ?_
    have := (hmem h).1 hm
    rw [hh] at this
    cases this
  | some h₀ =>
    -- every pending handle is the recorded one, none twice, and the recorded one is pending
    have hall : ∀ h ∈ L, h = h₀ := fun h hm ↦ by
      have := (hmem h).1 hm
      rw [hh] at this
      exact (Option.some.inj this).symm
    have hrep : L = List.replicate L.length h₀ := List.eq_replicate_iff.2 ⟨rfl, hall⟩
    have hlen : L.length ≤ 1 := List.nodup_replicate.1 (hrep ▸ hnodup)
    have hpos : 0 < L.length := List.length_pos_of_mem ((hmem h₀).2 hh)
    rw [hrep, show L.length = 1 by omega]
    rfl

/-- A schedule in step with an empty record has nothing pending. -/
theorem Tracks.pending_eq_nil (ht : s.Tracks held) (hnone : ∀ t, held t = none) : s.pending = [] := by
  refine List.eq_nil_iff_forall_not_mem.2 fun a ha ↦ ?_
  have := (ht a.handle a.timer).1 ⟨a, ha, rfl, rfl⟩
  rw [hnone] at this
  cases this

/-- In a fresh schedule in step with a record, a timer has as many wake-ups pending as it has
recorded: one or none. -/
theorem Tracks.length_pending_for (ht : s.Tracks held) (hs : s.Fresh) (t : Timer) :
    (s.pending.filter (·.timer == t)).length = (held t).toList.length := by
  have hlen := congrArg List.length (ht.pending_for hs t)
  rwa [List.length_map] at hlen

/-- A fresh schedule in step with a record of one wake-up has exactly that one pending. -/
theorem Tracks.pending_eq_single (ht : s.Tracks held) (hs : s.Fresh) {t₀ : Timer}
    (h₀ : (held t₀).isSome) (hother : ∀ t, t ≠ t₀ → held t = none) :
    ∃ a, s.pending = [a] ∧ a.timer = t₀ := by
  obtain ⟨hd, hhd⟩ := Option.isSome_iff_exists.1 h₀
  have htimer : ∀ a ∈ s.pending, a.timer = t₀ := by
    intro a ha
    by_contra hne
    have := (ht a.handle a.timer).1 ⟨a, ha, rfl, rfl⟩
    rw [hother _ hne] at this
    cases this
  have hfilter : s.pending.filter (·.timer == t₀) = s.pending :=
    List.filter_eq_self.2 fun a ha ↦ by simp [htimer a ha]
  have hone := ht.pending_for hs t₀
  rw [hfilter, hhd] at hone
  obtain ⟨a, hl, -⟩ := List.map_eq_singleton_iff.1 hone
  exact ⟨a, hl, htimer a (by simp [hl])⟩

end Schedule

namespace Session

/-- The wake-ups a host may have pending for a session, by its state: none for a closed or
waiting session, which also keeps no windows and no peer configuration; the handshake's alone
while opening; while connected, one for each live retransmission entry and at most one
keep-alive, none for a passive opener; the end of the grace period alone while disconnecting. -/
def PendingFits (s : Session) (pending : List Alarm) : Prop :=
  match s.state with
  | .closed | .waiting =>
    pending = [] ∧ s.sendRing = none ∧ s.retransmit = none ∧ s.receiveRing = none ∧
      s.info.remote = none
  | .initiating | .connecting => ∃ a, pending = [a] ∧ a.timer = .handshake
  | .connected =>
    (∀ a ∈ pending, a.timer = .keepAlive ∨ ∃ n, a.timer = .retransmission n) ∧
      (pending.filter (·.timer == .keepAlive)).length ≤ (if s.info.passive then 0 else 1) ∧
      ∃ q, s.retransmit = some q ∧ ∀ n,
        (pending.filter (·.timer == .retransmission n)).length =
          if (RetransmitQueue.entry? q n).isSome then 1 else 0
  | .disconnecting => ∃ a, pending = [a] ∧ a.timer = .disconnect

/-- A fresh session exists exactly for a usable configuration: the closed session with that
configuration and nothing else. -/
theorem new_eq_ok_iff {c : Config} {s : Session} :
    new c = .ok s ↔ c.isValid = true ∧ s = { info := { config := c } } := by
  unfold new Config.isValid
  cases c.validate with
  | error err => simp
  | ok u =>
    simp only [true_and]
    exact ⟨fun h ↦ (Except.ok.inj h).symm, fun h ↦ h ▸ rfl⟩

/-- A fresh session is closed, with no windows. -/
theorem eq_of_new {c : Config} {s : Session} (h : new c = .ok s) : s = { info := { config := c } } :=
  (new_eq_ok_iff.1 h).2

/-- A usable configuration makes a fresh session. -/
theorem new_of_isValid {c : Config} (hc : c.isValid = true) :
    new c = .ok { info := { config := c } } :=
  new_eq_ok_iff.2 ⟨hc, rfl⟩

end Session

namespace Endpoint

/-- How the wake-ups pending at the host stand to the session they are for. -/
structure OwnsWakeups (e : Endpoint) : Prop where
  /-- A wake-up is pending exactly when the session records its handle for its timer. -/
  pending_iff : ∀ hd t,
    (∃ a ∈ e.schedule.pending, a.handle = hd ∧ a.timer = t) ↔ e.session.held t = some hd
  /-- The handles pending for a timer are the one recorded for it, if any. -/
  pending_for : ∀ t,
    (e.schedule.pending.filter (·.timer == t)).map Alarm.handle = (e.session.held t).toList
  /-- What is pending fits the state. -/
  by_state : e.session.PendingFits e.schedule.pending
  /-- A delivery whose handle is not the one recorded for its timer changes nothing. -/
  stale : ∀ hd t, e.session.held t ≠ some hd → e.handle (.fire hd t) = { e with effects := [] }

variable {e : Endpoint}

open Act

/-! ### The invariant of every reachable endpoint -/

/-- A fresh session with a usable configuration has the invariant. -/
theorem invariant_fresh {c : Config} {s : Session} (hs : Session.new c = .ok s) :
    Invariant { session := s } := by
  obtain ⟨hv, rfl⟩ := Session.new_eq_ok_iff.1 hs
  have hnone : ∀ t, ({ info := { config := c } } : Session).held t = none := by
    intro t
    cases t <;> rfl
  refine ⟨⟨⟨Schedule.Fresh.empty, fun hd t ↦ ?_⟩, hnone, fun q hq ↦ by cases hq⟩, trivial,
    ⟨rfl, rfl, rfl, rfl⟩, hv⟩
  rw [hnone]
  simp [Schedule.Has]

/-- A delivery whose handle is not the one recorded for its timer changes nothing: the host had
nothing to forget, and the session ignores it. -/
theorem Invariant.handle_stale (h : e.Invariant) {hd : Handle} {t : Timer}
    (hn : e.session.held t ≠ some hd) : e.handle (.fire hd t) = { e with effects := [] } := by
  have hsched : e.schedule.deliver hd t = e.schedule := h.synced.tracks.deliver_eq_self hn
  have hprep : e.prepare (.fire hd t) = { e with effects := [] } := by
    simp only [prepare, hsched]
  have h₀ : Invariant { e with effects := [] } := h.spoken ⟨rfl, rfl⟩
  unfold handle
  rw [hprep]
  exact h₀.timerFired_stale hn

/-- Every event keeps the invariant. -/
theorem Invariant.handle (h : e.Invariant) (ev : Event) : (e.handle ev).Invariant := by
  -- an event finds the endpoint with no effects recorded, which changes nothing of the invariant
  have h₀ : Invariant { e with effects := [] } := h.spoken ⟨rfl, rfl⟩
  cases ev with
  | connect iss => exact h₀.connect iss
  | wait iss => exact h₀.wait iss
  | close => exact h₀.close
  | invalidate => exact h₀.invalidate
  | send payload =>
    simp only [Endpoint.handle, prepare, Event.act, run_bind, run_pure]
    exact h₀.send payload
  | receive datagram => exact h₀.receive datagram
  | fire hd t =>
    by_cases ht : e.session.held t = some hd
    · exact h.fired ht
    · rw [h.handle_stale ht]
      exact h₀

/-- Every reachable endpoint has the invariant. -/
theorem Reachable.invariant (h : e.Reachable) : e.Invariant := by
  induction h with
  | fresh hs => exact invariant_fresh hs
  | handle ev _ ih => exact ih.handle ev

/-! ### Wake-up ownership and aligned windows -/

/-- What is pending fits the state: each state's allowance and the wake-ups it needs armed,
read through the schedule's agreement with the record. -/
theorem Invariant.pendingFits (h : e.Invariant) : e.session.PendingFits e.schedule.pending := by
  have ht := h.synced.tracks
  have hs := h.synced.fresh
  have hallowed := h.allowed
  have harmed := h.armed
  have hw := h.windows
  unfold Session.TimersAllowed at hallowed
  unfold Session.TimersArmed at harmed
  unfold Session.WindowsFit at hw
  unfold Session.PendingFits
  cases hst : e.session.state with
  | closed =>
    rw [hst] at hallowed hw
    exact ⟨ht.pending_eq_nil hallowed, hw⟩
  | waiting =>
    rw [hst] at hallowed hw
    exact ⟨ht.pending_eq_nil hallowed, hw.1, hw.2.1, hw.2.2.1, hw.2.2.2.1⟩
  | initiating | connecting =>
    rw [hst] at hallowed harmed
    exact ht.pending_eq_single hs harmed hallowed
  | disconnecting =>
    rw [hst] at hallowed harmed
    exact ht.pending_eq_single hs harmed hallowed
  | connected =>
    rw [hst] at hallowed hw
    obtain ⟨hhs, hdis, hka⟩ := hallowed
    obtain ⟨r, send, q, recv, -, -, hq, -, -⟩ := hw
    refine ⟨fun a ha ↦ ?_, ?_, q, hq, fun n ↦ ?_⟩
    · -- a pending wake-up is recorded for its timer, and a connected session records neither
      -- a handshake nor a disconnect wake-up
      have hrec : e.session.held a.timer = some a.handle := (ht _ _).1 ⟨a, ha, rfl, rfl⟩
      cases hat : a.timer with
      | handshake => rw [hat, hhs] at hrec; cases hrec
      | disconnect => rw [hat, hdis] at hrec; cases hrec
      | keepAlive => exact .inl rfl
      | retransmission n => exact .inr ⟨n, rfl⟩
    · rw [ht.length_pending_for hs]
      cases hp : e.session.info.passive with
      | true => simp [hka hp]
      | false => cases e.session.held .keepAlive <;> simp
    · rw [ht.length_pending_for hs, Session.held_eq, Timers.held,
        Session.retransmissions_of_some hq, RetransmitQueue.handles]
      cases RetransmitQueue.entry? q n <;> rfl

/-- Every reachable endpoint owns its wake-ups: the host has pending exactly the wake-ups its
session records, each once and for the timer it is recorded for, what is pending fits the
session's state, and a stale delivery changes nothing. -/
theorem Reachable.owns_wakeups (h : e.Reachable) : e.OwnsWakeups where
  pending_iff := h.invariant.synced.tracks
  pending_for := h.invariant.synced.tracks.pending_for h.invariant.synced.fresh
  by_state := h.invariant.pendingFits
  stale _ _ hn := h.invariant.handle_stale hn

/-- A session of the default configuration that opened actively with initial number 0, then
received its peer's SYN+ACK: initial number 100, acknowledging 0, and the peer's configuration. -/
def synAcked : Endpoint :=
  (({ session := { info := { config := {} } } } : Endpoint).handle (.connect 0)).handle
    (.receive [9, 1, 0, 22, 0, 100, 0, 0, 238, 202, 242, 249, 0, 0, 2, 88, 7, 208, 5, 120, 5, 32])

theorem synAcked_reachable : synAcked.Reachable :=
  .handle _ (.handle _ (.fresh (c := {}) (by decide)))

theorem synAcked_connected : synAcked.session.state = .connected := by
  decide

theorem synAcked_ownsWakeups : synAcked.Reachable ∧ synAcked.OwnsWakeups :=
  ⟨synAcked_reachable, Reachable.owns_wakeups synAcked_reachable⟩

/-- A reachable connected session has its windows aligned on its peer's configuration. -/
theorem Reachable.windows_aligned (h : e.Reachable) (hst : e.session.state = .connected) :
    e.session.Windowed :=
  h.invariant.windowed hst

theorem synAcked_windowed :
    synAcked.Reachable ∧ synAcked.session.state = .connected ∧ synAcked.session.Windowed :=
  ⟨synAcked_reachable, synAcked_connected,
    Reachable.windows_aligned synAcked_reachable synAcked_connected⟩

end Endpoint

end ReliableDatagram
