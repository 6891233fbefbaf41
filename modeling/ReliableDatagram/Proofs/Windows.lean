import ReliableDatagram.Proofs.Holding
/-!
# The windows of a connected session

A connected session keeps three windows: the send ring holds the segments sent and not yet
acknowledged, the retransmission queue holds a wake-up for each of them, and the receive ring
holds segments that arrived ahead of the next expected one. `Session.Windows` states how they
fit together:

* the send ring and the queue are as large as the peer's window and start at the oldest
  unacknowledged number;
* at most a window's worth of numbers have been sent past that one;
* a number is in use in the send ring exactly when it has a live retransmission entry, and
  every such number has been sent and not yet acknowledged;
* the receive ring is as large as this side's window and starts two past the last number
  delivered, the next one being delivered directly.

Each operation of a connected session moves the windows in a way these laws survive; the
lemmas below take them one by one, on the windows alone, so that the session-level proofs only
match an action to its operation. The delivery loop is the one place where the receive ring
lags its law by one number between iterations; `Windows` at `receiveAcked - 1` is its loop
invariant.
-/

namespace ReliableDatagram

namespace Config

/-- A usable configuration has a window of at least one segment. -/
theorem maxOutstanding_pos {c : Config} (h : c.isValid = true) : 0 < c.maxOutstanding.toNat := by
  by_contra h0
  have hz : c.maxOutstanding = 0 := UInt8.toNat_inj.1 (by simpa using h0)
  simp [isValid, validate, hz] at h

end Config

namespace Session

/-- The windows of a connected session with connection information `i`, aligned on the peer's
configuration `r`. -/
structure Windows (i : Info) (r : Config) (send : SegmentBuffer) (queue : RetransmitQueue)
    (recv : SegmentBuffer) : Prop where
  /-- The peer's configuration passed validation. -/
  valid : r.isValid = true
  send_wf : send.WellFormed
  recv_wf : recv.WellFormed
  /-- The send ring is as large as the peer's window. -/
  send_capacity : send.capacity = r.maxOutstanding.toNat
  /-- So is the retransmission queue. -/
  queue_capacity : queue.capacity = r.maxOutstanding.toNat
  /-- The send ring starts at the oldest unacknowledged number. -/
  send_base : send.base = i.sendUnacked
  /-- So does the retransmission queue. -/
  queue_base : queue.base = i.sendUnacked
  /-- At most a window's worth of numbers have been sent and not acknowledged. -/
  next_le : (Seq.offset i.sendNext i.sendUnacked).toNat ≤ r.maxOutstanding.toNat
  /-- A number is in use in the send ring exactly when it has a live retransmission entry. -/
  inUse_eq : ∀ n, send.isInUse n = (queue.entry? n).isSome
  /-- A number with a live entry has been sent and not acknowledged. -/
  live_lt : ∀ n, (queue.entry? n).isSome = true →
    (Seq.offset n i.sendUnacked).toNat < (Seq.offset i.sendNext i.sendUnacked).toNat
  /-- The receive ring is as large as this side's window. -/
  recv_capacity : recv.capacity = i.config.maxOutstanding.toNat
  /-- The receive ring starts two past the last number delivered. -/
  recv_base : recv.base = i.receiveAcked + 2

/-- A session's windows exist and are aligned on the peer's configuration. -/
def Windowed (s : Session) : Prop :=
  ∃ r send queue recv, s.info.remote = some r ∧ s.sendRing = some send ∧
    s.retransmit = some queue ∧ s.receiveRing = some recv ∧ Windows s.info r send queue recv

/-- What a session keeps of the peer and of its windows in each state: nothing when closed or
waiting; while opening, the next number is the one after its SYN, and a connecting session has
accepted a usable peer configuration; a connected session has its windows aligned. -/
def WindowsFit (s : Session) : Prop :=
  match s.state with
  | .closed =>
    s.sendRing = none ∧ s.retransmit = none ∧ s.receiveRing = none ∧ s.info.remote = none
  | .waiting =>
    s.sendRing = none ∧ s.retransmit = none ∧ s.receiveRing = none ∧ s.info.remote = none ∧
      s.info.sendNext = s.info.sendInitial + 1
  | .initiating => s.info.sendNext = s.info.sendInitial + 1
  | .connecting =>
    s.info.sendNext = s.info.sendInitial + 1 ∧ ∃ r, s.info.remote = some r ∧ r.isValid = true
  | .connected => s.Windowed
  | .disconnecting => True

namespace Windows

variable {i : Info} {r : Config} {send : SegmentBuffer} {queue : RetransmitQueue} {recv : SegmentBuffer}

/-- The windows opened on entering the connected state are aligned: empty, all three starting
where the handshake left the numbers. -/
theorem opened (hr : r.isValid = true) (hc : i.config.isValid = true)
    (hnext : i.sendUnacked = i.sendNext) (s : Schedule) :
    Windows i r ((SegmentBuffer.new r.maxSegmentSize r.maxOutstanding).setBase i.sendNext)
      ((RetransmitQueue.new r.maxOutstanding).setBase s i.sendNext).1
      ((SegmentBuffer.new i.config.maxSegmentSize i.config.maxOutstanding).setBase
        (i.receiveAcked + 2)) where
  valid := hr
  send_wf := (SegmentBuffer.WellFormed.new _ _).setBase _
  recv_wf := (SegmentBuffer.WellFormed.new _ _).setBase _
  send_capacity := by
    have := Config.maxOutstanding_pos hr
    simp only [SegmentBuffer.capacity_new_setBase]
    omega
  queue_capacity := by
    have := Config.maxOutstanding_pos hr
    simp only [RetransmitQueue.capacity_setBase, RetransmitQueue.capacity_new]
    omega
  send_base := by rw [SegmentBuffer.base_setBase, hnext]
  queue_base := by rw [RetransmitQueue.base_setBase, hnext]
  next_le := by simp [hnext]
  inUse_eq n := by simp
  live_lt n := by simp
  recv_capacity := by
    have := Config.maxOutstanding_pos hc
    simp only [SegmentBuffer.capacity_new_setBase]
    omega
  recv_base := SegmentBuffer.base_setBase _ _

/-- A cumulative acknowledgment of everything before `ack + 1`, which lies between the oldest
unacknowledged number and the next to send, moves both send windows to start there. -/
theorem acknowledge (hw : Windows i r send queue recv) {ack : UInt16}
    (hk : (Seq.offset (ack + 1) i.sendUnacked).toNat ≤ (Seq.offset i.sendNext i.sendUnacked).toNat)
    (s : Schedule) :
    Windows { i with sendUnacked := ack + 1 } r
      (send.advanceBase (Seq.offset (ack + 1) i.sendUnacked))
      (queue.advance s (Seq.offset (ack + 1) i.sendUnacked)).1 recv := by
  -- the new base is the old one moved by `k`, so every distance shrinks by `k`
  set k := Seq.offset (ack + 1) i.sendUnacked with hkdef
  have hbase : i.sendUnacked + k = ack + 1 := Seq.add_offset _ _
  have hqcap : queue.capacity < 256 := by
    have := r.maxOutstanding.toNat_lt
    rw [hw.queue_capacity]
    omega
  have hdist : ∀ n, k.toNat ≤ (Seq.offset n i.sendUnacked).toNat →
      (Seq.offset n (ack + 1)).toNat = (Seq.offset n i.sendUnacked).toNat - k.toNat := by
    intro n hn
    rw [← hbase]
    exact Seq.toNat_offset_add_right hn
  refine
    { valid := hw.valid
      send_wf := hw.send_wf.advanceBase k
      recv_wf := hw.recv_wf
      send_capacity := by rw [SegmentBuffer.capacity_advanceBase, hw.send_capacity]
      queue_capacity := by rw [RetransmitQueue.capacity_advance, hw.queue_capacity]
      send_base := by rw [SegmentBuffer.base_advanceBase, hw.send_base, hbase]
      queue_base := by rw [RetransmitQueue.base_advance, hw.queue_base, hbase]
      next_le := ?_
      inUse_eq := ?_
      live_lt := ?_
      recv_capacity := hw.recv_capacity
      recv_base := hw.recv_base }
  · rw [hdist _ hk]
    exact Nat.le_trans (Nat.sub_le _ _) hw.next_le
  · intro n
    rw [SegmentBuffer.isInUse_advanceBase hw.send_wf, RetransmitQueue.entry?_advance hqcap, hw.send_base,
      hw.queue_base, hw.inUse_eq n]
    by_cases hn : k.toNat ≤ (Seq.offset n i.sendUnacked).toNat <;> simp [hn]
  · intro n hn
    rw [RetransmitQueue.entry?_advance hqcap, hw.queue_base] at hn
    split at hn
    · rename_i hkn
      have hlt := hw.live_lt n hn
      dsimp only
      rw [hdist _ hkn, hdist _ hk]
      omega
    · simp at hn

/-- Releasing a number in use, named by an extended acknowledgment, frees its slot and drops its
entry. -/
theorem release (hw : Windows i r send queue recv) {seq : UInt16} (hu : send.isInUse seq = true)
    (s : Schedule) : Windows i r (send.unmark seq) (queue.remove s seq).1 recv := by
  have hlive : (queue.entry? seq).isSome = true := by rw [← hw.inUse_eq]; exact hu
  obtain ⟨o, ho⟩ : ∃ o, queue.offset? seq = some o := by
    cases ho : queue.offset? seq with
    | some o => exact ⟨o, rfl⟩
    | none => simp [RetransmitQueue.entry?, ho] at hlive
  have hentry : ∀ n, RetransmitQueue.entry? (queue.remove s seq).1 n =
      if n = seq then none else queue.entry? n := by
    intro n
    rw [RetransmitQueue.remove_of_offset? ho]
    exact RetransmitQueue.entry?_set ho none n
  refine
    { valid := hw.valid
      send_wf := hw.send_wf.unmark seq
      recv_wf := hw.recv_wf
      send_capacity := by rw [SegmentBuffer.capacity_unmark, hw.send_capacity]
      queue_capacity := by
        rw [RetransmitQueue.capacity_remove, hw.queue_capacity]
      send_base := by rw [SegmentBuffer.base_unmark, hw.send_base]
      queue_base := by
        rw [RetransmitQueue.remove_of_offset? ho]
        exact hw.queue_base
      next_le := hw.next_le
      inUse_eq := fun n ↦ ?_
      live_lt := fun n hn ↦ ?_
      recv_capacity := hw.recv_capacity
      recv_base := hw.recv_base }
  · rw [SegmentBuffer.isInUse_unmark, hentry, hw.inUse_eq n]
    by_cases hn : n = seq <;> simp [hn]
  · rw [hentry] at hn
    split at hn
    · simp at hn
    · exact hw.live_lt n hn

/-- Sending the next number stores its segment, gives it an entry, and moves the next number on
by one; there must be a slot for it. -/
theorem sent (hw : Windows i r send queue recv) (hslot : send.hasSlot i.sendNext = true)
    (bytes : Bytes) (s : Schedule) (timeout : Nat) :
    Windows { i with sendNext := i.sendNext + 1 } r (send.store i.sendNext bytes).2
      (queue.add s i.sendNext timeout).1 recv := by
  have hoff : (Seq.offset i.sendNext i.sendUnacked).toNat < r.maxOutstanding.toNat := by
    have := hslot
    simp only [SegmentBuffer.hasSlot, decide_eq_true_eq] at this
    rwa [hw.send_base, hw.send_capacity] at this
  have hnext : (Seq.offset (i.sendNext + 1) i.sendUnacked).toNat =
      (Seq.offset i.sendNext i.sendUnacked).toNat + 1 := by
    have := r.maxOutstanding.toNat_lt
    exact Seq.toNat_offset_add_one (by omega)
  obtain ⟨o, ho⟩ : ∃ o, queue.offset? i.sendNext = some o := by
    refine ⟨_, RetransmitQueue.offset?_eq_some_iff.2 ⟨rfl, ?_⟩⟩
    rw [hw.queue_base, hw.queue_capacity]
    exact hoff
  have hentry : ∀ n, (RetransmitQueue.entry? (queue.add s i.sendNext timeout).1 n).isSome =
      (n == i.sendNext || (queue.entry? n).isSome) := by
    intro n
    rw [RetransmitQueue.add_of_offset? ho]
    dsimp only
    rw [RetransmitQueue.entry?_set ho]
    by_cases hn : n = i.sendNext <;> simp [hn]
  refine
    { valid := hw.valid
      send_wf := hw.send_wf.store _ bytes
      recv_wf := hw.recv_wf
      send_capacity := by rw [SegmentBuffer.capacity_store, hw.send_capacity]
      queue_capacity := by rw [RetransmitQueue.capacity_add, hw.queue_capacity]
      send_base := by rw [SegmentBuffer.base_store, hw.send_base]
      queue_base := by
        rw [RetransmitQueue.add_of_offset? ho]
        exact hw.queue_base
      next_le := by
        dsimp only
        omega
      inUse_eq := fun n ↦ ?_
      live_lt := fun n hn ↦ ?_
      recv_capacity := hw.recv_capacity
      recv_base := hw.recv_base }
  · rw [SegmentBuffer.isInUse_store, hentry, hw.inUse_eq n, hslot, Bool.and_true, Bool.or_comm]
  · dsimp only
    rw [hentry] at hn
    rw [hnext]
    by_cases hn' : n = i.sendNext
    · subst hn'
      omega
    · have := hw.live_lt n (by simpa [hn'] using hn)
      omega

/-- Rearming a live entry under a new handle keeps the windows. -/
theorem rearm (hw : Windows i r send queue recv) {seq : UInt16} {o : Nat}
    (ho : queue.offset? seq = some o) (hlive : (queue.entry? seq).isSome = true) (x : Entry) :
    Windows i r send { queue with entries := queue.entries.set o (some x) } recv := by
  have hentry : ∀ n, (RetransmitQueue.entry? { queue with entries := queue.entries.set o (some x) }
      n).isSome = (queue.entry? n).isSome := by
    intro n
    rw [RetransmitQueue.entry?_set ho]
    by_cases hn : n = seq
    · subst hn
      simp [hlive]
    · simp [hn]
  exact
    { valid := hw.valid
      send_wf := hw.send_wf
      recv_wf := hw.recv_wf
      send_capacity := hw.send_capacity
      queue_capacity := by rw [← hw.queue_capacity]; simp [RetransmitQueue.capacity]
      send_base := hw.send_base
      queue_base := hw.queue_base
      next_le := hw.next_le
      inUse_eq := fun n ↦ by rw [hentry]; exact hw.inUse_eq n
      live_lt := fun n hn ↦ hw.live_lt n (by rwa [hentry] at hn)
      recv_capacity := hw.recv_capacity
      recv_base := hw.recv_base }

/-- The receive side may change by any ring of the same size that starts two past the new last
delivered number. -/
theorem receive (hw : Windows i r send queue recv) {recv' : SegmentBuffer} (hwf : recv'.WellFormed)
    (hcap : recv'.capacity = recv.capacity) (a : UInt16) (hbase : recv'.base = a + 2) :
    Windows { i with receiveAcked := a } r send queue recv' where
  valid := hw.valid
  send_wf := hw.send_wf
  recv_wf := hwf
  send_capacity := hw.send_capacity
  queue_capacity := hw.queue_capacity
  send_base := hw.send_base
  queue_base := hw.queue_base
  next_le := hw.next_le
  inUse_eq := hw.inUse_eq
  live_lt := hw.live_lt
  recv_capacity := hcap.trans hw.recv_capacity
  recv_base := hbase

end Windows

end Session

end ReliableDatagram
