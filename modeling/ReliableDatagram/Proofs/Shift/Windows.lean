import ReliableDatagram.Proofs.WindowMap
import ReliableDatagram.Proofs.Retransmit
/-!
# Moving the numbers of the windows and wake-ups

Everything a session keeps by sequence number is kept by offset from a base: the segment
buffers, the retransmission queue, and the wake-ups for retransmissions, which name the number
they resend. This module moves all of them by a fixed amount and shows that each operation
commutes with the move, given its argument moved too.

* A retransmission queue moves by its base alone (`RetransmitQueue.shift`), and a schedule by the
  numbers its retransmission wake-ups name (`Schedule.shift`); handles, delays and entries stay.
  Every queue operation then commutes with moving both (`RetransmitQueue.add_shift`, ...).
* A segment buffer is compared through the window it stands for (`SegmentBuffer.view`): two
  buffers correspond (`SegmentBuffer.Shifted k R`) when both are well formed, their bases differ
  by `k`, and what each offset holds is related by `R`. Every operation keeps the correspondence
  and every observation agrees, read at numbers `k` apart, the walk along the list included.
-/

namespace ReliableDatagram

namespace Timer

/-- The timer with the number of the segment it resends moved by `a`. -/
def shift (t : Timer) (a : UInt16) : Timer :=
  match t with
  | retransmission seq => retransmission (seq + a)
  | t => t

@[simp] theorem shift_handshake (a : UInt16) : handshake.shift a = handshake := rfl

@[simp] theorem shift_keepAlive (a : UInt16) : keepAlive.shift a = keepAlive := rfl

@[simp] theorem shift_disconnect (a : UInt16) : disconnect.shift a = disconnect := rfl

@[simp] theorem shift_retransmission (seq a : UInt16) :
    (retransmission seq).shift a = retransmission (seq + a) := rfl

@[simp] theorem shift_inj {t t' : Timer} {a : UInt16} : t.shift a = t'.shift a ↔ t = t' := by
  constructor
  · intro h
    cases t <;> cases t' <;> simp_all [shift]
  · rintro rfl
    rfl

@[simp] theorem beq_shift (t t' : Timer) (a : UInt16) : (t.shift a == t'.shift a) = (t == t') := by
  rw [Bool.eq_iff_iff, beq_iff_eq, beq_iff_eq, shift_inj]

end Timer

/-- The wake-up with the number its timer names moved by `a`. -/
def Alarm.shift (al : Alarm) (a : UInt16) : Alarm :=
  { al with timer := al.timer.shift a }

namespace Schedule

/-- The schedule with the numbers its retransmission wake-ups name moved by `a`. -/
def shift (s : Schedule) (a : UInt16) : Schedule :=
  { s with pending := s.pending.map (·.shift a) }

section Shift

variable (s : Schedule) (a : UInt16)

@[simp] theorem issued_shift : (s.shift a).issued = s.issued := rfl

theorem add_shift (delay : Nat) (t : Timer) :
    (s.shift a).add delay (t.shift a) = ((s.add delay t).1, (s.add delay t).2.shift a) := by
  simp [add, shift, Alarm.shift]

/-- A wake-up for a timer that names no segment is scheduled alike in both schedules. -/
theorem add_shift_of_eq (delay : Nat) {t : Timer} (ht : t.shift a = t) :
    (s.shift a).add delay t = ((s.add delay t).1, (s.add delay t).2.shift a) := by
  have h := add_shift s a delay t
  rwa [ht] at h

theorem cancel_shift (h : Handle) : (s.shift a).cancel h = (s.cancel h).shift a := by
  simp [cancel, shift, List.filter_map, Function.comp_def, Alarm.shift]

theorem cancel?_shift (h : Option Handle) : (s.shift a).cancel? h = (s.cancel? h).shift a := by
  cases h with
  | none => rfl
  | some h => exact cancel_shift s a h

theorem deliver_shift (h : Handle) (t : Timer) :
    (s.shift a).deliver h (t.shift a) = (s.deliver h t).shift a := by
  simp [deliver, shift, List.filter_map, Function.comp_def, Alarm.shift]

end Shift

end Schedule

namespace RetransmitQueue

/-- The queue with its window `a` further on; the entries stay at their offsets. -/
def shift (q : RetransmitQueue) (a : UInt16) : RetransmitQueue :=
  { q with base := q.base + a }

section Shift

variable (q : RetransmitQueue) (s : Schedule) (a : UInt16)

@[simp] theorem base_shift : (q.shift a).base = q.base + a := rfl

@[simp] theorem entries_shift : (q.shift a).entries = q.entries := rfl

@[simp] theorem capacity_shift : (q.shift a).capacity = q.capacity := rfl

theorem offset?_shift (seq : UInt16) : (q.shift a).offset? (seq + a) = q.offset? seq := by
  simp only [offset?, base_shift, Seq.offset_add_add, capacity_shift]

theorem entry?_shift (seq : UInt16) : entry? (q.shift a) (seq + a) = q.entry? seq := by
  simp only [ entry?, offset?_shift, entries_shift]

theorem due?_shift (seq : UInt16) (h : Handle) : (q.shift a).due? (seq + a) h = q.due? seq h := by
  simp only [due?, entry?_shift]

theorem cancelAll_shift (es : List (Option Entry)) :
    cancelAll (s.shift a) es = (cancelAll s es).shift a := by
  induction es generalizing s with
  | nil => rfl
  | cons e es ih => simp only [cancelAll, List.foldl_cons, Schedule.cancel?_shift] at ih ⊢; exact ih _

/-- Moving the window to a new base reads nothing of the old base. -/
theorem setBase_shift (b : UInt16) :
    q.setBase (s.shift a) (b + a) = ((q.setBase s b).1.shift a, (q.setBase s b).2.shift a) := by
  simp only [setBase, cancelAll_shift]
  rfl

theorem advance_shift (k : UInt16) :
    (q.shift a).advance (s.shift a) k = ((q.advance s k).1.shift a, (q.advance s k).2.shift a) := by
  unfold advance
  by_cases hk : k.toNat ≥ q.capacity
  · rw [capacity_shift, if_pos hk, if_pos hk, base_shift,
      show q.base + a + k = q.base + k + a by rw [UInt16.add_assoc, UInt16.add_comm a k,
        ← UInt16.add_assoc], setBase_shift]
    rfl
  · rw [capacity_shift, if_neg hk, if_neg hk]
    simp only [shift, cancelAll_shift, Prod.mk.injEq, and_true]
    rw [UInt16.add_assoc, UInt16.add_comm a k, ← UInt16.add_assoc]

theorem add_shift (seq : UInt16) (timeout : Nat) :
    (q.shift a).add (s.shift a) (seq + a) timeout =
      ((q.add s seq timeout).1.shift a, (q.add s seq timeout).2.shift a) := by
  unfold add
  rw [offset?_shift, entry?_shift]
  cases q.offset? seq with
  | none => rfl
  | some o =>
    simp only [Schedule.cancel?_shift]
    rw [← Timer.shift_retransmission, Schedule.add_shift]
    rfl

theorem remove_shift (seq : UInt16) :
    (q.shift a).remove (s.shift a) (seq + a) =
      ((q.remove s seq).1.shift a, (q.remove s seq).2.shift a) := by
  unfold remove
  rw [offset?_shift, entry?_shift]
  cases q.offset? seq with
  | none => rfl
  | some o =>
    simp only [Schedule.cancel?_shift]
    rfl

theorem fire_shift (seq : UInt16) (h : Handle) (resend : Entry → Bool) :
    (q.shift a).fire (s.shift a) (seq + a) h resend =
      ((q.fire s seq h resend).1, (q.fire s seq h resend).2.1.shift a,
        (q.fire s seq h resend).2.2.shift a) := by
  unfold fire
  rw [offset?_shift, due?_shift]
  cases q.offset? seq with
  | none => rfl
  | some o =>
    cases q.due? seq h with
    | none => rfl
    | some e =>
      dsimp only
      split
      · rw [← Timer.shift_retransmission, Schedule.add_shift]
        rfl
      · rfl

end Shift

end RetransmitQueue

namespace WindowMap

section Held

variable {R : Bytes → Bytes → Prop} {x y : Option Bytes}

/-- Related contents are held on both sides or on neither. -/
theorem isSome_eq_of_rel (h : Option.Rel R x y) : y.isSome = x.isSome := by
  cases h <;> rfl

theorem eq_of_rel_eq (h : Option.Rel Eq x y) : y = x := by
  cases h with
  | some hv => rw [hv]
  | none => rfl

theorem exists_of_rel_some {v : Bytes} (h : Option.Rel R (some v) y) : ∃ v', y = some v' ∧ R v v' := by
  cases h with
  | some hR => exact ⟨_, rfl, hR⟩

end Held

/-- `w'` is the window `w` with its numbers `k` further on: the same slots, a base `k` further
on, and what each offset holds related by `R`. -/
structure Shifted (k : UInt16) (R : Bytes → Bytes → Prop) (w w' : WindowMap) : Prop where
  capacity : w'.capacity = w.capacity
  slotSize : w'.slotSize = w.slotSize
  base : w'.base = w.base + k
  held : ∀ o, Option.Rel R (w.held o) (w'.held o)

namespace Shifted

variable {k : UInt16} {R : Bytes → Bytes → Prop} {w w' : WindowMap}

/-- Numbers `k` apart have the same offset in the two windows. -/
theorem off (h : Shifted k R w w') (q : UInt16) : w'.off (q + k) = w.off q := by
  simp only [WindowMap.off, h.base, Seq.offset_add_add]

theorem reset (h : Shifted k R w w') (b : UInt16) : Shifted k R (w.reset b) (w'.reset (b + k)) :=
  ⟨h.capacity, h.slotSize, rfl, fun _ ↦ .none⟩

theorem shift (h : Shifted k R w w') (j : UInt16) : Shifted k R (w.shift j) (w'.shift j) where
  capacity := h.capacity
  slotSize := h.slotSize
  base := by
    simp only [WindowMap.shift, h.base]
    rw [UInt16.add_assoc, UInt16.add_comm k j, ← UInt16.add_assoc]
  held o := h.held (o + j.toNat)

theorem put (h : Shifted k R w w') (q : UInt16) {v v' : Bytes} (hv : R v v')
    (hb : v.length ≤ w.slotSize) (hb' : v'.length ≤ w'.slotSize) :
    Shifted k R (w.put q v hb) (w'.put (q + k) v' hb') := by
  refine ⟨h.capacity, h.slotSize, h.base, fun o ↦ ?_⟩
  show Option.Rel R (if w.off q < w.capacity ∧ o = w.off q then some v else w.held o)
    (if w'.off (q + k) < w'.capacity ∧ o = w'.off (q + k) then some v' else w'.held o)
  rw [h.off, h.capacity]
  split
  · exact .some hv
  · exact h.held o

theorem erase (h : Shifted k R w w') (q : UInt16) : Shifted k R (w.erase q) (w'.erase (q + k)) := by
  refine ⟨h.capacity, h.slotSize, h.base, fun o ↦ ?_⟩
  show Option.Rel R (if o = w.off q then none else w.held o)
    (if o = w'.off (q + k) then none else w'.held o)
  rw [h.off]
  split
  · exact .none
  · exact h.held o

theorem hasSlot (h : Shifted k R w w') (q : UInt16) : w'.hasSlot (q + k) = w.hasSlot q := by
  simp only [WindowMap.hasSlot, h.off, h.capacity]

theorem held_off (h : Shifted k R w w') (q : UInt16) :
    Option.Rel R (w.held (w.off q)) (w'.held (w'.off (q + k))) := by
  rw [h.off]
  exact h.held _

theorem inUse (h : Shifted k R w w') (q : UInt16) : w'.inUse (q + k) = w.inUse q :=
  isSome_eq_of_rel (h.held_off q)

theorem usedOffsets (h : Shifted k R w w') : w'.usedOffsets = w.usedOffsets := by
  simp only [WindowMap.usedOffsets, h.capacity]
  exact List.filter_congr fun o _ ↦ isSome_eq_of_rel (h.held o)

theorem count (h : Shifted k R w w') : w'.count = w.count := by
  simp only [WindowMap.count, h.usedOffsets]

theorem enumerate (h : Shifted k R w w') (m : Nat) :
    w'.enumerate m = (w.enumerate m).map (· + k) := by
  simp only [WindowMap.enumerate, h.usedOffsets, List.map_map, h.base]
  refine List.map_congr_left fun o _ ↦ ?_
  show w.base + k + o.toUInt16 = w.base + o.toUInt16 + k
  rw [UInt16.add_assoc, UInt16.add_comm k, ← UInt16.add_assoc]

theorem slot?_eq (h : Shifted k Eq w w') (q : UInt16) : w'.slot? (q + k) = w.slot? q := by
  simp only [WindowMap.slot?, h.off, h.capacity, eq_of_rel_eq (h.held _)]

end Shifted

end WindowMap

namespace SegmentBuffer

/-- `r'` stands for the window of `r` with its numbers `k` further on, what each slot holds
related by `R`; both buffers are well formed. -/
structure Shifted (k : UInt16) (R : Bytes → Bytes → Prop) (r r' : SegmentBuffer) : Prop where
  wf : r.WellFormed
  wf' : r'.WellFormed
  view : WindowMap.Shifted k R r.view r'.view

namespace Shifted

variable {k : UInt16} {R : Bytes → Bytes → Prop} {r r' : SegmentBuffer}

/-- A new buffer and the same buffer based `k` further on correspond. -/
theorem new_setBase (size : UInt16) (count : UInt8) (b : UInt16) :
    Shifted k R ((new size count).setBase b) ((new size count).setBase (b + k)) where
  wf := (WellFormed.new size count).setBase b
  wf' := (WellFormed.new size count).setBase (b + k)
  view := by
    rw [view_setBase, view_setBase]
    exact ⟨rfl, rfl, rfl, fun _ ↦ .none⟩

theorem advanceBase (h : Shifted k R r r') (j : UInt16) :
    Shifted k R (r.advanceBase j) (r'.advanceBase j) where
  wf := h.wf.advanceBase j
  wf' := h.wf'.advanceBase j
  view := by
    rw [view_advanceBase, view_advanceBase]
    exact h.view.shift j

theorem unmark (h : Shifted k R r r') (q : UInt16) : Shifted k R (r.unmark q) (r'.unmark (q + k)) where
  wf := h.wf.unmark q
  wf' := h.wf'.unmark (q + k)
  view := by
    rw [view_unmark, view_unmark]
    exact h.view.erase q

theorem store (h : Shifted k R r r') (q : UInt16) {bytes bytes' : Bytes}
    (hv : R (bytes.take r.slotSize) (bytes'.take r'.slotSize)) :
    Shifted k R (r.store q bytes).2 (r'.store (q + k) bytes').2 where
  wf := h.wf.store q bytes
  wf' := h.wf'.store (q + k) bytes'
  view := by
    rw [h.wf.view_store, h.wf'.view_store]
    exact h.view.put q hv _ _

theorem base (h : Shifted k R r r') : r'.base = r.base + k :=
  h.view.base

theorem capacity (h : Shifted k R r r') : r'.capacity = r.capacity := by
  simpa using h.view.capacity

theorem slotSize (h : Shifted k R r r') : r'.slotSize = r.slotSize :=
  h.view.slotSize

theorem hasSlot (h : Shifted k R r r') (q : UInt16) : r'.hasSlot (q + k) = r.hasSlot q := by
  rw [h.wf.shows_view.hasSlot, h.wf'.shows_view.hasSlot, h.view.hasSlot]

theorem isInUse (h : Shifted k R r r') (q : UInt16) : r'.isInUse (q + k) = r.isInUse q := by
  rw [h.wf.shows_view.isInUse, h.wf'.shows_view.isInUse, h.view.inUse]

/-- The two lists meet the numbers in use in the same order, `k` apart. -/
theorem enumerate (h : Shifted k R r r') (m : Nat) :
    r'.enumerate m = (r.enumerate m).map (· + k) := by
  rw [h.wf.shows_view.enumerate, h.wf'.shows_view.enumerate, h.view.enumerate]

theorem slot_eq (h : Shifted k Eq r r') (q : UInt16) : r'.slot (q + k) = r.slot q := by
  rw [h.wf.shows_view.slot, h.wf'.shows_view.slot, h.view.slot?_eq]

/-- A number in use holds related bytes in the two buffers. -/
theorem slot_of_isInUse (h : Shifted k R r r') {q : UInt16} (hu : r.isInUse q = true) :
    ∃ v v', r.slot q = some v ∧ r'.slot (q + k) = some v' ∧ R v v' := by
  rw [h.wf.shows_view.isInUse] at hu
  have hlt : r.view.off q < r.view.capacity :=
    r.view.held_lt _ _ (Option.get_mem hu)
  obtain ⟨v, hv⟩ := Option.isSome_iff_exists.1 hu
  have hrel := h.view.held_off q
  rw [hv] at hrel
  obtain ⟨v', hv', hR⟩ := WindowMap.exists_of_rel_some hrel
  refine ⟨v, v', ?_, ?_, hR⟩
  · rw [h.wf.shows_view.slot, WindowMap.slot?, if_pos hlt, hv, Option.getD_some]
  · rw [h.wf'.shows_view.slot, WindowMap.slot?, hv', h.view.off, h.view.capacity, if_pos hlt,
      Option.getD_some]

end Shifted

end SegmentBuffer

end ReliableDatagram
