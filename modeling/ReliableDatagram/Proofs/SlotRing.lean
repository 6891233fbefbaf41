import Mathlib.Data.Nat.ModEq
import ReliableDatagram.Window.SlotRing
/-!
# Slot rings by sequence number

A slot ring is stored by offset and by physical position, but every caller speaks of sequence
numbers. This module states what each operation does to the two things a caller can observe
about a number `q`: whether it is in use (`inUse`), and which bytes its slot holds (`slot?`).

* **Use.** Storing or marking `q` puts it in use when it has a slot; unmarking takes it out;
  moving the window by `k` keeps exactly the numbers at least `k` past the old base; a new
  base empties the ring. Nothing else changes which numbers are in use.
* **Contents.** A number that stays in use keeps its bytes through every operation on other
  numbers and through moves of the window; a stored number reads back the bytes stored, cut to
  the slot size.

The second half rests on a well-formedness condition that every ring built by `new` keeps:
one frame per slot and at least one slot (`WellFormed`). Offsets of distinct numbers in the
window differ, and distinct offsets sit at distinct positions, so writes never reach another
number's frame.
-/

namespace ReliableDatagram

namespace Seq

/-- The forward distance as a number. -/
theorem toNat_offset (q base : UInt16) :
    (offset q base).toNat = (65536 - base.toNat + q.toNat) % 65536 := by
  simp [offset, UInt16.toNat_sub]

/-- Two numbers at the same distance from one base are equal. -/
theorem eq_of_offset_eq {q p base : UInt16} (h : offset q base = offset p base) : q = p := by
  simp only [offset] at h
  grind

/-- Measured from a base moved forward by `k`, a number is `k` closer. -/
theorem offset_add_right (q base k : UInt16) : offset q (base + k) = offset q base - k := by
  simp only [offset]
  grind

/-- A number at least `k` past a base is exactly `k` less past the base moved by `k`. -/
theorem toNat_offset_add_right {q base k : UInt16} (hk : k.toNat ≤ (offset q base).toNat) :
    (offset q (base + k)).toNat = (offset q base).toNat - k.toNat := by
  rw [offset_add_right, UInt16.toNat_sub_of_le _ _ (UInt16.le_iff_toNat_le.2 hk)]

/-- A number fewer than `k` past a base wraps to the far end of the base moved by `k`. -/
theorem toNat_offset_add_right_of_lt {q base k : UInt16} (hk : (offset q base).toNat < k.toNat) :
    (offset q (base + k)).toNat = 65536 + (offset q base).toNat - k.toNat := by
  rw [offset_add_right, UInt16.toNat_sub]
  have := k.toNat_lt
  omega

/-- The base moved by a number's distance is that number. -/
theorem add_offset (q base : UInt16) : base + offset q base = q := by
  simp only [offset]
  grind

/-- One number further on is one further from the base, unless that wraps around. -/
theorem toNat_offset_add_one {q base : UInt16} (h : (offset q base).toNat < 65535) :
    (offset (q + 1) base).toNat = (offset q base).toNat + 1 := by
  have : offset (q + 1) base = offset q base + 1 := by
    simp only [offset]
    grind
  rw [this, UInt16.toNat_add]
  simp only [UInt16.toNat_one]
  omega

/-- The number `o` places past a base is at distance `o`. -/
theorem offset_add_left (base : UInt16) (o : Nat) (ho : o < 65536) :
    (offset (base + o.toUInt16) base).toNat = o := by
  have : base + o.toUInt16 - base = o.toUInt16 := by grind
  simp [offset, this]
  omega

end Seq

namespace SlotRing

/-- One frame per slot, and between one and 255 slots: what every ring built by `new` keeps. -/
structure WellFormed (r : SlotRing) : Prop where
  frames_length : r.frames.length = r.capacity
  capacity_pos : 0 < r.capacity
  capacity_lt : r.capacity < 256

namespace WellFormed

theorem new (size : UInt16) (count : UInt8) : (SlotRing.new size count).WellFormed where
  frames_length := by simp [SlotRing.new, capacity]
  capacity_pos := by simp
  capacity_lt := by
    have := count.toNat_lt
    simp only [capacity_new]
    omega

theorem setBase {r : SlotRing} (hr : r.WellFormed) (b : UInt16) : (r.setBase b).WellFormed where
  frames_length := by rw [capacity_setBase]; exact hr.frames_length
  capacity_pos := by rw [capacity_setBase]; exact hr.capacity_pos
  capacity_lt := by rw [capacity_setBase]; exact hr.capacity_lt

theorem advance {r : SlotRing} (hr : r.WellFormed) (k : UInt16) : (r.advance k).WellFormed where
  frames_length := by
    rw [capacity_advance]
    unfold SlotRing.advance
    split
    · exact hr.frames_length
    · exact hr.frames_length
  capacity_pos := by rw [capacity_advance]; exact hr.capacity_pos
  capacity_lt := by rw [capacity_advance]; exact hr.capacity_lt

theorem write {r : SlotRing} (hr : r.WellFormed) (q : UInt16) (pos : Nat) (src : Bytes) :
    (r.write q pos src).WellFormed where
  frames_length := by
    rw [capacity_write]
    unfold SlotRing.write
    split
    · dsimp only
      split
      · exact hr.frames_length
      · simpa using hr.frames_length
    · exact hr.frames_length
  capacity_pos := by rw [capacity_write]; exact hr.capacity_pos
  capacity_lt := by rw [capacity_write]; exact hr.capacity_lt

theorem markInUse {r : SlotRing} (hr : r.WellFormed) (q : UInt16) (len : Nat) :
    (r.markInUse q len).WellFormed where
  frames_length := by
    rw [capacity_markInUse]
    unfold SlotRing.markInUse
    split <;> exact hr.frames_length
  capacity_pos := by rw [capacity_markInUse]; exact hr.capacity_pos
  capacity_lt := by rw [capacity_markInUse]; exact hr.capacity_lt

theorem store {r : SlotRing} (hr : r.WellFormed) (q : UInt16) (bytes : Bytes) :
    (r.store q bytes).WellFormed :=
  (hr.write q 0 _).markInUse q _

theorem unmark {r : SlotRing} (hr : r.WellFormed) (q : UInt16) : (r.unmark q).WellFormed where
  frames_length := by
    rw [capacity_unmark]
    unfold SlotRing.unmark
    split <;> exact hr.frames_length
  capacity_pos := by rw [capacity_unmark]; exact hr.capacity_pos
  capacity_lt := by rw [capacity_unmark]; exact hr.capacity_lt

end WellFormed

/-! ### Offsets in the window -/

theorem offset?_eq_some_iff {r : SlotRing} {q : UInt16} {o : Nat} :
    r.offset? q = some o ↔ (Seq.offset q r.base).toNat = o ∧ o < r.capacity := by
  simp only [offset?]
  split <;> constructor
  · rintro ⟨⟩
    exact ⟨rfl, ‹_›⟩
  · rintro ⟨rfl, -⟩
    rfl
  · rintro ⟨⟩
  · rintro ⟨rfl, h⟩
    contradiction

theorem offset?_eq_none_iff {r : SlotRing} {q : UInt16} :
    r.offset? q = none ↔ r.capacity ≤ (Seq.offset q r.base).toNat := by
  simp only [offset?]
  split <;> simp <;> omega

/-- Numbers in the window with the same offset are the same number. -/
theorem eq_of_offset?_eq {r : SlotRing} {q p : UInt16} {o : Nat} (hq : r.offset? q = some o)
    (hp : r.offset? p = some o) : q = p := by
  rw [offset?_eq_some_iff] at hq hp
  exact Seq.eq_of_offset_eq (UInt16.toNat_inj.1 (hq.1.trans hp.1.symm))

/-- A number is in use exactly when it has an offset whose mark is set. -/
theorem inUse_eq_true_iff {r : SlotRing} {q : UInt16} :
    r.inUse q = true ↔ ∃ o, r.offset? q = some o ∧ (r.markAt o).isSome := by
  unfold inUse
  split <;> simp_all

/-- A number in use has a slot. -/
theorem hasSlot_of_inUse {r : SlotRing} {q : UInt16} (h : r.inUse q = true) : r.hasSlot q = true := by
  obtain ⟨o, ho, -⟩ := inUse_eq_true_iff.1 h
  rw [hasSlot_eq_isSome_offset?, ho]
  rfl

/-! ### What each operation leaves of the window -/

@[simp] theorem base_setBase (r : SlotRing) (b : UInt16) : (r.setBase b).base = b := rfl

@[simp] theorem base_advance (r : SlotRing) (k : UInt16) : (r.advance k).base = r.base + k := by
  unfold advance
  split <;> rfl

@[simp] theorem base_write (r : SlotRing) (q : UInt16) (pos : Nat) (src : Bytes) :
    (r.write q pos src).base = r.base := by
  unfold write
  split
  · dsimp only
    split <;> rfl
  · rfl

@[simp] theorem base_markInUse (r : SlotRing) (q : UInt16) (len : Nat) :
    (r.markInUse q len).base = r.base := by
  unfold markInUse
  split <;> rfl

@[simp] theorem base_store (r : SlotRing) (q : UInt16) (bytes : Bytes) :
    (r.store q bytes).base = r.base := by
  simp [store]

@[simp] theorem base_unmark (r : SlotRing) (q : UInt16) : (r.unmark q).base = r.base := by
  unfold unmark
  split <;> rfl

@[simp] theorem slotSize_setBase (r : SlotRing) (b : UInt16) : (r.setBase b).slotSize = r.slotSize :=
  rfl

@[simp] theorem slotSize_advance (r : SlotRing) (k : UInt16) :
    (r.advance k).slotSize = r.slotSize := by
  unfold advance
  split <;> rfl

@[simp] theorem slotSize_write (r : SlotRing) (q : UInt16) (pos : Nat) (src : Bytes) :
    (r.write q pos src).slotSize = r.slotSize := by
  unfold write
  split
  · dsimp only
    split <;> rfl
  · rfl

@[simp] theorem slotSize_markInUse (r : SlotRing) (q : UInt16) (len : Nat) :
    (r.markInUse q len).slotSize = r.slotSize := by
  unfold markInUse
  split <;> rfl

@[simp] theorem slotSize_store (r : SlotRing) (q : UInt16) (bytes : Bytes) :
    (r.store q bytes).slotSize = r.slotSize := by
  simp [store]

@[simp] theorem slotSize_unmark (r : SlotRing) (q : UInt16) : (r.unmark q).slotSize = r.slotSize := by
  unfold unmark
  split <;> rfl

@[simp] theorem capacity_new_setBase (size : UInt16) (count : UInt8) (b : UInt16) :
    ((new size count).setBase b).capacity = max count.toNat 1 := by
  simp

@[simp] theorem slotSize_new (size : UInt16) (count : UInt8) :
    (new size count).slotSize = max size.toNat minSlotSize := rfl

/-! ### Marks after each operation -/

@[simp] theorem markAt_setBase (r : SlotRing) (b : UInt16) (o : Nat) :
    (r.setBase b).markAt o = none := by
  simp only [setBase, markAt, List.getElem?_replicate]
  split <;> rfl

/-- Moving the window by less than its size shifts the marks down by `k`. -/
theorem markAt_advance {r : SlotRing} {k : UInt16} (hk : k.toNat < r.capacity) (o : Nat) :
    (r.advance k).markAt o = if o + k.toNat < r.capacity then r.markAt (o + k.toNat) else none := by
  have hlt : ¬ k.toNat ≥ r.capacity := Nat.not_le.2 hk
  have hlen : r.marks.length = r.capacity := rfl
  unfold advance
  rw [if_neg hlt]
  unfold markAt
  by_cases ho : o + k.toNat < r.capacity
  · rw [if_pos ho, List.getElem?_append_left (by simp; omega), List.getElem?_drop, Nat.add_comm]
  · rw [if_neg ho, List.getElem?_append_right (by simp; omega), List.getElem?_replicate]
    split <;> rfl

theorem markAt_markInUse (r : SlotRing) (q : UInt16) (len o : Nat) :
    (r.markInUse q len).markAt o =
      if r.offset? q = some o then some (min len r.slotSize) else r.markAt o := by
  unfold markInUse markAt
  split
  · rename_i p hp
    have hcap : p < r.marks.length := (offset?_eq_some_iff.1 hp).2
    simp only [List.getElem?_set, hp, Option.some.injEq]
    split <;> simp_all
  · simp_all

@[simp] theorem markAt_write (r : SlotRing) (q : UInt16) (pos : Nat) (src : Bytes) (o : Nat) :
    (r.write q pos src).markAt o = r.markAt o := by
  unfold write
  split
  · dsimp only
    split <;> rfl
  · rfl

theorem markAt_unmark (r : SlotRing) (q : UInt16) (o : Nat) :
    (r.unmark q).markAt o = if r.offset? q = some o then none else r.markAt o := by
  unfold unmark markAt
  split
  · rename_i p hp
    have hcap : p < r.marks.length := (offset?_eq_some_iff.1 hp).2
    simp only [List.getElem?_set, hp, Option.some.injEq]
    split <;> simp_all
  · simp_all

/-! ### Which numbers are in use -/

@[simp] theorem inUse_setBase (r : SlotRing) (b q : UInt16) : (r.setBase b).inUse q = false := by
  unfold inUse
  split <;> simp

/-- Moving the window by `k` keeps in use exactly the numbers in use at least `k` past the old
base. -/
theorem inUse_advance {r : SlotRing} (hr : r.WellFormed) (k q : UInt16) :
    (r.advance k).inUse q = (decide (k.toNat ≤ (Seq.offset q r.base).toNat) && r.inUse q) := by
  by_cases hk : k.toNat < r.capacity
  · rw [Bool.eq_iff_iff, Bool.and_eq_true, decide_eq_true_iff, inUse_eq_true_iff,
      inUse_eq_true_iff]
    simp only [offset?_eq_some_iff, base_advance, capacity_advance, markAt_advance hk]
    have hcap := hr.capacity_lt
    by_cases hko : k.toNat ≤ (Seq.offset q r.base).toNat
    · rw [Seq.toNat_offset_add_right hko]
      constructor
      · rintro ⟨o, ⟨rfl, -⟩, hm⟩
        split at hm
        · exact ⟨hko, _, ⟨rfl, by omega⟩, by rwa [Nat.sub_add_cancel hko] at hm⟩
        · simp at hm
      · rintro ⟨-, o, ⟨rfl, ho⟩, hm⟩
        refine ⟨_, ⟨rfl, by omega⟩, ?_⟩
        rwa [if_pos (by omega), Nat.sub_add_cancel hko]
    · rw [Seq.toNat_offset_add_right_of_lt (Nat.lt_of_not_le hko)]
      constructor
      · rintro ⟨o, ⟨rfl, ho⟩, -⟩
        omega
      · rintro ⟨h, -⟩
        exact absurd h hko
  · have hge : k.toNat ≥ r.capacity := Nat.le_of_not_lt hk
    unfold advance
    rw [if_pos hge, inUse_setBase]
    cases hu : r.inUse q
    · simp
    · obtain ⟨o, ho, -⟩ := inUse_eq_true_iff.1 hu
      have := offset?_eq_some_iff.1 ho
      simp only [Bool.and_true, Bool.false_eq, decide_eq_false_iff_not]
      omega

theorem inUse_markInUse (r : SlotRing) (p len q) :
    (r.markInUse p len).inUse q = (r.inUse q || (q == p && r.hasSlot p)) := by
  have hoff : (r.markInUse p len).offset? q = r.offset? q := by
    simp [offset?]
  unfold inUse
  rw [hoff, hasSlot_eq_isSome_offset?]
  split
  · rename_i o ho
    rw [markAt_markInUse]
    by_cases hqp : q = p
    · subst hqp
      simp [ho]
    · have hp : r.offset? p ≠ some o := fun hp ↦ hqp (eq_of_offset?_eq ho hp)
      simp [hp, hqp]
  · rename_i ho
    by_cases hqp : q = p
    · subst hqp
      simp [ho]
    · simp [hqp]

@[simp] theorem inUse_write (r : SlotRing) (p : UInt16) (pos : Nat) (src : Bytes) (q : UInt16) :
    (r.write p pos src).inUse q = r.inUse q := by
  have hoff : (r.write p pos src).offset? q = r.offset? q := by
    simp [offset?]
  unfold inUse
  rw [hoff]
  split <;> simp

/-- Storing puts the number in use when it has a slot, and no other. -/
theorem inUse_store (r : SlotRing) (p : UInt16) (bytes : Bytes) (q : UInt16) :
    (r.store p bytes).inUse q = (r.inUse q || (q == p && r.hasSlot p)) := by
  unfold store
  rw [inUse_markInUse, inUse_write, hasSlot_eq_isSome_offset?, hasSlot_eq_isSome_offset?]
  simp [offset?]

/-- Unmarking takes exactly that number out of use. -/
theorem inUse_unmark (r : SlotRing) (p q : UInt16) :
    (r.unmark p).inUse q = (r.inUse q && q != p) := by
  have hoff : (r.unmark p).offset? q = r.offset? q := by
    simp [offset?]
  unfold inUse
  rw [hoff]
  split
  · rename_i o ho
    rw [markAt_unmark]
    by_cases hqp : q = p
    · subst hqp
      simp [ho]
    · have hp : r.offset? p ≠ some o := fun hp ↦ hqp (eq_of_offset?_eq ho hp)
      simp [hp, hqp]
  · simp

/-! ### What the slots hold -/

/-- Distinct offsets of the window sit at distinct physical positions. -/
theorem position_inj {r : SlotRing} {o₁ o₂ : Nat} (h₁ : o₁ < r.capacity) (h₂ : o₂ < r.capacity)
    (h : r.position o₁ = r.position o₂) : o₁ = o₂ :=
  Nat.ModEq.eq_of_lt_of_lt (Nat.ModEq.add_left_cancel' r.origin h) h₁ h₂

/-- A read depends only on the frame at the offset's position and on the slot size. -/
theorem readAt_congr {r r' : SlotRing} {o o' : Nat}
    (hf : r'.frames[r'.position o']? = r.frames[r.position o]?) (hs : r'.slotSize = r.slotSize)
    (n : Nat) : r'.readAt o' n = r.readAt o n := by
  simp only [readAt, hf, hs]

/-- The slot of a number in the window: the first bytes of its region, as many as its mark
says. -/
theorem slot?_eq_some_of_offset? {r : SlotRing} {q : UInt16} {o : Nat} (h : r.offset? q = some o) :
    r.slot? q = some (r.readAt o ((r.markAt o).getD 0)) := by
  simp [slot?, h]

/-- A number in use has its bytes held. -/
theorem exists_slot?_of_inUse {r : SlotRing} {q : UInt16} (h : r.inUse q = true) :
    ∃ bytes, r.slot? q = some bytes := by
  obtain ⟨o, ho, -⟩ := inUse_eq_true_iff.1 h
  exact ⟨_, slot?_eq_some_of_offset? ho⟩

/-- A ring has at most one number in use per slot. -/
theorem inUseCount_le_capacity (r : SlotRing) : r.inUseCount ≤ r.capacity :=
  List.countP_le_length

/-- Moving past the base when it is in use releases it: fewer numbers are then in use. -/
theorem inUseCount_advance_one_lt {r : SlotRing} (hr : r.WellFormed) (hu : r.inUse r.base = true) :
    (r.advance 1).inUseCount < r.inUseCount := by
  obtain ⟨o, ho, hm⟩ := inUse_eq_true_iff.1 hu
  have ho0 : o = 0 := by
    rw [← (offset?_eq_some_iff.1 ho).1, Seq.offset_self]
    rfl
  subst ho0
  cases hmk : r.marks with
  | nil =>
    have hcap := hr.capacity_pos
    simp [capacity, hmk] at hcap
  | cons m rest =>
    have hm' : m.isSome = true := by simpa [markAt, hmk] using hm
    unfold advance inUseCount
    split
    · simp [setBase, capacity, hmk, List.countP_replicate, hm']
    · simp [hmk, hm']

/-- Moving the window leaves the bytes of every number still in use where they were. -/
theorem slot?_advance_of_inUse {r : SlotRing} (hr : r.WellFormed) {k q : UInt16}
    (h : (r.advance k).inUse q = true) : (r.advance k).slot? q = r.slot? q := by
  rw [inUse_advance hr, Bool.and_eq_true, decide_eq_true_iff] at h
  obtain ⟨hko, hu⟩ := h
  obtain ⟨o, ho, -⟩ := inUse_eq_true_iff.1 hu
  obtain ⟨rfl, hocap⟩ := offset?_eq_some_iff.1 ho
  have hk : k.toNat < r.capacity := Nat.lt_of_le_of_lt hko hocap
  have hlt : ¬ k.toNat ≥ r.capacity := Nat.not_le.2 hk
  have ho' : (r.advance k).offset? q = some ((Seq.offset q r.base).toNat - k.toNat) :=
    offset?_eq_some_iff.2 ⟨by rw [base_advance, Seq.toNat_offset_add_right hko], by
      rw [capacity_advance]; omega⟩
  rw [slot?_eq_some_of_offset? ho', slot?_eq_some_of_offset? ho, markAt_advance hk,
    if_pos (by omega), Nat.sub_add_cancel hko]
  -- The frames stay put and the origin moves with the base, so the position is the same.
  refine congrArg some (readAt_congr ?_ (slotSize_advance r k) _)
  have hpos : (r.advance k).position ((Seq.offset q r.base).toNat - k.toNat) =
      r.position (Seq.offset q r.base).toNat := by
    simp only [position, capacity_advance]
    unfold advance
    rw [if_neg hlt]
    simp only [Nat.mod_add_mod]
    congr 1
    omega
  rw [hpos]
  unfold advance
  rw [if_neg hlt]

theorem slot?_unmark_of_ne (r : SlotRing) {p q : UInt16} (hne : q ≠ p) :
    (r.unmark p).slot? q = r.slot? q := by
  have hoff : (r.unmark p).offset? q = r.offset? q := by
    simp [offset?]
  simp only [slot?, hoff]
  cases ho : r.offset? q with
  | none => rfl
  | some o =>
    have hp : r.offset? p ≠ some o := fun hp ↦ hne (eq_of_offset?_eq ho hp)
    simp only [Option.map_some, markAt_unmark, hp, if_false]
    refine congrArg some (readAt_congr ?_ (slotSize_unmark r p) _)
    unfold unmark
    split <;> simp [position, capacity]

/-- Writing into one number's region leaves the regions of all other numbers alone. -/
theorem readAt_write_of_ne {r : SlotRing} {p : UInt16} {o : Nat} (ho : o < r.capacity)
    (hp : r.offset? p ≠ some o) (pos : Nat) (src : Bytes) (n : Nat) :
    (r.write p pos src).readAt o n = r.readAt o n := by
  unfold write
  split
  · rename_i o' ho'
    dsimp only
    split
    · rfl
    · have hne : r.position o' ≠ r.position o := fun h ↦
        hp (ho' ▸ congrArg some (position_inj (offset?_eq_some_iff.1 ho').2 ho h))
      refine readAt_congr ?_ (by rfl) n
      exact List.getElem?_set_ne hne
  · rfl

theorem slot?_store_of_ne (r : SlotRing) {p q : UInt16} (hne : q ≠ p) (bytes : Bytes) :
    (r.store p bytes).slot? q = r.slot? q := by
  have hoff : (r.store p bytes).offset? q = r.offset? q := by
    simp [offset?]
  simp only [slot?, hoff]
  cases ho : r.offset? q with
  | none => rfl
  | some o =>
    have hp : r.offset? p ≠ some o := fun hp ↦ hne (eq_of_offset?_eq ho hp)
    have hp' : (r.write p 0 (bytes.take r.slotSize)).offset? p ≠ some o := by
      simpa [offset?] using hp
    have hocap := (offset?_eq_some_iff.1 ho).2
    simp only [Option.map_some, store, markAt_markInUse, hp', if_false, markAt_write]
    refine congrArg some ?_
    rw [← readAt_write_of_ne hocap hp 0 (bytes.take r.slotSize)]
    refine readAt_congr ?_ (slotSize_markInUse _ _ _) _
    unfold markInUse
    split <;> simp [position, capacity]

/-- A stored number reads back what was stored, cut to the slot size. -/
theorem slot?_store_self {r : SlotRing} (hr : r.WellFormed) {p : UInt16} (hp : r.hasSlot p = true)
    (bytes : Bytes) : (r.store p bytes).slot? p = some (bytes.take r.slotSize) := by
  rw [hasSlot_eq_isSome_offset?, Option.isSome_iff_exists] at hp
  obtain ⟨o, ho⟩ := hp
  have hocap := (offset?_eq_some_iff.1 ho).2
  have hlen : (bytes.take r.slotSize).length ≤ r.slotSize := List.length_take_le _ _
  simp only [store]
  generalize bytes.take r.slotSize = kept at hlen ⊢
  have hwo : (r.write p 0 kept).offset? p = some o := by simpa [offset?] using ho
  have hso : ((r.write p 0 kept).markInUse p kept.length).offset? p = some o := by
    simpa [offset?] using ho
  rw [slot?_eq_some_of_offset? hso, markAt_markInUse, if_pos hwo, slotSize_write,
    Option.getD_some, Nat.min_eq_left hlen]
  refine congrArg some ?_
  -- Marking leaves the frames alone; the written frame starts with `kept`.
  have hmark : ((r.write p 0 kept).markInUse p kept.length).readAt o kept.length =
      (r.write p 0 kept).readAt o kept.length := by
    refine readAt_congr ?_ (slotSize_markInUse _ _ _) _
    unfold markInUse
    split <;> simp [position, capacity]
  rw [hmark, readAt_eq_take_regionAt]
  unfold write
  rw [ho]
  dsimp only
  split
  · rename_i hempty
    have hnil : kept = [] := by
      rcases (by simpa using hempty : r.slotSize = 0 ∨ kept = []) with h | h
      · exact List.eq_nil_of_length_eq_zero (by omega)
      · exact h
    subst hnil
    rfl
  · have hpos : r.position o < r.frames.length := by
      rw [hr.frames_length]
      exact Nat.mod_lt _ hr.capacity_pos
    simp only [Nat.sub_zero, List.take_of_length_le hlen, regionAt, position, capacity] at hpos ⊢
    rw [List.getElem?_set_self hpos, Option.getD_some, overwrite]
    simp [List.append_assoc]

/-- A number in use after storing at `p` is `p` itself, holding the kept prefix of what was
stored, or another number that was in use before and holds what it held. -/
theorem inUse_store_cases {r : SlotRing} (hr : r.WellFormed) {p q : UInt16} (bytes : Bytes)
    (hq : (r.store p bytes).inUse q = true) :
    (q = p ∧ (r.store p bytes).slot? q = some (bytes.take r.slotSize)) ∨
      (r.inUse q = true ∧ (r.store p bytes).slot? q = r.slot? q) := by
  by_cases hqp : q = p
  · subst hqp
    refine .inl ⟨rfl, slot?_store_self hr ?_ bytes⟩
    rw [inUse_store] at hq
    rcases Bool.or_eq_true_iff.1 hq with hu | hu
    · exact hasSlot_of_inUse hu
    · exact (Bool.and_eq_true_iff.1 hu).2
  · refine .inr ⟨?_, slot?_store_of_ne r hqp bytes⟩
    rw [inUse_store, Bool.or_eq_true_iff] at hq
    rcases hq with hu | hu
    · exact hu
    · simp [hqp] at hu

/-- A number out of use reads as nothing. -/
theorem slot?_getD_of_not_inUse {r : SlotRing} {q : UInt16} (h : r.inUse q = false) :
    (r.slot? q).getD [] = [] := by
  cases ho : r.offset? q with
  | none => simp [slot?, ho]
  | some o =>
    have hm : r.markAt o = none := by
      unfold inUse at h
      rw [ho] at h
      simpa using h
    rw [slot?_eq_some_of_offset? ho, hm, Option.getD_some, Option.getD_none,
      readAt_eq_take_regionAt, List.take_zero]

/-! ### What the numbers in use hold -/

/-- Every number in use holds bytes with property `P`. -/
def Keeps (P : UInt16 → Bytes → Prop) (r : SlotRing) : Prop :=
  ∀ q, r.inUse q = true → ∃ bytes, r.slot? q = some bytes ∧ P q bytes

namespace Keeps

variable {P : UInt16 → Bytes → Prop} {r : SlotRing}

theorem mono {P' : UInt16 → Bytes → Prop} (h : r.Keeps P) (hP : ∀ q b, P q b → P' q b) :
    r.Keeps P' := by
  intro q hq
  obtain ⟨b, hb, hp⟩ := h q hq
  exact ⟨b, hb, hP q b hp⟩

theorem setBase (b : UInt16) : (r.setBase b).Keeps P := by
  intro q hq
  rw [inUse_setBase] at hq
  cases hq

theorem advance (hr : r.WellFormed) (h : r.Keeps P) (k : UInt16) : (r.advance k).Keeps P := by
  intro q hq
  rw [slot?_advance_of_inUse hr hq]
  rw [inUse_advance hr, Bool.and_eq_true] at hq
  exact h q hq.2

theorem unmark (h : r.Keeps P) (p : UInt16) : (r.unmark p).Keeps P := by
  intro q hq
  rw [inUse_unmark, Bool.and_eq_true, bne_iff_ne] at hq
  rw [slot?_unmark_of_ne r hq.2]
  exact h q hq.1

/-- Storing bytes whose kept prefix has the property keeps it. -/
theorem store (hr : r.WellFormed) (h : r.Keeps P) {p : UInt16} {bytes : Bytes}
    (hp : P p (bytes.take r.slotSize)) : (r.store p bytes).Keeps P := by
  intro q hq
  rcases inUse_store_cases hr bytes hq with ⟨rfl, hs⟩ | ⟨hu, hs⟩
  · exact ⟨_, hs, hp⟩
  · rw [hs]
    exact h q hu

end Keeps

end SlotRing

end ReliableDatagram
