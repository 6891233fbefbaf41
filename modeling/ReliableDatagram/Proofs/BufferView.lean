import ReliableDatagram.Proofs.LinkedSlots
import ReliableDatagram.Proofs.WindowMap
/-!
# The ring a segment buffer stands for

A segment buffer keeps, beside its regions, a record per physical slot, a list threading the
slots in use and a counter of them. Reading each offset's record at its physical slot and
forgetting the list and the counter gives a slot ring, `SegmentBuffer.toRing`. Every operation of
the buffer is the ring's operation seen through `toRing` (`toRing_setBase`, `toRing_advanceBase`,
`toRing_store`, `toRing_markInUse`, `toRing_unmark`, `toRing_new`), on every buffer: the links
change no record's flag or length, and the counter is read by none of them. The queries that read
the records agree with the ring's (`inUse_toRing`, `hasSlot_toRing`, `slot?_toRing`); the two
that read the counter and walk the list agree with the ring's count and scan on a buffer that
keeps its representation invariant (`Wf.inUse_eq_inUseCount`, `Wf.enumerate_eq`). Every law of
rings the session relies on is restated here for buffers through these equations, so that the
session, which keeps buffers, is reasoned about in the buffer's own terms.

Main statement (`SegmentBuffer.refines_windowMap`): a buffer built by `new` refines a window map
under every sequence of operations, its counter and its listing along the list included.
-/

namespace ReliableDatagram

namespace SlotRing

/-- Two rings with the same regions, origin, base and size are equal when their marks agree at
every offset. -/
theorem ext_of_markAt {r r' : SlotRing} (hs : r.slotSize = r'.slotSize) (hf : r.frames = r'.frames)
    (ho : r.origin = r'.origin) (hb : r.base = r'.base) (hc : r.capacity = r'.capacity)
    (hm : ∀ o < r.capacity, r.markAt o = r'.markAt o) : r = r' := by
  have hmarks : r.marks = r'.marks := by
    refine List.ext_getElem hc fun o h₁ h₂ ↦ ?_
    have := hm o h₁
    rwa [markAt, markAt, List.getElem?_eq_getElem h₁, List.getElem?_eq_getElem h₂,
      Option.getD_some, Option.getD_some] at this
  cases r
  cases r'
  simp_all

@[simp] theorem markAt_new (size : UInt16) (count : UInt8) (o : Nat) :
    (SlotRing.new size count).markAt o = none := by
  simp only [SlotRing.new, markAt, List.getElem?_replicate]
  split <;> rfl

@[simp] theorem frames_markInUse (r : SlotRing) (q : UInt16) (len : Nat) :
    (r.markInUse q len).frames = r.frames := by
  unfold markInUse
  split <;> rfl

@[simp] theorem origin_markInUse (r : SlotRing) (q : UInt16) (len : Nat) :
    (r.markInUse q len).origin = r.origin := by
  unfold markInUse
  split <;> rfl

@[simp] theorem frames_advance (r : SlotRing) (k : UInt16) : (r.advance k).frames = r.frames := by
  unfold advance
  split <;> rfl

theorem origin_advance {r : SlotRing} {k : UInt16} (hk : k.toNat < r.capacity) :
    (r.advance k).origin = (r.origin + k.toNat) % r.capacity := by
  unfold advance
  rw [if_neg (Nat.not_le.2 hk)]

@[simp] theorem frames_unmark (r : SlotRing) (q : UInt16) : (r.unmark q).frames = r.frames := by
  unfold unmark
  split <;> rfl

@[simp] theorem origin_unmark (r : SlotRing) (q : UInt16) : (r.unmark q).origin = r.origin := by
  unfold unmark
  split <;> rfl

end SlotRing

namespace Slot

/-- What a record says of its slot's segment: its length, when the slot is in use. -/
def mark (s : Slot) : Option Nat :=
  if s.inUse then some s.len else none

@[simp] theorem mark_default : ({} : Slot).mark = none := rfl

theorem mark_eq_none {s : Slot} (h : s.inUse = false) : s.mark = none := by
  simp [mark, h]

theorem isSome_mark (s : Slot) : s.mark.isSome = s.inUse := by
  unfold mark
  split <;> simp_all

end Slot

namespace SegmentBuffer

variable {b : SegmentBuffer}

/-- The ring a buffer stands for: the same regions and base, the base's physical slot as origin,
and at each offset the mark of the record there. -/
def toRing (b : SegmentBuffer) : SlotRing where
  slotSize := b.slotSize
  frames := b.frames
  origin := b.currentIndex
  base := b.base
  marks := (List.range b.capacity).map fun o ↦ (b.slotAt (b.position o)).mark

@[simp] theorem slotSize_toRing (b : SegmentBuffer) : b.toRing.slotSize = b.slotSize := rfl

@[simp] theorem frames_toRing (b : SegmentBuffer) : b.toRing.frames = b.frames := rfl

@[simp] theorem origin_toRing (b : SegmentBuffer) : b.toRing.origin = b.currentIndex := rfl

@[simp] theorem base_toRing (b : SegmentBuffer) : b.toRing.base = b.base := rfl

@[simp] theorem capacity_toRing (b : SegmentBuffer) : b.toRing.capacity = b.capacity := by
  simp [toRing, SlotRing.capacity]

@[simp] theorem position_toRing (b : SegmentBuffer) (o : Nat) :
    b.toRing.position o = b.position o := by
  simp only [SlotRing.position, capacity_toRing, origin_toRing, position]

theorem markAt_toRing (b : SegmentBuffer) (o : Nat) :
    b.toRing.markAt o = if o < b.capacity then (b.slotAt (b.position o)).mark else none := by
  unfold SlotRing.markAt toRing
  split
  · rename_i h
    rw [List.getElem?_map, List.getElem?_range h, Option.map_some, Option.getD_some]
  · rename_i h
    rw [List.getElem?_eq_none (by simpa using Nat.le_of_not_lt h), Option.getD_none]

/-- A number's physical slot is the position of its offset in the ring. -/
theorem index_eq_map_offset? (b : SegmentBuffer) (q : UInt16) :
    b.index q = (b.toRing.offset? q).map b.position := by
  unfold index SlotRing.offset?
  simp only [capacity_toRing, base_toRing]
  split <;> rfl

/-- Within the window, a number sits at the physical slot of an offset exactly when it has that
offset. -/
theorem index_eq_position_iff {q : UInt16} {o : Nat} (ho : o < b.capacity) :
    b.index q = some (b.position o) ↔ b.toRing.offset? q = some o := by
  rw [index_eq_map_offset?]
  constructor
  · intro h
    obtain ⟨o', ho', heq⟩ := Option.map_eq_some_iff.1 h
    have hlt : o' < b.toRing.capacity := (SlotRing.offset?_eq_some_iff.1 ho').2
    rw [← position_toRing, ← position_toRing] at heq
    rwa [← SlotRing.position_inj hlt (by simpa using ho) heq]
  · intro h
    rw [h, Option.map_some]

/-- A number lies in the buffer's window exactly when it lies in its ring's. -/
@[simp] theorem hasSlot_toRing (b : SegmentBuffer) (q : UInt16) :
    b.toRing.hasSlot q = b.hasSlot q := by
  simp [SlotRing.hasSlot, hasSlot]

/-- A number is in use in the buffer exactly when it is in use in its ring. -/
@[simp] theorem inUse_toRing (b : SegmentBuffer) (q : UInt16) : b.toRing.inUse q = b.isInUse q := by
  unfold SlotRing.inUse isInUse
  rw [index_eq_map_offset?]
  cases ho : b.toRing.offset? q with
  | none => rfl
  | some o =>
    have hlt : o < b.capacity := by simpa using (SlotRing.offset?_eq_some_iff.1 ho).2
    show (b.toRing.markAt o).isSome = (b.slotAt (b.position o)).inUse
    rw [markAt_toRing, if_pos hlt, Slot.isSome_mark]

/-- A number's bytes read the same in the buffer and in its ring, once free slots hold nothing. -/
theorem slot?_toRing (hfree : ∀ i, (b.slotAt i).inUse = false → (b.slotAt i).len = 0)
    (q : UInt16) : b.toRing.slot? q = b.slot q := by
  unfold SlotRing.slot? slot
  rw [index_eq_map_offset?, Option.map_map]
  refine Option.map_congr fun o ho ↦ ?_
  have hlt : o < b.capacity := by simpa using (SlotRing.offset?_eq_some_iff.1 ho).2
  have hlen : ((b.toRing.markAt o).getD 0) = (b.slotAt (b.position o)).len := by
    rw [markAt_toRing, if_pos hlt, Slot.mark]
    cases hu : (b.slotAt (b.position o)).inUse
    · rw [hfree _ hu]
      rfl
    · rfl
  rw [Function.comp_apply, hlen, SlotRing.readAt_eq_take_regionAt]
  simp only [readSlot, SlotRing.regionAt, frames_toRing, position_toRing, slotSize_toRing]

/-- A number in use has its bytes held. -/
theorem exists_slot_of_isInUse {q : UInt16} (h : b.isInUse q = true) :
    ∃ bytes, b.slot q = some bytes := by
  unfold isInUse at h
  unfold slot
  cases hi : b.index q with
  | none =>
    rw [hi] at h
    cases h
  | some i => exact ⟨_, rfl⟩

/-! ### The records after each operation -/

/-- Changing a record in a way its mark does not see leaves every mark as it was. -/
theorem mark_modifySlot (b : SegmentBuffer) (i : Nat) {f : Slot → Slot}
    (hf : ∀ s, (f s).mark = s.mark) (j : Nat) :
    ((b.modifySlot i f).slotAt j).mark = (b.slotAt j).mark := by
  by_cases hi : i < b.capacity
  · rw [slotAt_modifySlot hi]
    split_ifs with hj
    · rw [hj]
      exact hf _
    · rfl
  · have hset : b.modifySlot i f = b := by
      simp only [modifySlot]
      rw [List.set_eq_of_length_le (Nat.le_of_not_lt hi)]
    rw [hset]

/-- Setting the links of a record leaves its mark. -/
theorem mark_modifySlot_links (b : SegmentBuffer) (i : Nat) (p n : Option Nat) (j : Nat) :
    ((b.modifySlot i fun s ↦ { s with prev := p, next := n }).slotAt j).mark = (b.slotAt j).mark :=
  mark_modifySlot b i (f := fun s ↦ { s with prev := p, next := n }) (fun _ ↦ rfl) j

theorem mark_modifySlot_prev (b : SegmentBuffer) (i : Nat) (p : Option Nat) (j : Nat) :
    ((b.modifySlot i fun s ↦ { s with prev := p }).slotAt j).mark = (b.slotAt j).mark :=
  mark_modifySlot b i (f := fun s ↦ { s with prev := p }) (fun _ ↦ rfl) j

theorem mark_modifySlot_next (b : SegmentBuffer) (i : Nat) (n : Option Nat) (j : Nat) :
    ((b.modifySlot i fun s ↦ { s with next := n }).slotAt j).mark = (b.slotAt j).mark :=
  mark_modifySlot b i (f := fun s ↦ { s with next := n }) (fun _ ↦ rfl) j

/-- Threading a slot in changes links only. -/
theorem mark_insertAfter (b : SegmentBuffer) (i : Nat) (a : Option Nat) (j : Nat) :
    ((b.insertAfter i a).slotAt j).mark = (b.slotAt j).mark := by
  unfold insertAfter
  dsimp only
  split <;> split <;>
    simp only [slotAt_setTail, slotAt_setHead, mark_modifySlot_links, mark_modifySlot_prev,
      mark_modifySlot_next]

theorem mark_link (b : SegmentBuffer) (i j : Nat) :
    ((b.link i).slotAt j).mark = (b.slotAt j).mark :=
  mark_insertAfter b i _ j

/-- Taking a slot out changes links only. -/
theorem mark_unlink (b : SegmentBuffer) (i j : Nat) :
    ((b.unlink i).slotAt j).mark = (b.slotAt j).mark := by
  unfold unlink
  dsimp only
  split <;> split <;>
    simp only [slotAt_setTail, slotAt_setHead, mark_modifySlot_prev, mark_modifySlot_next]

theorem lt_of_index_eq_some {q : UInt16} {i : Nat} (h : b.index q = some i) : i < b.capacity := by
  obtain ⟨ho, rfl⟩ := index_eq_some h
  exact Nat.mod_lt _ (by omega)

/-- Marking `q` in use sets the mark of its slot to the length, cut to the slot size. -/
theorem mark_markInUse (b : SegmentBuffer) (q : UInt16) (len j : Nat) :
    ((b.markInUse q len).2.slotAt j).mark =
      if b.index q = some j then some (min len b.slotSize) else (b.slotAt j).mark := by
  unfold markInUse
  split
  · rename_i hidx
    simp [hidx]
  · rename_i i hidx
    have hi := lt_of_index_eq_some hidx
    simp only [hidx, Option.some.injEq]
    -- the record of `i` gets the length; its flag is set and it goes on the list if it was free
    have hrec : ((b.modifySlot i fun s ↦ { s with len := min len b.slotSize }).slotAt j) =
        if j = i then { b.slotAt i with len := min len b.slotSize } else b.slotAt j :=
      slotAt_modifySlot hi _ j
    split
    · rename_i hu
      rw [hrec]
      by_cases hj : j = i
      · subst hj
        rw [slotAt_modifySlot hi, if_pos rfl] at hu
        simp [Slot.mark, hu]
      · simp [hj, Ne.symm hj]
    · change (((b.modifySlot i _).modifySlot i _).link i |>.slotAt j).mark = _
      rw [mark_link, slotAt_modifySlot (by simpa using hi), hrec]
      by_cases hj : j = i
      · subst hj
        simp [Slot.mark, slotAt_modifySlot hi]
      · simp [hj, Ne.symm hj]

/-- Unmarking `q` clears the mark of its slot. -/
theorem mark_unmark (b : SegmentBuffer) (q : UInt16) (j : Nat) :
    ((b.unmark q).slotAt j).mark = if b.index q = some j then none else (b.slotAt j).mark := by
  unfold unmark
  split
  · rename_i hidx
    simp [hidx]
  · rename_i i hidx
    have hi := lt_of_index_eq_some hidx
    simp only [hidx, Option.some.injEq]
    split
    · change (((b.unlink i).modifySlot i fun _ ↦ {}).slotAt j).mark = _
      by_cases hj : j = i
      · subst hj
        rw [slotAt_modifySlot (by simpa using hi), if_pos rfl, if_pos rfl, Slot.mark_default]
      · rw [slotAt_modifySlot_of_ne _ hj, mark_unlink, if_neg (Ne.symm hj)]
    · rename_i hfree
      by_cases hj : j = i
      · subst hj
        rw [if_pos rfl, Slot.mark_eq_none (by simpa using hfree)]
      · rw [if_neg (Ne.symm hj)]

/-! ### What the operations leave of the ring's shape -/

@[simp] theorem slotSize_unmark (b : SegmentBuffer) (q : UInt16) :
    (b.unmark q).slotSize = b.slotSize := by
  unfold unmark
  split
  · rfl
  · dsimp only
    split
    · rename_i i _ _
      show ((b.unlink i).modifySlot i fun _ ↦ {}).slotSize = b.slotSize
      simp
    · rfl

@[simp] theorem frames_unmark (b : SegmentBuffer) (q : UInt16) :
    (b.unmark q).frames = b.frames := by
  unfold unmark unlink
  split
  · rfl
  · dsimp only
    split
    · split <;> split <;> rfl
    · rfl

@[simp] theorem frames_link (b : SegmentBuffer) (i : Nat) : (b.link i).frames = b.frames := by
  unfold link insertAfter
  dsimp only
  split <;> split <;> rfl

@[simp] theorem base_link (b : SegmentBuffer) (i : Nat) : (b.link i).base = b.base := by
  unfold link insertAfter
  dsimp only
  split <;> split <;> rfl

theorem markInUse_shape (b : SegmentBuffer) (q : UInt16) (len : Nat) :
    let b' := (b.markInUse q len).2
    b'.capacity = b.capacity ∧ b'.currentIndex = b.currentIndex ∧ b'.base = b.base ∧
      b'.slotSize = b.slotSize ∧ b'.frames = b.frames := by
  unfold markInUse
  split
  · exact ⟨rfl, rfl, rfl, rfl, rfl⟩
  · dsimp only
    split
    · exact ⟨by simp, by simp, by simp, by simp, rfl⟩
    · refine ⟨?_, ?_, ?_, ?_, ?_⟩
      · show (SegmentBuffer.link _ _).capacity = _
        simp [link]
      · show (SegmentBuffer.link _ _).currentIndex = _
        simp [link]
      · show (SegmentBuffer.link _ _).base = _
        simp
      · show (SegmentBuffer.link _ _).slotSize = _
        simp [link]
      · show (SegmentBuffer.link _ _).frames = _
        rw [frames_link]
        rfl

/-- Unmarking the numbers of the first `m` offsets one by one keeps the ring's shape and clears
the marks of the slots below offset `m`. -/
theorem unmark_below (b : SegmentBuffer) {m : Nat} (hm : m ≤ b.capacity) (hm' : m ≤ 65536) :
    let b' := (List.range m).foldl (fun b i ↦ b.unmark (b.base + i.toUInt16)) b
    b'.capacity = b.capacity ∧ b'.currentIndex = b.currentIndex ∧ b'.base = b.base ∧
      b'.slotSize = b.slotSize ∧ b'.frames = b.frames ∧
      ∀ j, (b'.slotAt j).mark = if ∃ o < m, b.position o = j then none else (b.slotAt j).mark := by
  induction m with
  | zero => simp
  | succ m ih =>
    obtain ⟨hcap, hcur, hbase, hsize, hframes, hmark⟩ := ih (by omega) (by omega)
    simp only [List.range_succ, List.foldl_append, List.foldl_cons, List.foldl_nil]
    set b' := (List.range m).foldl (fun b i ↦ b.unmark (b.base + i.toUInt16)) b
    -- the next step unmarks the number at offset `m`, whose slot is the one at position `m`
    have hidx : b'.index (b'.base + m.toUInt16) = some (b.position m) := by
      rw [index_base_add (by omega) (by omega)]
      simp only [position, hcap, hcur]
    refine ⟨by simp [hcap], by simp [hcur], by simp [hbase], by simp [hsize], by simp [hframes],
      fun j ↦ ?_⟩
    rw [mark_unmark, hidx, hmark]
    by_cases hj : b.position m = j
    · rw [if_pos (by rw [hj]), if_pos ⟨m, by omega, hj⟩]
    · rw [if_neg (by simpa using hj)]
      congr 1
      -- the offset `m` is not at `j`, so the offsets below `m + 1` at `j` are those below `m`
      refine propext ⟨fun h ↦ ?_, fun h ↦ ?_⟩
      · obtain ⟨o, ho, hoj⟩ := h
        exact ⟨o, by omega, hoj⟩
      · obtain ⟨o, ho, hoj⟩ := h
        refine ⟨o, ?_, hoj⟩
        rcases Nat.lt_succ_iff_lt_or_eq.1 ho with ho | rfl
        · exact ho
        · exact absurd hoj hj

/-! ### Each operation is the ring's -/

/-- A new buffer stands for a new ring. -/
theorem toRing_new (size : UInt16) (count : UInt8) :
    (new size count).toRing = SlotRing.new size count := by
  refine SlotRing.ext_of_markAt rfl rfl rfl rfl (by simp [new, capacity]) fun o _ ↦ ?_
  rw [markAt_toRing, SlotRing.markAt_new]
  split
  · have hfree : (new size count).slotAt ((new size count).position o) = {} := slotAt_replicate _ _
    rw [hfree, Slot.mark_default]
  · rfl

theorem toRing_setBase (b : SegmentBuffer) (base : UInt16) :
    (b.setBase base).toRing = b.toRing.setBase base := by
  have hcap : (b.setBase base).capacity = b.capacity := by
    show (List.replicate b.capacity ({} : Slot)).length = b.capacity
    simp
  refine SlotRing.ext_of_markAt rfl rfl rfl rfl (by simp [hcap]) fun o _ ↦ ?_
  rw [markAt_toRing, SlotRing.markAt_setBase]
  split
  · have hfree : (b.setBase base).slotAt ((b.setBase base).position o) = {} :=
      slotAt_replicate _ _
    rw [hfree, Slot.mark_default]
  · rfl

theorem toRing_write (b : SegmentBuffer) (q : UInt16) (pos : Nat) (src : Bytes) :
    (b.write q pos src).toRing = b.toRing.write q pos src := by
  unfold write SlotRing.write
  rw [index_eq_map_offset?]
  cases b.toRing.offset? q with
  | none => rfl
  | some o =>
    simp only [Option.map_some, slotSize_toRing, position_toRing]
    split <;> rfl

theorem toRing_markInUse (b : SegmentBuffer) (q : UInt16) (len : Nat) :
    (b.markInUse q len).2.toRing = b.toRing.markInUse q len := by
  obtain ⟨hcap, hcur, hbase, hsize, hframes⟩ := markInUse_shape b q len
  refine SlotRing.ext_of_markAt (by simpa using hsize) (by simpa using hframes)
    (by simpa using hcur) (by simpa using hbase) (by simpa using hcap) fun o ho ↦ ?_
  have ho : o < b.capacity := by simpa [hcap] using ho
  have hpos : (b.markInUse q len).2.position o = b.position o := by
    simp only [position, hcap, hcur]
  rw [markAt_toRing, if_pos (hcap ▸ ho), hpos, mark_markInUse, SlotRing.markAt_markInUse,
    markAt_toRing, if_pos ho, slotSize_toRing]
  exact if_congr (index_eq_position_iff ho) rfl rfl

theorem toRing_store (b : SegmentBuffer) (q : UInt16) (bytes : Bytes) :
    (b.store q bytes).2.toRing = b.toRing.store q bytes := by
  rw [store, toRing_markInUse, toRing_write, SlotRing.store, slotSize_toRing]

theorem toRing_unmark (b : SegmentBuffer) (q : UInt16) :
    (b.unmark q).toRing = b.toRing.unmark q := by
  refine SlotRing.ext_of_markAt (by simp) (by simp) (by simp) (by simp) (by simp) fun o ho ↦ ?_
  have ho : o < b.capacity := by simpa using ho
  have hpos : (b.unmark q).position o = b.position o := by
    simp only [position, capacity_unmark, currentIndex_unmark]
  rw [markAt_toRing, if_pos (by simpa using ho), hpos, mark_unmark, SlotRing.markAt_unmark,
    markAt_toRing, if_pos ho]
  exact if_congr (index_eq_position_iff ho) rfl rfl

/-- Moving the window is the ring's move: the oldest slots are released one by one, and turning
the ring puts the slot at offset `k + o` at offset `o`. -/
theorem toRing_advanceBase (b : SegmentBuffer) (k : UInt16) :
    (b.advanceBase k).toRing = b.toRing.advance k := by
  unfold advanceBase
  split
  · rename_i hk
    rw [toRing_setBase, SlotRing.advance, if_pos (by simpa using hk), base_toRing]
  · rename_i hk
    have hk : k.toNat < b.capacity := Nat.lt_of_not_le hk
    obtain ⟨hcap, hcur, hbase, hsize, hframes, hmark⟩ :=
      unmark_below b (m := k.toNat) hk.le (by have := k.toNat_lt; omega)
    dsimp only
    set b' := (List.range k.toNat).foldl (fun b i ↦ b.unmark (b.base + i.toUInt16)) b
    have hRcap : ({ b' with
        base := b'.base + k, currentIndex := (b'.currentIndex + k.toNat) % b'.capacity } :
          SegmentBuffer).capacity = b.capacity := hcap
    refine SlotRing.ext_of_markAt (by simpa using hsize) (by simpa using hframes) ?_ ?_
      (by simpa using hRcap) fun o ho ↦ ?_
    · rw [SlotRing.origin_advance (by simpa using hk)]
      simp [hcur, hcap]
    · simp [hbase]
    have ho : o < b.capacity := by simpa [hRcap] using ho
    -- the slot at offset `o` of the turned ring is the slot at offset `k + o` before
    have hpos : ({ b' with
        base := b'.base + k, currentIndex := (b'.currentIndex + k.toNat) % b'.capacity } :
          SegmentBuffer).position o = b.position (k.toNat + o) := by
      show ((b'.currentIndex + k.toNat) % b'.capacity + o) % b'.capacity = _
      rw [hcur, hcap, Nat.mod_add_mod, Nat.add_assoc]
      rfl
    rw [markAt_toRing, hRcap, if_pos ho, hpos]
    change (b'.slotAt _).mark = _
    rw [hmark, SlotRing.markAt_advance (by simpa using hk), capacity_toRing]
    by_cases hwrap : o + k.toNat < b.capacity
    · -- no released slot sits at offset `k + o`
      have hnot : ¬ ∃ o' < k.toNat, b.position o' = b.position (k.toNat + o) := by
        rintro ⟨o', ho', heq⟩
        rw [← position_toRing, ← position_toRing] at heq
        have := SlotRing.position_inj (by simpa using (show o' < b.capacity by omega))
          (by simpa using (show k.toNat + o < b.capacity by omega)) heq
        omega
      rw [if_neg hnot, if_pos hwrap, markAt_toRing, if_pos hwrap, Nat.add_comm]
    · -- offset `k + o` wraps onto a released slot below offset `k`
      have hfree : ∃ o' < k.toNat, b.position o' = b.position (k.toNat + o) := by
        refine ⟨o + k.toNat - b.capacity, by omega, ?_⟩
        show (b.currentIndex + (o + k.toNat - b.capacity)) % b.capacity =
          (b.currentIndex + (k.toNat + o)) % b.capacity
        rw [show b.currentIndex + (k.toNat + o) =
          b.currentIndex + (o + k.toNat - b.capacity) + b.capacity by omega, Nat.add_mod_right]
      rw [if_pos hfree, if_neg hwrap]

/-- Storing and marking answer whether the number has a slot. -/
theorem markInUse_fst (b : SegmentBuffer) (q : UInt16) (len : Nat) :
    (b.markInUse q len).1 = b.hasSlot q := by
  unfold markInUse hasSlot
  rw [index_eq_map_offset?]
  cases ho : b.toRing.offset? q with
  | none =>
    have := SlotRing.offset?_eq_none_iff.1 ho
    simp only [capacity_toRing, base_toRing] at this
    simp [Nat.not_lt.2 this]
  | some o =>
    have := SlotRing.offset?_eq_some_iff.1 ho
    simp only [capacity_toRing, base_toRing] at this
    simp only [Option.map_some]
    split <;> simp [this.1 ▸ this.2]

theorem store_fst (b : SegmentBuffer) (q : UInt16) (bytes : Bytes) :
    (b.store q bytes).1 = b.hasSlot q := by
  rw [store, markInUse_fst]
  simp [hasSlot, write]
  split
  · split <;> rfl
  · rfl

/-! ### The counter and the list -/

/-- On a buffer that keeps its representation invariant, the counter counts the ring's marks. -/
theorem Wf.inUse_eq_inUseCount (h : b.Wf) : b.inUse = b.toRing.inUseCount := by
  rw [h.count, order, List.filter_map, List.length_map, ← List.countP_eq_length_filter,
    SlotRing.inUseCount, toRing, List.countP_map]
  congr 1
  funext o
  simp [Slot.isSome_mark]

/-- On a buffer that keeps its representation invariant, walking the list from its head lists the
numbers in use in the order the ring's scan finds them. -/
theorem Wf.iterInUse_eq (h : b.Wf) : b.iterInUse = b.toRing.inUseSeqs := by
  rw [iterInUse, h.walk_eq le_rfl, order, List.filter_map, List.map_map, SlotRing.inUseSeqs,
    SlotRing.usedOffsets_eq_filter, capacity_toRing, base_toRing]
  -- the same offsets are kept, and each names the same number
  have hkeep : ((List.range b.capacity).filter ((fun i ↦ (b.slotAt i).inUse) ∘ b.position)) =
      (List.range b.capacity).filter fun o ↦ (b.toRing.markAt o).isSome := by
    refine List.filter_congr fun o ho ↦ ?_
    rw [markAt_toRing, if_pos (List.mem_range.1 ho), Slot.isSome_mark]
    rfl
  rw [hkeep]
  refine List.map_congr_left fun o ho ↦ ?_
  have ho : o < b.capacity := List.mem_range.1 (List.mem_filter.1 ho).1
  simp [offset_position h.current_lt ho]

theorem Wf.enumerate_eq (h : b.Wf) (n : Nat) : b.enumerate n = b.toRing.enumerate n := by
  rw [enumerate, SlotRing.enumerate, h.iterInUse_eq]

/-- A buffer that keeps its representation invariant reads a number's bytes as its ring does. -/
theorem Wf.slot?_toRing (h : b.Wf) (q : UInt16) : b.toRing.slot? q = b.slot q :=
  SegmentBuffer.slot?_toRing (fun i hi ↦ (h.free i hi).1) q

/-! ### The buffers a session keeps -/

/-- What every buffer a session keeps satisfies: the representation invariant, and a ring of one
region per slot with between one and 255 slots. -/
structure WellFormed (b : SegmentBuffer) : Prop extends b.Wf where
  /-- The ring it stands for is well formed. -/
  ring : b.toRing.WellFormed

namespace WellFormed

theorem new (size : UInt16) (count : UInt8) : (SegmentBuffer.new size count).WellFormed where
  toWf := wf_new size count
  ring := by
    rw [toRing_new]
    exact .new size count

theorem setBase (h : b.WellFormed) (base : UInt16) : (b.setBase base).WellFormed where
  toWf := h.toWf.setBase base
  ring := by
    rw [toRing_setBase]
    exact h.ring.setBase base

theorem advanceBase (h : b.WellFormed) (k : UInt16) : (b.advanceBase k).WellFormed where
  toWf := h.toWf.advanceBase k
  ring := by
    rw [toRing_advanceBase]
    exact h.ring.advance k

theorem markInUse (h : b.WellFormed) (q : UInt16) (len : Nat) : (b.markInUse q len).2.WellFormed where
  toWf := h.toWf.markInUse q len
  ring := by
    rw [toRing_markInUse]
    exact h.ring.markInUse q len

theorem store (h : b.WellFormed) (q : UInt16) (bytes : Bytes) : (b.store q bytes).2.WellFormed where
  toWf := h.toWf.store q bytes
  ring := by
    rw [toRing_store]
    exact h.ring.store q bytes

theorem unmark (h : b.WellFormed) (q : UInt16) : (b.unmark q).WellFormed where
  toWf := h.toWf.unmark q
  ring := by
    rw [toRing_unmark]
    exact h.ring.unmark q

/-- A well-formed buffer has fewer than 256 slots. -/
theorem capacity_lt (h : b.WellFormed) : b.capacity < 256 := by
  simpa using h.ring.capacity_lt

/-- No mark of a well-formed buffer's ring exceeds its slot size. -/
theorem bounded (h : b.WellFormed) : b.toRing.Bounded where
  toWellFormed := h.ring
  mark_le o n hm := by
    rw [markAt_toRing] at hm
    split at hm
    · rw [Slot.mark] at hm
      split at hm
      · cases hm
        exact h.len_le _
      · cases hm
    · cases hm

end WellFormed

/-! ### What the session reads of a buffer

Each answer a buffer gives after an operation is read off its ring's answer, through `toRing`;
the bytes a number holds need the free slots to hold nothing, which every well-formed buffer
keeps. -/

@[simp] theorem base_setBase (b : SegmentBuffer) (base : UInt16) : (b.setBase base).base = base :=
  rfl

@[simp] theorem base_advanceBase (b : SegmentBuffer) (k : UInt16) :
    (b.advanceBase k).base = b.base + k := by
  rw [← base_toRing, toRing_advanceBase, SlotRing.base_advance, base_toRing]

@[simp] theorem base_store (b : SegmentBuffer) (q : UInt16) (bytes : Bytes) :
    (b.store q bytes).2.base = b.base := by
  rw [← base_toRing, toRing_store, SlotRing.base_store, base_toRing]

@[simp] theorem capacity_setBase (b : SegmentBuffer) (base : UInt16) :
    (b.setBase base).capacity = b.capacity := by
  rw [← capacity_toRing, toRing_setBase, SlotRing.capacity_setBase, capacity_toRing]

@[simp] theorem capacity_advanceBase (b : SegmentBuffer) (k : UInt16) :
    (b.advanceBase k).capacity = b.capacity := by
  rw [← capacity_toRing, toRing_advanceBase, SlotRing.capacity_advance, capacity_toRing]

@[simp] theorem capacity_store (b : SegmentBuffer) (q : UInt16) (bytes : Bytes) :
    (b.store q bytes).2.capacity = b.capacity := by
  rw [← capacity_toRing, toRing_store, SlotRing.capacity_store, capacity_toRing]

@[simp] theorem slotSize_setBase (b : SegmentBuffer) (base : UInt16) :
    (b.setBase base).slotSize = b.slotSize := rfl

@[simp] theorem slotSize_advanceBase (b : SegmentBuffer) (k : UInt16) :
    (b.advanceBase k).slotSize = b.slotSize := by
  rw [← slotSize_toRing, toRing_advanceBase, SlotRing.slotSize_advance, slotSize_toRing]

@[simp] theorem slotSize_store (b : SegmentBuffer) (q : UInt16) (bytes : Bytes) :
    (b.store q bytes).2.slotSize = b.slotSize := by
  rw [← slotSize_toRing, toRing_store, SlotRing.slotSize_store, slotSize_toRing]

@[simp] theorem capacity_new (size : UInt16) (count : UInt8) :
    (new size count).capacity = max count.toNat 1 := by
  rw [← capacity_toRing, toRing_new, SlotRing.capacity_new]

@[simp] theorem capacity_new_setBase (size : UInt16) (count : UInt8) (base : UInt16) :
    ((new size count).setBase base).capacity = max count.toNat 1 := by
  rw [capacity_setBase, capacity_new]

@[simp] theorem slotSize_new (size : UInt16) (count : UInt8) :
    (new size count).slotSize = max size.toNat SlotRing.minSlotSize := rfl

@[simp] theorem isInUse_setBase (b : SegmentBuffer) (base q : UInt16) :
    (b.setBase base).isInUse q = false := by
  rw [← inUse_toRing, toRing_setBase, SlotRing.inUse_setBase]

/-- Moving the window by `k` keeps in use exactly the numbers in use at least `k` past the old
base. -/
theorem isInUse_advanceBase (h : b.WellFormed) (k q : UInt16) :
    (b.advanceBase k).isInUse q =
      (decide (k.toNat ≤ (Seq.offset q b.base).toNat) && b.isInUse q) := by
  rw [← inUse_toRing, toRing_advanceBase, SlotRing.inUse_advance h.ring, inUse_toRing, base_toRing]

/-- Storing puts the number in use when it has a slot, and no other. -/
theorem isInUse_store (b : SegmentBuffer) (p : UInt16) (bytes : Bytes) (q : UInt16) :
    (b.store p bytes).2.isInUse q = (b.isInUse q || (q == p && b.hasSlot p)) := by
  rw [← inUse_toRing, toRing_store, SlotRing.inUse_store, inUse_toRing, hasSlot_toRing]

/-- Unmarking takes exactly that number out of use. -/
theorem isInUse_unmark (b : SegmentBuffer) (p q : UInt16) :
    (b.unmark p).isInUse q = (b.isInUse q && q != p) := by
  rw [← inUse_toRing, toRing_unmark, SlotRing.inUse_unmark, inUse_toRing]

/-- A number in use has a slot. -/
theorem hasSlot_of_isInUse {q : UInt16} (h : b.isInUse q = true) : b.hasSlot q = true := by
  rw [← hasSlot_toRing]
  exact SlotRing.hasSlot_of_inUse (by rwa [inUse_toRing])

namespace WellFormed

variable (h : b.WellFormed)
include h

/-- Moving the window leaves the bytes of every number still in use where they were. -/
theorem slot_advanceBase {k q : UInt16} (hq : (b.advanceBase k).isInUse q = true) :
    (b.advanceBase k).slot q = b.slot q := by
  rw [← (h.advanceBase k).toWf.slot?_toRing, ← h.toWf.slot?_toRing, toRing_advanceBase]
  exact SlotRing.slot?_advance_of_inUse h.ring (by rwa [← toRing_advanceBase, inUse_toRing])

theorem slot_unmark_of_ne {p q : UInt16} (hne : q ≠ p) : (b.unmark p).slot q = b.slot q := by
  rw [← (h.unmark p).toWf.slot?_toRing, ← h.toWf.slot?_toRing, toRing_unmark]
  exact SlotRing.slot?_unmark_of_ne _ hne

theorem slot_store_of_ne {p q : UInt16} (hne : q ≠ p) (bytes : Bytes) :
    (b.store p bytes).2.slot q = b.slot q := by
  rw [← (h.store p bytes).toWf.slot?_toRing, ← h.toWf.slot?_toRing, toRing_store]
  exact SlotRing.slot?_store_of_ne _ hne bytes

/-- A stored number reads back what was stored, cut to the slot size. -/
theorem slot_store_self {p : UInt16} (hp : b.hasSlot p = true) (bytes : Bytes) :
    (b.store p bytes).2.slot p = some (bytes.take b.slotSize) := by
  rw [← (h.store p bytes).toWf.slot?_toRing, toRing_store]
  exact SlotRing.slot?_store_self h.ring (by rwa [hasSlot_toRing]) bytes

/-- A number in use after storing at `p` is `p` itself, holding the kept prefix of what was
stored, or another number that was in use before and holds what it held. -/
theorem isInUse_store_cases {p q : UInt16} (bytes : Bytes)
    (hq : (b.store p bytes).2.isInUse q = true) :
    (q = p ∧ (b.store p bytes).2.slot q = some (bytes.take b.slotSize)) ∨
      (b.isInUse q = true ∧ (b.store p bytes).2.slot q = b.slot q) := by
  rw [← (h.store p bytes).toWf.slot?_toRing, ← h.toWf.slot?_toRing, toRing_store, ← inUse_toRing,
    ← slotSize_toRing]
  rw [← inUse_toRing, toRing_store] at hq
  exact SlotRing.inUse_store_cases h.ring bytes hq

/-- A number out of use reads as nothing. -/
theorem slot_getD_of_not_isInUse {q : UInt16} (hq : b.isInUse q = false) : (b.slot q).getD [] = [] := by
  rw [← h.toWf.slot?_toRing]
  exact SlotRing.slot?_getD_of_not_inUse (by rwa [inUse_toRing])

/-- Moving past the base when it is in use releases it: the counter drops. -/
theorem inUse_advanceBase_one_lt (hu : b.isInUse b.base = true) :
    (b.advanceBase 1).inUse < b.inUse := by
  rw [(h.advanceBase 1).toWf.inUse_eq_inUseCount, h.toWf.inUse_eq_inUseCount, toRing_advanceBase]
  exact SlotRing.inUseCount_advance_one_lt h.ring (by rwa [inUse_toRing])

/-- The counter never exceeds the number of slots. -/
theorem inUse_le_capacity : b.inUse ≤ b.capacity := by
  rw [h.toWf.inUse_eq_inUseCount, ← capacity_toRing]
  exact SlotRing.inUseCount_le_capacity _

end WellFormed

/-- Every number in use holds bytes with property `P`. -/
def Keeps (P : UInt16 → Bytes → Prop) (b : SegmentBuffer) : Prop :=
  ∀ q, b.isInUse q = true → ∃ bytes, b.slot q = some bytes ∧ P q bytes

theorem Wf.keeps_toRing (h : b.Wf) {P : UInt16 → Bytes → Prop} : b.toRing.Keeps P ↔ b.Keeps P := by
  unfold Keeps SlotRing.Keeps
  simp only [inUse_toRing, h.slot?_toRing]

namespace Keeps

variable {P : UInt16 → Bytes → Prop}

theorem mono {P' : UInt16 → Bytes → Prop} (h : b.Keeps P) (hP : ∀ q bytes, P q bytes → P' q bytes) :
    b.Keeps P' := by
  intro q hq
  obtain ⟨bytes, hb, hp⟩ := h q hq
  exact ⟨bytes, hb, hP q bytes hp⟩

theorem setBase (base : UInt16) : (b.setBase base).Keeps P := by
  intro q hq
  rw [isInUse_setBase] at hq
  cases hq

theorem advanceBase (hb : b.WellFormed) (h : b.Keeps P) (k : UInt16) : (b.advanceBase k).Keeps P := by
  rw [← (hb.advanceBase k).toWf.keeps_toRing, toRing_advanceBase]
  exact (hb.toWf.keeps_toRing.2 h).advance hb.ring k

theorem unmark (hb : b.WellFormed) (h : b.Keeps P) (p : UInt16) : (b.unmark p).Keeps P := by
  rw [← (hb.unmark p).toWf.keeps_toRing, toRing_unmark]
  exact (hb.toWf.keeps_toRing.2 h).unmark p

/-- Storing bytes whose kept prefix has the property keeps it. -/
theorem store (hb : b.WellFormed) (h : b.Keeps P) {p : UInt16} {bytes : Bytes}
    (hp : P p (bytes.take b.slotSize)) : (b.store p bytes).2.Keeps P := by
  rw [← (hb.store p bytes).toWf.keeps_toRing, toRing_store]
  exact (hb.toWf.keeps_toRing.2 h).store hb.ring hp

end Keeps

/-! ### Refinement of window maps -/

/-- An operation on a buffer, with its answer: storing and marking say whether the number had a
slot. -/
def apply (b : SegmentBuffer) : SlotRing.Op → Option Bool × SegmentBuffer
  | .setBase base => (none, b.setBase base)
  | .advance k => (none, b.advanceBase k)
  | .store q bytes => (some (b.store q bytes).1, (b.store q bytes).2)
  | .markInUse q len => (some (b.markInUse q len).1, (b.markInUse q len).2)
  | .unmark q => (none, b.unmark q)

/-- The answers to a sequence of operations, and the buffer after them. -/
def runOps (b : SegmentBuffer) : List SlotRing.Op → List (Option Bool) × SegmentBuffer
  | [] => ([], b)
  | op :: ops =>
    let rest := (b.apply op).2.runOps ops
    ((b.apply op).1 :: rest.1, rest.2)

/-- An operation on a buffer answers as on its ring and leaves the ring the ring's operation
leaves. -/
theorem toRing_apply (b : SegmentBuffer) (op : SlotRing.Op) :
    (b.apply op).1 = (b.toRing.apply op).1 ∧ (b.apply op).2.toRing = (b.toRing.apply op).2 := by
  cases op with
  | setBase base => exact ⟨rfl, toRing_setBase b base⟩
  | advance k => exact ⟨rfl, toRing_advanceBase b k⟩
  | store q bytes => exact ⟨by simp [apply, SlotRing.apply, store_fst], toRing_store b q bytes⟩
  | markInUse q len =>
    exact ⟨by simp [apply, SlotRing.apply, markInUse_fst], toRing_markInUse b q len⟩
  | unmark q => exact ⟨rfl, toRing_unmark b q⟩

theorem toRing_runOps (b : SegmentBuffer) (ops : List SlotRing.Op) :
    (b.runOps ops).1 = (b.toRing.runOps ops).1 ∧
      (b.runOps ops).2.toRing = (b.toRing.runOps ops).2 := by
  induction ops generalizing b with
  | nil => exact ⟨rfl, rfl⟩
  | cons op ops ih =>
    obtain ⟨h₁, h₂⟩ := toRing_apply b op
    obtain ⟨ih₁, ih₂⟩ := ih (b.apply op).2
    rw [h₂] at ih₁ ih₂
    exact ⟨by simp only [runOps, SlotRing.runOps, h₁, ih₁], ih₂⟩

theorem Wf.apply (h : b.Wf) (op : SlotRing.Op) : (b.apply op).2.Wf := by
  cases op with
  | setBase base => exact h.setBase base
  | advance k => exact h.advanceBase k
  | store q bytes => exact h.store q bytes
  | markInUse q len => exact h.markInUse q len
  | unmark q => exact h.unmark q

theorem Wf.runOps (h : b.Wf) (ops : List SlotRing.Op) : (b.runOps ops).2.Wf := by
  induction ops generalizing b with
  | nil => exact h
  | cons op ops ih => exact ih (h.apply op)

theorem WellFormed.apply (h : b.WellFormed) (op : SlotRing.Op) : (b.apply op).2.WellFormed := by
  cases op with
  | setBase base => exact h.setBase base
  | advance k => exact h.advanceBase k
  | store q bytes => exact h.store q bytes
  | markInUse q len => exact h.markInUse q len
  | unmark q => exact h.unmark q

theorem WellFormed.runOps (h : b.WellFormed) (ops : List SlotRing.Op) : (b.runOps ops).2.WellFormed := by
  induction ops generalizing b with
  | nil => exact h
  | cons op ops ih => exact ih (h.apply op)

/-- Everything a caller observes of buffer `b` is what window map `w` says: the window, whether a
number has a slot and whether it is in use, the bytes it holds, the counter, and the numbers in
use listed along the list. -/
structure Shows (b : SegmentBuffer) (w : WindowMap) : Prop where
  base : b.base = w.base
  capacity : b.capacity = w.capacity
  slotSize : b.slotSize = w.slotSize
  hasSlot : ∀ q, b.hasSlot q = w.hasSlot q
  isInUse : ∀ q, b.isInUse q = w.inUse q
  slot : ∀ q, b.slot q = w.slot? q
  count : b.inUse = w.count
  enumerate : ∀ m, b.enumerate m = w.enumerate m

/-- A buffer that keeps its representation invariant shows what its ring shows. -/
theorem Wf.shows (h : b.Wf) {w : WindowMap} (hr : b.toRing.Shows w) : b.Shows w where
  base := hr.base
  capacity := by rw [← capacity_toRing]; exact hr.capacity
  slotSize := hr.slotSize
  hasSlot q := by rw [← hasSlot_toRing]; exact hr.hasSlot q
  isInUse q := by rw [← inUse_toRing]; exact hr.inUse q
  slot q := by rw [← h.slot?_toRing]; exact hr.slot? q
  count := by rw [h.inUse_eq_inUseCount]; exact hr.inUseCount
  enumerate m := by rw [h.enumerate_eq]; exact hr.enumerate m

/-- **A segment buffer refines a window map.** A buffer built by `new` with slot size `size` and
slot count `count`, after any sequence of operations with any arguments, has answered as a run of
the window map of `max count 1` slots of `max size 256` bytes from the empty one answers, and
shows exactly what the map it reaches says: its base, which numbers have slots and are in use,
their bytes, its counter, and the numbers in use listed along its list. -/
theorem refines_windowMap (size : UInt16) (count : UInt8) (ops : List SlotRing.Op) :
    ∃ w, WindowMap.Run (.empty (max count.toNat 1) (max size.toNat 256)) ops
        ((new size count).runOps ops).1 w ∧ ((new size count).runOps ops).2.Shows w := by
  obtain ⟨hans, hring⟩ := toRing_runOps (new size count) ops
  rw [toRing_new] at hans hring
  obtain ⟨w, hrun, hshows⟩ := SlotRing.new_refines_windowMap size count ops
  refine ⟨w, by rw [hans]; exact hrun, ((wf_new size count).runOps ops).shows ?_⟩
  rw [hring]
  exact hshows

/-! ### The window a buffer shows -/

/-- The window a buffer stands for: its ring's. -/
def view (b : SegmentBuffer) : WindowMap :=
  b.toRing.view

@[simp] theorem capacity_view (b : SegmentBuffer) : b.view.capacity = b.capacity :=
  capacity_toRing b

@[simp] theorem slotSize_view (b : SegmentBuffer) : b.view.slotSize = b.slotSize := rfl

@[simp] theorem base_view (b : SegmentBuffer) : b.view.base = b.base := rfl

theorem view_new (size : UInt16) (count : UInt8) :
    (new size count).view = WindowMap.empty (max count.toNat 1) (max size.toNat 256) := by
  rw [view, toRing_new, SlotRing.view_new]

theorem view_setBase (b : SegmentBuffer) (base : UInt16) :
    (b.setBase base).view = b.view.reset base := by
  rw [view, toRing_setBase, SlotRing.view_setBase]
  rfl

theorem view_advanceBase (b : SegmentBuffer) (k : UInt16) :
    (b.advanceBase k).view = b.view.shift k := by
  rw [view, toRing_advanceBase, SlotRing.view_advance]
  rfl

theorem view_unmark (b : SegmentBuffer) (q : UInt16) : (b.unmark q).view = b.view.erase q := by
  rw [view, toRing_unmark, SlotRing.view_unmark]
  rfl

theorem WellFormed.view_store (h : b.WellFormed) (q : UInt16) (bytes : Bytes) :
    (b.store q bytes).2.view = b.view.put q (bytes.take b.slotSize) (List.length_take_le _ _) := by
  rw [view, toRing_store, SlotRing.view_store h.ring]
  rfl

/-- A well-formed buffer shows what its window says. -/
theorem WellFormed.shows_view (h : b.WellFormed) : b.Shows b.view :=
  h.toWf.shows h.bounded.shows_view

end SegmentBuffer

end ReliableDatagram
