import ReliableDatagram.Proofs.SlotList
import ReliableDatagram.Proofs.SlotRing
/-!
# The list of slots in use

A segment buffer threads its slots in use on a doubly linked list. This module states what a
buffer must keep for the list to be right (`SegmentBuffer.Wf`) and proves that every operation
keeps it.

The list is compared with one computed from the flags alone: `order`, the physical slots in use
taken in increasing offset from the base. `Threads b l` says that the links of `b` thread the
list `l`: `head` and `tail` are its ends, the first slot has no predecessor and the last no
successor, and each two neighbours name each other (`Adjacent`). The invariant asks that the
links thread `order`, beside the bookkeeping of the records: the base's physical slot lies in
the ring, the counter counts the slots in use, a slot out of use holds nothing and has no
links, and no slot holds more than a region.

Each change to the list is an edit of `order`. Putting slot `i` in use inserts it between the
slots of smaller offset and those of larger offset, and `link`'s walk back from the tail stops
exactly at the last of the former (`Threads.walkBack_tail`); releasing it takes it out, and
`unlink` joins its neighbours (`Wf.claim`, `Wf.release`). Turning the ring in `advanceBase`
renumbers every offset, but it comes after the oldest slots are released, so the slots still in
use keep their order (`Wf.unmark_below`, `order_rotate`).

Main statement: `SegmentBuffer.representation_invariant`.
-/

namespace ReliableDatagram

namespace SegmentBuffer

variable {b : SegmentBuffer}

/-! ### Offsets and physical slots -/

theorem position_lt (hc : 0 < b.capacity) (o : Nat) : b.position o < b.capacity :=
  Nat.mod_lt _ hc

theorem offset_lt (hc : 0 < b.capacity) (i : Nat) : b.offset i < b.capacity :=
  Nat.mod_lt _ hc

/-- The physical slot at distance `o` from the base is at distance `o`. -/
theorem offset_position (hci : b.currentIndex < b.capacity) {o : Nat} (ho : o < b.capacity) :
    b.offset (b.position o) = o := by
  unfold offset position
  -- the ring wraps at most once
  by_cases h : b.currentIndex + o < b.capacity
  · rw [Nat.mod_eq_of_lt h, show b.currentIndex + o + b.capacity - b.currentIndex =
      o + b.capacity by omega, Nat.add_mod_right, Nat.mod_eq_of_lt ho]
  · have hm : (b.currentIndex + o) % b.capacity = b.currentIndex + o - b.capacity := by
      rw [Nat.mod_eq_sub_mod (show b.capacity ≤ b.currentIndex + o by omega),
        Nat.mod_eq_of_lt (show b.currentIndex + o - b.capacity < b.capacity by omega)]
    rw [hm, show b.currentIndex + o - b.capacity + b.capacity - b.currentIndex = o by omega,
      Nat.mod_eq_of_lt ho]

/-- Every physical slot is the slot at its own distance from the base. -/
theorem position_offset (hci : b.currentIndex < b.capacity) {i : Nat} (hi : i < b.capacity) :
    b.position (b.offset i) = i := by
  unfold offset position
  by_cases h : b.currentIndex ≤ i
  · have hm : (i + b.capacity - b.currentIndex) % b.capacity = i - b.currentIndex := by
      rw [show i + b.capacity - b.currentIndex = i - b.currentIndex + b.capacity by omega,
        Nat.add_mod_right, Nat.mod_eq_of_lt (show i - b.currentIndex < b.capacity by omega)]
    rw [hm, show b.currentIndex + (i - b.currentIndex) = i by omega, Nat.mod_eq_of_lt hi]
  · rw [Nat.mod_eq_of_lt (show i + b.capacity - b.currentIndex < b.capacity by omega),
      show b.currentIndex + (i + b.capacity - b.currentIndex) = i + b.capacity by omega,
      Nat.add_mod_right, Nat.mod_eq_of_lt hi]

/-! ### The slots in use, in order of offset -/

/-- The physical slots in use, in increasing order of offset. -/
def order (b : SegmentBuffer) : List Nat :=
  ((List.range b.capacity).map b.position).filter fun i ↦ (b.slotAt i).inUse

theorem mem_order (hc : 0 < b.capacity) (hci : b.currentIndex < b.capacity) {i : Nat} :
    i ∈ b.order ↔ i < b.capacity ∧ (b.slotAt i).inUse = true := by
  unfold order
  rw [List.mem_filter, List.mem_map]
  constructor
  · rintro ⟨⟨o, -, rfl⟩, hu⟩
    exact ⟨position_lt hc o, hu⟩
  · rintro ⟨hi, hu⟩
    exact ⟨⟨b.offset i, List.mem_range.2 (offset_lt hc i), position_offset hci hi⟩, hu⟩

/-- Offsets increase strictly along `order`. -/
theorem order_sorted (hci : b.currentIndex < b.capacity) :
    b.order.Pairwise (fun x y ↦ b.offset x < b.offset y) := by
  unfold order
  refine List.Pairwise.filter _ (List.pairwise_map.2 ?_)
  refine List.pairwise_lt_range.imp_of_mem fun ho₁ ho₂ hlt ↦ ?_
  rwa [offset_position hci (List.mem_range.1 ho₁), offset_position hci (List.mem_range.1 ho₂)]

theorem order_nodup (hci : b.currentIndex < b.capacity) : b.order.Nodup :=
  (order_sorted hci).imp fun hlt heq ↦ by rw [heq] at hlt; exact lt_irrefl _ hlt

/-- A list whose keys all lie above `o` has nothing below or at `o`. -/
theorem filter_of_forall_above {l : List Nat} {f : Nat → Nat} {o : Nat} (h : ∀ y ∈ l, o < f y) :
    l.filter (f · < o) = [] ∧ l.filter (f · = o) = [] ∧ l.filter (o < f ·) = l := by
  refine ⟨List.filter_eq_nil_iff.2 fun y hy ↦ ?_, List.filter_eq_nil_iff.2 fun y hy ↦ ?_,
    List.filter_eq_self.2 fun y hy ↦ ?_⟩ <;> have := h y hy <;> simp <;> omega

/-- A list sorted by a key falls into the part below `o`, the part at `o` and the part above. -/
theorem eq_filter_append_of_sorted {l : List Nat} {f : Nat → Nat}
    (hl : l.Pairwise (fun x y ↦ f x < f y)) (o : Nat) :
    l = l.filter (f · < o) ++ l.filter (f · = o) ++ l.filter (o < f ·) := by
  induction l with
  | nil => rfl
  | cons x l ih =>
    obtain ⟨hx, hl⟩ := List.pairwise_cons.1 hl
    rcases Nat.lt_trichotomy (f x) o with h | h | h
    · have hne : ¬ f x = o := by omega
      have hgt : ¬ o < f x := by omega
      simp only [List.filter_cons, h, hne, hgt, decide_true, decide_false, ↓reduceIte,
        Bool.false_eq_true, List.cons_append]
      exact congrArg (x :: ·) (ih hl)
    · -- everything after `x` lies above `o`
      obtain ⟨h₁, h₂, h₃⟩ := filter_of_forall_above fun y hy ↦ h ▸ hx y hy
      simp only [List.filter_cons, h, lt_irrefl, decide_true, decide_false, ↓reduceIte,
        Bool.false_eq_true, h₁, h₂, h₃]
      rfl
    · obtain ⟨h₁, h₂, h₃⟩ := filter_of_forall_above (l := x :: l) fun y hy ↦ by
        rcases List.mem_cons.1 hy with rfl | hy
        exacts [h, lt_trans h (hx y hy)]
      rw [h₁, h₂, h₃]
      rfl

/-- At most one slot is at distance `o`: the slot there, when it is in use. -/
theorem order_filter_offset_eq (hc : 0 < b.capacity) (hci : b.currentIndex < b.capacity)
    {o : Nat} (ho : o < b.capacity) :
    b.order.filter (b.offset · = o) =
      if (b.slotAt (b.position o)).inUse then [b.position o] else [] := by
  have hcongr : b.order.filter (b.offset · = o) = b.order.filter (· = b.position o) := by
    refine List.filter_congr fun j hj ↦ decide_eq_decide.2 ⟨fun h ↦ ?_, fun h ↦ ?_⟩
    · rw [← h, position_offset hci ((mem_order hc hci).1 hj).1]
    · rw [h, offset_position hci ho]
  rw [hcongr, List.filter_eq, (order_nodup hci).count]
  by_cases hu : (b.slotAt (b.position o)).inUse = true
  · rw [if_pos ((mem_order hc hci).2 ⟨position_lt hc o, hu⟩), if_pos hu]
    rfl
  · rw [if_neg (fun h ↦ hu ((mem_order hc hci).1 h).2), if_neg hu]
    rfl

/-- The slots in use fall into those below offset `o`, the slot at `o` when it is in use, and
those above. -/
theorem order_split (hc : 0 < b.capacity) (hci : b.currentIndex < b.capacity) {o : Nat}
    (ho : o < b.capacity) :
    b.order = b.order.filter (b.offset · < o) ++
      (if (b.slotAt (b.position o)).inUse then [b.position o] else []) ++
      b.order.filter (o < b.offset ·) := by
  have h := eq_filter_append_of_sorted (order_sorted hci) o
  rwa [order_filter_offset_eq hc hci ho] at h

/-- Changing the flag of the slot at offset `o` only leaves the slots at other offsets as they
were on the list. -/
theorem order_filter_congr {b' : SegmentBuffer} (hcap : b'.capacity = b.capacity)
    (hcur : b'.currentIndex = b.currentIndex) (hci : b.currentIndex < b.capacity) {o : Nat}
    (ho : o < b.capacity)
    (hflags : ∀ j, j ≠ b.position o → (b'.slotAt j).inUse = (b.slotAt j).inUse)
    (P : Nat → Prop) [DecidablePred P] (hP : ¬ P o) :
    b'.order.filter (fun j ↦ P (b.offset j)) = b.order.filter (fun j ↦ P (b.offset j)) := by
  have hpos : b'.position = b.position := by
    funext o
    simp only [position, hcap, hcur]
  unfold order
  rw [hcap, hpos, List.filter_filter, List.filter_filter]
  refine List.filter_congr fun j _ ↦ ?_
  by_cases hPj : P (b.offset j)
  · have hne : j ≠ b.position o := by
      rintro rfl
      exact hP (by rwa [offset_position hci ho] at hPj)
    simp [hPj, hflags j hne]
  · simp [hPj]

/-! ### The invariant -/

/-- A slot beyond the ring reads as an empty record, so a slot in use lies in the ring. -/
theorem lt_of_inUse {i : Nat} (hu : (b.slotAt i).inUse = true) : i < b.capacity := by
  by_contra h
  rw [slotAt, List.getElem?_eq_none (Nat.le_of_not_lt h)] at hu
  cases hu

theorem length_order_le (b : SegmentBuffer) : b.order.length ≤ b.capacity :=
  (List.length_filter_le _ _).trans (by simp)

/-- The list of slots in use depends only on the flags and on where the ring starts. -/
theorem order_congr {b' : SegmentBuffer} (hcap : b'.capacity = b.capacity)
    (hcur : b'.currentIndex = b.currentIndex)
    (hflags : ∀ j, (b'.slotAt j).inUse = (b.slotAt j).inUse) : b'.order = b.order := by
  have hpos : b'.position = b.position := by
    funext o
    simp only [position, hcap, hcur]
  unfold order
  rw [hcap, hpos]
  exact List.filter_congr fun j _ ↦ by rw [hflags j]

/-- A buffer whose flags differ from those of `b` at most at offset `o` lists the slots in use of
`b` below `o`, then the slot at `o` if it is now in use, then those of `b` above `o`. -/
theorem order_of_flags {b' : SegmentBuffer} (hc : 0 < b.capacity)
    (hci : b.currentIndex < b.capacity) (hcap : b'.capacity = b.capacity)
    (hcur : b'.currentIndex = b.currentIndex) {o : Nat} (ho : o < b.capacity)
    (hflags : ∀ j, j ≠ b.position o → (b'.slotAt j).inUse = (b.slotAt j).inUse) :
    b'.order = b.order.filter (b.offset · < o) ++
      (if (b'.slotAt (b.position o)).inUse then [b.position o] else []) ++
      b.order.filter (o < b.offset ·) := by
  have hpos : b'.position o = b.position o := by simp only [position, hcap, hcur]
  have hoff : b'.offset = b.offset := by
    funext j
    simp only [offset, hcap, hcur]
  have hsplit := order_split (b := b') (hcap ▸ hc) (hcap ▸ hcur ▸ hci) (hcap ▸ ho)
  rw [hpos, hoff] at hsplit
  rw [hsplit, order_filter_congr hcap hcur hci ho hflags (· < o) (lt_irrefl o),
    order_filter_congr hcap hcur hci ho hflags (o < ·) (lt_irrefl o)]

/-- The number `q` has a slot exactly when it lies in the window, and then it is the slot at its
distance from the base. -/
theorem index_eq_some {q : UInt16} {i : Nat} (h : b.index q = some i) :
    (Seq.offset q b.base).toNat < b.capacity ∧ i = b.position (Seq.offset q b.base).toNat := by
  simp only [index] at h
  split at h
  · exact ⟨‹_›, (Option.some.inj h).symm⟩
  · cases h

/-- What a segment buffer keeps: a nonempty ring with the base's physical slot in it, a counter
of the slots in use, free slots that hold nothing and have no links, no slot holding more than
a region, and links that thread the slots in use in order of offset. -/
structure Wf (b : SegmentBuffer) : Prop where
  /-- The ring has a slot. -/
  capacity_pos : 0 < b.capacity
  /-- The base's physical slot lies in the ring. -/
  current_lt : b.currentIndex < b.capacity
  /-- The counter counts the slots in use. -/
  count : b.inUse = b.order.length
  /-- A free slot holds nothing and has no links. -/
  free : ∀ i, (b.slotAt i).inUse = false →
    (b.slotAt i).len = 0 ∧ (b.slotAt i).prev = none ∧ (b.slotAt i).next = none
  /-- No slot holds more than a region. -/
  len_le : ∀ i, (b.slotAt i).len ≤ b.slotSize
  /-- The links thread the slots in use in order of offset. -/
  threads : b.Threads b.order

/-- A ring of empty records with no list and a zero counter keeps the invariant. -/
theorem wf_of_empty (hc : 0 < b.capacity) (hci : b.currentIndex < b.capacity)
    (hs : ∀ i, b.slotAt i = {}) (hh : b.head = none) (ht : b.tail = none) (hu : b.inUse = 0) :
    b.Wf := by
  have hord : b.order = [] := List.filter_eq_nil_iff.2 fun i _ ↦ by simp [hs i]
  refine ⟨hc, hci, by rw [hu, hord]; rfl, fun i _ ↦ by simp [hs i], fun i ↦ by simp [hs i], ?_⟩
  rw [hord]
  exact ⟨hh, ht, by simp, by simp, List.isChain_nil⟩

theorem slotAt_replicate (n i : Nat) :
    ((List.replicate n ({} : Slot))[i]?).getD {} = {} := by
  rw [List.getElem?_replicate]
  split <;> rfl

theorem wf_new (slotSize : UInt16) (slotCount : UInt8) : (new slotSize slotCount).Wf :=
  wf_of_empty (by simp [new, capacity]) (by simp [new, capacity])
    (fun i ↦ slotAt_replicate _ i) rfl rfl rfl

theorem Wf.setBase (h : b.Wf) (base : UInt16) : (b.setBase base).Wf := by
  have hcap : (b.setBase base).capacity = b.capacity := by
    show (List.replicate b.capacity ({} : Slot)).length = b.capacity
    simp
  exact wf_of_empty (hcap ▸ h.capacity_pos) (hcap ▸ h.capacity_pos)
    (fun i ↦ slotAt_replicate _ i) rfl rfl rfl

/-- The bytes of the regions are no part of the invariant. -/
theorem Wf.setFrames (h : b.Wf) (frames : List Bytes) : ({ b with frames } : SegmentBuffer).Wf where
  capacity_pos := h.capacity_pos
  current_lt := h.current_lt
  count := h.count
  free := h.free
  len_le := h.len_le
  threads := h.threads.of_same_links rfl rfl fun _ ↦ rfl

/-- A buffer whose parts keep the invariant keeps it whole once its counter is set to the length
of its list. -/
theorem wf_withCount (hc : 0 < b.capacity) (hci : b.currentIndex < b.capacity)
    (hfree : ∀ i, (b.slotAt i).inUse = false →
      (b.slotAt i).len = 0 ∧ (b.slotAt i).prev = none ∧ (b.slotAt i).next = none)
    (hlen : ∀ i, (b.slotAt i).len ≤ b.slotSize) (ht : b.Threads b.order) {n : Nat}
    (hn : n = b.order.length) : ({ b with inUse := n } : SegmentBuffer).Wf where
  capacity_pos := hc
  current_lt := hci
  count := hn
  free := hfree
  len_le := hlen
  threads := ht.of_same_links rfl rfl fun _ ↦ rfl

theorem Wf.write (h : b.Wf) (q : UInt16) (pos : Nat) (src : Bytes) : (b.write q pos src).Wf := by
  unfold SegmentBuffer.write
  split
  · dsimp only
    split
    · exact h
    · exact h.setFrames _
  · exact h

/-- Walking forward from the head of a buffer that keeps the invariant visits its slots in use in
order of offset, whenever the walk may take as many steps as the ring has slots. -/
theorem Wf.walk_eq (h : b.Wf) {fuel : Nat} (hf : b.capacity ≤ fuel) :
    b.walk fuel b.head = b.order := by
  rw [h.threads.head]
  exact walk_eq_of_isChain h.threads.chain h.threads.last ((length_order_le b).trans hf)

/-! ### Releasing a slot -/

/-- The slots in use fall into those before `i`, then `i`, then those after it, when `i` is in
use. -/
theorem order_around (hc : 0 < b.capacity) (hci : b.currentIndex < b.capacity) {i : Nat}
    (hi : i < b.capacity) :
    b.order = b.order.filter (b.offset · < b.offset i) ++
      (if (b.slotAt i).inUse then [i] else []) ++ b.order.filter (b.offset i < b.offset ·) := by
  have h := order_split hc hci (offset_lt hc i)
  rwa [position_offset hci hi] at h

theorem not_mem_order_of_free {j : Nat} (hj : (b.slotAt j).inUse = false) : j ∉ b.order :=
  fun hm ↦ by
    rw [(List.mem_filter.1 hm).2] at hj
    cases hj

/-- A slot in use sits on the list between the slots in use before it and those after it. -/
theorem Wf.order_eq_around (h : b.Wf) {i : Nat} (hu : (b.slotAt i).inUse = true) :
    b.order = b.order.filter (b.offset · < b.offset i) ++
      i :: b.order.filter (b.offset i < b.offset ·) := by
  simpa [hu] using order_around h.capacity_pos h.current_lt (lt_of_inUse hu)

theorem Wf.mem_order_iff (h : b.Wf) {i : Nat} :
    i ∈ b.order ↔ i < b.capacity ∧ (b.slotAt i).inUse :=
  mem_order h.capacity_pos h.current_lt

/-- Every slot in use may be taken out of the list. -/
theorem Wf.unlinkable (h : b.Wf) {i : Nat} (hu : (b.slotAt i).inUse = true) : b.Unlinkable i := by
  obtain ⟨A, C, hord⟩ : ∃ A C, b.order = A ++ i :: C := ⟨_, _, h.order_eq_around hu⟩
  exact (hord ▸ h.threads).unlinkable (hord ▸ order_nodup h.current_lt) fun x hx ↦
    (h.mem_order_iff.1 (hord ▸ hx)).1

/-- Releasing slot `i` clears its flag and leaves every other flag as it was. -/
theorem Wf.inUse_release (h : b.Wf) {i : Nat} (hu : (b.slotAt i).inUse = true) (j : Nat) :
    (((b.unlink i).modifySlot i fun _ ↦ {}).slotAt j).inUse = ((b.slotAt j).inUse && decide (j ≠ i)) := by
  by_cases hj : j = i
  · rw [hj, slotAt_modifySlot (by simpa using lt_of_inUse hu), if_pos rfl]
    simp
  · rw [slotAt_modifySlot_of_ne _ hj, (slotAt_unlink_fields (h.unlinkable hu) j).1]
    simp [hj]

/-- Clearing the flag of `i` takes `i` off the list of slots in use. -/
theorem order_of_clear {b' : SegmentBuffer} (hcap : b'.capacity = b.capacity)
    (hcur : b'.currentIndex = b.currentIndex) {i : Nat}
    (hflags : ∀ j, (b'.slotAt j).inUse = ((b.slotAt j).inUse && decide (j ≠ i))) :
    b'.order = b.order.filter (· ≠ i) := by
  have hpos : b'.position = b.position := by
    funext o
    simp only [position, hcap, hcur]
  unfold order
  rw [hcap, hpos, List.filter_filter]
  exact List.filter_congr fun j _ ↦ by rw [hflags j, Bool.and_comm]

/-- Releasing slot `i`, when it is in use, takes it out of the list, clears its record and keeps
the invariant. -/
theorem Wf.release (h : b.Wf) {i : Nat} (hu : (b.slotAt i).inUse = true) :
    let b' := (b.unlink i).modifySlot i fun _ ↦ {}
    ({ b' with inUse := b'.inUse - 1 } : SegmentBuffer).Wf := by
  intro b'
  have hc := h.capacity_pos
  have hci := h.current_lt
  have hi : i < b.capacity := lt_of_inUse hu
  -- the list is `A ++ i :: C`: the slots before `i`, then `i`, then those after it
  obtain ⟨A, C, hA, hC, hord⟩ : ∃ A C, A = b.order.filter (b.offset · < b.offset i) ∧
      C = b.order.filter (b.offset i < b.offset ·) ∧ b.order = A ++ i :: C :=
    ⟨_, _, rfl, rfl, h.order_eq_around hu⟩
  have hnd : (A ++ i :: C).Nodup := hord ▸ order_nodup hci
  have hlt : ∀ x ∈ A ++ i :: C, x < b.capacity := fun x hx ↦ (h.mem_order_iff.1 (hord ▸ hx)).1
  have ht : b.Threads (A ++ i :: C) := hord ▸ h.threads
  have hun := ht.unlinkable hnd hlt
  have hcap' : b'.capacity = b.capacity := by simp [b']
  have hcur' : b'.currentIndex = b.currentIndex := by simp [b']
  have hslot_i : b'.slotAt i = {} := by
    show ((b.unlink i).modifySlot i fun _ ↦ {}).slotAt i = {}
    rw [slotAt_modifySlot (by simpa using hi), if_pos rfl]
  have hslot : ∀ j, j ≠ i → b'.slotAt j = (b.unlink i).slotAt j := fun j hj ↦
    slotAt_modifySlot_of_ne _ hj
  have hflags : ∀ j, j ≠ b.position (b.offset i) → (b'.slotAt j).inUse = (b.slotAt j).inUse := by
    intro j hj
    rw [position_offset hci hi] at hj
    rw [hslot j hj]
    exact (slotAt_unlink_fields hun j).1
  have hord' : b'.order = A ++ C := by
    rw [order_of_flags hc hci hcap' hcur' (offset_lt hc i) hflags, position_offset hci hi, hslot_i]
    simp [hA, hC]
  have hslot_b : ∀ j, j ≠ i → (b.slotAt j).inUse = false → b'.slotAt j = b.slotAt j := by
    intro j hji hfree
    -- the neighbours of `i` are in use, so a free slot is neither of them
    have hj_notin : j ∉ A ++ i :: C := hord ▸ not_mem_order_of_free hfree
    obtain ⟨hprev_i, hnext_i⟩ := ht.neighbours
    rw [hslot j hji]
    refine slotAt_unlink_of_ne hun ?_ ?_
    · rw [hprev_i]
      exact fun hj' ↦ hj_notin (List.mem_append_left _ (List.mem_of_getLast? hj'))
    · rw [hnext_i]
      exact fun hj' ↦ hj_notin
        (List.mem_append_right A (List.mem_cons_of_mem i (List.mem_of_mem_head? hj')))
  refine wf_withCount (hcap' ▸ hc) (by rw [hcur', hcap']; exact hci) ?free ?len ?threads ?count
  case free =>
    intro j hj
    by_cases hji : j = i
    · rw [hji, hslot_i]
      exact ⟨rfl, rfl, rfl⟩
    · have hfree : (b.slotAt j).inUse = false := (hflags j (by rwa [position_offset hci hi])) ▸ hj
      rw [hslot_b j hji hfree]
      exact h.free j hfree
  case len =>
    intro j
    rw [show b'.slotSize = b.slotSize by simp [b']]
    by_cases hji : j = i
    · rw [hji, hslot_i]
      exact Nat.zero_le _
    · rw [hslot j hji, (slotAt_unlink_fields hun j).2]
      exact h.len_le j
  case threads =>
    rw [hord']
    refine (ht.unlink hnd hlt).of_links rfl rfl fun x hx ↦ ?_
    have hxi : x ≠ i := fun hxi ↦ (List.nodup_cons.1 (List.nodup_middle.1 hnd)).1 (hxi ▸ hx)
    rw [hslot x hxi]
    exact ⟨rfl, rfl⟩
  case count =>
    rw [show b'.inUse = b.inUse by simp [b'], h.count, hord, hord']
    simp

/-! ### Putting a slot in use -/

/-- Changing the length of a slot in use, within the slot size, keeps the invariant. -/
theorem Wf.setLen (h : b.Wf) {i : Nat} (hu : (b.slotAt i).inUse = true) {n : Nat}
    (hn : n ≤ b.slotSize) : (b.modifySlot i fun s ↦ { s with len := n }).Wf := by
  have hi : i < b.capacity := lt_of_inUse hu
  have hslot := slotAt_modifySlot hi fun s ↦ { s with len := n }
  have hord : (b.modifySlot i fun s ↦ { s with len := n }).order = b.order :=
    order_congr (by simp) (by simp) fun j ↦ by
      rw [hslot]
      split_ifs with hj
      · rw [hj]
      · rfl
  refine ⟨by simpa using h.capacity_pos, by simpa using h.current_lt, ?count, ?free, ?len, ?threads⟩
  case count => rw [hord, inUse_modifySlot, h.count]
  case free =>
    intro j hj
    rw [hslot] at hj ⊢
    split_ifs at hj ⊢ with hji
    · simp [hu] at hj
    · exact h.free j hj
  case len =>
    intro j
    rw [hslot, slotSize_modifySlot]
    split_ifs
    exacts [hn, h.len_le j]
  case threads =>
    rw [hord]
    refine h.threads.of_links rfl rfl fun x _ ↦ ?_
    rw [hslot]
    split_ifs with hx
    · rw [hx]
      exact ⟨rfl, rfl⟩
    · exact ⟨rfl, rfl⟩

/-- Putting the free slot `i` in use with `n` bytes threads it in at its place by offset and keeps
the invariant. -/
theorem Wf.claim (h : b.Wf) {i : Nat} (hi : i < b.capacity) (hfree : (b.slotAt i).inUse = false)
    {n : Nat} (hn : n ≤ b.slotSize) :
    let c := (b.modifySlot i fun s ↦ { s with len := n }).modifySlot i
      fun s ↦ { s with inUse := true }
    let d := c.link i
    ({ d with inUse := d.inUse + 1 } : SegmentBuffer).Wf := by
  intro c d
  have hc := h.capacity_pos
  have hci := h.current_lt
  -- the list is `A ++ C`, and `i` belongs between the two parts
  obtain ⟨A, C, hA, hC, hord⟩ : ∃ A C, A = b.order.filter (b.offset · < b.offset i) ∧
      C = b.order.filter (b.offset i < b.offset ·) ∧ b.order = A ++ C :=
    ⟨_, _, rfl, rfl, by simpa [hfree] using order_around hc hci hi⟩
  have hcap_c : c.capacity = b.capacity := by simp [c]
  have hcur_c : c.currentIndex = b.currentIndex := by simp [c]
  -- `c` differs from `b` only in the length and the flag of `i`
  have hslot_c : ∀ j, c.slotAt j =
      if j = i then { b.slotAt i with len := n, inUse := true } else b.slotAt j := by
    intro j
    have hi' : i < (b.modifySlot i fun s ↦ { s with len := n }).capacity := by simpa using hi
    show ((b.modifySlot i _).modifySlot i _).slotAt j = _
    simp only [slotAt_modifySlot hi', slotAt_modifySlot hi, if_true]
    split_ifs <;> rfl
  have hord_c : c.order = A ++ i :: C := by
    have hflags : ∀ j, j ≠ b.position (b.offset i) → (c.slotAt j).inUse = (b.slotAt j).inUse := by
      intro j hj
      rw [position_offset hci hi] at hj
      rw [hslot_c, if_neg hj]
    rw [order_of_flags hc hci hcap_c hcur_c (offset_lt hc i) hflags, position_offset hci hi,
      hslot_c, if_pos rfl]
    simp [hA, hC]
  have hnd : (A ++ i :: C).Nodup := hord_c ▸ order_nodup (by rw [hcur_c, hcap_c]; exact hci)
  have hlt : ∀ x ∈ A ++ C, x < c.capacity := fun x hx ↦
    hcap_c ▸ ((mem_order hc hci).1 (hord ▸ hx)).1
  -- the links of `c` are those of `b`
  have ht_c : c.Threads (A ++ C) := by
    refine (hord ▸ h.threads).of_links (by simp [c]) (by simp [c]) fun x _ ↦ ?_
    rw [hslot_c]
    split_ifs with hx
    · rw [hx]
      exact ⟨rfl, rfl⟩
    · exact ⟨rfl, rfl⟩
  -- the walk back from the tail stops at the last slot before `i`
  have hwalk : c.walkBack (c.offset i) c.capacity c.tail = A.getLast? := by
    have hoff : c.offset = b.offset := by
      funext j
      simp only [offset, hcap_c, hcur_c]
    refine ht_c.walkBack_tail (hord ▸ hcap_c ▸ length_order_le b) (fun x hx ↦ ?_) fun x hx ↦ ?_
    · rw [hA] at hx
      simpa [hoff] using (List.mem_filter.1 hx).2
    · rw [hC] at hx
      simpa [hoff] using (List.mem_filter.1 hx).2
  have hp : c.InsertPoint i A.getLast? := ht_c.insertPoint hnd (hcap_c ▸ hi) hlt
  have hd : d = c.insertAfter i A.getLast? := by
    show c.insertAfter i _ = _
    rw [hwalk]
  have hord_d : d.order = A ++ i :: C := by
    rw [hd, order_congr (by simp) (by simp) fun j ↦ (slotAt_insertAfter_fields hp j).1, hord_c]
  rw [hd]
  refine wf_withCount (by simpa [hcap_c] using hc) (by simpa [hcap_c, hcur_c] using hci) ?free
    ?len ?threads ?count
  case free =>
    intro j hj
    have hfree_c : (c.slotAt j).inUse = false := (slotAt_insertAfter_fields hp j).1 ▸ hj
    have hji : j ≠ i := by
      rintro rfl
      simp [hslot_c] at hfree_c
    have hfree_b : (b.slotAt j).inUse = false := by rwa [hslot_c, if_neg hji] at hfree_c
    -- a free slot is neither neighbour of `i`, for both are in use
    have hj_notin : j ∉ A ++ C := hord ▸ not_mem_order_of_free hfree_b
    have hnotA : A.getLast? ≠ some j := fun hj' ↦
      hj_notin (List.mem_append_left _ (List.mem_of_getLast? hj'))
    have hnotC : c.successor A.getLast? ≠ some j := by
      rw [ht_c.successor_getLast]
      exact fun hj' ↦ hj_notin (List.mem_append_right _ (List.mem_of_mem_head? hj'))
    rw [slotAt_insertAfter_of_ne hp hji hnotA hnotC, hslot_c, if_neg hji]
    exact h.free j hfree_b
  case len =>
    intro j
    rw [slotSize_insertAfter, (slotAt_insertAfter_fields hp j).2, hslot_c,
      show c.slotSize = b.slotSize by simp [c]]
    split_ifs
    exacts [hn, h.len_le j]
  case threads =>
    rw [← hd, hord_d, hd]
    exact ht_c.insertAfter hnd (hcap_c ▸ hi) hlt
  case count =>
    rw [← hd, hord_d, hd, inUse_insertAfter, show c.inUse = b.inUse by simp [c], h.count, hord]
    simp
    omega

theorem Wf.markInUse (h : b.Wf) (q : UInt16) (len : Nat) : (b.markInUse q len).2.Wf := by
  unfold SegmentBuffer.markInUse
  split
  · exact h
  · rename_i i hidx
    have hi : i < b.capacity := by
      obtain ⟨-, rfl⟩ := index_eq_some hidx
      exact position_lt h.capacity_pos _
    -- the new length leaves the flag of `i` as it was
    have hflag : ((b.modifySlot i fun s ↦ { s with len := min len b.slotSize }).slotAt i).inUse =
        (b.slotAt i).inUse := by
      rw [slotAt_modifySlot hi, if_pos rfl]
    dsimp only
    split
    · exact h.setLen (hflag ▸ ‹_›) (Nat.min_le_right _ _)
    · rename_i hfree
      rw [hflag, Bool.not_eq_true] at hfree
      exact h.claim hi hfree (Nat.min_le_right _ _)

theorem Wf.store (h : b.Wf) (q : UInt16) (bytes : Bytes) : (b.store q bytes).2.Wf :=
  (h.write q 0 _).markInUse q _

/-- Unmarking `q` takes the slot of `q` off the list of slots in use. -/
theorem Wf.order_unmark (h : b.Wf) (q : UInt16) :
    (b.unmark q).order = b.order.filter fun j ↦ b.index q ≠ some j := by
  unfold SegmentBuffer.unmark
  split
  · rename_i hidx
    simp [hidx]
  · rename_i i hidx
    dsimp only
    split
    · rename_i hu
      change ((b.unlink i).modifySlot i fun _ ↦ {}).order = _
      rw [order_of_clear (by simp) (by simp) (h.inUse_release hu)]
      simp [hidx, eq_comm]
    · -- a free slot is not on the list
      rename_i hfree
      refine (List.filter_eq_self.2 fun j hj ↦ ?_).symm
      have hji : j ≠ i := by
        rintro rfl
        exact not_mem_order_of_free (Bool.not_eq_true _ ▸ hfree) hj
      simp [hidx, Ne.symm hji]

theorem Wf.unmark (h : b.Wf) (q : UInt16) : (b.unmark q).Wf := by
  unfold SegmentBuffer.unmark
  split
  · exact h
  · dsimp only
    split
    · exact h.release ‹_›
    · exact h

/-! ### Moving the window -/

@[simp] theorem capacity_unmark (b : SegmentBuffer) (q : UInt16) :
    (b.unmark q).capacity = b.capacity := by
  unfold unmark
  split
  · rfl
  · dsimp only
    split
    · rename_i i _ _
      show ((b.unlink i).modifySlot i fun _ ↦ {}).capacity = b.capacity
      simp
    · rfl

@[simp] theorem currentIndex_unmark (b : SegmentBuffer) (q : UInt16) :
    (b.unmark q).currentIndex = b.currentIndex := by
  unfold unmark
  split
  · rfl
  · dsimp only
    split
    · rename_i i _ _
      show ((b.unlink i).modifySlot i fun _ ↦ {}).currentIndex = b.currentIndex
      simp
    · rfl

@[simp] theorem base_unmark (b : SegmentBuffer) (q : UInt16) : (b.unmark q).base = b.base := by
  unfold unmark
  split
  · rfl
  · dsimp only
    split
    · rename_i i _ _
      show ((b.unlink i).modifySlot i fun _ ↦ {}).base = b.base
      simp
    · rfl

/-- The number `o` places past the base has the slot at offset `o`. -/
theorem index_base_add {o : Nat} (ho : o < b.capacity) (ho' : o < 65536) :
    b.index (b.base + o.toUInt16) = some (b.position o) := by
  simp only [index, Seq.offset_add_left b.base o ho', if_pos ho]

/-- Unmarking the numbers of the first `m` offsets, one by one, takes the slots below offset `m`
off the list and keeps the invariant. -/
theorem Wf.unmark_below (h : b.Wf) {m : Nat} (hm : m ≤ b.capacity) (hm' : m ≤ 65536) :
    let b' := (List.range m).foldl (fun b i ↦ b.unmark (b.base + i.toUInt16)) b
    b'.Wf ∧ b'.base = b.base ∧ b'.capacity = b.capacity ∧ b'.currentIndex = b.currentIndex ∧
      b'.order = b.order.filter (m ≤ b.offset ·) := by
  induction m with
  | zero => simp [h]
  | succ m ih =>
    obtain ⟨h', hbase, hcap, hcur, hord⟩ := ih (by omega) (by omega)
    -- one more step of the fold unmarks the number at offset `m`
    simp only [List.range_succ, List.foldl_append, List.foldl_cons, List.foldl_nil]
    set b' := (List.range m).foldl (fun b i ↦ b.unmark (b.base + i.toUInt16)) b
    have hidx : b'.index (b'.base + m.toUInt16) = some (b.position m) := by
      rw [index_base_add (by omega) (by omega)]
      simp only [position, hcap, hcur]
    refine ⟨h'.unmark _, by simp [hbase], by simp [hcap], by simp [hcur], ?_⟩
    rw [h'.order_unmark, hidx, hord, List.filter_filter]
    refine List.filter_congr fun j hj ↦ ?_
    have hj : j < b.capacity := (h.mem_order_iff.1 hj).1
    -- the slot at offset `m` is the one slot whose offset is `m`
    have hiff : b.position m = j ↔ b.offset j = m := by
      constructor
      · rintro rfl
        exact offset_position h.current_lt (by omega)
      · rintro rfl
        exact position_offset h.current_lt hj
    simp only [ne_eq, Option.some.injEq, hiff, decide_not]
    by_cases hjm : b.offset j = m
    · simp [hjm]
    · simp [hjm]
      omega

/-- Turning the ring by `k` lowers every offset by `k`; when no slot below offset `k` is in use,
the slots in use keep their order. -/
theorem order_rotate (h : b.Wf) {k : Nat} (hk : k ≤ b.capacity)
    (hfree : ∀ j ∈ b.order, k ≤ b.offset j) (base : UInt16) :
    ({ b with base, currentIndex := (b.currentIndex + k) % b.capacity } : SegmentBuffer).order =
      b.order := by
  have hc := h.capacity_pos
  have hci := h.current_lt
  set b' : SegmentBuffer := { b with base, currentIndex := (b.currentIndex + k) % b.capacity }
  -- the slot at offset `o` of the turned ring is the slot at offset `k + o` before
  have hpos : ∀ o, b'.position o = b.position (k + o) := fun o ↦ by
    show ((b.currentIndex + k) % b.capacity + o) % b.capacity = (b.currentIndex + (k + o)) % b.capacity
    rw [Nat.mod_add_mod, Nat.add_assoc]
  have hwrap : ∀ j, b.position (k + (b.capacity - k + j)) = b.position j := fun j ↦ by
    show (b.currentIndex + (k + (b.capacity - k + j))) % b.capacity = (b.currentIndex + j) % b.capacity
    rw [show b.currentIndex + (k + (b.capacity - k + j)) = b.currentIndex + j + b.capacity by omega,
      Nat.add_mod_right]
  -- no slot below offset `k` is in use
  have hlow : ((List.range k).map b.position).filter (fun i ↦ (b.slotAt i).inUse) = [] := by
    refine List.filter_eq_nil_iff.2 fun j hj hu ↦ ?_
    obtain ⟨o, ho, rfl⟩ := List.mem_map.1 hj
    have ho : o < k := List.mem_range.1 ho
    have := hfree _ (h.mem_order_iff.2 ⟨position_lt hc o, hu⟩)
    rw [offset_position hci (by omega)] at this
    omega
  have hsplit : b.capacity = b.capacity - k + k := by omega
  have hsplit' : b.capacity = k + (b.capacity - k) := by omega
  calc b'.order
      = ((List.range b.capacity).map fun o ↦ b.position (k + o)).filter
          fun i ↦ (b.slotAt i).inUse := by
        unfold order
        rw [show b'.capacity = b.capacity from rfl, show b'.position = fun o ↦ b.position (k + o)
          from funext hpos]
        rfl
    _ = (((List.range (b.capacity - k)).map (k + ·)).map b.position).filter
          fun i ↦ (b.slotAt i).inUse := by
        rw [hsplit, List.range_add, List.map_append, List.filter_append, List.map_map,
          List.map_map, ← hsplit]
        have hw : ((fun o ↦ b.position (k + o)) ∘ (b.capacity - k + ·)) = b.position := by
          funext j
          exact hwrap j
        rw [hw, hlow, List.append_nil]
        rfl
    _ = b.order := by
        unfold order
        rw [hsplit', List.range_add, List.map_append, List.filter_append, hlow, List.nil_append,
          ← hsplit']

/-- Turning the ring after the slots below offset `k` are released keeps the invariant. -/
theorem Wf.rotate (h : b.Wf) {k : Nat} (hk : k ≤ b.capacity)
    (hfree : ∀ j ∈ b.order, k ≤ b.offset j) (base : UInt16) :
    ({ b with base, currentIndex := (b.currentIndex + k) % b.capacity } : SegmentBuffer).Wf := by
  have hord := order_rotate h hk hfree base
  refine ⟨h.capacity_pos, Nat.mod_lt _ h.capacity_pos, ?_, h.free, h.len_le, ?_⟩
  · rw [hord]
    exact h.count
  · rw [hord]
    exact h.threads.of_same_links rfl rfl fun _ ↦ rfl

theorem Wf.advanceBase (h : b.Wf) (k : UInt16) : (b.advanceBase k).Wf := by
  unfold SegmentBuffer.advanceBase
  split
  · exact h.setBase _
  · rename_i hk
    obtain ⟨h', -, hcap, hcur, hord⟩ :=
      h.unmark_below (m := k.toNat) (by omega) (by have := k.toNat_lt; omega)
    refine h'.rotate (by omega) (fun j hj ↦ ?_) _
    rw [hord] at hj
    have hoff : ((List.range k.toNat).foldl (fun b i ↦ b.unmark (b.base + i.toUInt16)) b).offset =
        b.offset := by
      funext j
      simp only [offset, hcap, hcur]
    rw [hoff]
    simpa using (List.mem_filter.1 hj).2

/-! ### What the invariant gives -/

/-- The counter counts the physical slots whose flag is set. -/
theorem Wf.count_eq_countP (h : b.Wf) :
    b.inUse = (List.range b.capacity).countP fun i ↦ (b.slotAt i).inUse := by
  rw [List.countP_eq_length_filter, h.count]
  -- both lists hold each slot in use once
  refine List.Perm.length_eq ((List.perm_ext_iff_of_nodup (order_nodup h.current_lt)
    (List.nodup_range.filter _)).2 fun i ↦ ?_)
  rw [h.mem_order_iff, List.mem_filter, List.mem_range]

/-- Listing the numbers in use yields as many as the counter says. -/
theorem Wf.length_iterInUse (h : b.Wf) : b.iterInUse.length = b.inUse := by
  rw [iterInUse, List.length_map, h.walk_eq le_rfl, h.count]

/-- The representation invariant of segment buffers. It holds of every new buffer and after every
operation, whatever its arguments. On a buffer that keeps it, the base's physical slot lies in the
ring, the counter counts the slots in use, a free slot holds nothing and has no links, no slot
holds more than a region, and walking forward from `head` visits exactly the slots in use, each
once, in strictly increasing offset, ending at `tail`, each slot naming its predecessor as that
predecessor names it; more steps do not lengthen the walk, and the listing of the numbers in use
has as many entries as the counter. -/
theorem representation_invariant :
    (∀ slotSize slotCount, (new slotSize slotCount).Wf) ∧
    (∀ b : SegmentBuffer, b.Wf →
      (∀ base, (b.setBase base).Wf) ∧ (∀ k, (b.advanceBase k).Wf) ∧
      (∀ q len, (b.markInUse q len).2.Wf) ∧ (∀ q bytes, (b.store q bytes).2.Wf) ∧
      ∀ q, (b.unmark q).Wf) ∧
    ∀ b : SegmentBuffer, b.Wf →
      b.currentIndex < b.capacity ∧
      b.inUse = (List.range b.capacity).countP (fun i ↦ (b.slotAt i).inUse) ∧
      (∀ i, (b.slotAt i).inUse = false →
        (b.slotAt i).len = 0 ∧ (b.slotAt i).prev = none ∧ (b.slotAt i).next = none) ∧
      (∀ i, (b.slotAt i).len ≤ b.slotSize) ∧
      let w := b.walk b.capacity b.head
      (∀ i, i ∈ w ↔ i < b.capacity ∧ (b.slotAt i).inUse = true) ∧ w.Nodup ∧
      w.Pairwise (fun x y ↦ b.offset x < b.offset y) ∧ w.getLast? = b.tail ∧
      w.IsChain b.Adjacent ∧ (∀ x ∈ w.head?, (b.slotAt x).prev = none) ∧
      (∀ n, b.walk (b.capacity + n) b.head = w) ∧ b.iterInUse.length = b.inUse := by
  refine ⟨wf_new, fun b h ↦ ⟨h.setBase, h.advanceBase, h.markInUse, h.store, h.unmark⟩,
    fun b h ↦ ?_⟩
  -- the walk is the list of slots in use, whatever its bound beyond the capacity
  have hw : ∀ n, b.walk (b.capacity + n) b.head = b.order := fun n ↦ h.walk_eq (by omega)
  have hw₀ := hw 0
  rw [Nat.add_zero] at hw₀
  refine ⟨h.current_lt, h.count_eq_countP, h.free, h.len_le, ?_⟩
  intro w
  rw [show w = b.order from hw₀]
  exact ⟨fun i ↦ h.mem_order_iff, order_nodup h.current_lt, order_sorted h.current_lt,
    h.threads.tail.symm, h.threads.chain, h.threads.first, hw, h.length_iterInUse⟩

/-- A buffer of four slots holding one segment for the number two keeps the invariant, and its
list holds that one slot. -/
theorem store_keeps_representation :
    let b := ((new 300 4).store 2 [7, 7]).2
    b.Wf ∧ b.walk b.capacity b.head = [2] :=
  ⟨(representation_invariant.2.1 _ (representation_invariant.1 300 4)).2.2.2.1 2 [7, 7],
    by decide⟩

end SegmentBuffer

end ReliableDatagram
