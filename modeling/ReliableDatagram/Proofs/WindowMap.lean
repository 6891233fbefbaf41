import ReliableDatagram.Proofs.SlotRing
/-!
# Slot rings refine window maps

A slot ring keeps its segments in a rotating list of frames beside a list of marks, but what it
stands for is simpler: a window of `capacity` consecutive sequence numbers from `base`, and a
finite map from offsets in the window to the bytes held there, none longer than a slot
(`WindowMap`).

`SlotRing.view` reads that map off a ring. Each operation moves the view by one step of
`WindowMap.Step`: a new base empties the map; moving forward by `k` renumbers what is held at
offsets `k` and up and drops the rest; storing holds the stored bytes cut to the slot size;
marking holds bytes of the marked length, whatever the slot held; unmarking drops one offset.
Main statement (`SlotRing.new_refines_windowMap`): from a new ring, every sequence of operations
is a run of the window map from the empty one with the same answers, and everything a caller can
observe of the ring afterwards (base, slots, use, count, enumeration) is what the map says. The
segment buffer the engine keeps stands for such a ring, and so refines the same map
(`SegmentBuffer.refines_windowMap`).
-/

namespace ReliableDatagram

/-- The window a slot ring stands for: a base, a number of slots and a slot size, and the bytes
held at each offset below the capacity, each no longer than a slot. -/
@[ext] structure WindowMap where
  /-- The number of slots. -/
  capacity : Nat
  /-- The most bytes a slot holds. -/
  slotSize : Nat
  /-- The first sequence number of the window. -/
  base : UInt16
  /-- The bytes held at each offset, if any. -/
  held : Nat → Option Bytes
  held_lt : ∀ o bytes, held o = some bytes → o < capacity
  length_le : ∀ o bytes, held o = some bytes → bytes.length ≤ slotSize

namespace WindowMap

/-- An empty window of `capacity` slots of `slotSize` bytes, based at zero. -/
def empty (capacity slotSize : Nat) : WindowMap where
  capacity := capacity
  slotSize := slotSize
  base := 0
  held _ := none
  held_lt _ _ h := by cases h
  length_le _ _ h := by cases h

/-- The offset of `q` from the base. -/
def off (w : WindowMap) (q : UInt16) : Nat :=
  (Seq.offset q w.base).toNat

/-- The window moved to start at `b`, holding nothing. -/
def reset (w : WindowMap) (b : UInt16) : WindowMap where
  capacity := w.capacity
  slotSize := w.slotSize
  base := b
  held _ := none
  held_lt _ _ h := by cases h
  length_le _ _ h := by cases h

/-- The window moved forward by `k`: what was held at offset `o + k` is now held at `o`, and
what was held below `k` is gone. -/
def shift (w : WindowMap) (k : UInt16) : WindowMap where
  capacity := w.capacity
  slotSize := w.slotSize
  base := w.base + k
  held o := w.held (o + k.toNat)
  held_lt o bytes h := by have := w.held_lt _ _ h; omega
  length_le o bytes h := w.length_le _ _ h

/-- `bytes` held at the offset of `q`, when `q` lies in the window. -/
def put (w : WindowMap) (q : UInt16) (bytes : Bytes) (hb : bytes.length ≤ w.slotSize) :
    WindowMap where
  capacity := w.capacity
  slotSize := w.slotSize
  base := w.base
  held o := if w.off q < w.capacity ∧ o = w.off q then some bytes else w.held o
  held_lt o b h := by
    split at h
    · rename_i hq
      omega
    · exact w.held_lt _ _ h
  length_le o b h := by
    split at h
    · cases h
      exact hb
    · exact w.length_le _ _ h

/-- Nothing held at the offset of `q`. -/
def erase (w : WindowMap) (q : UInt16) : WindowMap where
  capacity := w.capacity
  slotSize := w.slotSize
  base := w.base
  held o := if o = w.off q then none else w.held o
  held_lt o b h := by
    split at h
    · cases h
    · exact w.held_lt _ _ h
  length_le o b h := by
    split at h
    · cases h
    · exact w.length_le _ _ h

/-! ### What a window shows -/

/-- Whether `q` lies in the window. -/
def hasSlot (w : WindowMap) (q : UInt16) : Bool :=
  decide (w.off q < w.capacity)

/-- Whether something is held for `q`. -/
def inUse (w : WindowMap) (q : UInt16) : Bool :=
  (w.held (w.off q)).isSome

/-- The bytes held for `q`, empty when nothing is; `none` outside the window. -/
def slot? (w : WindowMap) (q : UInt16) : Option Bytes :=
  if w.off q < w.capacity then some ((w.held (w.off q)).getD []) else none

/-- The offsets that hold something, in increasing order. -/
def usedOffsets (w : WindowMap) : List Nat :=
  (List.range w.capacity).filter fun o ↦ (w.held o).isSome

/-- The number of offsets that hold something. -/
def count (w : WindowMap) : Nat :=
  w.usedOffsets.length

/-- The sequence numbers of the first `m` offsets that hold something, in increasing order. -/
def enumerate (w : WindowMap) (m : Nat) : List UInt16 :=
  (w.usedOffsets.take m).map fun o ↦ w.base + o.toUInt16

end WindowMap

namespace SlotRing

/-- The operations that change a slot ring. -/
inductive Op where
  | setBase (b : UInt16)
  | advance (k : UInt16)
  | store (q : UInt16) (bytes : Bytes)
  | markInUse (q : UInt16) (len : Nat)
  | unmark (q : UInt16)
  deriving DecidableEq, Repr

/-- An operation's answer, if it gives one, and the ring afterwards: storing and marking say
whether the number had a slot. -/
def apply (r : SlotRing) : Op → Option Bool × SlotRing
  | .setBase b => (none, r.setBase b)
  | .advance k => (none, r.advance k)
  | .store q bytes => (some (r.hasSlot q), r.store q bytes)
  | .markInUse q len => (some (r.hasSlot q), r.markInUse q len)
  | .unmark q => (none, r.unmark q)

/-- The answers to a sequence of operations, and the ring after them. -/
def runOps (r : SlotRing) : List Op → List (Option Bool) × SlotRing
  | [] => ([], r)
  | op :: ops =>
    let rest := (r.apply op).2.runOps ops
    ((r.apply op).1 :: rest.1, rest.2)

/-- The window a ring stands for: at each offset in use, the first bytes of its region, as many
as its mark says. Marks never exceed the slot size on rings reached from `new`; cutting them to
it here makes every ring's view a window map. -/
def view (r : SlotRing) : WindowMap where
  capacity := r.capacity
  slotSize := r.slotSize
  base := r.base
  held o :=
    if o < r.capacity then (r.markAt o).map fun n ↦ r.readAt o (min n r.slotSize) else none
  held_lt o b h := by
    split at h
    · assumption
    · cases h
  length_le o b h := by
    split at h
    · obtain ⟨n, -, rfl⟩ := Option.map_eq_some_iff.1 h
      rw [readAt_eq_take_regionAt, List.length_take]
      omega
    · cases h

end SlotRing

namespace WindowMap

/-- What each operation does to a window, and what it answers. Marking a number in use holds
there some bytes of the marked length, whatever they are: a ring keeps what its slot held. -/
inductive Step : WindowMap → SlotRing.Op → Option Bool → WindowMap → Prop
  | setBase (w : WindowMap) (b : UInt16) : Step w (.setBase b) none (w.reset b)
  | advance (w : WindowMap) (k : UInt16) : Step w (.advance k) none (w.shift k)
  | store (w : WindowMap) (q : UInt16) (bytes : Bytes) :
      Step w (.store q bytes) (some (w.hasSlot q))
        (w.put q (bytes.take w.slotSize) (List.length_take_le _ _))
  | markInUse (w : WindowMap) (q : UInt16) (len : Nat) (bytes : Bytes)
      (hb : bytes.length = min len w.slotSize) :
      Step w (.markInUse q len) (some (w.hasSlot q)) (w.put q bytes (by omega))
  | unmark (w : WindowMap) (q : UInt16) : Step w (.unmark q) none (w.erase q)

/-- A run of operations, with the answers they give. -/
inductive Run : WindowMap → List SlotRing.Op → List (Option Bool) → WindowMap → Prop
  | nil (w : WindowMap) : Run w [] [] w
  | cons {w w' w'' : WindowMap} {op : SlotRing.Op} {ops : List SlotRing.Op} {a : Option Bool}
      {as : List (Option Bool)} :
      Step w op a w' → Run w' ops as w'' → Run w (op :: ops) (a :: as) w''

end WindowMap

namespace SlotRing

/-! ### Reading a ring after each operation -/

/-- A read of at most a slot gives as many bytes as asked for: past the written prefix, the
region reads as zeros. -/
theorem length_readAt (r : SlotRing) (o : Nat) {n : Nat} (hn : n ≤ r.slotSize) :
    (r.readAt o n).length = n := by
  rw [readAt_eq_take_regionAt, List.length_take, regionAt]
  simp only [List.length_append, List.length_replicate]
  omega

theorem readAt_markInUse (r : SlotRing) (q : UInt16) (len o n : Nat) :
    (r.markInUse q len).readAt o n = r.readAt o n := by
  refine readAt_congr ?_ (slotSize_markInUse r q len) n
  unfold markInUse
  split <;> simp [position, capacity]

theorem readAt_unmark (r : SlotRing) (q : UInt16) (o n : Nat) :
    (r.unmark q).readAt o n = r.readAt o n := by
  refine readAt_congr ?_ (slotSize_unmark r q) n
  unfold unmark
  split <;> simp [position, capacity]

/-- Moving the window by less than its size moves the origin with the base, so offset `o` now
sits where offset `o + k` sat. -/
theorem readAt_advance {r : SlotRing} {k : UInt16} (hk : k.toNat < r.capacity) (o n : Nat) :
    (r.advance k).readAt o n = r.readAt (o + k.toNat) n := by
  have hlt : ¬ k.toNat ≥ r.capacity := Nat.not_le.2 hk
  refine readAt_congr ?_ (slotSize_advance r k) n
  have hpos : (r.advance k).position o = r.position (o + k.toNat) := by
    simp only [position, capacity_advance]
    unfold advance
    rw [if_neg hlt]
    simp only [Nat.mod_add_mod]
    congr 1
    omega
  rw [hpos]
  unfold advance
  rw [if_neg hlt]

theorem markAt_store (r : SlotRing) (q : UInt16) (bytes : Bytes) (o : Nat) :
    (r.store q bytes).markAt o =
      if r.offset? q = some o then some (bytes.take r.slotSize).length else r.markAt o := by
  have hoff : (r.write q 0 (bytes.take r.slotSize)).offset? q = r.offset? q := by
    simp [offset?]
  rw [store, markAt_markInUse, hoff, markAt_write, slotSize_write,
    Nat.min_eq_left (List.length_take_le _ _)]

/-- The slot of a stored number holds the stored bytes, cut to the slot size. -/
theorem readAt_store_self {r : SlotRing} (hr : r.WellFormed) {q : UInt16} {o : Nat}
    (hq : r.offset? q = some o) (bytes : Bytes) :
    (r.store q bytes).readAt o (bytes.take r.slotSize).length = bytes.take r.slotSize := by
  have hslot := slot?_store_self hr (by rw [hasSlot_eq_isSome_offset?, hq]; rfl) bytes
  have hso : (r.store q bytes).offset? q = some o := by
    simpa [offset?] using hq
  rw [slot?_eq_some_of_offset? hso, markAt_store, if_pos hq, Option.getD_some] at hslot
  exact Option.some.inj hslot

/-- Storing leaves the regions of the other offsets alone. -/
theorem readAt_store_of_ne {r : SlotRing} {q : UInt16} {o : Nat} (ho : o < r.capacity)
    (hq : r.offset? q ≠ some o) (bytes : Bytes) (n : Nat) :
    (r.store q bytes).readAt o n = r.readAt o n := by
  rw [store, readAt_markInUse, readAt_write_of_ne ho hq]

/-! ### The view after each operation -/

@[simp] theorem capacity_view (r : SlotRing) : r.view.capacity = r.capacity := rfl

@[simp] theorem slotSize_view (r : SlotRing) : r.view.slotSize = r.slotSize := rfl

@[simp] theorem base_view (r : SlotRing) : r.view.base = r.base := rfl

theorem held_view (r : SlotRing) (o : Nat) :
    r.view.held o =
      if o < r.capacity then (r.markAt o).map fun n ↦ r.readAt o (min n r.slotSize) else none :=
  rfl

/-- The offset the view gives a number in the window is the one the ring gives it. -/
theorem offset?_eq_some_iff_view {r : SlotRing} {q : UInt16} {o : Nat} :
    r.offset? q = some o ↔ r.view.off q < r.view.capacity ∧ o = r.view.off q := by
  rw [offset?_eq_some_iff]
  constructor
  · rintro ⟨rfl, ho⟩
    exact ⟨ho, rfl⟩
  · rintro ⟨ho, rfl⟩
    exact ⟨rfl, ho⟩

theorem view_new (size : UInt16) (count : UInt8) :
    (new size count).view = WindowMap.empty (max count.toNat 1) (max size.toNat 256) := by
  refine WindowMap.ext (capacity_new size count) (slotSize_new size count) rfl
    (funext fun o ↦ ?_)
  have hm : (new size count).markAt o = none := by
    simp only [new, markAt, List.getElem?_replicate]
    split <;> rfl
  rw [held_view, hm]
  split <;> rfl

theorem view_setBase (r : SlotRing) (b : UInt16) : (r.setBase b).view = r.view.reset b := by
  refine WindowMap.ext (capacity_setBase r b) (slotSize_setBase r b) (base_setBase r b)
    (funext fun o ↦ ?_)
  rw [held_view, markAt_setBase]
  split <;> rfl

theorem view_advance (r : SlotRing) (k : UInt16) : (r.advance k).view = r.view.shift k := by
  refine WindowMap.ext (capacity_advance r k) (slotSize_advance r k) (base_advance r k)
    (funext fun o ↦ ?_)
  show (r.advance k).view.held o = r.view.held (o + k.toNat)
  rw [held_view, held_view, capacity_advance, slotSize_advance]
  by_cases hk : k.toNat < r.capacity
  · -- The marks and the frames are renumbered together.
    simp only [markAt_advance hk, readAt_advance hk]
    by_cases ho : o + k.toNat < r.capacity
    · rw [if_pos ho, if_pos (by omega), if_pos ho]
    · rw [if_neg ho, if_neg ho]
      split <;> rfl
  · -- Everything is released, and `o + k` lies past the window.
    have hset : r.advance k = r.setBase (r.base + k) := by
      unfold advance
      rw [if_pos (by omega)]
    rw [hset, markAt_setBase, if_neg (show ¬ o + k.toNat < r.capacity by omega)]
    split <;> rfl

theorem view_store {r : SlotRing} (hr : r.WellFormed) (q : UInt16) (bytes : Bytes) :
    (r.store q bytes).view = r.view.put q (bytes.take r.slotSize) (List.length_take_le _ _) := by
  refine WindowMap.ext (capacity_store r q bytes) (slotSize_store r q bytes) (base_store r q bytes)
    (funext fun o ↦ ?_)
  show (r.store q bytes).view.held o =
    if r.view.off q < r.view.capacity ∧ o = r.view.off q then some (bytes.take r.slotSize)
    else r.view.held o
  rw [held_view, held_view, capacity_store, slotSize_store, markAt_store]
  by_cases hq : r.offset? q = some o
  · have ho := (offset?_eq_some_iff.1 hq).2
    rw [if_pos ho, if_pos hq, if_pos (offset?_eq_some_iff_view.1 hq), Option.map_some,
      Nat.min_eq_left (List.length_take_le _ _), readAt_store_self hr hq]
  · rw [if_neg hq, if_neg (mt offset?_eq_some_iff_view.2 hq)]
    split
    · simp only [readAt_store_of_ne ‹_› hq]
    · rfl

theorem view_markInUse (r : SlotRing) (q : UInt16) (len : Nat) :
    (r.markInUse q len).view =
      r.view.put q (r.readAt (r.view.off q) (min len r.slotSize))
        (by rw [slotSize_view, length_readAt r _ (Nat.min_le_right _ _)]; omega) := by
  refine WindowMap.ext (capacity_markInUse r q len) (slotSize_markInUse r q len)
    (base_markInUse r q len) (funext fun o ↦ ?_)
  show (r.markInUse q len).view.held o =
    if r.view.off q < r.view.capacity ∧ o = r.view.off q then
      some (r.readAt (r.view.off q) (min len r.slotSize))
    else r.view.held o
  rw [held_view, held_view, capacity_markInUse, slotSize_markInUse, markAt_markInUse]
  simp only [readAt_markInUse]
  by_cases hq : r.offset? q = some o
  · obtain ⟨hoff, ho⟩ := offset?_eq_some_iff.1 hq
    rw [if_pos ho, if_pos hq, if_pos (offset?_eq_some_iff_view.1 hq), Option.map_some,
      Nat.min_assoc, Nat.min_self, ← hoff]
    rfl
  · rw [if_neg hq, if_neg (mt offset?_eq_some_iff_view.2 hq)]

theorem view_unmark (r : SlotRing) (q : UInt16) : (r.unmark q).view = r.view.erase q := by
  refine WindowMap.ext (capacity_unmark r q) (slotSize_unmark r q) (base_unmark r q)
    (funext fun o ↦ ?_)
  show (r.unmark q).view.held o = if o = r.view.off q then none else r.view.held o
  rw [held_view, held_view, capacity_unmark, slotSize_unmark, markAt_unmark]
  simp only [readAt_unmark]
  by_cases hq : r.offset? q = some o
  · obtain ⟨hoff, -⟩ := offset?_eq_some_iff.1 hq
    rw [if_pos hq, if_pos (show o = r.view.off q from hoff.symm)]
    split <;> rfl
  · rw [if_neg hq]
    by_cases ho : o = r.view.off q
    · -- `q` lies outside the window, where nothing is held.
      have hout : ¬ o < r.capacity := fun h ↦ hq (offset?_eq_some_iff.2 ⟨ho.symm, h⟩)
      rw [if_pos ho, if_neg hout]
    · rw [if_neg ho]

/-- Each operation moves the view of a well-formed ring by one step of the window map, with the
answer the ring gives. -/
theorem step_view {r : SlotRing} (hr : r.WellFormed) (op : Op) :
    WindowMap.Step r.view op (r.apply op).1 (r.apply op).2.view := by
  cases op with
  | setBase b =>
    rw [apply, view_setBase]
    exact .setBase _ b
  | advance k =>
    rw [apply, view_advance]
    exact .advance _ k
  | store q bytes =>
    rw [apply, view_store hr]
    exact .store _ q bytes
  | markInUse q len =>
    rw [apply, view_markInUse]
    exact .markInUse _ q len _ (length_readAt r _ (Nat.min_le_right _ _))
  | unmark q =>
    rw [apply, view_unmark]
    exact .unmark _ q

/-! ### Rings reached from `new` -/

/-- A well-formed ring whose marks never exceed its slot size: what every ring built by `new`
keeps through every operation. -/
structure Bounded (r : SlotRing) : Prop extends r.WellFormed where
  mark_le : ∀ o n, r.markAt o = some n → n ≤ r.slotSize

namespace Bounded

theorem new (size : UInt16) (count : UInt8) : (SlotRing.new size count).Bounded where
  toWellFormed := .new size count
  mark_le o n h := by
    simp only [SlotRing.new, markAt, List.getElem?_replicate] at h
    split at h <;> cases h

theorem apply {r : SlotRing} (hr : r.Bounded) (op : Op) : (r.apply op).2.Bounded := by
  cases op with
  | setBase b =>
    refine ⟨hr.setBase b, fun o n h ↦ ?_⟩
    rw [SlotRing.apply, markAt_setBase] at h
    cases h
  | advance k =>
    refine ⟨hr.advance k, fun o n h ↦ ?_⟩
    rw [SlotRing.apply, slotSize_advance]
    rw [SlotRing.apply] at h
    by_cases hk : k.toNat < r.capacity
    · rw [markAt_advance hk] at h
      split at h
      · exact hr.mark_le _ n h
      · cases h
    · have hset : r.advance k = r.setBase (r.base + k) := by
        unfold SlotRing.advance
        rw [if_pos (by omega)]
      rw [hset, markAt_setBase] at h
      cases h
  | store q bytes =>
    refine ⟨hr.store q bytes, fun o n h ↦ ?_⟩
    rw [SlotRing.apply, slotSize_store]
    rw [SlotRing.apply, markAt_store] at h
    split at h
    · cases h
      exact List.length_take_le _ _
    · exact hr.mark_le o n h
  | markInUse q len =>
    refine ⟨hr.markInUse q len, fun o n h ↦ ?_⟩
    rw [SlotRing.apply, slotSize_markInUse]
    rw [SlotRing.apply, markAt_markInUse] at h
    split at h
    · cases h
      exact Nat.min_le_right _ _
    · exact hr.mark_le o n h
  | unmark q =>
    refine ⟨hr.unmark q, fun o n h ↦ ?_⟩
    rw [SlotRing.apply, slotSize_unmark]
    rw [SlotRing.apply, markAt_unmark] at h
    split at h
    · cases h
    · exact hr.mark_le o n h

theorem runOps {r : SlotRing} (hr : r.Bounded) (ops : List Op) : (r.runOps ops).2.Bounded := by
  induction ops generalizing r with
  | nil => exact hr
  | cons op ops ih => exact ih (hr.apply op)

end Bounded

/-- Every sequence of operations on a bounded ring is a run of its view, with the ring's
answers. -/
theorem run_view {r : SlotRing} (hr : r.Bounded) (ops : List Op) :
    WindowMap.Run r.view ops (r.runOps ops).1 (r.runOps ops).2.view := by
  induction ops generalizing r with
  | nil => exact .nil _
  | cons op ops ih => exact .cons (step_view hr.toWellFormed op) (ih (hr.apply op))

/-! ### What a caller observes -/

/-- Pairing each mark with its offset and keeping the offsets of the set marks keeps exactly the
offsets whose mark is set. -/
theorem filterMap_zip_range' (l : List (Option Nat)) (s : Nat) :
    ((List.range' s l.length).zip l).filterMap (fun (o, m) ↦ m.map fun _ ↦ o) =
      (List.range' s l.length).filter fun o ↦ ((l[o - s]?).getD none).isSome := by
  induction l generalizing s with
  | nil => rfl
  | cons m l ih =>
    -- Past the head, the offsets are one further from `s` and the marks one further along.
    have hrest : ((List.range' (s + 1) l.length).filter fun o ↦
          ((l[o - (s + 1)]?).getD none).isSome) =
        (List.range' (s + 1) l.length).filter fun o ↦ (((m :: l)[o - s]?).getD none).isSome := by
      refine List.filter_congr fun o ho ↦ ?_
      rw [List.mem_range'_1] at ho
      rw [show o - s = o - (s + 1) + 1 by omega, List.getElem?_cons_succ]
    rw [List.length_cons, List.range'_succ, List.zip_cons_cons, List.filterMap_cons,
      List.filter_cons, ih, hrest, Nat.sub_self, List.getElem?_cons_zero]
    cases m <;> rfl

theorem length_filterMap_zip_range' (l : List (Option Nat)) (s : Nat) :
    (((List.range' s l.length).zip l).filterMap (fun (o, m) ↦ m.map fun _ ↦ o)).length =
      l.countP Option.isSome := by
  induction l generalizing s with
  | nil => rfl
  | cons m l ih =>
    rw [List.length_cons, List.range'_succ, List.zip_cons_cons, List.filterMap_cons,
      List.countP_cons, ← ih (s + 1)]
    cases m <;> simp

theorem usedOffsets_eq_filter (r : SlotRing) :
    r.usedOffsets = (List.range r.capacity).filter fun o ↦ (r.markAt o).isSome := by
  rw [usedOffsets, List.range_eq_range', capacity]
  exact filterMap_zip_range' r.marks 0

/-- The count of slots in use agrees with the offsets in use. -/
theorem inUseCount_eq_length_usedOffsets (r : SlotRing) :
    r.inUseCount = r.usedOffsets.length := by
  rw [inUseCount, usedOffsets, capacity, List.range_eq_range', length_filterMap_zip_range']

theorem usedOffsets_view (r : SlotRing) : r.view.usedOffsets = r.usedOffsets := by
  rw [usedOffsets_eq_filter, WindowMap.usedOffsets, capacity_view]
  refine List.filter_congr fun o ho ↦ ?_
  rw [List.mem_range] at ho
  rw [held_view, if_pos ho, Option.isSome_map]

/-- Everything a caller can observe of ring `r` is what the window map `w` says. -/
structure Shows (r : SlotRing) (w : WindowMap) : Prop where
  base : r.base = w.base
  capacity : r.capacity = w.capacity
  slotSize : r.slotSize = w.slotSize
  hasSlot : ∀ q, r.hasSlot q = w.hasSlot q
  inUse : ∀ q, r.inUse q = w.inUse q
  slot? : ∀ q, r.slot? q = w.slot? q
  inUseCount : r.inUseCount = w.count
  enumerate : ∀ m, r.enumerate m = w.enumerate m

/-- A bounded ring shows what its view says. The slots need the bound: a mark is read back in
full only when it fits the slot. -/
theorem Bounded.shows_view {r : SlotRing} (hr : r.Bounded) : r.Shows r.view where
  base := rfl
  capacity := rfl
  slotSize := rfl
  hasSlot _ := rfl
  inUse q := by
    unfold inUse WindowMap.inUse
    cases ho : r.offset? q with
    | none =>
      have hout : ¬ r.view.off q < r.capacity := Nat.not_lt.2 (offset?_eq_none_iff.1 ho)
      rw [held_view, if_neg hout]
      rfl
    | some o =>
      obtain ⟨hoff, hlt⟩ := offset?_eq_some_iff.1 ho
      rw [show r.view.off q = o from hoff, held_view, if_pos hlt, Option.isSome_map]
  slot? q := by
    unfold WindowMap.slot?
    cases ho : r.offset? q with
    | none =>
      have hout : ¬ r.view.off q < r.view.capacity := Nat.not_lt.2 (offset?_eq_none_iff.1 ho)
      rw [slot?, ho, Option.map_none, if_neg hout]
    | some o =>
      obtain ⟨hoff, hlt⟩ := offset?_eq_some_iff.1 ho
      rw [slot?_eq_some_of_offset? ho, show r.view.off q = o from hoff, capacity_view, if_pos hlt,
        held_view, if_pos hlt]
      cases hm : r.markAt o with
      | none =>
        rw [Option.map_none, Option.getD_none, Option.getD_none, readAt_eq_take_regionAt,
          List.take_zero]
      | some n =>
        rw [Option.map_some, Option.getD_some, Option.getD_some,
          Nat.min_eq_left (hr.mark_le o n hm)]
  inUseCount := by
    rw [inUseCount_eq_length_usedOffsets, WindowMap.count, usedOffsets_view]
  enumerate m := by
    rw [enumerate, inUseSeqs, WindowMap.enumerate, usedOffsets_view, List.map_take]
    rfl

/-- A ring built by `new` refines a window map of `max count 1` slots of `max size 256` bytes:
after any sequence of operations, a run of the window map from the empty one gives the same
answers and ends in a map that shows exactly what the ring shows. -/
theorem new_refines_windowMap (size : UInt16) (count : UInt8) (ops : List Op) :
    ∃ w, WindowMap.Run (.empty (max count.toNat 1) (max size.toNat 256)) ops
        ((new size count).runOps ops).1 w ∧ ((new size count).runOps ops).2.Shows w := by
  have hr := Bounded.new size count
  refine ⟨_, ?_, (hr.runOps ops).shows_view⟩
  rw [← view_new size count]
  exact run_view hr ops

end SlotRing

end ReliableDatagram
