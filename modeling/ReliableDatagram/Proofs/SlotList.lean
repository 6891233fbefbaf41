import Mathlib.Data.List.Chain
import Mathlib.Data.List.Nodup
import ReliableDatagram.Window.SegmentBuffer
/-!
# The links between slots

A segment buffer threads its slots in use on a doubly linked list: each slot record names the
slot before it and the slot after it, and `head` and `tail` name the ends. This module says what
it means for the links to thread a given list of slots (`Threads`) and what the two list edits of
the buffer do to a threaded list:

* `Threads.insertAfter`: threading slot `i` in after the last slot of `A`, on links that thread
  `A ++ B`, gives links that thread `A ++ i :: B`;
* `Threads.unlink`: taking slot `i` out of links that thread `A ++ i :: B` gives links that
  thread `A ++ B`.

Both rest on a description of the records after the edit (`slotAt_insertAfter`,
`slotAt_unlink`): the slot moved and its two neighbours change, every other record stays. The two
walks along the list are read off a threading as well: forward from the head it visits the list
(`walk_eq_of_isChain`), and back from the tail it stops at the last slot below a given offset
(`walkBack_eq_of_isChain`), which on a list sorted by offset is the slot a new one goes after
(`Threads.walkBack_tail`).
-/

namespace ReliableDatagram

namespace SegmentBuffer

variable {b : SegmentBuffer}

/-! ### Records -/

@[simp] theorem capacity_modifySlot (b : SegmentBuffer) (i : Nat) (f : Slot → Slot) :
    (b.modifySlot i f).capacity = b.capacity := by
  simp [modifySlot, capacity]

@[simp] theorem head_modifySlot (b : SegmentBuffer) (i : Nat) (f : Slot → Slot) :
    (b.modifySlot i f).head = b.head := rfl

@[simp] theorem tail_modifySlot (b : SegmentBuffer) (i : Nat) (f : Slot → Slot) :
    (b.modifySlot i f).tail = b.tail := rfl

@[simp] theorem currentIndex_modifySlot (b : SegmentBuffer) (i : Nat) (f : Slot → Slot) :
    (b.modifySlot i f).currentIndex = b.currentIndex := rfl

@[simp] theorem inUse_modifySlot (b : SegmentBuffer) (i : Nat) (f : Slot → Slot) :
    (b.modifySlot i f).inUse = b.inUse := rfl

@[simp] theorem slotSize_modifySlot (b : SegmentBuffer) (i : Nat) (f : Slot → Slot) :
    (b.modifySlot i f).slotSize = b.slotSize := rfl

@[simp] theorem base_modifySlot (b : SegmentBuffer) (i : Nat) (f : Slot → Slot) :
    (b.modifySlot i f).base = b.base := rfl

theorem slotAt_modifySlot {i : Nat} (hi : i < b.capacity) (f : Slot → Slot) (j : Nat) :
    (b.modifySlot i f).slotAt j = if j = i then f (b.slotAt i) else b.slotAt j := by
  unfold modifySlot slotAt
  split
  · subst j
    rw [List.getElem?_set_self (show i < b.slots.length from hi), Option.getD_some]
  · rw [List.getElem?_set_ne (Ne.symm ‹_›)]

theorem slotAt_modifySlot_of_ne {i j : Nat} (f : Slot → Slot) (h : j ≠ i) :
    (b.modifySlot i f).slotAt j = b.slotAt j := by
  unfold modifySlot slotAt
  rw [List.getElem?_set_ne (Ne.symm h)]

@[simp] theorem slotAt_setHead (b : SegmentBuffer) (h : Option Nat) (j : Nat) :
    (b.setHead h).slotAt j = b.slotAt j := rfl

@[simp] theorem slotAt_setTail (b : SegmentBuffer) (t : Option Nat) (j : Nat) :
    (b.setTail t).slotAt j = b.slotAt j := rfl

/-- Record changes commute with moving the ends of the list; the ends go outside. -/
@[simp] theorem modifySlot_setHead (b : SegmentBuffer) (h : Option Nat) (i : Nat)
    (f : Slot → Slot) : (b.setHead h).modifySlot i f = (b.modifySlot i f).setHead h := rfl

@[simp] theorem modifySlot_setTail (b : SegmentBuffer) (t : Option Nat) (i : Nat)
    (f : Slot → Slot) : (b.setTail t).modifySlot i f = (b.modifySlot i f).setTail t := rfl

@[simp] theorem capacity_setHead (b : SegmentBuffer) (h : Option Nat) :
    (b.setHead h).capacity = b.capacity := rfl

@[simp] theorem capacity_setTail (b : SegmentBuffer) (t : Option Nat) :
    (b.setTail t).capacity = b.capacity := rfl

@[simp] theorem currentIndex_setHead (b : SegmentBuffer) (h : Option Nat) :
    (b.setHead h).currentIndex = b.currentIndex := rfl

@[simp] theorem currentIndex_setTail (b : SegmentBuffer) (t : Option Nat) :
    (b.setTail t).currentIndex = b.currentIndex := rfl

@[simp] theorem head_setHead (b : SegmentBuffer) (h : Option Nat) : (b.setHead h).head = h := rfl

@[simp] theorem head_setTail (b : SegmentBuffer) (t : Option Nat) :
    (b.setTail t).head = b.head := rfl

@[simp] theorem tail_setHead (b : SegmentBuffer) (h : Option Nat) :
    (b.setHead h).tail = b.tail := rfl

@[simp] theorem tail_setTail (b : SegmentBuffer) (t : Option Nat) : (b.setTail t).tail = t := rfl

@[simp] theorem inUse_setHead (b : SegmentBuffer) (h : Option Nat) :
    (b.setHead h).inUse = b.inUse := rfl

@[simp] theorem inUse_setTail (b : SegmentBuffer) (t : Option Nat) :
    (b.setTail t).inUse = b.inUse := rfl

@[simp] theorem base_setHead (b : SegmentBuffer) (h : Option Nat) :
    (b.setHead h).base = b.base := rfl

@[simp] theorem base_setTail (b : SegmentBuffer) (t : Option Nat) :
    (b.setTail t).base = b.base := rfl

@[simp] theorem slotSize_setHead (b : SegmentBuffer) (h : Option Nat) :
    (b.setHead h).slotSize = b.slotSize := rfl

@[simp] theorem slotSize_setTail (b : SegmentBuffer) (t : Option Nat) :
    (b.setTail t).slotSize = b.slotSize := rfl

/-! ### The list threaded by the links -/

/-- `x` comes right before `y` on the list: each names the other as its neighbour. -/
def Adjacent (b : SegmentBuffer) (x y : Nat) : Prop :=
  (b.slotAt x).next = some y ∧ (b.slotAt y).prev = some x

/-- The links of `b` thread the list `l`: `head` and `tail` are its ends, the first slot has no
predecessor and the last no successor, and neighbours on `l` name each other. -/
structure Threads (b : SegmentBuffer) (l : List Nat) : Prop where
  /-- The front of the list is its first slot. -/
  head : b.head = l.head?
  /-- The end of the list is its last slot. -/
  tail : b.tail = l.getLast?
  /-- Nothing comes before the first slot. -/
  first : ∀ x ∈ l.head?, (b.slotAt x).prev = none
  /-- Nothing comes after the last slot. -/
  last : ∀ x ∈ l.getLast?, (b.slotAt x).next = none
  /-- Each two neighbours on the list name each other. -/
  chain : l.IsChain b.Adjacent

/-- Walking forward from the first slot of a threaded list visits the list, when the walk may
take as many steps as the list is long. -/
theorem walk_eq_of_isChain {l : List Nat} (hc : l.IsChain b.Adjacent)
    (hlast : ∀ x ∈ l.getLast?, (b.slotAt x).next = none) {fuel : Nat} (hf : l.length ≤ fuel) :
    b.walk fuel l.head? = l := by
  induction l generalizing fuel with
  | nil => cases fuel <;> rfl
  | cons x l ih =>
    obtain ⟨fuel, rfl⟩ : ∃ f, fuel = f + 1 := ⟨fuel - 1, by simp at hf; omega⟩
    -- the successor of `x` is the next slot of the list, or none at its end
    have hnext : (b.slotAt x).next = l.head? := by
      cases l with
      | nil => exact hlast x (by simp)
      | cons y l => exact (List.isChain_cons_cons.1 hc).1.1
    have hlast' : ∀ y ∈ l.getLast?, (b.slotAt y).next = none := by
      intro y hy
      cases l with
      | nil => cases hy
      | cons z l => exact hlast y (by rwa [List.getLast?_cons_cons])
    rw [List.head?_cons, walk, hnext, ih hc.tail hlast' (by simp at hf; omega)]

/-- Walking back from the last slot of a threaded list stops at the last slot whose offset is
below `o`, when the walk may take as many steps as the list is long. -/
theorem walkBack_eq_of_isChain {l : List Nat} (hc : l.IsChain b.Adjacent)
    (hfirst : ∀ x ∈ l.head?, (b.slotAt x).prev = none) (o : Nat) {fuel : Nat}
    (hf : l.length ≤ fuel) :
    b.walkBack o fuel l.getLast? = (l.filter (b.offset · < o)).getLast? := by
  induction l using List.reverseRecOn generalizing fuel with
  | nil => cases fuel <;> rfl
  | append_singleton l x ih =>
    obtain ⟨fuel, rfl⟩ : ∃ f, fuel = f + 1 := ⟨fuel - 1, by simp at hf; omega⟩
    -- the predecessor of `x` is the slot before it on the list, or none at its start
    have hprev : (b.slotAt x).prev = l.getLast? := by
      cases hl : l.getLast? with
      | none =>
        rw [List.getLast?_eq_none_iff] at hl
        subst hl
        exact hfirst x (by simp)
      | some y =>
        exact ((List.isChain_append.1 hc).2.2 y hl x (by simp)).2
    have hfirst' : ∀ y ∈ l.head?, (b.slotAt y).prev = none := by
      intro y hy
      exact hfirst y (by rw [List.head?_append, hy]; rfl)
    rw [List.getLast?_append_of_ne_nil _ (List.cons_ne_nil x []), List.getLast?_singleton, walkBack,
      List.filter_append]
    by_cases h : b.offset x < o
    · simp [h]
    · rw [if_neg h, hprev, ih hc.left_of_append hfirst' (by simp at hf; omega)]
      simp [h]

/-! ### Cutting a threaded list in two -/

namespace Threads

variable {A B : List Nat}

/-- The last slot of the first part points forward to the first of the second, or nowhere. -/
theorem next_getLast (ht : b.Threads (A ++ B)) :
    ∀ p ∈ A.getLast?, (b.slotAt p).next = B.head? := by
  intro p hp
  cases B with
  | nil =>
    exact ht.last p (by rwa [List.append_nil])
  | cons c B =>
    exact ((List.isChain_append.1 ht.chain).2.2 p hp c rfl).1

/-- The first slot of the second part points back to the last of the first, or nowhere. -/
theorem prev_head (ht : b.Threads (A ++ B)) :
    ∀ c ∈ B.head?, (b.slotAt c).prev = A.getLast? := by
  intro c hc
  cases hA : A.getLast? with
  | none =>
    rw [List.getLast?_eq_none_iff] at hA
    subst hA
    exact ht.first c hc
  | some p =>
    exact ((List.isChain_append.1 ht.chain).2.2 p hA c hc).2

/-- The slot after the first part is the first of the second. -/
theorem successor_getLast (ht : b.Threads (A ++ B)) : b.successor A.getLast? = B.head? := by
  cases hA : A.getLast? with
  | none =>
    rw [List.getLast?_eq_none_iff] at hA
    subst hA
    exact ht.head
  | some p =>
    exact ht.next_getLast p hA

/-- On links that thread `A ++ B`, with every slot of `A` below offset `o` and every slot of `B`
above it, the walk back from the tail stops at the last slot of `A`. -/
theorem walkBack_tail (ht : b.Threads (A ++ B)) {o fuel : Nat} (hf : (A ++ B).length ≤ fuel)
    (hA : ∀ x ∈ A, b.offset x < o) (hB : ∀ x ∈ B, o < b.offset x) :
    b.walkBack o fuel b.tail = A.getLast? := by
  have hA' : A.filter (b.offset · < o) = A := List.filter_eq_self.2 fun x hx ↦ by
    simpa using hA x hx
  have hB' : B.filter (b.offset · < o) = [] := List.filter_eq_nil_iff.2 fun x hx ↦ by
    have := hB x hx
    simp only [decide_eq_true_eq]
    omega
  rw [ht.tail, walkBack_eq_of_isChain ht.chain ht.first o hf, List.filter_append, hA', hB',
    List.append_nil]

end Threads

/-! ### Threading a slot in -/

section InsertAfter

variable {i : Nat} {a : Option Nat}

@[simp] theorem capacity_insertAfter (b : SegmentBuffer) (i : Nat) (a : Option Nat) :
    (b.insertAfter i a).capacity = b.capacity := by
  unfold insertAfter
  cases a <;> cases b.successor _ <;> simp

@[simp] theorem currentIndex_insertAfter (b : SegmentBuffer) (i : Nat) (a : Option Nat) :
    (b.insertAfter i a).currentIndex = b.currentIndex := by
  unfold insertAfter
  cases a <;> cases b.successor _ <;> simp

@[simp] theorem inUse_insertAfter (b : SegmentBuffer) (i : Nat) (a : Option Nat) :
    (b.insertAfter i a).inUse = b.inUse := by
  unfold insertAfter
  cases a <;> cases b.successor _ <;> simp

@[simp] theorem slotSize_insertAfter (b : SegmentBuffer) (i : Nat) (a : Option Nat) :
    (b.insertAfter i a).slotSize = b.slotSize := by
  unfold insertAfter
  cases a <;> cases b.successor _ <;> simp

theorem head_insertAfter (b : SegmentBuffer) (i : Nat) (a : Option Nat) :
    (b.insertAfter i a).head = if a = none then some i else b.head := by
  unfold insertAfter
  cases a <;> cases b.successor _ <;> simp

theorem tail_insertAfter (b : SegmentBuffer) (i : Nat) (a : Option Nat) :
    (b.insertAfter i a).tail = if b.successor a = none then some i else b.tail := by
  unfold insertAfter
  cases a <;> cases b.successor _ <;> simp

/-- Where slot `i` may be threaded in after `a`: the slots involved lie in the ring, and `i`, the
slot before it and the slot after it are three different slots. -/
structure InsertPoint (b : SegmentBuffer) (i : Nat) (a : Option Nat) : Prop where
  /-- The slot threaded in lies in the ring. -/
  lt : i < b.capacity
  /-- The slot before it lies in the ring and is another slot. -/
  before : ∀ p ∈ a, p < b.capacity ∧ p ≠ i
  /-- The slot after it lies in the ring and is another slot. -/
  after : ∀ c ∈ b.successor a, c < b.capacity ∧ c ≠ i
  /-- The slots before and after it differ. -/
  distinct : ∀ p ∈ a, b.successor a ≠ some p

variable (hp : b.InsertPoint i a)
include hp

/-- Threading slot `i` in after `a`: `i` gets its neighbours, the slot before it points forward
to it and the slot after it points back to it; no other record changes. -/
theorem slotAt_insertAfter (j : Nat) :
    (b.insertAfter i a).slotAt j =
      if j = i then { b.slotAt i with prev := a, next := b.successor a }
      else if a = some j then { b.slotAt j with next := some i }
      else if b.successor a = some j then { b.slotAt j with prev := some i }
      else b.slotAt j := by
  have hi := hp.lt
  rcases a with _ | p <;> rcases hs : b.successor _ with _ | c
  · simp only [insertAfter, hs, slotAt_setHead, slotAt_setTail, slotAt_modifySlot hi, reduceCtorEq,
      if_false]
  · obtain ⟨hc, hci⟩ := hp.after c hs
    simp only [insertAfter, hs, slotAt_setHead, slotAt_modifySlot, hi, hc, capacity_modifySlot,
      capacity_setHead, reduceCtorEq, if_false, Option.some.injEq]
    by_cases hj : j = c
    · subst hj
      simp [hci]
    · simp [hj, eq_comm]
  · obtain ⟨hp, hpi⟩ := hp.before p rfl
    simp only [insertAfter, hs, slotAt_setTail, slotAt_modifySlot, hi, hp, capacity_modifySlot,
      reduceCtorEq, if_false, Option.some.injEq]
    by_cases hj : j = p
    · subst hj
      simp [hpi]
    · simp [hj, eq_comm]
  · obtain ⟨hpc, hc⟩ : c ≠ p ∧ _ := ⟨fun h ↦ hp.distinct p rfl (by rw [hs, h]), hp.after c hs⟩
    obtain ⟨hp, hpi⟩ := hp.before p rfl
    obtain ⟨hc, hci⟩ := hc
    simp only [insertAfter, hs, slotAt_modifySlot, hi, hp, hc, capacity_modifySlot,
      Option.some.injEq]
    by_cases hj : j = c
    · subst hj
      simp [hci, hpc, Ne.symm hpc]
    · by_cases hj' : j = p
      · subst hj'
        simp [hpi, hj]
      · simp [hj, hj', eq_comm]

theorem next_insertAfter (j : Nat) :
    ((b.insertAfter i a).slotAt j).next =
      if j = i then b.successor a else if a = some j then some i else (b.slotAt j).next := by
  rw [slotAt_insertAfter hp]
  split_ifs <;> rfl

theorem prev_insertAfter (j : Nat) :
    ((b.insertAfter i a).slotAt j).prev =
      if j = i then a else if b.successor a = some j then some i else (b.slotAt j).prev := by
  rw [slotAt_insertAfter hp]
  by_cases hj : j = i
  · simp [hj]
  · by_cases haj : a = some j
    · -- the slot before `i` is not the slot after it
      simp only [if_neg hj, if_pos haj, if_neg (hp.distinct j haj)]
    · rw [if_neg hj, if_neg haj, if_neg hj]
      split <;> rfl

/-- Threading a slot in changes only links. -/
theorem slotAt_insertAfter_fields (j : Nat) :
    ((b.insertAfter i a).slotAt j).inUse = (b.slotAt j).inUse ∧
      ((b.insertAfter i a).slotAt j).len = (b.slotAt j).len := by
  rw [slotAt_insertAfter hp]
  split_ifs with hj
  · subst hj
    exact ⟨rfl, rfl⟩
  all_goals exact ⟨rfl, rfl⟩

/-- Away from `i` and its two neighbours, no record changes. -/
theorem slotAt_insertAfter_of_ne {j : Nat} (hj : j ≠ i) (ha : a ≠ some j)
    (hs : b.successor a ≠ some j) : (b.insertAfter i a).slotAt j = b.slotAt j := by
  rw [slotAt_insertAfter hp, if_neg hj, if_neg ha, if_neg hs]

/-- Two neighbours away from the insertion point stay neighbours. -/
theorem adjacent_insertAfter {x y : Nat} (hxy : b.Adjacent x y) (hx : x ≠ i) (hxa : a ≠ some x)
    (hy : y ≠ i) (hys : b.successor a ≠ some y) : (b.insertAfter i a).Adjacent x y := by
  constructor
  · rw [next_insertAfter hp, if_neg hx, if_neg hxa]
    exact hxy.1
  · rw [prev_insertAfter hp, if_neg hy, if_neg hys]
    exact hxy.2

end InsertAfter

/-- In a threading of `A ++ B`, a slot `i` of the ring that is not on the list may go in after
the last slot of `A`. -/
theorem Threads.insertPoint {i : Nat} {A B : List Nat} (ht : b.Threads (A ++ B))
    (hnd : (A ++ i :: B).Nodup) (hi : i < b.capacity) (hlt : ∀ x ∈ A ++ B, x < b.capacity) :
    b.InsertPoint i A.getLast? := by
  obtain ⟨hiAB, hnd⟩ := List.nodup_cons.1 (List.nodup_middle.1 hnd)
  have hAB := (List.nodup_append.1 hnd).2.2
  have hxi : ∀ x ∈ A ++ B, x ≠ i := fun x hx h ↦ hiAB (h ▸ hx)
  have hlast : ∀ p ∈ A.getLast?, p ∈ A ++ B := fun p hp ↦
    List.mem_append_left B (List.mem_of_mem_getLast? hp)
  refine ⟨hi, fun p hp ↦ ⟨hlt p (hlast p hp), hxi p (hlast p hp)⟩, ?_, ?_⟩
  all_goals rw [ht.successor_getLast]
  · intro c hc
    have hc := List.mem_append_right A (List.mem_of_mem_head? hc)
    exact ⟨hlt c hc, hxi c hc⟩
  · -- the last slot of `A` is not the first of `B`
    intro p hp hc
    exact hAB p (List.mem_of_mem_getLast? hp) p (List.mem_of_mem_head? hc) rfl

/-- Threading slot `i` in after the last slot of `A`, on a buffer whose links thread `A ++ B`,
gives links that thread `A ++ i :: B`. -/
theorem Threads.insertAfter {i : Nat} {A B : List Nat} (ht : b.Threads (A ++ B))
    (hnd : (A ++ i :: B).Nodup) (hi : i < b.capacity) (hlt : ∀ x ∈ A ++ B, x < b.capacity) :
    (b.insertAfter i A.getLast?).Threads (A ++ i :: B) := by
  have hp := ht.insertPoint hnd hi hlt
  obtain ⟨hiAB, hnd⟩ := List.nodup_cons.1 (List.nodup_middle.1 hnd)
  obtain ⟨-, hB, hAB'⟩ := List.nodup_append.1 hnd
  have hsucc := ht.successor_getLast
  have hxi : ∀ x ∈ A ++ B, x ≠ i := fun x hx h ↦ hiAB (h ▸ hx)
  have hlast : ∀ p ∈ A.getLast?, p ∈ A := fun p ↦ List.mem_of_mem_getLast?
  have hhead : ∀ c ∈ B.head?, c ∈ B := fun c ↦ List.mem_of_mem_head?
  have hnext := next_insertAfter hp
  have hprev := prev_insertAfter hp
  have hadj := fun {x y} ↦ adjacent_insertAfter hp (x := x) (y := y)
  rw [hsucc] at hnext hprev hadj
  -- slots of `A` are never the slot after `i`, slots of `B` never the slot before it
  have hnotB : ∀ x ∈ A, B.head? ≠ some x := fun x hx hc ↦ hAB' x hx x (hhead x hc) rfl
  have hnotA : ∀ x ∈ B, A.getLast? ≠ some x := fun x hx hc ↦ hAB' x (hlast x hc) x hx rfl
  have hchain := List.isChain_append.1 ht.chain
  refine ⟨?head, ?tail, ?first, ?last, ?chain⟩
  case head =>
    rw [head_insertAfter]
    cases A with
    | nil => simp
    | cons x A => simpa using ht.head
  case tail =>
    rw [tail_insertAfter, hsucc]
    cases B with
    | nil => simp
    | cons c B => simpa using ht.tail
  case first =>
    intro x hx
    cases A with
    | nil =>
      rw [List.nil_append, List.head?_cons, Option.mem_some_iff] at hx
      rw [← hx, hprev, if_pos rfl]
      rfl
    | cons y A =>
      rw [List.cons_append, List.head?_cons, Option.mem_some_iff] at hx
      have hy := List.mem_cons_self (a := y) (l := A)
      rw [← hx, hprev, if_neg (hxi y (List.mem_append_left B hy)), if_neg (hnotB y hy)]
      exact ht.first y (by simp)
  case last =>
    intro x hx
    cases B with
    | nil =>
      simp only [List.getLast?_append, List.getLast?_singleton, Option.some_or,
        Option.mem_some_iff] at hx
      subst hx
      simp [hnext]
    | cons c B =>
      have hxB : x ∈ (c :: B).getLast? := by simpa using hx
      have hx' := List.mem_of_mem_getLast? hxB
      rw [hnext, if_neg (hxi x (List.mem_append_right A hx')), if_neg (hnotA x hx')]
      exact ht.last x (by simpa using hxB)
  case chain =>
    refine List.isChain_append.2 ⟨?_, ?_, ?_⟩
    · -- the links inside `A` are kept
      refine hchain.1.imp_of_mem_imp fun x y hx hy hxy ↦ hadj hxy ?_ ?_ ?_ ?_
      · exact hxi x (List.mem_append_left B hx)
      · -- were `x` the last of `A`, its successor `y` would be the first of `B`
        intro hxa
        have := (ht.next_getLast x hxa).symm.trans hxy.1
        exact hnotB y hy this
      · exact hxi y (List.mem_append_left B hy)
      · exact hnotB y hy
    · cases B with
      | nil => exact List.isChain_singleton i
      | cons c B =>
        have hc := List.mem_cons_self (a := c) (l := B)
        refine List.isChain_cons_cons.2 ⟨⟨?_, ?_⟩, ?_⟩
        · simp [hnext]
        · simp [hprev, hxi c (List.mem_append_right A hc)]
        · -- the links inside `B` are kept: only its first slot gets a new predecessor
          refine hchain.2.1.imp_of_mem_tail_imp fun x y hx hy hxy ↦ hadj hxy ?_ ?_ ?_ ?_
          · exact hxi x (List.mem_append_right A hx)
          · exact hnotA x hx
          · exact hxi y (List.mem_append_right A (List.mem_cons_of_mem c hy))
          · -- the first slot of `B` does not come again later in `B`
            rintro ⟨⟩
            exact (List.nodup_cons.1 hB).1 hy
    · intro x hx y hy
      rw [List.head?_cons, Option.mem_some_iff] at hy
      subst hy
      constructor
      · rw [hnext, if_neg (hp.before x hx).2, if_pos (show A.getLast? = some x from hx)]
      · rw [hprev, if_pos rfl, hx]

/-- Links that agree on the slots of `l`, with the same ends, thread `l` as well. -/
theorem Threads.of_links {b' : SegmentBuffer} {l : List Nat} (ht : b.Threads l)
    (hh : b'.head = b.head) (htl : b'.tail = b.tail)
    (hl : ∀ x ∈ l, (b'.slotAt x).prev = (b.slotAt x).prev ∧ (b'.slotAt x).next = (b.slotAt x).next) :
    b'.Threads l where
  head := hh.trans ht.head
  tail := htl.trans ht.tail
  first x hx := (hl x (List.mem_of_mem_head? hx)).1.trans (ht.first x hx)
  last x hx := (hl x (List.mem_of_mem_getLast? hx)).2.trans (ht.last x hx)
  chain := ht.chain.imp_of_mem_imp fun x y hx hy hxy ↦
    ⟨(hl x hx).2.trans hxy.1, (hl y hy).1.trans hxy.2⟩

/-! ### Taking a slot out -/

section Unlink

variable {i : Nat}

@[simp] theorem capacity_unlink (b : SegmentBuffer) (i : Nat) :
    (b.unlink i).capacity = b.capacity := by
  rcases hsp : (b.slotAt i).prev <;> rcases hsn : (b.slotAt i).next <;> simp [unlink, hsp, hsn]

@[simp] theorem currentIndex_unlink (b : SegmentBuffer) (i : Nat) :
    (b.unlink i).currentIndex = b.currentIndex := by
  rcases hsp : (b.slotAt i).prev <;> rcases hsn : (b.slotAt i).next <;> simp [unlink, hsp, hsn]

@[simp] theorem inUse_unlink (b : SegmentBuffer) (i : Nat) : (b.unlink i).inUse = b.inUse := by
  rcases hsp : (b.slotAt i).prev <;> rcases hsn : (b.slotAt i).next <;> simp [unlink, hsp, hsn]

@[simp] theorem slotSize_unlink (b : SegmentBuffer) (i : Nat) :
    (b.unlink i).slotSize = b.slotSize := by
  rcases hsp : (b.slotAt i).prev <;> rcases hsn : (b.slotAt i).next <;> simp [unlink, hsp, hsn]

@[simp] theorem base_unlink (b : SegmentBuffer) (i : Nat) : (b.unlink i).base = b.base := by
  rcases hsp : (b.slotAt i).prev <;> rcases hsn : (b.slotAt i).next <;> simp [unlink, hsp, hsn]

theorem head_unlink (b : SegmentBuffer) (i : Nat) :
    (b.unlink i).head =
      if (b.slotAt i).prev = none then (b.slotAt i).next else b.head := by
  rcases hsp : (b.slotAt i).prev <;> rcases hsn : (b.slotAt i).next <;> simp [unlink, hsp, hsn]

theorem tail_unlink (b : SegmentBuffer) (i : Nat) :
    (b.unlink i).tail =
      if (b.slotAt i).next = none then (b.slotAt i).prev else b.tail := by
  rcases hsp : (b.slotAt i).prev <;> rcases hsn : (b.slotAt i).next <;> simp [unlink, hsp, hsn]

/-- When slot `i` may be taken out: its neighbours lie in the ring and are different slots. -/
structure Unlinkable (b : SegmentBuffer) (i : Nat) : Prop where
  /-- The slot before `i` lies in the ring. -/
  before : ∀ p ∈ (b.slotAt i).prev, p < b.capacity
  /-- The slot after `i` lies in the ring. -/
  after : ∀ c ∈ (b.slotAt i).next, c < b.capacity
  /-- The slots before and after `i` differ. -/
  distinct : ∀ p ∈ (b.slotAt i).prev, (b.slotAt i).next ≠ some p

variable (hu : b.Unlinkable i)
include hu

/-- Taking slot `i` out: the slot before it points forward to the slot after it, and that slot
points back to the one before; no other record changes. -/
theorem slotAt_unlink (j : Nat) :
    (b.unlink i).slotAt j =
      if (b.slotAt i).prev = some j then { b.slotAt j with next := (b.slotAt i).next }
      else if (b.slotAt i).next = some j then { b.slotAt j with prev := (b.slotAt i).prev }
      else b.slotAt j := by
  rcases hsp : (b.slotAt i).prev with _ | p <;> rcases hsn : (b.slotAt i).next with _ | c
  · simp [unlink, hsp, hsn]
  · have hc := hu.after c hsn
    simp only [unlink, hsp, hsn, modifySlot_setHead, slotAt_setHead, slotAt_modifySlot, hc,
      reduceCtorEq, if_false, Option.some.injEq]
    by_cases hj : j = c
    · simp [hj]
    · simp [hj, eq_comm]
  · have hp := hu.before p hsp
    simp only [unlink, hsp, hsn, slotAt_setTail, slotAt_modifySlot, hp, reduceCtorEq, if_false,
      Option.some.injEq]
    by_cases hj : j = p
    · simp [hj]
    · simp [hj, eq_comm]
  · have hp' := hu.before p hsp
    have hc := hu.after c hsn
    have hpc : c ≠ p := fun h ↦ hu.distinct p hsp (by rw [hsn, h])
    simp only [unlink, hsp, hsn, slotAt_modifySlot, hp', hc, capacity_modifySlot,
      Option.some.injEq]
    by_cases hj : j = c
    · subst hj
      simp [hpc, Ne.symm hpc]
    · by_cases hj' : j = p
      · subst hj'
        simp [hj]
      · simp [hj, hj', eq_comm]

theorem next_unlink (j : Nat) :
    ((b.unlink i).slotAt j).next =
      if (b.slotAt i).prev = some j then (b.slotAt i).next else (b.slotAt j).next := by
  rw [slotAt_unlink hu]
  split_ifs <;> rfl

theorem prev_unlink (j : Nat) :
    ((b.unlink i).slotAt j).prev =
      if (b.slotAt i).next = some j then (b.slotAt i).prev else (b.slotAt j).prev := by
  rw [slotAt_unlink hu]
  by_cases hpj : (b.slotAt i).prev = some j
  · -- the slot before `i` is not the slot after it
    simp only [if_pos hpj, if_neg (hu.distinct j hpj)]
  · rw [if_neg hpj]
    split <;> rfl

/-- Taking a slot out changes only links. -/
theorem slotAt_unlink_fields (j : Nat) :
    ((b.unlink i).slotAt j).inUse = (b.slotAt j).inUse ∧
      ((b.unlink i).slotAt j).len = (b.slotAt j).len := by
  rw [slotAt_unlink hu]
  split_ifs <;> exact ⟨rfl, rfl⟩

/-- Away from the neighbours of `i`, no record changes. -/
theorem slotAt_unlink_of_ne {j : Nat} (hp : (b.slotAt i).prev ≠ some j)
    (hn : (b.slotAt i).next ≠ some j) : (b.unlink i).slotAt j = b.slotAt j := by
  rw [slotAt_unlink hu, if_neg hp, if_neg hn]

/-- Two neighbours away from the removed slot stay neighbours. -/
theorem adjacent_unlink {x y : Nat} (hxy : b.Adjacent x y) (hx : (b.slotAt i).prev ≠ some x)
    (hy : (b.slotAt i).next ≠ some y) : (b.unlink i).Adjacent x y := by
  constructor
  · rw [next_unlink hu, if_neg hx]
    exact hxy.1
  · rw [prev_unlink hu, if_neg hy]
    exact hxy.2

end Unlink

/-- On a threading of `A ++ i :: B`, the neighbours of `i` are the last slot of `A` and the first
of `B`. -/
theorem Threads.neighbours {i : Nat} {A B : List Nat} (ht : b.Threads (A ++ i :: B)) :
    (b.slotAt i).prev = A.getLast? ∧ (b.slotAt i).next = B.head? := by
  refine ⟨ht.prev_head i rfl, ?_⟩
  have ht' : b.Threads (A ++ [i] ++ B) := by rwa [List.append_assoc, List.singleton_append]
  exact ht'.next_getLast i (by simp)

/-- Every slot of a threaded list of distinct slots of the ring may be taken out. -/
theorem Threads.unlinkable {i : Nat} {A B : List Nat} (ht : b.Threads (A ++ i :: B))
    (hnd : (A ++ i :: B).Nodup) (hlt : ∀ x ∈ A ++ i :: B, x < b.capacity) : b.Unlinkable i := by
  obtain ⟨hprev_i, hnext_i⟩ := ht.neighbours
  have hAB := (List.nodup_append.1 (List.nodup_cons.1 (List.nodup_middle.1 hnd)).2).2.2
  refine ⟨?_, ?_, ?_⟩
  · rw [hprev_i]
    exact fun p hp ↦ hlt p (List.mem_append_left _ (List.mem_of_mem_getLast? hp))
  · rw [hnext_i]
    exact fun c hc ↦
      hlt c (List.mem_append_right A (List.mem_cons_of_mem i (List.mem_of_mem_head? hc)))
  · -- the last slot of `A` is not the first of `B`
    rw [hprev_i, hnext_i]
    exact fun p hp hc ↦ hAB p (List.mem_of_mem_getLast? hp) p (List.mem_of_mem_head? hc) rfl

/-- Taking slot `i` out of a buffer whose links thread `A ++ i :: B` gives links that thread
`A ++ B`. -/
theorem Threads.unlink {i : Nat} {A B : List Nat} (ht : b.Threads (A ++ i :: B))
    (hnd : (A ++ i :: B).Nodup) (hlt : ∀ x ∈ A ++ i :: B, x < b.capacity) :
    (b.unlink i).Threads (A ++ B) := by
  have hu := ht.unlinkable hnd hlt
  obtain ⟨hprev_i, hnext_i⟩ := ht.neighbours
  obtain ⟨hiAB, hnd⟩ := List.nodup_cons.1 (List.nodup_middle.1 hnd)
  obtain ⟨-, hB, hAB'⟩ := List.nodup_append.1 hnd
  have hlast : ∀ p ∈ A.getLast?, p ∈ A := fun p ↦ List.mem_of_mem_getLast?
  have hhead : ∀ c ∈ B.head?, c ∈ B := fun c ↦ List.mem_of_mem_head?
  have hnext := next_unlink hu
  have hprev := prev_unlink hu
  have hadj := fun {x y} ↦ adjacent_unlink hu (x := x) (y := y)
  rw [hprev_i, hnext_i] at hnext hprev hadj
  have hnotB : ∀ x ∈ A, B.head? ≠ some x := fun x hx hc ↦ hAB' x hx x (hhead x hc) rfl
  have hnotA : ∀ x ∈ B, A.getLast? ≠ some x := fun x hx hc ↦ hAB' x (hlast x hc) x hx rfl
  have hchain := List.isChain_append.1 ht.chain
  refine ⟨?head, ?tail, ?first, ?last, ?chain⟩
  case head =>
    rw [head_unlink, hprev_i, hnext_i]
    cases A with
    | nil => simp
    | cons x A => simpa using ht.head
  case tail =>
    rw [tail_unlink, hprev_i, hnext_i]
    cases B with
    | nil => simp
    | cons c B => simpa using ht.tail
  case first =>
    intro x hx
    cases A with
    | nil =>
      rw [hprev, if_pos (show B.head? = some x by simpa using hx)]
      rfl
    | cons y A =>
      rw [List.cons_append, List.head?_cons, Option.mem_some_iff] at hx
      have hy := List.mem_cons_self (a := y) (l := A)
      rw [← hx, hprev, if_neg (hnotB y hy)]
      exact ht.first y (by simp)
  case last =>
    intro x hx
    cases B with
    | nil =>
      rw [hnext, if_pos (show A.getLast? = some x by simpa using hx)]
      rfl
    | cons c B =>
      have hxB : x ∈ (c :: B).getLast? := by simpa using hx
      have hx' := List.mem_of_mem_getLast? hxB
      rw [hnext, if_neg (hnotA x hx')]
      exact ht.last x (by simpa using hxB)
  case chain =>
    refine List.isChain_append.2 ⟨?_, ?_, ?_⟩
    · -- the links inside `A` are kept
      refine hchain.1.imp_of_mem_imp fun x y hx hy hxy ↦ hadj hxy ?_ (hnotB y hy)
      -- were `x` the last of `A`, its successor `y` would be `i`
      intro hxa
      have hyi : y = i := by
        have := (ht.next_getLast (B := i :: B) x hxa).symm.trans hxy.1
        simpa [eq_comm] using this
      exact hiAB (hyi ▸ List.mem_append_left B hy)
    · -- the links inside `B` are kept: its first slot is the only one that changes predecessor
      refine hchain.2.1.tail.imp_of_mem_tail_imp fun x y hx hy hxy ↦ hadj hxy (hnotA x hx) ?_
      cases B with
      | nil => cases hy
      | cons c B =>
        rintro ⟨⟩
        exact (List.nodup_cons.1 hB).1 hy
    · intro x hx y hy
      constructor
      · rw [hnext, if_pos (show A.getLast? = some x from hx)]
        exact hy
      · rw [hprev, if_pos (show B.head? = some y from hy)]
        exact hx

/-- Links that agree everywhere, with the same ends, thread the same lists. -/
theorem Threads.of_same_links {b' : SegmentBuffer} {l : List Nat} (ht : b.Threads l)
    (hh : b'.head = b.head) (htl : b'.tail = b.tail) (hs : ∀ x, b'.slotAt x = b.slotAt x) :
    b'.Threads l :=
  ht.of_links hh htl fun x _ ↦ by rw [hs x]; exact ⟨rfl, rfl⟩

end SegmentBuffer

end ReliableDatagram
