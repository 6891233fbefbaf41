import ReliableDatagram.Wire.Word
/-!
# A receiver that delivers in order

The receiving half of a connection, reduced to what it does with payloads: it waits for the next
number, holds the payloads that arrive ahead of it within its window, and when the one it waits
for arrives, delivers it together with the run of held payloads behind it. `Receiver` is that
buffer: for each of the numbers after the expected one, as far as the window reaches, the payload
held for it, if any.

An arriving payload is given by its offset from the expected number, at most the window
(`Receiver.take`): at offset zero it is delivered at once with the held run behind it, and the
window slides past all of them; further on it is held, unless something is held there already, so
the first copy stays.

Index each payload of a run by the number of deliveries before its arrival plus its offset: the
index of a number counted from the first one expected, which does not come round. The main
statement (`Receiver.delivers_first_copies`) says that the `j`-th delivery is the first payload
that arrived with index `j`, and that none has arrived with the index of the next one: delivery is
in order, without gap or repetition, and a held payload is never replaced, cut or dropped. It
rests on one invariant, `Receiver.Accounts`, kept by each arrival.
-/

namespace ReliableDatagram

/-- The receiving half of a connection: for each number after the expected one, as far as the
window reaches, the payload held for it, if any. -/
structure Receiver where
  /-- The payload held for each number after the expected one. -/
  held : List (Option Bytes)
  deriving DecidableEq, Repr

namespace Receiver

/-- A window of `m` numbers after the expected one, holding nothing. -/
def empty (m : Nat) : Receiver := ⟨List.replicate m none⟩

/-- The payloads held without a gap from the front. -/
def heldRun : List (Option Bytes) → List Bytes
  | some p :: rest => p :: heldRun rest
  | _ => []

/-- The window moved `k` numbers forward: the first `k` fall out, and the window fills with
nothing behind. -/
def slide (held : List (Option Bytes)) (k : Nat) : List (Option Bytes) :=
  (held ++ List.replicate k none).drop k

/-- A payload arriving `o` numbers past the expected one. At offset zero it is delivered with the
held run behind it, and the window slides past them and the gap that ends the run; further on it
is held, unless something is held there already. -/
def take (r : Receiver) : Nat → Bytes → List Bytes × Receiver
  | 0, p => (p :: heldRun r.held, ⟨slide r.held ((heldRun r.held).length + 1)⟩)
  | o + 1, p => if r.held[o]? = some none then ([], ⟨r.held.set o (some p)⟩) else ([], r)

/-- What a receiver delivers on an arrival, if there is one, and how it is left. -/
def step (r : Receiver) : Option (Nat × Bytes) → List Bytes × Receiver
  | some (o, p) => r.take o p
  | none => ([], r)

/-- A run over arrivals given by their offsets, after `n` deliveries: everything delivered, each
arrival with its index (the deliveries before it plus its offset), and the receiver after. -/
def run (r : Receiver) (n : Nat) :
    List (Option (Nat × Bytes)) → List Bytes × List (Nat × Bytes) × Receiver
  | [] => ([], [], r)
  | a :: as =>
    let rest := (r.step a).2.run (n + (r.step a).1.length) as
    ((r.step a).1 ++ rest.1, (a.map fun x ↦ (n + x.1, x.2)).toList ++ rest.2.1, rest.2.2)

/-- The first payload among `arrivals` with index `j`. -/
def firstCopy (arrivals : List (Nat × Bytes)) (j : Nat) : Option Bytes :=
  (arrivals.find? fun a ↦ a.1 == j).map Prod.snd

/-! ### The held run and the sliding window -/

theorem length_heldRun_le : ∀ l : List (Option Bytes), (heldRun l).length ≤ l.length
  | [] => Nat.zero_le _
  | none :: _ => Nat.zero_le _
  | some _ :: rest => Nat.succ_le_succ (length_heldRun_le rest)

/-- Each payload of the held run is held at its place. -/
theorem getElem?_of_lt_heldRun :
    ∀ (l : List (Option Bytes)) (i : Nat) (hi : i < (heldRun l).length),
      l[i]? = some (some (heldRun l)[i])
  | some _ :: _, 0, _ => rfl
  | some _ :: rest, i + 1, hi => getElem?_of_lt_heldRun rest i (Nat.lt_of_succ_lt_succ hi)

/-- The held run ends at a gap or at the end of the window. -/
theorem getElem?_length_heldRun :
    ∀ (l : List (Option Bytes)) (p : Bytes), l[(heldRun l).length]? ≠ some (some p)
  | [], _ => by simp
  | none :: _, _ => by simp [heldRun]
  | some _ :: rest, p => by
    simpa [heldRun] using getElem?_length_heldRun rest p

@[simp] theorem length_slide (l : List (Option Bytes)) (k : Nat) : (slide l k).length = l.length := by
  simp [slide]

theorem getElem?_slide (l : List (Option Bytes)) (k i : Nat) :
    (slide l k)[i]? = if i < l.length then some (l[i + k]?.getD none) else none := by
  unfold slide
  rw [List.getElem?_drop, List.getElem?_append, Nat.add_comm k i]
  by_cases h₁ : i + k < l.length
  · rw [if_pos h₁, if_pos (by omega), List.getElem?_eq_getElem h₁, Option.getD_some]
  · rw [if_neg h₁, List.getElem?_replicate, List.getElem?_eq_none (by omega), Option.getD_none]
    by_cases h₂ : i < l.length
    · rw [if_pos (by omega), if_pos h₂]
    · rw [if_neg (by omega), if_neg h₂]

theorem heldRun_append_none : ∀ l : List (Option Bytes), heldRun (l ++ [none]) = heldRun l
  | [] => rfl
  | none :: _ => rfl
  | some p :: rest => congrArg (p :: ·) (heldRun_append_none rest)

theorem slide_cons_one (x : Option Bytes) (l : List (Option Bytes)) :
    slide (x :: l) 1 = l ++ [none] :=
  rfl

/-- Sliding twice is sliding by the sum. -/
theorem slide_slide (l : List (Option Bytes)) (a b : Nat) : slide (slide l a) b = slide l (a + b) := by
  refine List.ext_getElem? fun i ↦ ?_
  simp only [getElem?_slide, length_slide]
  by_cases hi : i < l.length
  · rw [if_pos hi, if_pos hi]
    by_cases hb : i + b < l.length
    · rw [if_pos hb, Option.getD_some, show i + b + a = i + (a + b) by omega]
    · rw [if_neg hb, Option.getD_none, List.getElem?_eq_none (by omega), Option.getD_none]
  · rw [if_neg hi, if_neg hi]

theorem take_zero (r : Receiver) (p : Bytes) :
    r.take 0 p = (p :: heldRun r.held, ⟨slide r.held ((heldRun r.held).length + 1)⟩) := rfl

theorem take_succ (r : Receiver) (o : Nat) (p : Bytes) :
    r.take (o + 1) p =
      if r.held[o]? = some none then ([], ⟨r.held.set o (some p)⟩) else ([], r) := rfl

@[simp] theorem step_none (r : Receiver) : r.step none = ([], r) := rfl

@[simp] theorem step_some (r : Receiver) (o : Nat) (p : Bytes) : r.step (some (o, p)) = r.take o p :=
  rfl

@[simp] theorem length_take (r : Receiver) (o : Nat) (p : Bytes) :
    (r.take o p).2.held.length = r.held.length := by
  cases o with
  | zero => exact length_slide _ _
  | succ o =>
    rw [take_succ]
    split
    · exact List.length_set
    · rfl

@[simp] theorem length_step (r : Receiver) (a : Option (Nat × Bytes)) :
    (r.step a).2.held.length = r.held.length := by
  cases a with
  | none => rfl
  | some x => exact length_take r x.1 x.2

/-! ### First copies -/

@[simp] theorem firstCopy_nil (j : Nat) : firstCopy [] j = none := rfl

/-- One more arrival decides an index only if none had arrived with it. -/
theorem firstCopy_append (H : List (Nat × Bytes)) (a : Nat) (p : Bytes) (j : Nat) :
    firstCopy (H ++ [(a, p)]) j = (firstCopy H j).or (if a = j then some p else none) := by
  unfold firstCopy
  rw [List.find?_append]
  cases H.find? (fun x ↦ x.1 == j) with
  | some x => rfl
  | none => by_cases h : a = j <;> simp [h]

theorem firstCopy_append_of_ne (H : List (Nat × Bytes)) {a j : Nat} (p : Bytes) (h : a ≠ j) :
    firstCopy (H ++ [(a, p)]) j = firstCopy H j := by
  rw [firstCopy_append, if_neg h, Option.or_none]

/-! ### The invariant -/

/-- A receiver that has delivered `D` accounts for the arrivals `H`: each delivery is the first
copy of its index, nothing has arrived with the next index, what it holds for each number of the
window is that number's first copy, and nothing has arrived past the window. -/
structure Accounts (r : Receiver) (D : List Bytes) (H : List (Nat × Bytes)) : Prop where
  delivered : ∀ j (hj : j < D.length), firstCopy H j = some D[j]
  next : firstCopy H D.length = none
  held : ∀ i, i < r.held.length → r.held[i]? = some (firstCopy H (D.length + 1 + i))
  beyond : ∀ j, D.length + r.held.length < j → firstCopy H j = none

variable {r : Receiver} {D : List Bytes} {H : List (Nat × Bytes)}

theorem Accounts.empty (m : Nat) : (Receiver.empty m).Accounts [] [] :=
  ⟨fun _ hj ↦ absurd hj (Nat.not_lt_zero _), rfl, fun i hi ↦ by
    simp only [Receiver.empty, List.length_replicate] at hi
    simp [Receiver.empty, hi], fun _ _ ↦ rfl⟩

/-- Arrivals that decide no index leave the invariant as it is. -/
theorem Accounts.congr {H' : List (Nat × Bytes)} (h : r.Accounts D H)
    (hH : ∀ j, firstCopy H' j = firstCopy H j) : r.Accounts D H' where
  delivered j hj := by rw [hH]; exact h.delivered j hj
  next := by rw [hH]; exact h.next
  held i hi := by rw [hH]; exact h.held i hi
  beyond j hj := by rw [hH]; exact h.beyond j hj

/-- The expected payload arrives: it is its index's first copy, and so is each payload of the
held run behind it; the first number the window slides to is a gap. -/
theorem Accounts.deliver (h : r.Accounts D H) (p : Bytes) :
    (r.take 0 p).2.Accounts (D ++ (r.take 0 p).1) (H ++ [(D.length, p)]) := by
  obtain ⟨L⟩ := r
  show Accounts ⟨slide L ((heldRun L).length + 1)⟩ (D ++ p :: heldRun L) (H ++ [(D.length, p)])
  have hRL : (heldRun L).length ≤ L.length := length_heldRun_le L
  -- every index but the arrival's keeps its first copy
  have hkeep : ∀ j, D.length ≠ j → firstCopy (H ++ [(D.length, p)]) j = firstCopy H j :=
    fun j hj ↦ firstCopy_append_of_ne H p hj
  -- the first copy of each index the run covers is the run's payload
  have hrun : ∀ i (hi : i < (heldRun L).length),
      firstCopy H (D.length + 1 + i) = some (heldRun L)[i] := by
    intro i hi
    have h₁ := h.held i (by simp only; omega)
    rw [getElem?_of_lt_heldRun L i hi] at h₁
    exact (Option.some.inj h₁).symm
  have hlen : (D ++ p :: heldRun L).length = D.length + 1 + (heldRun L).length := by
    simp only [List.length_append, List.length_cons]
    omega
  refine ⟨fun j hj ↦ ?_, ?_, fun i hi ↦ ?_, fun j hj ↦ ?_⟩
  · -- a delivery before this event, this payload, or one of the held run
    rcases Nat.lt_or_ge j D.length with hjD | hjD
    · rw [hkeep j (by omega), h.delivered j hjD, List.getElem_append_left hjD]
    rcases Nat.eq_or_lt_of_le hjD with rfl | hjD
    · rw [firstCopy_append, h.next, if_pos rfl, Option.none_or, List.getElem_append_right (by omega)]
      simp
    · obtain ⟨i, rfl⟩ : ∃ i, j = D.length + 1 + i := ⟨j - D.length - 1, by omega⟩
      rw [hkeep _ (by omega), hrun i (by omega), List.getElem_append_right (by omega)]
      simp only [show D.length + 1 + i - D.length = i + 1 by omega, List.getElem_cons_succ]
  · -- the number after the run was a gap, or lies past the old window
    rw [hlen, hkeep _ (by omega)]
    rcases Nat.lt_or_ge (heldRun L).length L.length with hlt | hge
    · have h₁ := h.held (heldRun L).length hlt
      cases hx : firstCopy H (D.length + 1 + (heldRun L).length) with
      | none => rfl
      | some x =>
        rw [hx] at h₁
        exact absurd h₁ (getElem?_length_heldRun L x)
    · exact h.beyond _ (by simp only; omega)
  · -- the window slid past the run: what it holds moved forward with it
    simp only [length_slide] at hi
    show (slide L _)[i]? = _
    rw [getElem?_slide, if_pos hi, hlen, hkeep _ (by omega)]
    rcases Nat.lt_or_ge (i + ((heldRun L).length + 1)) L.length with hlt | hge
    · rw [h.held _ hlt, Option.getD_some]
      congr 2
      omega
    · rw [List.getElem?_eq_none hge, h.beyond _ (by simp only; omega)]
      rfl
  · simp only [length_slide] at hj
    rw [hlen] at hj
    rw [hkeep j (by omega)]
    exact h.beyond j (by simp only; omega)

/-- A payload arrives ahead of the expected one: it becomes its index's first copy when nothing
is held for it, and is dropped otherwise. -/
theorem Accounts.hold (h : r.Accounts D H) {o : Nat} (ho : o < r.held.length) (p : Bytes) :
    (r.take (o + 1) p).2.Accounts (D ++ (r.take (o + 1) p).1) (H ++ [(D.length + (o + 1), p)]) := by
  obtain ⟨L⟩ := r
  change o < L.length at ho
  have hkeep : ∀ j, D.length + (o + 1) ≠ j →
      firstCopy (H ++ [(D.length + (o + 1), p)]) j = firstCopy H j :=
    fun j hj ↦ firstCopy_append_of_ne H p hj
  have hslot : L[o]? = some (firstCopy H (D.length + (o + 1))) := by
    rw [show D.length + (o + 1) = D.length + 1 + o by omega]
    exact h.held o ho
  rw [take_succ]
  dsimp only
  by_cases hfree : L[o]? = some none
  · -- a free slot: the payload is the first copy of its index
    rw [if_pos hfree]
    show Accounts ⟨L.set o (some p)⟩ (D ++ []) _
    rw [List.append_nil]
    rw [hfree] at hslot
    have hnone := (Option.some.inj hslot).symm
    refine ⟨fun j hj ↦ ?_, ?_, fun i hi ↦ ?_, fun j hj ↦ ?_⟩
    · rw [hkeep j (by omega)]
      exact h.delivered j hj
    · rw [hkeep _ (by omega)]
      exact h.next
    · simp only [List.length_set] at hi
      show (L.set o (some p))[i]? = _
      rw [List.getElem?_set]
      by_cases hio : o = i
      · subst hio
        rw [if_pos rfl, if_pos hi, firstCopy_append,
          show D.length + 1 + o = D.length + (o + 1) by omega, hnone, if_pos rfl, Option.none_or]
      · rw [if_neg hio, hkeep _ (by omega)]
        exact h.held i hi
    · simp only [List.length_set] at hj
      rw [hkeep j (by omega)]
      exact h.beyond j (by simp only; omega)
  · -- the slot holds an earlier copy, which stays first
    rw [if_neg hfree]
    show Accounts ⟨L⟩ (D ++ []) _
    rw [List.append_nil]
    refine h.congr fun j ↦ ?_
    rw [firstCopy_append]
    cases hx : firstCopy H j with
    | some x => rfl
    | none =>
      rw [Option.none_or, if_neg]
      rintro rfl
      rw [hx] at hslot
      exact hfree hslot

theorem Accounts.step (h : r.Accounts D H) {a : Option (Nat × Bytes)}
    (ha : ∀ x ∈ a, x.1 ≤ r.held.length) :
    (r.step a).2.Accounts (D ++ (r.step a).1) (H ++ (a.map fun x ↦ (D.length + x.1, x.2)).toList) := by
  cases a with
  | none => simpa only [step_none, List.append_nil, Option.map_none, Option.toList_none] using h
  | some x =>
    obtain ⟨o, p⟩ := x
    have ho : o ≤ r.held.length := ha (o, p) rfl
    cases o with
    | zero => exact h.deliver p
    | succ o => exact h.hold (by omega) p

/-- A whole run keeps the invariant, whatever arrives within the window. -/
theorem Accounts.run (h : r.Accounts D H) {as : List (Option (Nat × Bytes))}
    (has : ∀ a ∈ as, ∀ x ∈ a, x.1 ≤ r.held.length) :
    (r.run D.length as).2.2.Accounts (D ++ (r.run D.length as).1) (H ++ (r.run D.length as).2.1) := by
  induction as generalizing r D H with
  | nil => simpa [Receiver.run] using h
  | cons a as ih =>
    have h₁ := h.step (has a (List.mem_cons_self ..))
    have h₂ := ih h₁ fun b hb x hx ↦ by
      rw [length_step]
      exact has b (List.mem_cons_of_mem _ hb) x hx
    simp only [Receiver.run, List.length_append, List.append_assoc] at h₂ ⊢
    exact h₂

/-- From a window holding nothing, whatever arrives within it: the `j`-th delivery is the first
payload that arrived with index `j`, and none has arrived with the index of the next one. -/
theorem delivers_first_copies (m : Nat) {as : List (Option (Nat × Bytes))}
    (has : ∀ a ∈ as, ∀ x ∈ a, x.1 ≤ m) :
    (∀ j (hj : j < ((empty m).run 0 as).1.length),
      firstCopy ((empty m).run 0 as).2.1 j = some ((empty m).run 0 as).1[j]) ∧
      firstCopy ((empty m).run 0 as).2.1 ((empty m).run 0 as).1.length = none := by
  have has' : ∀ a ∈ as, ∀ x ∈ a, x.1 ≤ (empty m).held.length := by
    simpa [Receiver.empty] using has
  have h := (Accounts.empty m).run has'
  simp only [List.nil_append] at h
  exact ⟨h.delivered, h.next⟩

/-- A held payload is not replaced by a later copy: `[2]` is held for the second number, its
copy `[9]` is dropped, and both are delivered in order once the first arrives. -/
example : ((empty 3).run 0 [some (1, [2]), some (1, [9]), some (0, [1])]).1 = [[1], [2]] := by
  decide

end Receiver

end ReliableDatagram
