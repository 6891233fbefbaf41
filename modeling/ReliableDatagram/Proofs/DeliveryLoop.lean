import Mathlib.Logic.Function.Iterate
import ReliableDatagram.Proofs.Actions
/-!
# The delivery loop drains exactly the held run

When the next expected segment arrives it is delivered, and the delivery loop then hands over
every segment the receive buffer holds right behind it. Each turn reads the buffer's first
number, one past the last delivered one, and moves the window by one: if the number was in use its bytes
are delivered and the last delivered number moves onto it; if not, the loop ends, the window
having moved past the gap.

The buffer's side is said by two predicates:

* `SegmentBuffer.HoldsRun r q held`: the numbers `q`, `q + 1`, … are in use holding `held` in
  order, and the number right after them is not. A well-formed buffer holds such a run at its
  base, no longer than its counter of slots in use (`SegmentBuffer.exists_holdsRun`): the run is
  found by walking along it, and each step takes the counter down
  (`WellFormed.inUse_advanceBase_one_lt`).
* `SegmentBuffer.DrainedTo r held r'`: `r'` starts past the run and the gap after it, and holds
  exactly the segments of `r` beyond them, with the same bytes.

The loop's side (`Act.run_drainHeld_of_holdsRun`): entered with the buffer starting one past the
last delivered number and a budget of more turns than the run is long, it ends at
`Endpoint.afterDrain`. So one turn more than the slots in use always suffices, and the budget
`deliver` gives, the capacity plus one, is never exhausted.

Main statement (`Endpoint.deliver_drains_held_run`): for every endpoint whose receive buffer is
well formed and starts two past the last delivered number, delivering the next expected payload
does what `Endpoint.DeliversRun` lists.
-/

namespace ReliableDatagram

/-- Counting one further is adding one to the sequence number. -/
theorem toUInt16_add_one (n : Nat) : (n + 1).toUInt16 = n.toUInt16 + 1 := by
  simp

namespace SegmentBuffer

/-- `held` is the run of segments `r` holds from `q` on: the numbers `q`, `q + 1`, … are in use
holding the segments of `held` in order, and the number right after them is not in use. -/
structure HoldsRun (r : SegmentBuffer) (q : UInt16) (held : List Bytes) : Prop where
  /-- Each number of the run is in use and holds its segment. -/
  holds : ∀ i (hi : i < held.length),
    r.isInUse (q + i.toUInt16) = true ∧ r.slot (q + i.toUInt16) = some held[i]
  /-- The run ends at a number not in use. -/
  ends : r.isInUse (q + held.length.toUInt16) = false

/-- Buffer `r'` is what is left of buffer `r` once the run `held` at its base is delivered: its
window starts past the run and the gap after it, and it holds exactly the segments of `r`
beyond them, with the same bytes. -/
structure DrainedTo (r : SegmentBuffer) (held : List Bytes) (r' : SegmentBuffer) : Prop where
  /-- The window starts past the run and the gap. -/
  base : r'.base = r.base + held.length.toUInt16 + 1
  /-- Exactly the segments beyond the gap are still held. -/
  isInUse : ∀ q, r'.isInUse q = true ↔ r.isInUse q = true ∧ held.length < (Seq.offset q r.base).toNat
  /-- Those keep their bytes. -/
  slot : ∀ q, r'.isInUse q = true → r'.slot q = r.slot q

variable {r : SegmentBuffer} {held : List Bytes} {p : Bytes}

/-- A run from the base is no longer than the window: the number as many places past the base as
the window is long has no slot. -/
theorem HoldsRun.length_le_capacity (hr : r.WellFormed) (h : r.HoldsRun r.base held) :
    held.length ≤ r.capacity := by
  refine Nat.le_of_not_lt fun hlt ↦ ?_
  have hcap := hr.capacity_lt
  have hslot := hasSlot_of_isInUse (h.holds r.capacity hlt).1
  rw [hasSlot, decide_eq_true_iff, Seq.offset_add_left r.base r.capacity (by omega)] at hslot
  exact lt_irrefl _ hslot

/-- The number `i + 1` places past the base is `i` places past the base of the window moved by
one. -/
theorem base_add_succ (r : SegmentBuffer) (i : Nat) :
    r.base + (i + 1).toUInt16 = (r.advanceBase 1).base + i.toUInt16 := by
  rw [base_advanceBase, toUInt16_add_one, UInt16.add_assoc, UInt16.add_comm 1]

/-- Moving the window by one keeps what lies past its old base. -/
theorem isInUse_advance_one_succ (hr : r.WellFormed) {i : Nat} (hi : i + 1 < 65536) :
    (r.advanceBase 1).isInUse ((r.advanceBase 1).base + i.toUInt16) =
      r.isInUse (r.base + (i + 1).toUInt16) := by
  rw [← base_add_succ, isInUse_advanceBase hr, Seq.offset_add_left r.base (i + 1) hi]
  simp

/-- A number past the old base holds the same segment before and after the window moves by
one. -/
theorem holds_advance_one_iff (hr : r.WellFormed) {i : Nat} (hi : i + 1 < 65536) (b : Bytes) :
    ((r.advanceBase 1).isInUse ((r.advanceBase 1).base + i.toUInt16) = true ∧
        (r.advanceBase 1).slot ((r.advanceBase 1).base + i.toUInt16) = some b) ↔
      (r.isInUse (r.base + (i + 1).toUInt16) = true ∧ r.slot (r.base + (i + 1).toUInt16) = some b) := by
  have hslot (h : (r.advanceBase 1).isInUse ((r.advanceBase 1).base + i.toUInt16) = true) :
      (r.advanceBase 1).slot ((r.advanceBase 1).base + i.toUInt16) =
        r.slot (r.base + (i + 1).toUInt16) := by
    rw [hr.slot_advanceBase h, base_add_succ]
  constructor
  · rintro ⟨hin, hs⟩
    exact ⟨(isInUse_advance_one_succ hr hi).symm.trans hin, (hslot hin).symm.trans hs⟩
  · rintro ⟨hin, hs⟩
    have hin' := (isInUse_advance_one_succ hr hi).trans hin
    exact ⟨hin', (hslot hin').trans hs⟩

/-- A run at the base is its first segment followed by the run at the base of the window moved
by one. -/
theorem holdsRun_cons_iff (hr : r.WellFormed) :
    r.HoldsRun r.base (p :: held) ↔
      (r.isInUse r.base = true ∧ r.slot r.base = some p) ∧
        (r.advanceBase 1).HoldsRun (r.advanceBase 1).base held := by
  have hcap := hr.capacity_lt
  constructor
  · intro h
    have hlen := h.length_le_capacity hr
    rw [List.length_cons] at hlen
    have h0 := h.holds 0 (by simp)
    rw [show r.base + (0 : Nat).toUInt16 = r.base by simp] at h0
    refine ⟨h0, fun i hi ↦ ?_, ?_⟩
    · -- the segment `i` places into the rest is `i + 1` places into the run
      have hsucc := h.holds (i + 1) (by simp [hi])
      rw [List.getElem_cons_succ] at hsucc
      exact (holds_advance_one_iff hr (by omega) _).2 hsucc
    · rw [isInUse_advance_one_succ hr (by omega)]
      simpa using h.ends
  · rintro ⟨⟨hu, hp⟩, h⟩
    have hlen := h.length_le_capacity (hr.advanceBase 1)
    rw [capacity_advanceBase] at hlen
    refine ⟨fun i hi ↦ ?_, ?_⟩
    · cases i with
      | zero => simpa using ⟨hu, hp⟩
      | succ i =>
        -- past the first segment, the run is the rest read off the moved window
        have hrest := (holds_advance_one_iff hr (by simp at hi; omega) _).1
          (h.holds i (by simpa using hi))
        rwa [List.getElem_cons_succ]
    · have hend := h.ends
      rw [isInUse_advance_one_succ hr (by omega)] at hend
      simpa using hend

/-- Every well-formed buffer holds a run at its base, no longer than its counter of slots in use:
walking along the run, each step releases the slot it leaves and takes the counter down. -/
theorem exists_holdsRun {r : SegmentBuffer} (hr : r.WellFormed) :
    ∃ held, r.HoldsRun r.base held ∧ held.length ≤ r.inUse := by
  cases hu : r.isInUse r.base with
  | false => exact ⟨[], ⟨fun i hi ↦ absurd hi (Nat.not_lt_zero i), by simpa using hu⟩, Nat.zero_le _⟩
  | true =>
    obtain ⟨p, hp⟩ := exists_slot_of_isInUse hu
    have hlt := hr.inUse_advanceBase_one_lt hu
    obtain ⟨held, hrun, hcount⟩ := exists_holdsRun (hr.advanceBase 1)
    refine ⟨p :: held, (holdsRun_cons_iff hr).2 ⟨⟨hu, hp⟩, hrun⟩, ?_⟩
    rw [List.length_cons]
    omega
termination_by r.inUse

/-! ### The window moved one number at a time -/

/-- The buffer after `n` turns of the loop, each moving the window by one. -/
theorem base_iterate_advance (r : SegmentBuffer) (n : Nat) :
    ((fun r ↦ r.advanceBase 1)^[n] r).base = r.base + n.toUInt16 := by
  induction n with
  | zero => simp
  | succ n ih =>
    rw [Function.iterate_succ_apply', base_advanceBase, ih, UInt16.add_assoc, toUInt16_add_one]

theorem WellFormed.iterate_advance (hr : r.WellFormed) (n : Nat) :
    ((fun r ↦ r.advanceBase 1)^[n] r).WellFormed := by
  induction n with
  | zero => exact hr
  | succ n ih =>
    rw [Function.iterate_succ_apply']
    exact ih.advanceBase 1

/-- Moving the window by one `n` times keeps in use exactly the numbers in use at least `n` past
the old base. -/
theorem isInUse_iterate_advance (hr : r.WellFormed) {n : Nat} (hn : n < 65536) (q : UInt16) :
    ((fun r ↦ r.advanceBase 1)^[n] r).isInUse q =
      (decide (n ≤ (Seq.offset q r.base).toNat) && r.isInUse q) := by
  induction n with
  | zero => simp
  | succ n ih =>
    rw [Function.iterate_succ_apply', isInUse_advanceBase (hr.iterate_advance n), ih (by omega),
      base_iterate_advance]
    by_cases hq : n ≤ (Seq.offset q r.base).toNat
    · -- measured from the moved base, `q` is `n` places closer
      have hn' : (n.toUInt16).toNat = n := by simp; omega
      rw [Seq.toNat_offset_add_right (by rw [hn']; exact hq), hn']
      by_cases hq' : n + 1 ≤ (Seq.offset q r.base).toNat <;> simp [hq, hq'] <;> omega
    · have hq' : ¬ n + 1 ≤ (Seq.offset q r.base).toNat := by omega
      simp [hq, hq']

/-- A number still in use after `n` moves of the window holds the bytes it held before them. -/
theorem slot_iterate_advance (hr : r.WellFormed) {n : Nat} {q : UInt16}
    (h : ((fun r ↦ r.advanceBase 1)^[n] r).isInUse q = true) :
    ((fun r ↦ r.advanceBase 1)^[n] r).slot q = r.slot q := by
  induction n with
  | zero => rfl
  | succ n ih =>
    rw [Function.iterate_succ_apply'] at h ⊢
    rw [(hr.iterate_advance n).slot_advanceBase h]
    rw [isInUse_advanceBase (hr.iterate_advance n), Bool.and_eq_true] at h
    exact ih h.2

/-- Moving the window past a run at its base and the gap after it drains exactly the run. -/
theorem HoldsRun.drainedTo (hr : r.WellFormed) (h : r.HoldsRun r.base held) :
    r.DrainedTo held ((fun r ↦ r.advanceBase 1)^[held.length + 1] r) where
  base := by rw [base_iterate_advance, toUInt16_add_one, UInt16.add_assoc]
  isInUse q := by
    have hlen := h.length_le_capacity hr
    have hcap := hr.capacity_lt
    rw [isInUse_iterate_advance hr (by omega), Bool.and_eq_true, decide_eq_true_iff]
    exact and_comm
  slot _ := slot_iterate_advance hr

end SegmentBuffer

namespace Endpoint

/-- The endpoint the delivery loop leaves when, from receive buffer `r`, it delivers the run
`held`: the run handed over in order, the last delivered number moved to its end, and the buffer
moved once for each delivery and once more past the gap that ends the run. -/
def afterDrain (e : Endpoint) (r : SegmentBuffer) (held : List Bytes) : Endpoint :=
  { e with
    effects := e.effects ++ held.map .deliver
    session := { e.session with
      receiveRing := some ((fun r ↦ r.advanceBase 1)^[held.length + 1] r)
      info := { e.session.info with
        receiveAcked := e.session.info.receiveAcked + held.length.toUInt16 } } }

end Endpoint

namespace Act

open SegmentBuffer

variable {held : List Bytes}

/-- The delivery loop, entered with the buffer starting one past the last delivered number and a
budget of more turns than the run at the buffer's base is long, delivers exactly that run. -/
theorem run_drainHeld_of_holdsRun {e : Endpoint} {r : SegmentBuffer} (hwf : r.WellFormed)
    (hr : e.session.receiveRing = some r) (hbase : r.base = e.session.info.receiveAcked + 1)
    (hrun : r.HoldsRun r.base held) {fuel : Nat} (hfuel : held.length < fuel) :
    ((drainHeld fuel).run e).2 = e.afterDrain r held := by
  induction held generalizing e r fuel with
  | nil =>
    obtain ⟨n, rfl⟩ : ∃ n, fuel = n + 1 := ⟨fuel - 1, by simp at hfuel; omega⟩
    -- a gap at once: the window moves past it and nothing is delivered
    have hu : r.isInUse (e.session.info.receiveAcked + 1) = false := by
      simpa [hbase] using hrun.ends
    rw [run_drainHeld_of_not_inUse e hr hu]
    simp [Endpoint.afterDrain]
  | cons p held ih =>
    obtain ⟨n, rfl⟩ : ∃ n, fuel = n + 1 := ⟨fuel - 1, by simp at hfuel; omega⟩
    obtain ⟨⟨hu, hp⟩, hrest⟩ := (holdsRun_cons_iff hwf).1 hrun
    rw [hbase] at hu hp
    -- one delivery, then the loop goes on from the window moved by one
    rw [run_drainHeld_of_inUse e hr hu hp, ih (hwf.advanceBase 1) rfl
      (by rw [base_advanceBase, hbase]) hrest (by simp at hfuel; omega)]
    simp only [Endpoint.afterDrain, List.map_cons, List.append_assoc, List.singleton_append,
      List.length_cons, Function.iterate_succ_apply]
    rw [toUInt16_add_one, UInt16.add_assoc, UInt16.add_comm 1]

end Act

namespace Endpoint

/-- What delivering `payload` as the next expected segment does at `e`, whose receive buffer
`ring` holds the run `held` right behind it. -/
structure DeliversRun (e : Endpoint) (ring : SegmentBuffer) (payload : Bytes) (held : List Bytes) :
    Prop where
  /-- `held` is the run the buffer holds from its base on, up to the first number not in use. -/
  run : ring.HoldsRun ring.base held
  /-- The run is no longer than the buffer's counter of slots in use. -/
  run_le : held.length ≤ ring.inUse
  /-- The buffer left behind starts past the run and its gap and keeps the rest as it was. -/
  drained : ring.DrainedTo held ((fun r ↦ r.advanceBase 1)^[held.length + 1] ring)
  /-- Entered one past the last delivered number, the loop is done after at most one turn more
  than the counter of slots in use: every larger budget ends at the same endpoint. -/
  loop : ∀ (e₁ : Endpoint) (fuel : Nat), e₁.session.receiveRing = some ring →
    ring.base = e₁.session.info.receiveAcked + 1 → ring.inUse < fuel →
    ((Act.drainHeld fuel).run e₁).2 = e₁.afterDrain ring held
  /-- Delivering hands over the payload and then the run, in order, and leaves the last
  delivered number at the end of the run. -/
  delivers : ((Act.deliver (e.session.info.receiveAcked + 1) payload).run e).2 =
    afterDrain { e with
      effects := e.effects ++ [.deliver payload]
      session := { e.session with info := { e.session.info with
        receiveAcked := e.session.info.receiveAcked + 1 } } } ring held

/-- Delivering the next expected payload at an endpoint whose well-formed receive buffer starts
two past the last delivered number hands over the payload and the run held behind it, and
nothing else: the loop ends at the first number not in use, within one turn more than the
counter of slots in use, with the window past the run and its gap and every other held segment
kept. -/
theorem deliver_drains_held_run {e : Endpoint} {ring : SegmentBuffer} (hwf : ring.WellFormed)
    (hr : e.session.receiveRing = some ring) (hbase : ring.base = e.session.info.receiveAcked + 2)
    (payload : Bytes) : ∃ held, e.DeliversRun ring payload held := by
  obtain ⟨held, hrun, hcount⟩ := SegmentBuffer.exists_holdsRun hwf
  have loop : ∀ (e₁ : Endpoint) (fuel : Nat), e₁.session.receiveRing = some ring →
      ring.base = e₁.session.info.receiveAcked + 1 → ring.inUse < fuel →
      ((Act.drainHeld fuel).run e₁).2 = e₁.afterDrain ring held :=
    fun e₁ _ hr₁ hb₁ hfuel ↦ Act.run_drainHeld_of_holdsRun hwf hr₁ hb₁ hrun (by omega)
  refine ⟨held, hrun, hcount, hrun.drainedTo hwf, loop, ?_⟩
  -- `deliver` runs the loop with a budget of the capacity plus one
  have hcap := hwf.inUse_le_capacity
  rw [Act.run_deliver, hr, Option.map_some, Option.getD_some]
  exact loop _ _ hr (by rw [hbase, UInt16.add_assoc]; rfl) (by omega)

end Endpoint

/-- A window of four slots from number 3, holding a run of two segments, then a gap, then one
more segment. -/
def SegmentBuffer.runThenGap : SegmentBuffer :=
  ((((SegmentBuffer.new 256 4).setBase 3).store 3 [7]).2.store 4 [8]).2.store 6 [9] |>.2

/-- A connected session that last delivered number 1, with the buffer `runThenGap`, delivering
number 2. -/
theorem deliver_drains_run_then_gap :
    SegmentBuffer.runThenGap.WellFormed ∧
    ({ session :=
        { state := .connected
          info := { config := {}, receiveAcked := 1 }
          receiveRing := some SegmentBuffer.runThenGap } } : Endpoint).session.receiveRing =
      some SegmentBuffer.runThenGap ∧
    SegmentBuffer.runThenGap.base = (1 : UInt16) + 2 ∧
    ∃ held, Endpoint.DeliversRun
      { session :=
        { state := .connected
          info := { config := {}, receiveAcked := 1 }
          receiveRing := some SegmentBuffer.runThenGap } } SegmentBuffer.runThenGap [5] held := by
  have hwf : SegmentBuffer.runThenGap.WellFormed :=
    ((((SegmentBuffer.WellFormed.new 256 4).setBase 3).store 3 [7]).store 4 [8]).store 6 [9]
  have hbase : SegmentBuffer.runThenGap.base = (1 : UInt16) + 2 := by
    simp [SegmentBuffer.runThenGap]
  exact ⟨hwf, rfl, hbase, Endpoint.deliver_drains_held_run hwf rfl hbase [5]⟩

end ReliableDatagram
