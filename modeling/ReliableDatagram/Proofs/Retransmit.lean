import Mathlib.Data.List.Nodup
import ReliableDatagram.Proofs.BufferView
import ReliableDatagram.Window.Retransmit
import ReliableDatagram.Session.Host
/-!
# Wake-ups and retransmission entries

The host's schedule and the retransmission queue together decide which wake-ups are pending.
This module states both by what a caller can observe:

* of a schedule, which handle is pending for which timer (`Schedule.Has`), and that handles
  are fresh (`Schedule.Fresh`): every pending handle was issued, no two pending wake-ups share
  one, so the next handle is pending nowhere;
* of a queue, the live entry of each sequence number (`entry?`).

Each queue operation is then described twice: what it does to `entry?`, and what it does to the
schedule, which is always to withdraw the wake-ups of the entries it drops and to add one for
each entry it arms. A queue never drops an entry without withdrawing its wake-up, which is what
lets a session prove that it holds exactly the wake-ups that are pending.
-/

namespace ReliableDatagram

namespace Schedule

/-- A wake-up with handle `h` armed for `timer` is pending. -/
def Has (s : Schedule) (h : Handle) (timer : Timer) : Prop :=
  ∃ a ∈ s.pending, a.handle = h ∧ a.timer = timer

/-- Handles are fresh: each pending handle was issued, and no two pending wake-ups share one. -/
structure Fresh (s : Schedule) : Prop where
  issued : ∀ a ∈ s.pending, a.handle.id ≤ s.issued
  nodup : (s.pending.map Alarm.handle).Nodup

@[simp] theorem issued_add (s : Schedule) (d : Nat) (t : Timer) : (s.add d t).2.issued = s.issued + 1 :=
  rfl

@[simp] theorem issued_cancel (s : Schedule) (h : Handle) : (s.cancel h).issued = s.issued := rfl

@[simp] theorem issued_cancel? (s : Schedule) (h : Option Handle) : (s.cancel? h).issued = s.issued := by
  cases h <;> rfl

@[simp] theorem issued_deliver (s : Schedule) (h : Handle) (t : Timer) :
    (s.deliver h t).issued = s.issued := rfl

theorem has_add {s : Schedule} {d : Nat} {t : Timer} {h : Handle} {t' : Timer} :
    (s.add d t).2.Has h t' ↔ s.Has h t' ∨ (h = ⟨s.issued + 1⟩ ∧ t' = t) := by
  simp only [Has, pending_add, List.mem_append, List.mem_singleton]
  constructor
  · rintro ⟨a, ha, hh, ht⟩
    rcases ha with ha | rfl
    · exact .inl ⟨a, ha, hh, ht⟩
    · exact .inr ⟨hh.symm, ht.symm⟩
  · rintro (⟨a, ha, hh, ht⟩ | ⟨hh, ht⟩)
    · exact ⟨a, .inl ha, hh, ht⟩
    · exact ⟨_, .inr rfl, hh.symm, ht.symm⟩

theorem has_cancel {s : Schedule} {h₀ h : Handle} {t : Timer} :
    (s.cancel h₀).Has h t ↔ s.Has h t ∧ h ≠ h₀ := by
  simp only [Has, pending_cancel, List.mem_filter, decide_eq_true_eq]
  constructor
  · rintro ⟨a, ⟨ha, hne⟩, rfl, rfl⟩
    exact ⟨⟨a, ha, rfl, rfl⟩, hne⟩
  · rintro ⟨⟨a, ha, rfl, rfl⟩, hne⟩
    exact ⟨a, ⟨ha, hne⟩, rfl, rfl⟩

theorem has_cancel? {s : Schedule} {h₀ : Option Handle} {h : Handle} {t : Timer} :
    (s.cancel? h₀).Has h t ↔ s.Has h t ∧ h₀ ≠ some h := by
  cases h₀ with
  | none => simp [cancel?]
  | some h₀ =>
    simp only [cancel?, has_cancel, ne_eq, Option.some.injEq]
    exact and_congr_right fun _ ↦ ⟨fun h e ↦ h e.symm, fun h e ↦ h e.symm⟩

theorem has_deliver {s : Schedule} {h₀ : Handle} {t₀ : Timer} {h : Handle} {t : Timer} :
    (s.deliver h₀ t₀).Has h t ↔ s.Has h t ∧ ¬ (h = h₀ ∧ t = t₀) := by
  simp only [Has, deliver, List.mem_filter, Bool.not_eq_true', Bool.and_eq_false_iff,
    beq_eq_false_iff_ne]
  constructor
  · rintro ⟨a, ⟨ha, hne⟩, rfl, rfl⟩
    refine ⟨⟨a, ha, rfl, rfl⟩, ?_⟩
    rintro ⟨e₁, e₂⟩
    rcases hne with hne | hne
    · exact hne e₁
    · exact hne e₂
  · rintro ⟨⟨a, ha, rfl, rfl⟩, hne⟩
    refine ⟨a, ⟨ha, ?_⟩, rfl, rfl⟩
    by_cases e : a.handle = h₀
    · exact .inr fun e' ↦ hne ⟨e, e'⟩
    · exact .inl e

namespace Fresh

theorem empty : Fresh {} where
  issued := by simp
  nodup := by simp

/-- No pending wake-up has the handle that will be issued next. -/
theorem not_has_next {s : Schedule} (hs : s.Fresh) (t : Timer) : ¬ s.Has ⟨s.issued + 1⟩ t := by
  rintro ⟨a, ha, hh, -⟩
  have := hs.issued a ha
  rw [hh] at this
  exact Nat.not_succ_le_self _ this

/-- A pending handle is pending for one timer only. -/
theorem unique {s : Schedule} (hs : s.Fresh) {h : Handle} {t t' : Timer} (ht : s.Has h t)
    (ht' : s.Has h t') : t = t' := by
  obtain ⟨a, ha, rfl, rfl⟩ := ht
  obtain ⟨b, hb, hab, rfl⟩ := ht'
  have := List.inj_on_of_nodup_map hs.nodup ha hb hab.symm
  rw [this]

theorem add {s : Schedule} (hs : s.Fresh) (d : Nat) (t : Timer) : (s.add d t).2.Fresh where
  issued := by
    intro a ha
    simp only [pending_add, List.mem_append, List.mem_singleton] at ha
    rcases ha with ha | rfl
    · have := hs.issued a ha
      simp only [issued_add]
      omega
    · simp
  nodup := by
    simp only [pending_add, List.map_append, List.map_singleton]
    refine List.nodup_append.2 ⟨hs.nodup, List.nodup_singleton _, ?_⟩
    intro x hx y hy
    simp only [List.mem_singleton] at hy
    obtain ⟨a, ha, rfl⟩ := List.mem_map.1 hx
    subst hy
    intro e
    have := hs.issued a ha
    rw [e] at this
    exact Nat.not_succ_le_self _ this

theorem filter {s : Schedule} (hs : s.Fresh) (p : Alarm → Bool) :
    Fresh { s with pending := s.pending.filter p } where
  issued a ha := hs.issued a (List.mem_of_mem_filter ha)
  nodup := hs.nodup.sublist (List.filter_sublist.map _)

theorem cancel {s : Schedule} (hs : s.Fresh) (h : Handle) : (s.cancel h).Fresh :=
  hs.filter _

theorem cancel? {s : Schedule} (hs : s.Fresh) (h : Option Handle) : (s.cancel? h).Fresh := by
  cases h with
  | none => exact hs
  | some h => exact hs.cancel h

theorem deliver {s : Schedule} (hs : s.Fresh) (h : Handle) (t : Timer) : (s.deliver h t).Fresh :=
  hs.filter _

end Fresh

/-- The schedule holds exactly the wake-ups `held` names: `held t` is the one handle pending for
`t`, if any. -/
def Tracks (s : Schedule) (held : Timer → Option Handle) : Prop :=
  ∀ h t, s.Has h t ↔ held t = some h

namespace Tracks

variable {s : Schedule} {held : Timer → Option Handle}

/-- Withdrawing the wake-up held for `t` forgets that one only: handles are fresh, so no other
timer holds the same handle. -/
theorem cancel? (ht : s.Tracks held) (hs : s.Fresh) {t : Timer} {h₀ : Option Handle}
    (h₀t : held t = h₀) : (s.cancel? h₀).Tracks (Function.update held t none) := by
  intro h t'
  rw [has_cancel?, ht]
  by_cases e : t' = t
  · subst e h₀t
    simp
  · rw [Function.update_of_ne e]
    refine ⟨And.left, fun hh ↦ ⟨hh, ?_⟩⟩
    rintro rfl
    exact e (hs.unique ((ht h t').2 hh) ((ht h t).2 h₀t))

/-- Arming a timer that holds nothing makes the next handle its own. -/
theorem add (ht : s.Tracks held) {t : Timer} (hnone : held t = none) (d : Nat) :
    (s.add d t).2.Tracks (Function.update held t (some ⟨s.issued + 1⟩)) := by
  intro h t'
  rw [has_add, ht]
  by_cases e : t' = t
  · subst e
    simp [hnone, eq_comm]
  · simp [e]

/-- Delivering the wake-up held for `t` forgets it. -/
theorem deliver (ht : s.Tracks held) {h₀ : Handle} {t : Timer} (h₀t : held t = some h₀) :
    (s.deliver h₀ t).Tracks (Function.update held t none) := by
  intro h t'
  rw [has_deliver, ht]
  by_cases e : t' = t
  · subst e
    simp only [Function.update_self, reduceCtorEq, iff_false]
    rintro ⟨hh, hne⟩
    rw [h₀t, Option.some.injEq] at hh
    exact hne ⟨hh.symm, trivial⟩
  · simp [e]

/-- Delivering a wake-up that is not held leaves the schedule as it is. -/
theorem deliver_eq_self (ht : s.Tracks held) {h : Handle} {t : Timer} (hn : held t ≠ some h) :
    s.deliver h t = s := by
  have keep : ∀ a ∈ s.pending, (!(a.handle == h && a.timer == t)) = true := by
    intro a ha
    by_contra hc
    simp only [Bool.not_eq_true', Bool.not_eq_false, Bool.and_eq_true, beq_iff_eq] at hc
    exact hn ((ht h t).1 ⟨a, ha, hc.1, hc.2⟩)
  unfold Schedule.deliver
  rw [List.filter_eq_self.2 keep]

end Tracks

end Schedule

namespace Timers

/-- The wake-up held for each timer: the recorded handshake, keep-alive and disconnect handles,
and for each sequence number the handle `retransmissions` gives. -/
@[simp] def held (t : Timers) (retransmissions : UInt16 → Option Handle) : Timer → Option Handle
  | .handshake => t.handshake
  | .keepAlive => t.keepAlive
  | .disconnect => t.disconnect
  | .retransmission n => retransmissions n

theorem held_update (t : Timers) (f : UInt16 → Option Handle) (n : UInt16) (x : Option Handle) :
    t.held (Function.update f n x) = Function.update (t.held f) (.retransmission n) x := by
  funext t'
  cases t' <;> simp [Function.update_apply]

end Timers

namespace RetransmitQueue

/-- The handle of the live entry for each sequence number. -/
def handles (q : RetransmitQueue) (n : UInt16) : Option Handle :=
  (q.entry? n).map Entry.handle

/-! ### Entries by sequence number -/

theorem offset?_eq_some_iff {q : RetransmitQueue} {n : UInt16} {o : Nat} :
    q.offset? n = some o ↔ (Seq.offset n q.base).toNat = o ∧ o < q.capacity := by
  simp only [offset?]
  split <;> constructor
  · rintro ⟨⟩
    exact ⟨rfl, ‹_›⟩
  · rintro ⟨rfl, -⟩
    rfl
  · rintro ⟨⟩
  · rintro ⟨rfl, h⟩
    contradiction

theorem hasSlot_iff {q : RetransmitQueue} {n : UInt16} :
    q.hasSlot n = true ↔ ∃ o, q.offset? n = some o := by
  simp [hasSlot, offset?]

/-- The live entry of a number is the entry stored at its offset. -/
theorem entry?_eq_some_iff {q : RetransmitQueue} {n : UInt16} {e : Entry} :
    q.entry? n = some e ↔ q.entries[(Seq.offset n q.base).toNat]? = some (some e) := by
  unfold entry? offset?
  by_cases h : (Seq.offset n q.base).toNat < q.capacity
  · cases hx : q.entries[(Seq.offset n q.base).toNat]? <;> simp [h, hx]
  · have hnone : q.entries[(Seq.offset n q.base).toNat]? = none :=
      List.getElem?_eq_none (Nat.le_of_not_lt h)
    simp [h, hnone]

/-- A number outside the window has no live entry. -/
theorem entry?_eq_none_of_le {q : RetransmitQueue} {n : UInt16}
    (h : q.capacity ≤ (Seq.offset n q.base).toNat) : q.entry? n = none := by
  cases he : q.entry? n with
  | none => rfl
  | some e =>
    rw [entry?_eq_some_iff, List.getElem?_eq_none h] at he
    cases he

/-- Setting the entry at the offset of `seq` changes the entry of `seq` only. -/
theorem entry?_set {q : RetransmitQueue} {seq : UInt16} {o : Nat} (ho : q.offset? seq = some o)
    (x : Option Entry) {u : Nat} (n : UInt16) :
    RetransmitQueue.entry? { q with entries := q.entries.set o x, inUse := u } n =
      if n = seq then x else q.entry? n := by
  obtain ⟨hoff, hlt⟩ := offset?_eq_some_iff.1 ho
  apply Option.ext
  intro e
  rw [entry?_eq_some_iff]
  dsimp only
  by_cases hn : n = seq
  · subst hn
    rw [if_pos rfl, hoff, List.getElem?_set_self hlt, Option.some.injEq]
  · have hne : o ≠ (Seq.offset n q.base).toNat := by
      intro h
      exact hn (Seq.eq_of_offset_eq (UInt16.toNat_inj.1 (h ▸ hoff).symm))
    rw [if_neg hn, List.getElem?_set_ne hne, entry?_eq_some_iff]

/-- Every live entry sits at the offset of exactly one number; those among the first `k`
offsets are the live entries of the numbers less than `k` past the base. -/
theorem mem_take_entries_iff {q : RetransmitQueue} (hq : q.capacity < 256) {k : Nat}
    {e : Entry} :
    some e ∈ q.entries.take k ↔ ∃ n, q.entry? n = some e ∧ (Seq.offset n q.base).toNat < k := by
  rw [List.mem_iff_getElem?]
  constructor
  · rintro ⟨i, hi⟩
    have hik : i < k := by
      by_contra hle
      rw [List.getElem?_take_eq_none (Nat.le_of_not_lt hle)] at hi
      cases hi
    rw [List.getElem?_take_of_lt hik] at hi
    have hicap : i < q.capacity := (List.getElem?_eq_some_iff.1 hi).1
    have hoff := Seq.offset_add_left q.base i (by omega)
    refine ⟨q.base + i.toUInt16, ?_, by rw [hoff]; exact hik⟩
    rw [entry?_eq_some_iff, hoff]
    exact hi
  · rintro ⟨n, hn, hk⟩
    rw [entry?_eq_some_iff] at hn
    exact ⟨_, by rw [List.getElem?_take_of_lt hk]; exact hn⟩

theorem mem_entries_iff {q : RetransmitQueue} (hq : q.capacity < 256) {e : Entry} :
    some e ∈ q.entries ↔ ∃ n, q.entry? n = some e := by
  have hall : q.entries.take q.capacity = q.entries := List.take_of_length_le (Nat.le_refl _)
  rw [← hall, mem_take_entries_iff hq]
  constructor
  · rintro ⟨n, hn, -⟩
    exact ⟨n, hn⟩
  · rintro ⟨n, hn⟩
    refine ⟨n, hn, Nat.lt_of_not_le fun hle ↦ ?_⟩
    rw [entry?_eq_none_of_le hle] at hn
    cases hn

/-! ### What each operation leaves of the window -/

@[simp] theorem base_setBase (q : RetransmitQueue) (s : Schedule) (b : UInt16) :
    (q.setBase s b).1.base = b := rfl

@[simp] theorem base_advance (q : RetransmitQueue) (s : Schedule) (k : UInt16) :
    (q.advance s k).1.base = q.base + k := by
  unfold advance
  split <;> rfl

@[simp] theorem entry?_setBase (q : RetransmitQueue) (s : Schedule) (b n : UInt16) :
    RetransmitQueue.entry? (q.setBase s b).1 n = none := by
  cases he : RetransmitQueue.entry? (q.setBase s b).1 n with
  | none => rfl
  | some e =>
    rw [entry?_eq_some_iff] at he
    simp [setBase, List.getElem?_replicate] at he

/-- Moving the window by `k` keeps exactly the entries at least `k` past the old base. -/
theorem entry?_advance {q : RetransmitQueue} (hq : q.capacity < 256) (s : Schedule)
    (k n : UInt16) :
    RetransmitQueue.entry? (q.advance s k).1 n =
      if k.toNat ≤ (Seq.offset n q.base).toNat then q.entry? n else none := by
  by_cases hk : k.toNat < q.capacity
  · have hlen : q.entries.length = q.capacity := rfl
    apply Option.ext
    intro e
    rw [entry?_eq_some_iff]
    unfold advance
    rw [if_neg (Nat.not_le.2 hk)]
    dsimp only
    by_cases hko : k.toNat ≤ (Seq.offset n q.base).toNat
    · rw [if_pos hko, entry?_eq_some_iff, Seq.toNat_offset_add_right hko]
      by_cases hoff : (Seq.offset n q.base).toNat < q.capacity
      · rw [List.getElem?_append_left (by simp; omega), List.getElem?_drop,
          Nat.add_sub_cancel' hko]
      · rw [List.getElem?_append_right (by simp; omega), List.getElem?_replicate,
          List.getElem?_eq_none (by omega)]
        split <;> simp
    · rw [if_neg hko, Seq.toNat_offset_add_right_of_lt (Nat.lt_of_not_le hko),
        List.getElem?_eq_none (by simp; omega)]
      simp
  · unfold advance
    rw [if_pos (Nat.le_of_not_lt hk), entry?_setBase]
    split
    · exact (entry?_eq_none_of_le (by omega)).symm
    · rfl

/-- Outside the window `add` changes nothing; inside, the entry of `seq` gets the next handle. -/
theorem add_of_offset? {q : RetransmitQueue} {seq : UInt16} {o : Nat}
    (ho : q.offset? seq = some o) (s : Schedule) (timeout : Nat) :
    q.add s seq timeout =
      ({ q with
          entries := q.entries.set o (some ⟨⟨s.issued + 1⟩, timeout, 0⟩)
          inUse := if (q.entry? seq).isSome then q.inUse else q.inUse + 1 },
        ((s.cancel? (q.handles seq)).add timeout (.retransmission seq)).2) := by
  simp [add, ho, handles]

theorem add_of_offset?_eq_none {q : RetransmitQueue} {seq : UInt16} (ho : q.offset? seq = none)
    (s : Schedule) (timeout : Nat) : q.add s seq timeout = (q, s) := by
  simp [add, ho]

theorem remove_of_offset? {q : RetransmitQueue} {seq : UInt16} {o : Nat}
    (ho : q.offset? seq = some o) (s : Schedule) :
    q.remove s seq = ({ q with
        entries := q.entries.set o none
        inUse := if (q.entry? seq).isSome then q.inUse - 1 else q.inUse },
      s.cancel? (q.handles seq)) := by
  simp [remove, ho, handles]

theorem remove_of_offset?_eq_none {q : RetransmitQueue} {seq : UInt16}
    (ho : q.offset? seq = none) (s : Schedule) : q.remove s seq = (q, s) := by
  simp [remove, ho]

theorem due?_eq_some_iff {q : RetransmitQueue} {seq : UInt16} {h : Handle} {e : Entry} :
    q.due? seq h = some e ↔ q.entry? seq = some e ∧ e.handle = h := by
  simp [due?, Option.filter_eq_some_iff]

/-- A due wake-up either reschedules its entry under the next handle or drops it. -/
theorem fire_of_due? {q : RetransmitQueue} {seq : UInt16} {h : Handle} {e : Entry}
    (hd : q.due? seq h = some e) (s : Schedule) (resend : Entry → Bool) :
    ∃ o, q.offset? seq = some o ∧ q.fire s seq h resend =
      if resend e then
        (.rescheduled, { q with entries := q.entries.set o (some { e with
            handle := ⟨s.issued + 1⟩,
            transmissions := if e.transmissions = 255 then 255 else e.transmissions + 1 }) },
          (s.add e.timeout (.retransmission seq)).2)
      else (.exhausted, { q with entries := q.entries.set o none, inUse := q.inUse - 1 }, s) := by
  have hsome : ∃ o, q.offset? seq = some o := by
    cases ho : q.offset? seq with
    | some o => exact ⟨o, rfl⟩
    | none =>
      have he := (due?_eq_some_iff.1 hd).1
      simp [RetransmitQueue.entry?, ho] at he
  obtain ⟨o, ho⟩ := hsome
  refine ⟨o, ho, ?_⟩
  simp only [fire, ho, hd]
  split <;> rfl

/-! ### Which wake-ups each operation withdraws and arms -/

theorem has_cancelAll {s : Schedule} {es : List (Option Entry)} {h : Handle} {t : Timer} :
    (cancelAll s es).Has h t ↔ s.Has h t ∧ ∀ x ∈ es, x.map Entry.handle ≠ some h := by
  induction es generalizing s with
  | nil => simp [cancelAll]
  | cons x es ih =>
    change (cancelAll (s.cancel? (x.map Entry.handle)) es).Has h t ↔ _
    rw [ih, Schedule.has_cancel?, List.forall_mem_cons, and_assoc]

theorem fresh_cancelAll {s : Schedule} (hs : s.Fresh) (es : List (Option Entry)) :
    (cancelAll s es).Fresh := by
  induction es generalizing s with
  | nil => exact hs
  | cons x es ih => exact ih (hs.cancel? _)

/-- Cancelling the wake-ups of the live entries `dropped` picks: when `es` holds exactly those
entries, the schedule then tracks the queue without them. The other timers keep theirs, since a
handle held by an entry is held for that entry's retransmission and nothing else. -/
theorem tracks_cancelAll {s : Schedule} (hs : s.Fresh) {T : Timers} {q : RetransmitQueue}
    (ht : s.Tracks (T.held q.handles)) {es : List (Option Entry)} {dropped : UInt16 → Bool}
    (hes : ∀ e, some e ∈ es ↔ ∃ n, q.entry? n = some e ∧ dropped n = true) :
    (cancelAll s es).Tracks (T.held fun n ↦ if dropped n then none else q.handles n) := by
  -- a cancelled handle is held for a dropped number's retransmission and for nothing else
  have only : ∀ {h t}, T.held q.handles t = some h → (∃ x ∈ es, x.map Entry.handle = some h) →
      ∃ n, t = .retransmission n ∧ dropped n = true := by
    rintro h t hh ⟨x, hx, hxh⟩
    obtain ⟨e, rfl, rfl⟩ := Option.map_eq_some_iff.1 hxh
    obtain ⟨n, hn, hd⟩ := (hes e).1 hx
    have hheld : T.held q.handles (.retransmission n) = some e.handle := by simp [handles, hn]
    exact ⟨n, hs.unique ((ht _ _).2 hh) ((ht _ _).2 hheld), hd⟩
  intro h t
  rw [has_cancelAll, ht]
  constructor
  · rintro ⟨hh, hnot⟩
    cases t with
    | retransmission n =>
      simp only [Timers.held, handles] at hh ⊢
      cases hd : dropped n
      · simpa using hh
      · -- the entry of a dropped number is among the cancelled ones
        obtain ⟨e, hn, rfl⟩ := Option.map_eq_some_iff.1 hh
        exact absurd (by simp) (hnot (some e) ((hes e).2 ⟨n, hn, hd⟩))
    | _ => exact hh
  · intro hh
    have hold : T.held q.handles t = some h := by
      cases t with
      | retransmission n =>
        simp only [Timers.held] at hh ⊢
        split at hh
        · cases hh
        · exact hh
      | _ => exact hh
    refine ⟨hold, fun x hx hxh ↦ ?_⟩
    obtain ⟨n, rfl, hd⟩ := only hold ⟨x, hx, hxh⟩
    simp [hd] at hh

/-- Setting the entry of `seq` changes the handle held for `seq` only. -/
theorem handles_set {q : RetransmitQueue} {seq : UInt16} {o : Nat} (ho : q.offset? seq = some o)
    (x : Option Entry) {u : Nat} :
    ({ q with entries := q.entries.set o x, inUse := u } : RetransmitQueue).handles =
      Function.update q.handles seq (x.map Entry.handle) := by
  funext n
  simp only [handles, entry?_set ho, Function.update_apply]
  split <;> rfl

section Operations

variable {q : RetransmitQueue} {s : Schedule} {T : Timers}

theorem fresh_setBase (hs : s.Fresh) (b : UInt16) : (q.setBase s b).2.Fresh :=
  fresh_cancelAll hs _

theorem fresh_advance (hs : s.Fresh) (k : UInt16) : (q.advance s k).2.Fresh := by
  unfold advance
  split
  · exact fresh_setBase hs _
  · exact fresh_cancelAll hs _

theorem fresh_add (hs : s.Fresh) (seq : UInt16) (timeout : Nat) :
    (q.add s seq timeout).2.Fresh := by
  cases ho : q.offset? seq with
  | none => rw [add_of_offset?_eq_none ho]; exact hs
  | some o => rw [add_of_offset? ho]; exact (hs.cancel? _).add _ _

theorem fresh_remove (hs : s.Fresh) (seq : UInt16) : (q.remove s seq).2.Fresh := by
  cases ho : q.offset? seq with
  | none => rw [remove_of_offset?_eq_none ho]; exact hs
  | some o => rw [remove_of_offset? ho]; exact hs.cancel? _

theorem fresh_fire (hs : s.Fresh) (seq : UInt16) (h : Handle) (resend : Entry → Bool) :
    (q.fire s seq h resend).2.2.Fresh := by
  cases hd : q.due? seq h with
  | none => rw [fire_of_due?_eq_none q s seq h resend hd]; exact hs
  | some e =>
    obtain ⟨o, -, hfire⟩ := fire_of_due? hd s resend
    rw [hfire]
    split
    · exact hs.add _ _
    · exact hs

/-- Moving the window to a new base withdraws the wake-ups of all entries. -/
theorem tracks_setBase (hq : q.capacity < 256) (hs : s.Fresh) (ht : s.Tracks (T.held q.handles))
    (b : UInt16) : (q.setBase s b).2.Tracks (T.held (q.setBase s b).1.handles) := by
  have hnone : (q.setBase s b).1.handles = fun n ↦ if true then none else q.handles n := by
    funext n
    simp [handles]
  rw [hnone]
  exact tracks_cancelAll hs ht fun e ↦ by simp [mem_entries_iff hq]

/-- Moving the window forward withdraws the wake-ups of the entries it drops. -/
theorem tracks_advance (hq : q.capacity < 256) (hs : s.Fresh) (ht : s.Tracks (T.held q.handles))
    (k : UInt16) : (q.advance s k).2.Tracks (T.held (q.advance s k).1.handles) := by
  by_cases hk : k.toNat < q.capacity
  · have hkept : (q.advance s k).1.handles =
        fun n ↦ if decide ((Seq.offset n q.base).toNat < k.toNat) then none else q.handles n := by
      funext n
      simp only [handles, entry?_advance hq]
      by_cases hn : k.toNat ≤ (Seq.offset n q.base).toNat
      · simp [hn, Nat.not_lt.2 hn]
      · simp [hn, Nat.lt_of_not_le hn]
    have hsched : (q.advance s k).2 = cancelAll s (q.entries.take k.toNat) := by
      unfold advance
      rw [if_neg (Nat.not_le.2 hk)]
    rw [hkept, hsched]
    exact tracks_cancelAll hs ht fun e ↦ by simp [mem_take_entries_iff hq]
  · have hall : q.advance s k = q.setBase s (q.base + k) := by
      unfold advance
      rw [if_pos (Nat.le_of_not_lt hk)]
    rw [hall]
    exact tracks_setBase hq hs ht _

/-- Adding an entry withdraws the wake-up of the one it replaces and arms its own. -/
theorem tracks_add (hs : s.Fresh) (ht : s.Tracks (T.held q.handles)) (seq : UInt16)
    (timeout : Nat) : (q.add s seq timeout).2.Tracks (T.held (q.add s seq timeout).1.handles) := by
  cases ho : q.offset? seq with
  | none => rw [add_of_offset?_eq_none ho]; exact ht
  | some o =>
    rw [add_of_offset? ho]
    dsimp only
    rw [handles_set ho, Option.map_some, Timers.held_update]
    have hcancel : (s.cancel? (q.handles seq)).Tracks
        (Function.update (T.held q.handles) (.retransmission seq) none) := ht.cancel? hs rfl
    have harm := hcancel.add (Function.update_self _ _ _) timeout
    rwa [Function.update_idem, Schedule.issued_cancel?] at harm

/-- Removing an entry withdraws its wake-up. -/
theorem tracks_remove (hs : s.Fresh) (ht : s.Tracks (T.held q.handles)) (seq : UInt16) :
    (q.remove s seq).2.Tracks (T.held (q.remove s seq).1.handles) := by
  cases ho : q.offset? seq with
  | none => rw [remove_of_offset?_eq_none ho]; exact ht
  | some o =>
    rw [remove_of_offset? ho]
    dsimp only
    rw [handles_set ho, Option.map_none, Timers.held_update]
    exact ht.cancel? hs rfl

/-- A due wake-up, already delivered and so no longer pending, either rearms its entry under
the next handle or leaves the entry dropped. -/
theorem tracks_fire {seq : UInt16} {h : Handle} {e : Entry} (hd : q.due? seq h = some e)
    (ht : s.Tracks (T.held (Function.update q.handles seq none))) (resend : Entry → Bool) :
    (q.fire s seq h resend).2.2.Tracks (T.held (q.fire s seq h resend).2.1.handles) := by
  obtain ⟨o, ho, hfire⟩ := fire_of_due? hd s resend
  rw [hfire]
  split
  · dsimp only
    have hre : Function.update q.handles seq (some (⟨s.issued + 1⟩ : Handle)) =
        Function.update (Function.update q.handles seq none) seq (some ⟨s.issued + 1⟩) :=
      (Function.update_idem _ _ _).symm
    rw [handles_set ho, Option.map_some, hre, Timers.held_update]
    exact ht.add (by simp) _
  · dsimp only
    rwa [handles_set ho, Option.map_none]

end Operations

end RetransmitQueue

end ReliableDatagram
