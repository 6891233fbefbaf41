import ReliableDatagram.Proofs.Retransmit
/-!
# Retransmission queues keep their books

A retransmission queue used on its own shares its schedule with no other wake-up. Whatever a
caller then does to it, the books agree: the count is the number of live entries, the live
entries sit at offsets below the capacity, every pending wake-up is the one a live entry holds
for its own sequence number, and a delivered wake-up that is not an entry's current one changes
nothing.

`RetransmitQueue.Op` lists what a caller does, firing included: the scheduler forgets a wake-up
as it delivers it, and the queue is told afterwards. `Kept` is what one operation preserves
(`Kept.apply`), so every run from a new queue and an empty schedule keeps it; `Books` lists what a
caller can read off a kept queue (`Kept.books`). Main statement
(`RetransmitQueue.books_of_runOps`): after any sequence of operations from `new count`, the
queue and its schedule keep their books.
-/

namespace ReliableDatagram

namespace RetransmitQueue

/-- What a caller does to a queue and the schedule it shares. Firing delivers the wake-up `h`
for `seq`; `resend` decides from the entry whether the segment goes out again. -/
inductive Op where
  | setBase (b : UInt16)
  | advance (k : UInt16)
  | add (seq : UInt16) (timeout : Nat)
  | remove (seq : UInt16)
  | fire (seq : UInt16) (h : Handle) (resend : Entry → Bool)

/-- The queue and schedule after one operation. -/
def apply (q : RetransmitQueue) (s : Schedule) : Op → RetransmitQueue × Schedule
  | .setBase b => q.setBase s b
  | .advance k => q.advance s k
  | .add seq timeout => q.add s seq timeout
  | .remove seq => q.remove s seq
  | .fire seq h resend => (q.fire (s.deliver h (.retransmission seq)) seq h resend).2

/-- The queue and schedule after a sequence of operations. -/
def runOps (q : RetransmitQueue) (s : Schedule) : List Op → RetransmitQueue × Schedule
  | [] => (q, s)
  | op :: ops => (q.apply s op).1.runOps (q.apply s op).2 ops

@[simp] theorem capacity_apply (q : RetransmitQueue) (s : Schedule) (op : Op) :
    (q.apply s op).1.capacity = q.capacity := by
  cases op <;> simp [apply]

/-! ### The count follows the live entries -/

/-- The count is the number of live entries. -/
def Counted (q : RetransmitQueue) : Prop :=
  q.inUse = q.entries.countP Option.isSome

section Counted

variable {q : RetransmitQueue} {seq : UInt16} {o : Nat}

/-- Setting the entry of `seq` changes the number of live entries by what it drops and what it
puts there. -/
theorem countP_set_entry (ho : q.offset? seq = some o) (x : Option Entry) :
    (q.entries.set o x).countP Option.isSome + (if (q.entry? seq).isSome then 1 else 0) =
      q.entries.countP Option.isSome + (if x.isSome then 1 else 0) := by
  have hlt : o < q.entries.length := (offset?_eq_some_iff.1 ho).2
  have hget : q.entries[o] = q.entry? seq := by
    simp [ entry?, ho, List.getElem?_eq_getElem hlt]
  have hle := List.boole_getElem_le_countP (p := Option.isSome) hlt
  rw [List.countP_set hlt, hget]
  rw [hget] at hle
  by_cases hs : (q.entry? seq).isSome
  · rw [if_pos hs] at hle ⊢
    omega
  · rw [if_neg hs]
    omega

/-- Setting one entry keeps the count when the count moves by what the entry gains or loses. -/
theorem Counted.set (hc : q.Counted) (ho : q.offset? seq = some o) (x : Option Entry) {u : Nat}
    (hu : u = q.inUse + (if x.isSome then 1 else 0) - (if (q.entry? seq).isSome then 1 else 0)) :
    ({ q with entries := q.entries.set o x, inUse := u } : RetransmitQueue).Counted := by
  have hset := countP_set_entry ho x
  unfold Counted at hc ⊢
  dsimp only
  omega

theorem counted_new (count : UInt8) : (new count).Counted := by
  simp [Counted, new, List.countP_replicate]

theorem counted_setBase (q : RetransmitQueue) (s : Schedule) (b : UInt16) :
    (q.setBase s b).1.Counted := by
  simp [Counted, setBase, List.countP_replicate]

theorem Counted.advance (hc : q.Counted) (s : Schedule) (k : UInt16) :
    (q.advance s k).1.Counted := by
  unfold RetransmitQueue.advance
  split
  · exact counted_setBase q s _
  · -- the dropped entries are the first `k`, which the count loses
    have hsplit := congrArg (List.countP Option.isSome) (List.take_append_drop k.toNat q.entries)
    rw [List.countP_append] at hsplit
    simp only [Counted, List.countP_append, List.countP_replicate, Option.isSome_none,
      Bool.false_eq_true, ↓reduceIte, Nat.add_zero] at hc ⊢
    omega

theorem Counted.add (hc : q.Counted) (s : Schedule) (seq : UInt16) (timeout : Nat) :
    (q.add s seq timeout).1.Counted := by
  cases ho : q.offset? seq with
  | none => rw [add_of_offset?_eq_none ho]; exact hc
  | some o =>
    rw [add_of_offset? ho]
    refine hc.set ho _ ?_
    by_cases hs : (q.entry? seq).isSome <;> simp [hs]

theorem Counted.remove (hc : q.Counted) (s : Schedule) (seq : UInt16) :
    (q.remove s seq).1.Counted := by
  cases ho : q.offset? seq with
  | none => rw [remove_of_offset?_eq_none ho]; exact hc
  | some o =>
    rw [remove_of_offset? ho]
    refine hc.set ho _ ?_
    by_cases hs : (q.entry? seq).isSome <;> simp [hs]

theorem Counted.fire (hc : q.Counted) (s : Schedule) (seq : UInt16) (h : Handle)
    (resend : Entry → Bool) : (q.fire s seq h resend).2.1.Counted := by
  cases hd : q.due? seq h with
  | none => rw [fire_of_due?_eq_none q s seq h resend hd]; exact hc
  | some e =>
    -- the fired entry is live, so it is counted before it is rearmed or dropped
    have hlive : (q.entry? seq).isSome = true := by
      rw [(due?_eq_some_iff.1 hd).1]
      rfl
    obtain ⟨o, ho, hfire⟩ := fire_of_due? hd s resend
    rw [hfire]
    -- rearmed, the entry stays live; out of retries, it is dropped
    split <;> exact hc.set ho _ (by simp [hlive])

theorem Counted.apply (hc : q.Counted) (s : Schedule) (op : Op) : (q.apply s op).1.Counted := by
  cases op with
  | setBase b => exact counted_setBase q s b
  | advance k => exact hc.advance s k
  | add seq timeout => exact hc.add s seq timeout
  | remove seq => exact hc.remove s seq
  | fire seq h resend => exact hc.fire _ seq h resend

/-- Every sequence of operations keeps the count, whatever else shares the schedule. -/
theorem Counted.runOps (hc : q.Counted) (s : Schedule) (ops : List Op) :
    (q.runOps s ops).1.Counted := by
  induction ops generalizing q s with
  | nil => exact hc
  | cons op ops ih => exact ih (hc.apply s op) _

end Counted

/-- Every decrease of the count finds what it takes away counted: a live entry that is removed
or runs out of retries, and the oldest entries a move of the window drops. -/
structure CountCovers (q : RetransmitQueue) : Prop where
  counted : q.inUseCount = q.entries.countP Option.isSome
  drop : ∀ seq, (q.entry? seq).isSome → 1 ≤ q.inUseCount
  advance : ∀ k, (q.entries.take k).countP Option.isSome ≤ q.inUseCount

theorem Counted.covers {q : RetransmitQueue} (hc : q.Counted) : q.CountCovers where
  counted := hc
  drop seq hs := by
    obtain ⟨e, he⟩ := Option.isSome_iff_exists.1 hs
    have hmem : some e ∈ q.entries := List.mem_of_getElem? (entry?_eq_some_iff.1 he)
    rw [inUseCount, hc]
    exact List.countP_pos_iff.2 ⟨_, hmem, rfl⟩
  advance k := by
    rw [inUseCount, hc]
    exact (List.take_sublist k q.entries).countP_le

/-! ### The invariant of a queue used on its own -/

/-- What every operation preserves of a queue built by `new count` and the schedule it shares
with nothing else: the window's size, the count, fresh handles, and a schedule holding exactly
the live entries' wake-ups. -/
structure Kept (count : UInt8) (q : RetransmitQueue) (s : Schedule) : Prop where
  capacity : q.capacity = max count.toNat 1
  counted : q.Counted
  fresh : s.Fresh
  tracks : s.Tracks (({} : Timers).held q.handles)

/-- What a caller can rely on of a queue built by `new count`, and of its schedule, after any
sequence of operations. -/
structure Books (count : UInt8) (q : RetransmitQueue) (s : Schedule) : Prop where
  /-- The window covers `max count 1` numbers. -/
  capacity : q.capacity = max count.toNat 1
  /-- Live entries sit at offsets below that. -/
  live_lt : ∀ seq e, q.entry? seq = some e → (Seq.offset seq q.base).toNat < max count.toNat 1
  /-- The count is the number of live entries. -/
  counted : q.inUseCount = q.entries.countP Option.isSome
  /-- Dropping a live entry, as removing and exhausting do, finds it counted. -/
  covers_drop : ∀ seq, (q.entry? seq).isSome → 1 ≤ q.inUseCount
  /-- Moving past the `k` oldest entries finds them all counted. -/
  covers_advance : ∀ k, (q.entries.take k).countP Option.isSome ≤ q.inUseCount
  /-- A wake-up is pending exactly when a live entry holds its handle for its own number. -/
  pending : ∀ h t, s.Has h t ↔
    ∃ seq e, q.entry? seq = some e ∧ e.handle = h ∧ t = .retransmission seq
  /-- No two live entries hold the same handle. -/
  distinct : ∀ n m e e', q.entry? n = some e → q.entry? m = some e' → e.handle = e'.handle →
    n = m
  /-- Handles are issued fresh, and no two pending wake-ups share one. -/
  fresh : s.Fresh
  /-- Moving the window by `k` keeps exactly the entries at least `k` past the base. -/
  advance : ∀ k n, RetransmitQueue.entry? (q.advance s k).1 n =
    if k.toNat ≤ (Seq.offset n q.base).toNat then q.entry? n else none
  /-- Moving the window to a new base drops every entry. -/
  setBase : ∀ b n, RetransmitQueue.entry? (q.setBase s b).1 n = none
  /-- A delivered wake-up is stale, and changes nothing, exactly when it is not the live entry's
  own for its number. -/
  stale : ∀ seq h resend, q.fire (s.deliver h (.retransmission seq)) seq h resend = (.stale, q, s) ↔
    q.due? seq h = none

namespace Kept

variable {count : UInt8} {q : RetransmitQueue} {s : Schedule}

theorem capacity_lt (hk : Kept count q s) : q.capacity < 256 := by
  rw [hk.capacity]
  have := count.toNat_lt
  omega

/-- The wake-up pending for `t` is the one `t`'s live entry holds. -/
theorem held_eq_some_iff {h : Handle} {t : Timer} :
    ({} : Timers).held q.handles t = some h ↔
      ∃ seq e, q.entry? seq = some e ∧ e.handle = h ∧ t = .retransmission seq := by
  cases t with
  | retransmission n =>
    simp only [Timers.held, handles, Option.map_eq_some_iff, Timer.retransmission.injEq]
    constructor
    · rintro ⟨e, he, rfl⟩
      exact ⟨n, e, he, rfl, rfl⟩
    · rintro ⟨_, e, he, rfl, rfl⟩
      exact ⟨e, he, rfl⟩
  | _ => simp

theorem new (count : UInt8) : Kept count (new count) {} where
  capacity := capacity_new count
  counted := counted_new count
  fresh := .empty
  tracks h t := by
    -- a new queue is a queue moved to base zero, which holds nothing
    have hself : ((RetransmitQueue.new count).setBase {} 0).1 = RetransmitQueue.new count := by
      simp [RetransmitQueue.new, setBase, RetransmitQueue.capacity]
    have hnone : ∀ n, RetransmitQueue.entry? (RetransmitQueue.new count) n = none := fun n ↦ by
      rw [← hself]
      exact entry?_setBase _ _ _ n
    rw [held_eq_some_iff]
    simp [Schedule.Has, hnone]

/-- Delivering a wake-up first and then firing keeps the schedule tracking the queue. -/
theorem tracks_fire (hk : Kept count q s) (seq : UInt16) (h : Handle) (resend : Entry → Bool) :
    (q.fire (s.deliver h (.retransmission seq)) seq h resend).2.2.Tracks
      (({} : Timers).held (q.fire (s.deliver h (.retransmission seq)) seq h resend).2.1.handles) := by
  cases hd : q.due? seq h with
  | none =>
    -- a wake-up that is not the live entry's is not pending, so nothing is delivered
    have hne : ({} : Timers).held q.handles (.retransmission seq) ≠ some h := by
      simpa [handles, due?] using hd
    rw [hk.tracks.deliver_eq_self hne, fire_of_due?_eq_none q s seq h resend hd]
    exact hk.tracks
  | some e =>
    have hheld : ({} : Timers).held q.handles (.retransmission seq) = some h := by
      obtain ⟨he, rfl⟩ := due?_eq_some_iff.1 hd
      simp [handles, he]
    have hgone := hk.tracks.deliver hheld
    rw [← Timers.held_update] at hgone
    exact RetransmitQueue.tracks_fire hd hgone resend

/-- One operation keeps the books' invariant. -/
theorem apply (hk : Kept count q s) (op : Op) :
    Kept count (q.apply s op).1 (q.apply s op).2 := by
  have hcap : (q.apply s op).1.capacity = max count.toNat 1 := by
    rw [capacity_apply, hk.capacity]
  have hcount := hk.counted.apply s op
  -- the schedule's half is each operation's own: it issues fresh handles and keeps the wake-ups
  -- in step with the live entries
  cases op with
  | setBase b =>
    exact ⟨hcap, hcount, fresh_setBase hk.fresh b, tracks_setBase hk.capacity_lt hk.fresh hk.tracks b⟩
  | advance k =>
    exact ⟨hcap, hcount, fresh_advance hk.fresh k, tracks_advance hk.capacity_lt hk.fresh hk.tracks k⟩
  | add seq timeout =>
    exact ⟨hcap, hcount, fresh_add hk.fresh seq timeout, tracks_add hk.fresh hk.tracks seq timeout⟩
  | remove seq =>
    exact ⟨hcap, hcount, fresh_remove hk.fresh seq, tracks_remove hk.fresh hk.tracks seq⟩
  | fire seq h resend =>
    exact ⟨hcap, hcount, fresh_fire (hk.fresh.deliver h _) seq h resend,
      hk.tracks_fire seq h resend⟩

theorem runOps (hk : Kept count q s) (ops : List Op) :
    Kept count (q.runOps s ops).1 (q.runOps s ops).2 := by
  induction ops generalizing q s with
  | nil => exact hk
  | cons op ops ih => exact ih (hk.apply op)

/-- Firing is stale exactly when the wake-up is not the live entry's; then the delivery finds
nothing pending and the queue changes nothing. -/
theorem stale (hk : Kept count q s) (seq : UInt16) (h : Handle) (resend : Entry → Bool) :
    q.fire (s.deliver h (.retransmission seq)) seq h resend = (.stale, q, s) ↔
      q.due? seq h = none := by
  constructor
  · intro hfire
    cases hd : q.due? seq h with
    | none => rfl
    | some e =>
      obtain ⟨o, -, hfire'⟩ := fire_of_due? hd (s.deliver h (.retransmission seq)) resend
      rw [hfire'] at hfire
      split at hfire <;> cases hfire
  · intro hd
    have hne : ({} : Timers).held q.handles (.retransmission seq) ≠ some h := by
      simpa [handles, due?] using hd
    rw [hk.tracks.deliver_eq_self hne, fire_of_due?_eq_none q s seq h resend hd]

/-- What the invariant lets a caller read off. -/
theorem books (hk : Kept count q s) : Books count q s where
  capacity := hk.capacity
  live_lt seq e he := by
    rw [← hk.capacity]
    by_contra hle
    rw [entry?_eq_none_of_le (Nat.le_of_not_lt hle)] at he
    cases he
  counted := hk.counted
  covers_drop := hk.counted.covers.drop
  covers_advance := hk.counted.covers.advance
  pending h t := by rw [hk.tracks, held_eq_some_iff]
  distinct n m e e' hn hm hh := by
    -- both handles are pending, for `n` and for `m`; a pending handle names one timer
    have hpn : s.Has e.handle (.retransmission n) :=
      (hk.tracks _ _).2 (held_eq_some_iff.2 ⟨n, e, hn, rfl, rfl⟩)
    have hpm : s.Has e.handle (.retransmission m) :=
      (hk.tracks _ _).2 (held_eq_some_iff.2 ⟨m, e', hm, hh.symm, rfl⟩)
    exact Timer.retransmission.inj (hk.fresh.unique hpn hpm)
  fresh := hk.fresh
  advance k n := entry?_advance hk.capacity_lt s k n
  setBase b n := entry?_setBase q s b n
  stale := hk.stale

end Kept

/-- A retransmission queue built by `new count`, used on its own with a scheduler that issues
fresh handles and forgets a wake-up when it is cancelled or delivered, keeps its books through
every sequence of operations. -/
theorem books_of_runOps (count : UInt8) (ops : List Op) :
    Books count ((new count).runOps {} ops).1 ((new count).runOps {} ops).2 :=
  ((Kept.new count).runOps ops).books

/-- Two entries, then moving past the first: one entry and one wake-up are left. -/
example :
    let qs := (new 4).runOps {} [.setBase 10, .add 10 100, .add 11 100, .advance 1]
    qs.1.inUseCount = 1 ∧ qs.2.pending.map Alarm.handle = [⟨2⟩] := by
  decide

end RetransmitQueue

end ReliableDatagram
