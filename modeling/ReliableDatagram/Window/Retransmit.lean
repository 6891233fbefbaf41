import ReliableDatagram.Sequence
import ReliableDatagram.Timer
/-!
# Retransmission queues

A retransmission queue keeps, for each sent segment not yet acknowledged, the wake-up that will
resend it. Like a slot ring it covers a window of consecutive sequence numbers starting at
`base`; entries are indexed by offset from the base.

Every live entry holds the handle of a pending `Timer.retransmission` wake-up for its sequence
number. Replacing, removing or moving the window past an entry cancels its wake-up; when the
wake-up is delivered the entry is either rescheduled under a fresh handle, counting one more
transmission, or dropped. A wake-up whose handle is not the live entry's is stale and changes
nothing.
-/

namespace ReliableDatagram

/-- A sent segment awaiting acknowledgment. -/
structure Entry where
  /-- The pending wake-up that resends it. -/
  handle : Handle
  /-- The delay between transmissions, in milliseconds. -/
  timeout : Nat
  /-- How often it has been sent again, saturating at 255. -/
  transmissions : UInt8
  deriving DecidableEq, Repr

/-- What delivering a retransmission wake-up did. -/
inductive FireOutcome where
  /-- The segment was sent again and a new wake-up scheduled. -/
  | rescheduled
  /-- The segment was not sent again and its entry is gone. -/
  | exhausted
  /-- The wake-up belonged to no live entry; nothing changed. -/
  | stale
  deriving DecidableEq, Repr

namespace FireOutcome

/-- The outcome's name as rendered. -/
def label : FireOutcome → String
  | rescheduled => "Rescheduled"
  | exhausted => "Exhausted"
  | stale => "Stale"

end FireOutcome

/-- Entries for a window of sequence numbers. -/
structure RetransmitQueue where
  /-- The first sequence number of the window. -/
  base : UInt16
  /-- The entry at each offset, if any. -/
  entries : List (Option Entry)
  /-- How many entries are live, counted as they come and go. -/
  inUse : Nat
  deriving DecidableEq, Repr

namespace RetransmitQueue

/-- An empty queue of `max count 1` entries, based at zero. -/
def new (count : UInt8) : RetransmitQueue :=
  { base := 0, entries := List.replicate (max count.toNat 1) none, inUse := 0 }

/-- The number of sequence numbers the window covers. -/
def capacity (q : RetransmitQueue) : Nat :=
  q.entries.length

/-- The offset of `seq` in the window, when it lies there. -/
def offset? (q : RetransmitQueue) (seq : UInt16) : Option Nat :=
  let o := (Seq.offset seq q.base).toNat
  if o < q.capacity then some o else none

/-- Whether `seq` lies in the window. -/
def hasSlot (q : RetransmitQueue) (seq : UInt16) : Bool :=
  (Seq.offset seq q.base).toNat < q.capacity

/-- The live entry for `seq`. -/
def entry? (q : RetransmitQueue) (seq : UInt16) : Option Entry :=
  match q.offset? seq with
  | some o => (q.entries[o]?).getD none
  | none => none

/-- The number of live entries, as counted. -/
def inUseCount (q : RetransmitQueue) : Nat :=
  q.inUse

/-- Cancels the wake-ups of a list of entries. -/
def cancelAll (s : Schedule) (es : List (Option Entry)) : Schedule :=
  es.foldl (fun s e ↦ s.cancel? (e.map Entry.handle)) s

/-- Moves the window to start at `b`, dropping every entry and cancelling its wake-up. -/
def setBase (q : RetransmitQueue) (s : Schedule) (b : UInt16) : RetransmitQueue × Schedule :=
  ({ base := b, entries := List.replicate q.capacity none, inUse := 0 }, cancelAll s q.entries)

/-- Moves the window forward by `k`, dropping the `k` oldest entries (all of them when `k` is
at least the capacity) and cancelling their wake-ups. -/
def advance (q : RetransmitQueue) (s : Schedule) (k : UInt16) : RetransmitQueue × Schedule :=
  if k.toNat ≥ q.capacity then q.setBase s (q.base + k)
  else
    ({ base := q.base + k, entries := q.entries.drop k.toNat ++ List.replicate k.toNat none,
        inUse := q.inUse - (q.entries.take k.toNat).countP Option.isSome },
      cancelAll s (q.entries.take k.toNat))

/-- Records a segment sent for `seq`: any entry there is replaced (its wake-up cancelled) by
one with no retransmissions and a fresh wake-up after `timeout` milliseconds. Outside the
window nothing changes; the addition succeeds exactly when `hasSlot` holds. -/
def add (q : RetransmitQueue) (s : Schedule) (seq : UInt16) (timeout : Nat) :
    RetransmitQueue × Schedule :=
  match q.offset? seq with
  | some o =>
    let s := s.cancel? ((q.entry? seq).map Entry.handle)
    let (h, s) := s.add timeout (.retransmission seq)
    let inUse := if (q.entry? seq).isSome then q.inUse else q.inUse + 1
    ({ q with entries := q.entries.set o (some ⟨h, timeout, 0⟩), inUse }, s)
  | none => (q, s)

/-- Drops the entry for `seq`, cancelling its wake-up. -/
def remove (q : RetransmitQueue) (s : Schedule) (seq : UInt16) : RetransmitQueue × Schedule :=
  match q.offset? seq with
  | some o =>
    let inUse := if (q.entry? seq).isSome then q.inUse - 1 else q.inUse
    ({ q with entries := q.entries.set o none, inUse }, s.cancel? ((q.entry? seq).map Entry.handle))
  | none => (q, s)

/-- The live entry for `seq` whose wake-up has handle `h`. -/
def due? (q : RetransmitQueue) (seq : UInt16) (h : Handle) : Option Entry :=
  (q.entry? seq).filter fun e ↦ e.handle = h

/-- Delivers the wake-up `h` for `seq`. A stale wake-up changes nothing. Otherwise, when
`resend` approves the entry, it counts one more transmission and waits again under a fresh
handle; when not, the entry is dropped. The delivered wake-up is already gone from the
schedule, so nothing is cancelled. -/
def fire (q : RetransmitQueue) (s : Schedule) (seq : UInt16) (h : Handle)
    (resend : Entry → Bool) : FireOutcome × RetransmitQueue × Schedule :=
  match q.offset? seq, q.due? seq h with
  | some o, some e =>
    if resend e then
      let (fresh, s) := s.add e.timeout (.retransmission seq)
      let count := if e.transmissions = 255 then 255 else e.transmissions + 1
      let next : Entry := { e with handle := fresh, transmissions := count }
      (.rescheduled, { q with entries := q.entries.set o (some next) }, s)
    else (.exhausted, { q with entries := q.entries.set o none, inUse := q.inUse - 1 }, s)
  | _, _ => (.stale, q, s)

/-! ### The window never changes size -/

@[simp] theorem capacity_new (count : UInt8) : (new count).capacity = max count.toNat 1 := by
  simp [new, capacity]

@[simp] theorem capacity_setBase (q : RetransmitQueue) (s : Schedule) (b : UInt16) :
    (q.setBase s b).1.capacity = q.capacity := by
  simp [setBase, capacity]

@[simp] theorem capacity_advance (q : RetransmitQueue) (s : Schedule) (k : UInt16) :
    (q.advance s k).1.capacity = q.capacity := by
  unfold advance
  split
  · exact capacity_setBase q s _
  · rename_i h
    simp only [capacity, List.length_append, List.length_drop, List.length_replicate] at h ⊢
    omega

@[simp] theorem capacity_add (q : RetransmitQueue) (s : Schedule) (seq : UInt16) (timeout : Nat) :
    (q.add s seq timeout).1.capacity = q.capacity := by
  unfold add
  split <;> simp [capacity]

@[simp] theorem capacity_remove (q : RetransmitQueue) (s : Schedule) (seq : UInt16) :
    (q.remove s seq).1.capacity = q.capacity := by
  unfold remove
  split <;> simp [capacity]

@[simp] theorem capacity_fire (q : RetransmitQueue) (s : Schedule) (seq : UInt16) (h : Handle)
    (resend : Entry → Bool) : (q.fire s seq h resend).2.1.capacity = q.capacity := by
  unfold fire
  split
  · split <;> simp [capacity]
  · rfl

/-- A stale wake-up changes nothing. -/
theorem fire_of_due?_eq_none (q : RetransmitQueue) (s : Schedule) (seq : UInt16) (h : Handle)
    (resend : Entry → Bool) (hd : q.due? seq h = none) :
    q.fire s seq h resend = (.stale, q, s) := by
  unfold fire
  split
  · simp_all
  · rfl

end RetransmitQueue

end ReliableDatagram
