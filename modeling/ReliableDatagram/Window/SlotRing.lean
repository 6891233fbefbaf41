import ReliableDatagram.Sequence
import ReliableDatagram.Wire.Word
/-!
# Slot rings

A slot ring holds the segments of a window of consecutive sequence numbers: the segments a
side has sent and not yet seen acknowledged, or the segments it has received ahead of the next
expected one. The window starts at `base` and spans `capacity` numbers; the number `q` lies at
offset `Seq.offset q base` and has a slot exactly when that offset is below the capacity.

The ring keeps two things apart:

* `marks`, indexed by offset, says which slots are in use and how many bytes each holds;
* `frames`, indexed by physical position, holds the bytes. Offset `o` lives at physical
  position `(origin + o) % capacity`, so moving the window forward moves `origin` and never
  copies bytes.

Bytes are never erased: releasing a slot or moving the window only clears its mark, so a slot's
region still shows what an earlier occupant wrote until it is overwritten. Each frame stores
only the prefix that has been written; the rest of its region reads as zeros.

A slot region has `slotSize` bytes, at least 256 so that any header fits; the capacity is at
least one.
-/

namespace ReliableDatagram

/-- A window of slots over consecutive sequence numbers. -/
structure SlotRing where
  /-- The number of bytes of every slot region. -/
  slotSize : Nat
  /-- The written prefix of each region, by physical position. -/
  frames : List Bytes
  /-- The physical position of offset zero. -/
  origin : Nat
  /-- The first sequence number of the window. -/
  base : UInt16
  /-- For each offset, the length of the segment held there, or `none` when not in use. -/
  marks : List (Option Nat)
  deriving DecidableEq, Repr

namespace SlotRing

/-- The smallest slot size: room for any header and one more byte. -/
def minSlotSize : Nat := 256

/-- An empty ring of `max slotCount 1` slots of `max slotSize 256` bytes, based at zero. -/
def new (slotSize : UInt16) (slotCount : UInt8) : SlotRing :=
  let count := max slotCount.toNat 1
  { slotSize := max slotSize.toNat minSlotSize, frames := List.replicate count [],
    origin := 0, base := 0, marks := List.replicate count none }

/-- The number of slots. -/
def capacity (r : SlotRing) : Nat :=
  r.marks.length

/-- The offset of `q` in the window, when it has a slot. -/
def offset? (r : SlotRing) (q : UInt16) : Option Nat :=
  let o := (Seq.offset q r.base).toNat
  if o < r.capacity then some o else none

/-- Whether `q` lies in the window. -/
def hasSlot (r : SlotRing) (q : UInt16) : Bool :=
  (Seq.offset q r.base).toNat < r.capacity

/-- The physical position of an offset. -/
def position (r : SlotRing) (o : Nat) : Nat :=
  (r.origin + o) % r.capacity

/-- The whole region of the slot at offset `o`: its written prefix, then zeros. -/
def regionAt (r : SlotRing) (o : Nat) : Bytes :=
  let frame := (r.frames[r.position o]?).getD []
  frame ++ List.replicate (r.slotSize - frame.length) 0

/-- The mark at offset `o`. -/
def markAt (r : SlotRing) (o : Nat) : Option Nat :=
  (r.marks[o]?).getD none

/-- Whether `q` is in the window and its slot is in use. -/
def inUse (r : SlotRing) (q : UInt16) : Bool :=
  match r.offset? q with
  | some o => (r.markAt o).isSome
  | none => false

/-- The first `n` bytes of the region at offset `o` (all of it when `n` is larger), read
without building the whole region: the written prefix, then as many zeros as are asked for. -/
def readAt (r : SlotRing) (o n : Nat) : Bytes :=
  let frame := (r.frames[r.position o]?).getD []
  let zeros := min n r.slotSize - frame.length
  if frame.length ≤ n then (if zeros = 0 then frame else frame ++ List.replicate zeros 0)
  else frame.take n

/-- The segment held for `q`: the first bytes of its region, as many as its mark says (none
when the slot is not in use); `none` outside the window. -/
def slot? (r : SlotRing) (q : UInt16) : Option Bytes :=
  (r.offset? q).map fun o ↦ r.readAt o ((r.markAt o).getD 0)

/-- The whole region of the slot for `q`; `none` outside the window. -/
def region? (r : SlotRing) (q : UInt16) : Option Bytes :=
  (r.offset? q).map r.regionAt

/-- `src` written over `frame` from position `pos` on, the gap before it filled with zeros. -/
def overwrite (frame : Bytes) (pos : Nat) (src : Bytes) : Bytes :=
  let padded := frame ++ List.replicate (pos + src.length - frame.length) 0
  padded.take pos ++ src ++ padded.drop (pos + src.length)

/-- Writes `src` into the region of `q` from position `pos` on; bytes past the end of the
region are dropped. Outside the window nothing changes. -/
def write (r : SlotRing) (q : UInt16) (pos : Nat) (src : Bytes) : SlotRing :=
  let kept := src.take (r.slotSize - pos)
  match r.offset? q with
  | some o =>
    if kept.isEmpty then r
    else
      let p := r.position o
      { r with frames := r.frames.set p (overwrite ((r.frames[p]?).getD []) pos kept) }
  | none => r

/-- Marks the slot of `q` in use with `len` bytes, cut to the slot size; outside the window
nothing changes. -/
def markInUse (r : SlotRing) (q : UInt16) (len : Nat) : SlotRing :=
  match r.offset? q with
  | some o => { r with marks := r.marks.set o (some (min len r.slotSize)) }
  | none => r

/-- Stores a segment for `q`: its first `slotSize` bytes are written at the start of the
region and the slot is marked in use with that many bytes. Outside the window nothing changes;
the store succeeds exactly when `hasSlot` holds. -/
def store (r : SlotRing) (q : UInt16) (bytes : Bytes) : SlotRing :=
  let kept := bytes.take r.slotSize
  (r.write q 0 kept).markInUse q kept.length

/-- Releases the slot of `q`; its bytes stay. -/
def unmark (r : SlotRing) (q : UInt16) : SlotRing :=
  match r.offset? q with
  | some o => { r with marks := r.marks.set o none }
  | none => r

/-- Moves the window to start at `b` with every slot released. -/
def setBase (r : SlotRing) (b : UInt16) : SlotRing :=
  { r with origin := 0, base := b, marks := List.replicate r.capacity none }

/-- Moves the window forward by `k`, releasing the `k` oldest slots; moving by the capacity or
more releases all of them and starts over at physical position zero. -/
def advance (r : SlotRing) (k : UInt16) : SlotRing :=
  if k.toNat ≥ r.capacity then r.setBase (r.base + k)
  else
    { r with origin := (r.origin + k.toNat) % r.capacity, base := r.base + k,
             marks := r.marks.drop k.toNat ++ List.replicate k.toNat none }

/-- The offsets in use, in increasing order, found in one pass over the marks. -/
def usedOffsets (r : SlotRing) : List Nat :=
  (List.range r.capacity).zip r.marks |>.filterMap fun (o, m) ↦ m.map fun _ ↦ o

/-- The sequence numbers in use, in increasing order of offset. -/
def inUseSeqs (r : SlotRing) : List UInt16 :=
  r.usedOffsets.map fun o ↦ r.base + o.toUInt16

/-- The first `n` sequence numbers in use, in increasing order of offset. -/
def enumerate (r : SlotRing) (n : Nat) : List UInt16 :=
  r.inUseSeqs.take n

/-- The number of slots in use. -/
def inUseCount (r : SlotRing) : Nat :=
  r.marks.countP Option.isSome

/-! ### The window never changes size -/

@[simp] theorem capacity_new (size : UInt16) (count : UInt8) :
    (new size count).capacity = max count.toNat 1 := by
  simp [new, capacity]

@[simp] theorem capacity_setBase (r : SlotRing) (b : UInt16) : (r.setBase b).capacity = r.capacity := by
  simp [setBase, capacity]

@[simp] theorem capacity_advance (r : SlotRing) (k : UInt16) : (r.advance k).capacity = r.capacity := by
  unfold advance
  split
  · exact capacity_setBase r _
  · rename_i h
    simp only [capacity, List.length_append, List.length_drop, List.length_replicate] at h ⊢
    omega

@[simp] theorem capacity_write (r : SlotRing) (q : UInt16) (pos : Nat) (src : Bytes) :
    (r.write q pos src).capacity = r.capacity := by
  unfold write
  split
  · dsimp only
    split <;> rfl
  · rfl

@[simp] theorem capacity_markInUse (r : SlotRing) (q : UInt16) (len : Nat) :
    (r.markInUse q len).capacity = r.capacity := by
  unfold markInUse
  split <;> simp [capacity]

@[simp] theorem capacity_store (r : SlotRing) (q : UInt16) (bytes : Bytes) :
    (r.store q bytes).capacity = r.capacity := by
  simp [store]

@[simp] theorem capacity_unmark (r : SlotRing) (q : UInt16) : (r.unmark q).capacity = r.capacity := by
  unfold unmark
  split <;> simp [capacity]

/-- Reading a prefix gives the prefix of the whole region. -/
theorem readAt_eq_take_regionAt (r : SlotRing) (o n : Nat) :
    r.readAt o n = (r.regionAt o).take n := by
  unfold readAt regionAt
  dsimp only
  generalize (r.frames[r.position o]?).getD [] = frame
  rw [List.take_append, List.take_replicate]
  split
  · rename_i h
    rw [List.take_of_length_le h]
    split
    · rename_i hz
      have : min (n - frame.length) (r.slotSize - frame.length) = 0 := by omega
      simp [this]
    · congr 2
      omega
  · rename_i h
    have : n - frame.length = 0 := by omega
    simp [this]

/-- A number has a slot exactly when it has an offset in the window. -/
theorem hasSlot_eq_isSome_offset? (r : SlotRing) (q : UInt16) :
    r.hasSlot q = (r.offset? q).isSome := by
  unfold hasSlot offset?
  dsimp only
  split <;> simp_all

end SlotRing

end ReliableDatagram
