import ReliableDatagram.Window.SlotRing
/-!
# Segment buffers

The buffer behind a slot ring, as the engine keeps it: a fixed number of physical slots, each
with its own byte region and a record of how many bytes it holds, whether it is in use, and its
neighbours on a list. `currentIndex` is the physical slot of the window's base, so moving the
window rotates the ring instead of moving bytes; the number `q` lives in physical slot
`(currentIndex + offset) % capacity`, where `offset` is its distance from the base.

The slots in use are threaded on a doubly linked list in order of offset, from `head` to
`tail`, so that listing them costs as many steps as there are slots in use. `link` puts a slot
in its place by walking back from the tail, which makes appending the quick case; `unlink`
takes a slot out. `inUse` counts the slots in use.

The two walks along the list, back from the tail in `link` and forward from the head in
`iterInUse`, are bounded by the capacity: on a buffer whose list threads the slots in use
(`SegmentBuffer.Wf`), neither is cut short.
-/

namespace ReliableDatagram

/-- The record of one physical slot. -/
structure Slot where
  /-- How many bytes the slot holds. -/
  len : Nat := 0
  /-- Whether the slot holds a segment. -/
  inUse : Bool := false
  /-- The slot before it on the list of slots in use. -/
  prev : Option Nat := none
  /-- The slot after it on the list of slots in use. -/
  next : Option Nat := none
  deriving DecidableEq, Repr

/-- A ring of slots over a window of consecutive sequence numbers, with the slots in use
threaded on a list in order of offset. -/
structure SegmentBuffer where
  /-- The number of bytes of every slot region. -/
  slotSize : Nat
  /-- The written prefix of each region, by physical slot. -/
  frames : List Bytes
  /-- The record of each physical slot. -/
  slots : List Slot
  /-- The first sequence number of the window. -/
  base : UInt16
  /-- The physical slot of the base. -/
  currentIndex : Nat
  /-- The first slot in use, in order of offset. -/
  head : Option Nat
  /-- The last slot in use, in order of offset. -/
  tail : Option Nat
  /-- The number of slots in use. -/
  inUse : Nat
  deriving DecidableEq, Repr

namespace SegmentBuffer

/-- An empty buffer of `max slotCount 1` slots of `max slotSize 256` bytes, based at zero. -/
def new (slotSize : UInt16) (slotCount : UInt8) : SegmentBuffer :=
  let count := max slotCount.toNat 1
  { slotSize := max slotSize.toNat SlotRing.minSlotSize, frames := List.replicate count [],
    slots := List.replicate count {}, base := 0, currentIndex := 0, head := none, tail := none,
    inUse := 0 }

/-- The number of slots. -/
def capacity (b : SegmentBuffer) : Nat :=
  b.slots.length

/-- The record of physical slot `i`. -/
def slotAt (b : SegmentBuffer) (i : Nat) : Slot :=
  (b.slots[i]?).getD {}

/-- Changes the record of physical slot `i`. -/
def modifySlot (b : SegmentBuffer) (i : Nat) (f : Slot → Slot) : SegmentBuffer :=
  { b with slots := b.slots.set i (f (b.slotAt i)) }

/-- Points the front of the list of slots in use at `h`. -/
def setHead (b : SegmentBuffer) (h : Option Nat) : SegmentBuffer :=
  { b with head := h }

/-- Points the end of the list of slots in use at `t`. -/
def setTail (b : SegmentBuffer) (t : Option Nat) : SegmentBuffer :=
  { b with tail := t }

/-- The physical slot at distance `o` from the base. -/
def position (b : SegmentBuffer) (o : Nat) : Nat :=
  (b.currentIndex + o) % b.capacity

/-- The physical slot of `q`, when `q` lies in the window. -/
def index (b : SegmentBuffer) (q : UInt16) : Option Nat :=
  let o := (Seq.offset q b.base).toNat
  if o < b.capacity then some (b.position o) else none

/-- The distance of physical slot `i` from the base. -/
def offset (b : SegmentBuffer) (i : Nat) : Nat :=
  (i + b.capacity - b.currentIndex) % b.capacity

/-- Whether `q` lies in the window. -/
def hasSlot (b : SegmentBuffer) (q : UInt16) : Bool :=
  (Seq.offset q b.base).toNat < b.capacity

/-- Whether `q` lies in the window and its slot is in use. -/
def isInUse (b : SegmentBuffer) (q : UInt16) : Bool :=
  match b.index q with
  | some i => (b.slotAt i).inUse
  | none => false

/-- The first `n` bytes of the region of physical slot `i` (all of it when `n` is larger): what
was written there, then zeros. -/
def readSlot (b : SegmentBuffer) (i n : Nat) : Bytes :=
  let frame := (b.frames[i]?).getD []
  (frame ++ List.replicate (b.slotSize - frame.length) 0).take n

/-- The bytes held for `q`, as many as its slot's record says; `none` outside the window. -/
def slot (b : SegmentBuffer) (q : UInt16) : Option Bytes :=
  (b.index q).map fun i ↦ b.readSlot i (b.slotAt i).len

/-- The whole region of the slot of `q`; `none` outside the window. -/
def region (b : SegmentBuffer) (q : UInt16) : Option Bytes :=
  (b.index q).map fun i ↦ b.readSlot i b.slotSize

/-- Writes `src` into the region of `q` from position `pos` on; bytes past the end of the region
are dropped. Outside the window nothing changes. -/
def write (b : SegmentBuffer) (q : UInt16) (pos : Nat) (src : Bytes) : SegmentBuffer :=
  let kept := src.take (b.slotSize - pos)
  match b.index q with
  | some i =>
    if kept.isEmpty then b
    else
      { b with frames := b.frames.set i (SlotRing.overwrite ((b.frames[i]?).getD []) pos kept) }
  | none => b

/-! ### The list of slots in use -/

/-- Walks back along the list from `after` to the first slot whose offset is below `o`, at most
`fuel` steps. -/
def walkBack (b : SegmentBuffer) (o : Nat) : Nat → Option Nat → Option Nat
  | fuel + 1, some c => if b.offset c < o then some c else b.walkBack o fuel (b.slotAt c).prev
  | _, _ => none

/-- The slots met walking forward along the list from the slot given, at most `fuel` of them. -/
def walk (b : SegmentBuffer) : Nat → Option Nat → List Nat
  | fuel + 1, some i => i :: b.walk fuel (b.slotAt i).next
  | _, _ => []

/-- The slot that follows `after` on the list, or the first slot when `after` is `none`. -/
def successor (b : SegmentBuffer) : Option Nat → Option Nat
  | some p => (b.slotAt p).next
  | none => b.head

/-- Threads slot `i` into the list of slots in use right after slot `after`, or at the front
when `after` is `none`. -/
def insertAfter (b : SegmentBuffer) (i : Nat) (after : Option Nat) : SegmentBuffer :=
  let next := b.successor after
  let b := b.modifySlot i fun s ↦ { s with prev := after, next := next }
  let b := match after with
    | some p => b.modifySlot p fun s ↦ { s with next := some i }
    | none => b.setHead (some i)
  match next with
  | some n => b.modifySlot n fun s ↦ { s with prev := some i }
  | none => b.setTail (some i)

/-- Threads slot `i` into the list of slots in use, keeping the list in order of offset: the
walk back from the tail finds the slot it goes after. -/
def link (b : SegmentBuffer) (i : Nat) : SegmentBuffer :=
  b.insertAfter i (b.walkBack (b.offset i) b.capacity b.tail)

/-- Takes slot `i` out of the list of slots in use, joining its neighbours. -/
def unlink (b : SegmentBuffer) (i : Nat) : SegmentBuffer :=
  let s := b.slotAt i
  let b := match s.prev with
    | some p => b.modifySlot p fun t ↦ { t with next := s.next }
    | none => b.setHead s.next
  match s.next with
  | some n => b.modifySlot n fun t ↦ { t with prev := s.prev }
  | none => b.setTail s.prev

/-! ### Operations -/

/-- Marks the slot of `q` as holding `len` bytes, cut to the slot size, and puts it on the list
if it was not in use; says whether `q` lies in the window. Outside the window nothing changes. -/
def markInUse (b : SegmentBuffer) (q : UInt16) (len : Nat) : Bool × SegmentBuffer :=
  match b.index q with
  | none => (false, b)
  | some i =>
    let b := b.modifySlot i fun s ↦ { s with len := min len b.slotSize }
    if (b.slotAt i).inUse then (true, b)
    else
      let b := (b.modifySlot i fun s ↦ { s with inUse := true }).link i
      (true, { b with inUse := b.inUse + 1 })

/-- Stores a segment for `q`: its first `slotSize` bytes are written at the start of the
region and the slot is marked as holding that many bytes. Says whether `q` lies in the window;
outside it nothing changes. -/
def store (b : SegmentBuffer) (q : UInt16) (bytes : Bytes) : Bool × SegmentBuffer :=
  let kept := bytes.take b.slotSize
  (b.write q 0 kept).markInUse q kept.length

/-- Releases the slot of `q`: it leaves the list and its record is cleared; its bytes stay.
Nothing changes when the slot is not in use. -/
def unmark (b : SegmentBuffer) (q : UInt16) : SegmentBuffer :=
  match b.index q with
  | none => b
  | some i =>
    if (b.slotAt i).inUse then
      let b := (b.unlink i).modifySlot i fun _ ↦ {}
      { b with inUse := b.inUse - 1 }
    else b

/-- Moves the window to start at `base` with every slot released; the bytes stay. -/
def setBase (b : SegmentBuffer) (base : UInt16) : SegmentBuffer :=
  { b with
    slots := List.replicate b.capacity {}, head := none, tail := none, inUse := 0,
    currentIndex := 0, base := base }

/-- Moves the window forward by `k`: the `k` oldest slots are released one by one, then the
ring turns by `k`. Moving by the capacity or more releases every slot and starts over at
physical slot zero. -/
def advanceBase (b : SegmentBuffer) (k : UInt16) : SegmentBuffer :=
  if k.toNat ≥ b.capacity then b.setBase (b.base + k)
  else
    let b := (List.range k.toNat).foldl (fun b i ↦ b.unmark (b.base + i.toUInt16)) b
    { b with base := b.base + k, currentIndex := (b.currentIndex + k.toNat) % b.capacity }

/-- The sequence numbers in use, in the order of the list. -/
def iterInUse (b : SegmentBuffer) : List UInt16 :=
  (b.walk b.capacity b.head).map fun i ↦ b.base + (b.offset i).toUInt16

/-- The first `n` sequence numbers in use, in the order of the list. -/
def enumerate (b : SegmentBuffer) (n : Nat) : List UInt16 :=
  b.iterInUse.take n

end SegmentBuffer

end ReliableDatagram
