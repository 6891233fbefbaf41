/-!
# Sequence numbers

Sequence numbers are 16-bit and wrap. Distances are measured forward from a base modulo
`2^16`, so a window of `len` numbers starting at `start` is the set of `q` whose forward
distance from `start` is at most `len` (both ends included).

All comparisons in the engine go through `Seq.offset`, which is what makes every rule
invariant under shifting all sequence numbers by the same amount.
-/

namespace ReliableDatagram

namespace Seq

/-- The forward distance from `base` to `q`, modulo `2^16`. -/
def offset (q base : UInt16) : UInt16 :=
  q - base

/-- Whether `q` lies in the `len + 1` numbers starting at `start`. -/
def inWindow (q start len : UInt16) : Bool :=
  offset q start ≤ len

@[simp] theorem offset_self (q : UInt16) : offset q q = 0 := by
  simp [offset]

theorem offset_add_add (q base k : UInt16) : offset (q + k) (base + k) = offset q base := by
  simp only [offset]
  grind

/-- The window test compares forward distances as numbers. -/
theorem inWindow_iff (q start len : UInt16) :
    inWindow q start len = true ↔ (offset q start).toNat ≤ len.toNat := by
  simp [inWindow, UInt16.le_iff_toNat_le]

/-- Shifting every number by the same amount does not change the window test. -/
theorem inWindow_add_add (q start len k : UInt16) :
    inWindow (q + k) (start + k) len = inWindow q start len := by
  simp only [inWindow, offset_add_add]

end Seq

end ReliableDatagram
