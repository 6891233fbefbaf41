/-!
# Timers and their schedule

A session asks its host to wake it later: after a handshake timeout, after an idle period,
after the disconnect grace period, or when a sent segment is due for retransmission. Each
request gets a handle; the session remembers the handles it holds and ignores a wake-up whose
handle it no longer holds.

`Schedule` is the host's side of this: it hands out fresh handles `1, 2, 3, …` in request
order, keeps the pending requests in that order, and forgets a request when it is cancelled or
delivered. A handle is never reused, so a stale wake-up can always be told from a live one.
-/

namespace ReliableDatagram

/-- What a session asks to be woken for. -/
inductive Timer where
  /-- Resend the SYN. -/
  | handshake
  /-- Check whether the connection has been idle. -/
  | keepAlive
  /-- End the disconnect grace period. -/
  | disconnect
  /-- Resend the segment with this sequence number. -/
  | retransmission (seq : UInt16)
  deriving DecidableEq, Repr

namespace Timer

/-- The timer's name as rendered, `Retransmission(101)` for a retransmission. -/
def label : Timer → String
  | handshake => "Handshake"
  | keepAlive => "KeepAlive"
  | disconnect => "Disconnect"
  | retransmission seq => "Retransmission(" ++ toString seq.toNat ++ ")"

end Timer

/-- The name of a scheduled wake-up. -/
structure Handle where
  /-- The handle's number. -/
  id : Nat
  deriving DecidableEq, Repr

/-- A pending wake-up: its handle, what it is for, and its delay in milliseconds. -/
structure Alarm where
  /-- The handle it was scheduled under. -/
  handle : Handle
  /-- What it is for. -/
  timer : Timer
  /-- The requested delay in milliseconds. -/
  delay : Nat
  deriving DecidableEq, Repr

/-- The host's record of pending wake-ups. -/
structure Schedule where
  /-- How many handles have been handed out; the next one is this plus one. -/
  issued : Nat := 0
  /-- The pending wake-ups, oldest first. -/
  pending : List Alarm := []
  deriving DecidableEq, Repr

namespace Schedule

/-- Schedules `timer` after `delay` milliseconds under a fresh handle. -/
def add (s : Schedule) (delay : Nat) (timer : Timer) : Handle × Schedule :=
  let h : Handle := ⟨s.issued + 1⟩
  (h, { issued := s.issued + 1, pending := s.pending ++ [⟨h, timer, delay⟩] })

/-- Forgets the wake-up with handle `h`, if it is pending. -/
def cancel (s : Schedule) (h : Handle) : Schedule :=
  { s with pending := s.pending.filter fun a ↦ a.handle ≠ h }

/-- Forgets a wake-up if one is held. -/
def cancel? (s : Schedule) : Option Handle → Schedule
  | some h => s.cancel h
  | none => s

/-- Whether a wake-up with handle `h` is pending. -/
def isPending (s : Schedule) (h : Handle) : Bool :=
  s.pending.any fun a ↦ a.handle = h

/-- The oldest pending wake-up for `timer`. -/
def firstFor (s : Schedule) (timer : Timer) : Option Alarm :=
  s.pending.find? fun a ↦ a.timer = timer

/-- A new wake-up gets the next handle. -/
@[simp] theorem add_fst (s : Schedule) (delay : Nat) (timer : Timer) :
    (s.add delay timer).1 = ⟨s.issued + 1⟩ := rfl

/-- A new wake-up is pending after the ones before it. -/
@[simp] theorem pending_add (s : Schedule) (delay : Nat) (timer : Timer) :
    (s.add delay timer).2.pending = s.pending ++ [⟨⟨s.issued + 1⟩, timer, delay⟩] := rfl

/-- Cancelling keeps exactly the other wake-ups. -/
@[simp] theorem pending_cancel (s : Schedule) (h : Handle) :
    (s.cancel h).pending = s.pending.filter fun a ↦ a.handle ≠ h := rfl

/-- A cancelled wake-up is no longer pending. -/
theorem isPending_cancel_self (s : Schedule) (h : Handle) : (s.cancel h).isPending h = false := by
  simp [isPending]

end Schedule

end ReliableDatagram
