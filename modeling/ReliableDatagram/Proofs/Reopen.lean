import ReliableDatagram.Proofs.Guards
import ReliableDatagram.Proofs.Reachable
/-!
# Reopening a closed session

A closed session keeps four values from its last connection: the peer's initial number and last
delivered number, the handshake retry count and the idle flag (`Leftovers`). None of them is read
before it is written again: the peer's numbers are written when the next SYN is accepted, the
retry count when a handshake starts, and the idle flag is read only while a keep-alive wake-up is
armed, which writes it. So a session reopened after it closed behaves exactly as a fresh session
with the same configuration under the same host.

`Endpoint.Alike a b` says that `a` is `b` or, while no peer's SYN is held (closed, waiting or
initiating, with no peer configuration), `b` with other leftovers, the retry count included only
while initiating. Every event keeps it (`Alike.handle`): the actions a closed, waiting or
initiating session runs commute with replacing the leftovers, and the acceptance of a SYN
overwrites the peer's numbers, after which entering the next state overwrites the rest.

The main statement is `Endpoint.Reachable.reopens_afresh`.
-/

namespace ReliableDatagram

/-- What a session keeps from its last connection and reads only after writing it again. -/
structure Leftovers where
  /-- The peer's initial number. -/
  receiveInitial : UInt16
  /-- The peer's last delivered number. -/
  receiveAcked : UInt16
  /-- The handshake retry count. -/
  handshakeCount : UInt8
  /-- Whether nothing has been transmitted since the keep-alive wake-up was armed. -/
  idle : Bool
  deriving DecidableEq, Repr

namespace Session

/-- The session with its leftovers replaced by `l`. -/
def withLeftovers (s : Session) (l : Leftovers) : Session :=
  { s with
    info := { s.info with receiveInitial := l.receiveInitial, receiveAcked := l.receiveAcked }
    timers := { s.timers with handshakeCount := l.handshakeCount, idle := l.idle } }

/-- The leftovers of a session. -/
def leftovers (s : Session) : Leftovers :=
  ⟨s.info.receiveInitial, s.info.receiveAcked, s.timers.handshakeCount, s.timers.idle⟩

@[simp] theorem withLeftovers_leftovers (s : Session) : s.withLeftovers s.leftovers = s := rfl

@[simp] theorem leftovers_receiveAcked (s : Session) :
    s.leftovers.receiveAcked = s.info.receiveAcked := rfl

end Session

namespace Endpoint

/-- The endpoint with its session's leftovers replaced by `l`. -/
def withLeftovers (e : Endpoint) (l : Leftovers) : Endpoint :=
  { e with session := e.session.withLeftovers l }

section Fields

variable (e : Endpoint) (l : Leftovers)

@[simp] theorem withLeftovers_state : (e.withLeftovers l).session.state = e.session.state := rfl

@[simp] theorem withLeftovers_config :
    (e.withLeftovers l).session.info.config = e.session.info.config := rfl

@[simp] theorem withLeftovers_remote :
    (e.withLeftovers l).session.info.remote = e.session.info.remote := rfl

@[simp] theorem withLeftovers_sendInitial :
    (e.withLeftovers l).session.info.sendInitial = e.session.info.sendInitial := rfl

@[simp] theorem withLeftovers_sendNext :
    (e.withLeftovers l).session.info.sendNext = e.session.info.sendNext := rfl

@[simp] theorem withLeftovers_passive :
    (e.withLeftovers l).session.info.passive = e.session.info.passive := rfl

@[simp] theorem withLeftovers_handshake :
    (e.withLeftovers l).session.timers.handshake = e.session.timers.handshake := rfl

@[simp] theorem withLeftovers_receiveRing :
    (e.withLeftovers l).session.receiveRing = e.session.receiveRing := rfl

@[simp] theorem withLeftovers_receiveAcked :
    (e.withLeftovers l).session.info.receiveAcked = l.receiveAcked := rfl

@[simp] theorem withLeftovers_handshakeCount :
    (e.withLeftovers l).session.timers.handshakeCount = l.handshakeCount := rfl

@[simp] theorem withLeftovers_leftovers : e.withLeftovers e.session.leftovers = e := rfl

end Fields

/-- While no peer's SYN is held, the leftovers `l` are not read by `e`: it is closed, waiting
or initiating with no peer configuration, and while initiating `l` has its retry count. -/
structure Dormant (e : Endpoint) (l : Leftovers) : Prop where
  remote : e.session.info.remote = none
  state : e.session.state = .closed ∨ e.session.state = .waiting ∨
    (e.session.state = .initiating ∧ l.handshakeCount = e.session.timers.handshakeCount)

/-- `a` is `b`, or `b` with leftovers it does not read. -/
def Alike (a b : Endpoint) : Prop :=
  a = b ∨ ∃ l, a = b.withLeftovers l ∧ b.Dormant l

theorem Alike.refl (e : Endpoint) : Alike e e := .inl rfl

theorem Dormant.alike {e : Endpoint} {l : Leftovers} (hd : e.Dormant l) :
    Alike (e.withLeftovers l) e :=
  .inr ⟨l, rfl, hd⟩

end Endpoint

/-! ### Actions that commute with replacing the leftovers -/

namespace Act

open Endpoint

variable (e : Endpoint) (l : Leftovers)

theorem run_transmit_withLeftovers (h : Header) :
    ((transmit h).run (e.withLeftovers l)).2 = ((transmit h).run e).2.withLeftovers
      (if (h.encode []).toBool then { l with idle := false } else l) := by
  rw [run_transmit, run_transmit]
  cases h.encode [] <;> rfl

theorem run_enter_closed_withLeftovers :
    ((enter .closed).run (e.withLeftovers l)).2 = ((enter .closed).run e).2.withLeftovers l := by
  obtain ⟨⟨st, info, sendRing, receiveRing, retransmit, timers⟩, schedule, effects⟩ := e
  rw [run_enter, run_enter]
  cases st <;> cases retransmit <;> rfl

theorem run_enter_waiting_withLeftovers :
    ((enter .waiting).run (e.withLeftovers l)).2 = ((enter .waiting).run e).2.withLeftovers l := by
  obtain ⟨⟨st, info, sendRing, receiveRing, retransmit, timers⟩, schedule, effects⟩ := e
  rw [run_enter, run_enter]
  cases st <;> cases retransmit <;> rfl

theorem run_armHandshake_withLeftovers :
    (armHandshake.run (e.withLeftovers l)).2 =
      (armHandshake.run e).2.withLeftovers { l with handshakeCount := 0 } := by
  rw [run_armHandshake, run_armHandshake, run_rearmHandshake, run_rearmHandshake]
  rfl

/-- Entering `initiating` from a closed or waiting session sends the SYN and starts the retries:
the retry count is written, the idle flag perhaps. -/
theorem run_enter_initiating_withLeftovers
    (hst : e.session.state = .closed ∨ e.session.state = .waiting) :
    ∃ x, ((enter .initiating).run (e.withLeftovers l)).2 =
      ((enter .initiating).run e).2.withLeftovers { l with handshakeCount := 0, idle := x } := by
  have hne : e.session.state ≠ .initiating := by rcases hst with h | h <;> rw [h] <;> decide
  have hleave : (leave e.session.state).run (e.withLeftovers l) = ((), e.withLeftovers l) ∧
      (leave e.session.state).run e = ((), e) := by
    rcases hst with h | h <;> rw [h] <;> exact ⟨rfl, rfl⟩
  rw [run_enter, run_enter, withLeftovers_state, if_neg hne, if_neg hne]
  simp only [hleave.1, hleave.2, run_arrive_initiating, run_sendSyn]
  refine ⟨if (Header.buildSyn e.session.info.config e.session.info.sendInitial none |>.encode
    []).toBool then false else l.idle, ?_⟩
  have hmove : ({ (e.withLeftovers l) with session :=
      { (e.withLeftovers l).session with state := .initiating } } : Endpoint) =
      ({ e with session := { e.session with state := .initiating } } : Endpoint).withLeftovers l :=
    rfl
  rw [hmove, withLeftovers_config, withLeftovers_sendInitial, run_transmit_withLeftovers,
    run_armHandshake_withLeftovers]
  split <;> rfl

/-- A handshake wake-up reads the retry count; when the leftovers carry the session's count it
commutes with them, the count written as the session writes it. -/
theorem run_handshakeTimeout_withLeftovers (h : Handle)
    (hc : l.handshakeCount = e.session.timers.handshakeCount) :
    (handshakeTimeout h).run (e.withLeftovers l) =
      (((handshakeTimeout h).run e).1, ((handshakeTimeout h).run e).2.withLeftovers
        { l with handshakeCount := ((handshakeTimeout h).run e).2.session.timers.handshakeCount }) := by
  obtain ⟨⟨st, info, sendRing, receiveRing, retransmit, ⟨hs, count, ka, dc, idle⟩⟩, sc, ef⟩ := e
  obtain ⟨ri, ra, count', idle'⟩ := l
  simp only at hc
  subst hc
  rw [run_handshakeTimeout, run_handshakeTimeout, withLeftovers_handshake,
    withLeftovers_handshakeCount, withLeftovers_config]
  by_cases h₁ : hs = some h
  · by_cases h₂ : count' ≥ info.config.maxRetransmissions
    · simp only [h₁, h₂, ne_eq, not_true_eq_false, ↓reduceIte]
      rfl
    · simp only [h₁, h₂, ne_eq, not_true_eq_false, ↓reduceIte]
      rfl
  · simp only [h₁, ne_eq, not_false_eq_true, ↓reduceIte]

/-! ### Accepting a SYN overwrites the leftovers -/

/-- An acknowledgment, plain or extended, is a builder's header without payload. -/
theorem Header.ackOrEack (c : Prop) [Decidable c] (seq ack : UInt16) (acks : List UInt16) :
    (if c then Header.buildAck seq ack else Header.buildEack seq ack acks).Built ∧
      (if c then Header.buildAck seq ack else Header.buildEack seq ack acks).payloadLength = 0 := by
  by_cases h : c
  · rw [if_pos h]
    exact ⟨.ack seq ack, rfl⟩
  · rw [if_neg h]
    exact ⟨.eack seq ack acks, rfl⟩

section Overwrite

variable (e : Endpoint) (l : Leftovers)

/-- Once the peer's numbers are written, entering `connecting` from `waiting` or `initiating`
writes the retry count and, sending the SYN, the idle flag: nothing of the leftovers is left. -/
theorem run_enter_connecting_withLeftovers
    (hst : e.session.state = .waiting ∨ e.session.state = .initiating)
    (hri : l.receiveInitial = e.session.info.receiveInitial)
    (hra : l.receiveAcked = e.session.info.receiveAcked) :
    ((enter .connecting).run (e.withLeftovers l)).2 = ((enter .connecting).run e).2 := by
  obtain ⟨⟨st, ⟨config, remote, si, sn, su, ri, ra, passive⟩, sr, rr, rt, ⟨hs, hc, ka, dc, idle⟩⟩,
    sc, ef⟩ := e
  obtain ⟨ri', ra', hc', idle'⟩ := l
  simp only at hst hri hra
  subst hri hra
  -- the SYN that acknowledges the peer's always goes out, writing the idle flag on both sides
  obtain ⟨⟨sealed, d⟩, henc⟩ := (Header.Built.syn config si (some ra')).exists_encode_eq_ok [] rfl
  rcases hst with rfl | rfl
  · simp only [Endpoint.withLeftovers, Session.withLeftovers, run_enter, run_leave_waiting,
      run_arrive_connecting, run_sendSyn, run_transmit, run_armHandshake, run_rearmHandshake, henc,
      reduceCtorEq, ↓reduceIte]
  · simp only [Endpoint.withLeftovers, Session.withLeftovers, run_enter, run_leave_initiating,
      run_cancelHandshake, run_arrive_connecting, run_sendSyn, run_transmit, run_armHandshake,
      run_rearmHandshake, henc, reduceCtorEq, ↓reduceIte]

/-- A header without payload that a builder returns always goes out, writing the idle flag. -/
theorem run_transmit_idle {h : Header} (hb : h.Built) (hp : h.payloadLength = 0) (x : Bool) :
    ((transmit h).run (e.withLeftovers { e.session.leftovers with idle := x })).2 =
      ((transmit h).run e).2 := by
  obtain ⟨⟨sealed, d⟩, henc⟩ := hb.exists_encode_eq_ok [] (by simp [hp])
  rw [run_transmit, run_transmit, henc]
  rfl

/-- An acknowledgment always goes out: the idle flag it finds does not matter. -/
theorem run_sendAck_idle (x : Bool) :
    (sendAck.run (e.withLeftovers { e.session.leftovers with idle := x })).2 = (sendAck.run e).2 := by
  rw [run_sendAck, run_sendAck]
  simp only [withLeftovers_receiveRing, withLeftovers_remote, withLeftovers_sendNext,
    withLeftovers_receiveAcked, Session.leftovers_receiveAcked]
  exact run_transmit_idle _ (Header.ackOrEack _ _ _ _).1 (Header.ackOrEack _ _ _ _).2 x

/-- Completing the handshake from `initiating` reads nothing of the idle flag but may write it. -/
theorem run_establish_idle (hst : e.session.state = .initiating) (x : Bool) :
    ∃ y, (establish.run (e.withLeftovers { e.session.leftovers with idle := x })).2 =
      (establish.run e).2.withLeftovers { (establish.run e).2.session.leftovers with idle := y } := by
  obtain ⟨⟨st, ⟨config, remote, si, sn, su, ri, ra, passive⟩, sr, rr, rt, ⟨hs, hc, ka, dc, idle⟩⟩,
    sc, ef⟩ := e
  simp only at hst
  subst hst
  cases passive
  · cases remote with
    | none => exact ⟨x, rfl⟩
    | some r =>
      by_cases hn : r.nullSegmentTimeout = 0
      · refine ⟨x, ?_⟩
        simp only [Endpoint.withLeftovers, Session.withLeftovers, Session.leftovers, run_establish,
          run_enter, run_leave_initiating, run_cancelHandshake, run_arrive_connected, run_openWindows,
          run_armKeepAlive, hn, reduceCtorEq, ↓reduceIte, Bool.false_eq_true]
      · refine ⟨true, ?_⟩
        simp only [Endpoint.withLeftovers, Session.withLeftovers, Session.leftovers, run_establish,
          run_enter, run_leave_initiating, run_cancelHandshake, run_arrive_connected, run_openWindows,
          run_armKeepAlive, hn, reduceCtorEq, ↓reduceIte, Bool.false_eq_true]
  · exact ⟨x, rfl⟩

/-- Completing the handshake from `initiating` and acknowledging: the idle flag the session
finds does not matter. -/
theorem run_establish_sendAck_idle (hst : e.session.state = .initiating) (x : Bool) :
    (sendAck.run (establish.run (e.withLeftovers { e.session.leftovers with idle := x })).2).2 =
      (sendAck.run (establish.run e).2).2 := by
  obtain ⟨y, hy⟩ := run_establish_idle e hst x
  rw [hy, run_sendAck_idle]

end Overwrite

end Act

/-! ### Keeping endpoints alike -/

namespace Endpoint

variable {e e' : Endpoint} {l l' : Leftovers}

/-- Speaking keeps the leftovers unread when it writes no retry count. -/
theorem Dormant.spoken (hd : e.Dormant l) (hs : Act.Spoken e e')
    (hc : l'.handshakeCount = l.handshakeCount) : e'.Dormant l' := by
  obtain ⟨-, hse⟩ := hs
  refine ⟨by rw [hse]; exact hd.remote, ?_⟩
  rw [hse, hc]
  exact hd.state

end Endpoint

namespace Act

open Endpoint

/-- An action keeps endpoints alike: on alike endpoints it answers the same and leaves alike
endpoints. -/
def KeepsAlike {α : Type} (m : Act α) : Prop :=
  ∀ a b, Alike a b → (m.run a).1 = (m.run b).1 ∧ Alike (m.run a).2 (m.run b).2

namespace KeepsAlike

variable {α β : Type} {m : Act α}

/-- Equal endpoints stay equal, so only the leftovers a dormant endpoint does not read need
checking. -/
theorem of_dormant (h : ∀ b l, b.Dormant l →
    (m.run (b.withLeftovers l)).1 = (m.run b).1 ∧ Alike (m.run (b.withLeftovers l)).2 (m.run b).2) :
    KeepsAlike m := by
  rintro a b (rfl | ⟨l, rfl, hd⟩)
  · exact ⟨rfl, .refl _⟩
  · exact h b l hd

/-- An action without answer only has to keep the leftovers unread. -/
theorem of_dormant_unit {m : Act Unit} (h : ∀ b l, b.Dormant l →
    Alike (m.run (b.withLeftovers l)).2 (m.run b).2) : KeepsAlike m :=
  of_dormant fun b l hd ↦ ⟨rfl, h b l hd⟩

theorem bind {f : α → Act β} (hm : KeepsAlike m) (hf : ∀ x, KeepsAlike (f x)) :
    KeepsAlike (m >>= f) := by
  intro a b hab
  obtain ⟨h1, h2⟩ := hm a b hab
  rw [run_bind, run_bind, h1]
  exact hf _ _ _ h2

theorem pure (x : α) : KeepsAlike (Pure.pure x : Act α) := fun _ _ h ↦ ⟨rfl, h⟩

end KeepsAlike

theorem keepsAlike_transmit (h : Header) : KeepsAlike (transmit h) := by
  refine KeepsAlike.of_dormant fun b l hd ↦ ⟨rfl, .inr ⟨_, run_transmit_withLeftovers b l h, ?_⟩⟩
  exact hd.spoken (spoken_transmit b h) (by split <;> rfl)

theorem keepsAlike_replyRst (c : Common) : KeepsAlike (replyRst c) := by
  unfold replyRst
  split
  · exact keepsAlike_transmit _
  · exact KeepsAlike.pure ()

theorem keepsAlike_sendSyn (ack : Option UInt16) : KeepsAlike (sendSyn ack) := by
  refine KeepsAlike.of_dormant fun b l hd ↦ ?_
  rw [run_sendSyn, run_sendSyn, withLeftovers_config, withLeftovers_sendInitial]
  exact keepsAlike_transmit _ _ _ hd.alike

/-- Closing or waiting again forgets the peer and keeps the leftovers unread. -/
theorem keepsAlike_enter_quiet {next : State} (hq : next = .closed ∨ next = .waiting) :
    KeepsAlike (enter next) := by
  refine KeepsAlike.of_dormant fun b l hd ↦ ⟨rfl, .inr ⟨l, ?_, ?_, ?_⟩⟩
  · rcases hq with rfl | rfl
    · exact run_enter_closed_withLeftovers b l
    · exact run_enter_waiting_withLeftovers b l
  · rw [run_enter]
    split
    · exact hd.remote
    · dsimp only
      rw [session_arrive_quiet _ hq]
  · rw [state_enter]
    rcases hq with rfl | rfl
    · exact .inl rfl
    · exact .inr (.inl rfl)

theorem keepsAlike_reset : KeepsAlike reset := by
  refine KeepsAlike.of_dormant fun b l hd ↦ ?_
  rw [run_reset, run_reset, withLeftovers_passive]
  refine keepsAlike_enter_quiet ?_ _ _ hd.alike
  split
  · exact .inr rfl
  · exact .inl rfl

theorem keepsAlike_start (iss : UInt16) (passive : Bool) : KeepsAlike (start iss passive) := by
  refine KeepsAlike.of_dormant fun b l hd ↦ ⟨rfl, .inr ⟨l, rfl, rfl, hd.state⟩⟩

/-- Entering `initiating` from a closed or waiting session keeps its information and starts the
retry count afresh. -/
theorem enter_initiating_session (e : Endpoint)
    (hst : e.session.state = .closed ∨ e.session.state = .waiting) :
    ((enter .initiating).run e).2.session.info = e.session.info ∧
      ((enter .initiating).run e).2.session.timers.handshakeCount = 0 := by
  have hne : e.session.state ≠ .initiating := by rcases hst with h | h <;> rw [h] <;> decide
  rw [run_enter, if_neg hne]
  dsimp only
  rw [run_arrive_initiating, session_armHandshake, (spoken_sendSyn _ _).2]
  exact ⟨(leave_keeps e _).2.1, rfl⟩

theorem keepsAlike_enter_initiating : KeepsAlike (enter .initiating) := by
  refine KeepsAlike.of_dormant fun b l hd ↦ ⟨rfl, ?_⟩
  rcases hd.state with h | h | ⟨h, -⟩
  -- from closed or waiting, the retries start afresh on both
  · obtain ⟨x, hx⟩ := run_enter_initiating_withLeftovers b l (.inl h)
    obtain ⟨hinfo, hcount⟩ := enter_initiating_session b (.inl h)
    exact .inr ⟨_, hx, ⟨by rw [hinfo]; exact hd.remote, .inr (.inr ⟨state_enter _ _, hcount.symm⟩)⟩⟩
  · obtain ⟨x, hx⟩ := run_enter_initiating_withLeftovers b l (.inr h)
    obtain ⟨hinfo, hcount⟩ := enter_initiating_session b (.inr h)
    exact .inr ⟨_, hx, ⟨by rw [hinfo]; exact hd.remote, .inr (.inr ⟨state_enter _ _, hcount.symm⟩)⟩⟩
  -- already initiating: nothing happens
  · rw [run_enter, run_enter, withLeftovers_state, if_pos h, if_pos h]
    exact hd.alike


/-! ### Handlers -/

/-- The peer's numbers written, a waiting or initiating session's leftovers differ at most in the
retry count and the idle flag. -/
theorem accepted_withLeftovers (b : Endpoint) (l : Leftovers) (c : Common) (config : Config) :
    ({ (b.withLeftovers l) with session := { (b.withLeftovers l).session with info :=
      { (b.withLeftovers l).session.info with
        remote := some config, receiveInitial := c.seq, receiveAcked := c.seq } } } : Endpoint) =
      ({ b with session := { b.session with info := { b.session.info with
        remote := some config, receiveInitial := c.seq, receiveAcked := c.seq } } } : Endpoint).withLeftovers
        { l with receiveInitial := c.seq, receiveAcked := c.seq } :=
  rfl

theorem keepsAlike_onSyn (c : Common) (config : Config) : KeepsAlike (onSyn c config) := by
  refine KeepsAlike.of_dormant_unit fun b l hd ↦ ?_
  have hreject := (keepsAlike_replyRst c).bind (fun _ ↦ keepsAlike_reset) _ _ hd.alike
  simp only [run_bind] at hreject
  unfold onSyn
  rw [run_bind, run_bind, run_session, run_session, withLeftovers_state]
  rcases hd.state with hst | hst | ⟨hst, hc⟩ <;> rw [hst]
  · exact (keepsAlike_replyRst c _ _ hd.alike).2
  · -- waiting: a SYN without ACK is accepted, which writes every leftover
    by_cases hack : c.flags.has .ack = true
    · simp only [hack, ↓reduceIte]
      exact (keepsAlike_replyRst c _ _ hd.alike).2
    simp only [hack, Bool.false_eq_true, ↓reduceIte, run_bind, run_acceptRemote]
    by_cases hv : config.isValid = true
    · simp only [hv, ↓reduceIte]
      rw [accepted_withLeftovers, run_enter_connecting_withLeftovers]
      · exact .refl _
      · exact .inl hst
      all_goals rfl
    · simp only [hv, Bool.false_eq_true, ↓reduceIte, run_pure]
      exact hreject.2
  · -- initiating: an accepted SYN leaves only the idle flag to differ
    have hacc (config : Config) : ({ (b.withLeftovers l) with session := { (b.withLeftovers l).session with
        info := { (b.withLeftovers l).session.info with
          remote := some config, receiveInitial := c.seq, receiveAcked := c.seq } } } : Endpoint) =
        ({ b with session := { b.session with info := { b.session.info with
          remote := some config, receiveInitial := c.seq, receiveAcked := c.seq } } } : Endpoint).withLeftovers
          { Session.leftovers { b.session with info := { b.session.info with
            remote := some config, receiveInitial := c.seq, receiveAcked := c.seq } } with idle := l.idle } := by
      rw [accepted_withLeftovers]
      cases l
      simp only at hc
      subst hc
      rfl
    by_cases hack : c.flags.has .ack = true
    · simp only [hack, ↓reduceIte, run_bind, run_acknowledgesSyn, withLeftovers_sendInitial]
      by_cases hsyn : (c.ack == b.session.info.sendInitial) = true
      · simp only [hsyn, Bool.and_self, Bool.not_true, Bool.false_eq_true, ↓reduceIte, run_bind,
          run_acceptRemote]
        by_cases hv : config.isValid = true
        · simp only [hv, ↓reduceIte, run_bind]
          rw [hacc, run_establish_sendAck_idle]
          · exact .refl _
          · exact hst
        · simp only [hv, Bool.false_eq_true, ↓reduceIte, run_pure]
          exact hreject.2
      · simp only [hsyn, Bool.and_false, Bool.not_false, ↓reduceIte]
        exact (keepsAlike_replyRst c _ _ hd.alike).2
    · simp only [hack, Bool.false_eq_true, ↓reduceIte, run_bind, run_acceptRemote]
      by_cases hv : config.isValid = true
      · simp only [hv, ↓reduceIte]
        rw [accepted_withLeftovers, run_enter_connecting_withLeftovers]
        · exact .refl _
        · exact .inr hst
        all_goals rfl
      · simp only [hv, Bool.false_eq_true, ↓reduceIte, run_pure]
        exact hreject.2

theorem keepsAlike_onRst : KeepsAlike onRst := by
  refine KeepsAlike.of_dormant_unit fun b l hd ↦ ?_
  unfold onRst
  rw [run_bind, run_bind, run_session, run_session, withLeftovers_state]
  rcases hd.state with hst | hst | ⟨hst, -⟩ <;> rw [hst]
  · exact hd.alike
  · exact hd.alike
  · exact (keepsAlike_reset _ _ hd.alike).2

theorem keepsAlike_onNul (c : Common) : KeepsAlike (onNul c) := by
  refine KeepsAlike.of_dormant_unit fun b l hd ↦ ?_
  unfold onNul
  rw [run_bind, run_bind, run_session, run_session, withLeftovers_state]
  rcases hd.state with hst | hst | ⟨hst, -⟩ <;> rw [hst]
  · exact (keepsAlike_replyRst c _ _ hd.alike).2
  · exact (keepsAlike_replyRst c _ _ hd.alike).2
  · exact hd.alike

theorem keepsAlike_onEack (c : Common) (acks : List UInt16) (payload : Bytes) :
    KeepsAlike (onEack c acks payload) := by
  refine KeepsAlike.of_dormant_unit fun b l hd ↦ ?_
  unfold onEack
  rw [run_bind, run_bind, run_session, run_session, withLeftovers_state]
  rcases hd.state with hst | hst | ⟨hst, -⟩ <;> rw [hst]
  · exact (keepsAlike_replyRst c _ _ hd.alike).2
  · exact (keepsAlike_replyRst c _ _ hd.alike).2
  · exact hd.alike

theorem keepsAlike_onAck (c : Common) (payload : Bytes) : KeepsAlike (onAck c payload) := by
  refine KeepsAlike.of_dormant_unit fun b l hd ↦ ?_
  unfold onAck
  rw [run_bind, run_bind, run_session, run_session, withLeftovers_state]
  rcases hd.state with hst | hst | ⟨hst, -⟩ <;> rw [hst]
  · exact (keepsAlike_replyRst c _ _ hd.alike).2
  · exact (keepsAlike_replyRst c _ _ hd.alike).2
  · exact hd.alike

theorem keepsAlike_onSegment (seg : Segment) : KeepsAlike (onSegment seg) := by
  unfold onSegment
  split
  · exact keepsAlike_onSyn _ _
  · exact keepsAlike_onRst
  · exact keepsAlike_onNul _
  · exact keepsAlike_onAck _ _
  · exact keepsAlike_onEack _ _ _

theorem keepsAlike_receive (datagram : Bytes) : KeepsAlike (receive datagram) := by
  refine KeepsAlike.of_dormant_unit fun b l hd ↦ ?_
  unfold receive
  rw [run_bind, run_bind, run_info, run_info, withLeftovers_config]
  split
  · exact hd.alike
  · split
    · exact (keepsAlike_onSegment _ _ _ hd.alike).2
    · exact hd.alike

/-- A handshake wake-up touches only the wake-ups. -/
theorem handshakeTimeout_keeps (e : Endpoint) (h : Handle) :
    ((handshakeTimeout h).run e).2.session.state = e.session.state ∧
      ((handshakeTimeout h).run e).2.session.info = e.session.info := by
  rw [run_handshakeTimeout]
  split_ifs
  · exact ⟨rfl, rfl⟩
  · exact ⟨rfl, rfl⟩
  · rw [run_rearmHandshake]
    exact ⟨rfl, rfl⟩

theorem keepsAlike_timerFired (h : Handle) (timer : Timer) : KeepsAlike (timerFired h timer) := by
  refine KeepsAlike.of_dormant_unit fun b l hd ↦ ?_
  unfold timerFired
  rw [run_bind, run_bind, run_session, run_session, withLeftovers_state]
  rcases hd.state with hst | hst | ⟨hst, hc⟩ <;> rw [hst]
  · cases timer <;> exact hd.alike
  · cases timer <;> exact hd.alike
  · -- initiating: the handshake wake-up reads the retry count, which the leftovers carry
    cases timer with
    | handshake =>
      dsimp only
      rw [run_bind, run_bind, run_handshakeTimeout_withLeftovers _ _ h hc]
      have hd' : ((handshakeTimeout h).run b).2.Dormant { l with handshakeCount :=
          ((handshakeTimeout h).run b).2.session.timers.handshakeCount } := by
        obtain ⟨hkst, hkinfo⟩ := handshakeTimeout_keeps b h
        exact ⟨by rw [hkinfo]; exact hd.remote, .inr (.inr ⟨by rw [hkst]; exact hst, rfl⟩)⟩
      dsimp only
      split
      · exact (keepsAlike_sendSyn none _ _ hd'.alike).2
      · exact (keepsAlike_reset _ _ hd'.alike).2
      · exact hd'.alike
    | _ => exact hd.alike

theorem keepsAlike_connect (iss : UInt16) : KeepsAlike (connect iss) := by
  refine KeepsAlike.of_dormant_unit fun b l hd ↦ ?_
  unfold connect
  rw [run_bind, run_bind, run_session, run_session, withLeftovers_state]
  split
  · exact (((keepsAlike_start iss false).bind fun _ ↦ keepsAlike_enter_initiating) _ _ hd.alike).2
  · exact hd.alike

theorem keepsAlike_wait (iss : UInt16) : KeepsAlike (wait iss) := by
  refine KeepsAlike.of_dormant_unit fun b l hd ↦ ?_
  unfold wait
  rw [run_bind, run_bind, run_session, run_session, withLeftovers_state]
  split
  · exact (((keepsAlike_start iss true).bind fun _ ↦ keepsAlike_enter_quiet (.inr rfl)) _ _ hd.alike).2
  · exact hd.alike

theorem keepsAlike_close : KeepsAlike close := by
  refine KeepsAlike.of_dormant_unit fun b l hd ↦ ?_
  unfold close
  rw [run_bind, run_bind, run_session, run_session, withLeftovers_state]
  rcases hd.state with hst | hst | ⟨hst, -⟩ <;> rw [hst]
  · exact hd.alike
  · exact (keepsAlike_enter_quiet (.inl rfl) _ _ hd.alike).2
  · -- both sides read `sendNext` first; unfolding both keeps the kernel from doing it
    dsimp only
    rw [run_bind, run_info, withLeftovers_sendNext, run_bind b, run_info]
    exact (((keepsAlike_transmit _).bind fun _ ↦ keepsAlike_enter_quiet (.inl rfl)) _ _ hd.alike).2

theorem keepsAlike_invalidate : KeepsAlike invalidate :=
  keepsAlike_enter_quiet (.inl rfl)

/-- A session that is not connected refuses every payload. -/
theorem keepsAlike_send (payload : Bytes) : KeepsAlike (send payload) := by
  refine KeepsAlike.of_dormant fun b l hd ↦ ?_
  have hst : b.session.state ≠ .connected := by
    rcases hd.state with h | h | ⟨h, -⟩ <;> rw [h] <;> decide
  unfold send
  rw [run_bind, run_bind, run_session, run_session, withLeftovers_state, if_neg hst]
  exact ⟨rfl, hd.alike⟩

theorem keepsAlike_act (ev : Event) : KeepsAlike ev.act := by
  cases ev with
  | connect iss => exact keepsAlike_connect iss
  | wait iss => exact keepsAlike_wait iss
  | close => exact keepsAlike_close
  | invalidate => exact keepsAlike_invalidate
  | send payload => exact (keepsAlike_send payload).bind fun _ ↦ KeepsAlike.pure ()
  | receive datagram => exact keepsAlike_receive datagram
  | fire h timer => exact keepsAlike_timerFired h timer

end Act

/-! ### Runs keep endpoints alike -/

namespace Endpoint

open Act

theorem prepare_withLeftovers (e : Endpoint) (l : Leftovers) (ev : Event) :
    (e.withLeftovers l).prepare ev = (e.prepare ev).withLeftovers l := by
  cases ev <;> rfl

theorem Dormant.prepare {e : Endpoint} {l : Leftovers} (hd : e.Dormant l) (ev : Event) :
    (e.prepare ev).Dormant l := by
  cases ev <;> exact ⟨hd.remote, hd.state⟩

namespace Alike

variable {a b : Endpoint}

theorem prepare (h : Alike a b) (ev : Event) : Alike (a.prepare ev) (b.prepare ev) := by
  rcases h with rfl | ⟨l, rfl, hd⟩
  · exact .refl _
  · rw [prepare_withLeftovers]
    exact (hd.prepare ev).alike

/-- Every event keeps endpoints alike. -/
theorem handle (h : Alike a b) (ev : Event) : Alike (a.handle ev) (b.handle ev) :=
  (keepsAlike_act ev _ _ (h.prepare ev)).2

/-- Every run keeps endpoints alike. -/
theorem foldl (h : Alike a b) (evs : List Event) :
    Alike (evs.foldl Endpoint.handle a) (evs.foldl Endpoint.handle b) := by
  induction evs generalizing a b with
  | nil => exact h
  | cons ev evs ih => exact ih (h.handle ev)

/-! What alike endpoints show -/

theorem effects_eq (h : Alike a b) : a.effects = b.effects := by
  rcases h with rfl | ⟨l, rfl, -⟩ <;> rfl

theorem schedule_eq (h : Alike a b) : a.schedule = b.schedule := by
  rcases h with rfl | ⟨l, rfl, -⟩ <;> rfl

theorem state_eq (h : Alike a b) : a.session.state = b.session.state := by
  rcases h with rfl | ⟨l, rfl, -⟩ <;> rfl

/-- Alike endpoints differ in their information at most in the peer's two numbers. -/
theorem info_eq (h : Alike a b) : a.session.info = { b.session.info with
    receiveInitial := a.session.info.receiveInitial, receiveAcked := a.session.info.receiveAcked } := by
  rcases h with rfl | ⟨l, rfl, -⟩ <;> rfl

theorem send_eq (h : Alike a b) (payload : Bytes) :
    ((Act.send payload).run a).1 = ((Act.send payload).run b).1 :=
  (keepsAlike_send payload a b h).1

/-- Alike endpoints are equal once a peer's SYN is held or the connection is under way. -/
theorem eq_or_unopened (h : Alike a b) :
    a = b ∨ b.session.info.remote = none ∧ b.session.state ∈ [.closed, .waiting, .initiating] := by
  rcases h with rfl | ⟨l, rfl, hd⟩
  · exact .inl rfl
  · refine .inr ⟨hd.remote, ?_⟩
    rcases hd.state with hst | hst | ⟨hst, -⟩ <;> simp [hst]

end Alike

/-- What a host and an application observe of `a` and `b` is the same: the effects of the last
event, the wake-ups scheduled, the state, the answer to every payload offered and the information
but for the peer's two numbers; and these two differ only while no peer's SYN is held and no
connection is under way. -/
structure SeenAlike (a b : Endpoint) : Prop where
  effects : a.effects = b.effects
  schedule : a.schedule = b.schedule
  state : a.session.state = b.session.state
  send : ∀ payload, ((Act.send payload).run a).1 = ((Act.send payload).run b).1
  info : a.session.info = { b.session.info with
    receiveInitial := a.session.info.receiveInitial, receiveAcked := a.session.info.receiveAcked }
  settled : a = b ∨ b.session.info.remote = none ∧ b.session.state ∈ [.closed, .waiting, .initiating]

theorem Alike.seenAlike {a b : Endpoint} (h : Alike a b) : SeenAlike a b :=
  ⟨h.effects_eq, h.schedule_eq, h.state_eq, h.send_eq, h.info_eq, h.eq_or_unopened⟩

/-! ### Reopening -/

/-- The endpoint of a fresh session with `e`'s configuration, under `e`'s host. -/
def renewed (e : Endpoint) : Endpoint :=
  { e with session := { info := { config := e.session.info.config } } }

variable {e : Endpoint}

/-- A closed session a host can reach keeps only its information and two leftovers of its
timers: no windows, no peer configuration and no wake-ups. -/
theorem Reachable.session_of_closed (h : e.Reachable) (hcl : e.session.state = .closed) :
    e.session = { info := e.session.info, timers :=
      { handshakeCount := e.session.timers.handshakeCount, idle := e.session.timers.idle } } := by
  have hallowed := h.invariant.allowed
  have hw := h.invariant.windows
  unfold Session.TimersAllowed at hallowed
  unfold Session.WindowsFit at hw
  rw [hcl] at hallowed hw
  obtain ⟨hsr, hrt, hrr, -⟩ := hw
  have hhs : e.session.timers.handshake = none := hallowed .handshake
  have hka : e.session.timers.keepAlive = none := hallowed .keepAlive
  have hdc : e.session.timers.disconnect = none := hallowed .disconnect
  obtain ⟨⟨st, info, sr, rr, rt, ⟨hs, hc, ka, dc, idle⟩⟩, sc, ef⟩ := e
  simp only at hcl hsr hrt hrr hhs hka hdc
  subst hcl hsr hrt hrr hhs hka hdc
  rfl

/-- Starting such a session: only the leftovers tell it from a fresh one. -/
theorem alike_start_renewed (hs : e.session = { info := e.session.info, timers :=
      { handshakeCount := e.session.timers.handshakeCount, idle := e.session.timers.idle } })
    (iss : UInt16) (passive : Bool) :
    Alike ((Act.start iss passive).run e).2 ((Act.start iss passive).run e.renewed).2 := by
  refine .inr ⟨e.session.leftovers, ?_, ⟨rfl, .inl rfl⟩⟩
  obtain ⟨s, sc, ef⟩ := e
  simp only at hs
  rw [run_start, run_start, hs]
  rfl

/-- Opening such a session, actively or passively, leaves it alike to a fresh one opened the
same way. -/
theorem alike_open_renewed (hs : e.session = { info := e.session.info, timers :=
      { handshakeCount := e.session.timers.handshakeCount, idle := e.session.timers.idle } })
    {iss : UInt16} {o : Event} (ho : o = .connect iss ∨ o = .wait iss) :
    Alike (e.handle o) (e.renewed.handle o) := by
  have hcl : e.session.state = .closed := by rw [hs]
  have hcl' : e.renewed.session.state = .closed := rfl
  have hstart := alike_start_renewed (e := { e with effects := [] }) hs iss
  rcases ho with rfl | rfl
  · simp only [Endpoint.handle, Endpoint.prepare, Event.act, Act.connect, run_bind, run_session]
    simp only [hcl, hcl', ↓reduceIte, run_bind]
    exact (keepsAlike_enter_initiating _ _ (hstart false)).2
  · simp only [Endpoint.handle, Endpoint.prepare, Event.act, Act.wait, run_bind, run_session]
    simp only [hcl, hcl', ↓reduceIte, run_bind]
    exact (keepsAlike_enter_quiet (.inr rfl) _ _ (hstart true)).2

/-- A closed session a host can reach, opened again actively or passively with any initial
number, behaves under every further run of events as a fresh session with its configuration
opened the same way under the same host: the same transmissions, deliveries, acceptances and
changes of state, the same wake-ups scheduled, the same answers to every payload offered, and
the same information but for the peer's two numbers until a peer's SYN is held. -/
theorem Reachable.reopens_afresh (h : e.Reachable) (hcl : e.session.state = .closed)
    {iss : UInt16} {o : Event} (ho : o = .connect iss ∨ o = .wait iss) :
    Session.new e.session.info.config = .ok e.renewed.session ∧
      ∀ evs : List Event,
        SeenAlike ((o :: evs).foldl Endpoint.handle e) ((o :: evs).foldl Endpoint.handle e.renewed) :=
  ⟨Session.new_of_isValid h.invariant.config,
    fun evs ↦ ((alike_open_renewed (h.session_of_closed hcl) ho).foldl evs).seenAlike⟩

/-- A connected session, invalidated and connected again with initial number 7. -/
theorem invalidated_reopens_afresh :
    (synAcked.handle .invalidate).Reachable ∧ (synAcked.handle .invalidate).session.state = .closed ∧
      (Event.connect 7 = .connect 7 ∨ Event.connect 7 = .wait 7) ∧
      (Session.new (synAcked.handle .invalidate).session.info.config =
          .ok (synAcked.handle .invalidate).renewed.session ∧
        ∀ evs : List Event,
          SeenAlike ((.connect 7 :: evs).foldl Endpoint.handle (synAcked.handle .invalidate))
            ((.connect 7 :: evs).foldl Endpoint.handle (synAcked.handle .invalidate).renewed)) :=
  have h := synAcked_reachable.handle .invalidate
  have hcl : (synAcked.handle .invalidate).session.state = .closed := state_enter _ _
  ⟨h, hcl, .inl rfl, Reachable.reopens_afresh h hcl (.inl rfl)⟩

/-- The peer's numbers are what tells the two apart: the invalidated session still holds its
former peer's initial number. -/
example : ((synAcked.handle .invalidate).handle (.connect 7)).session.info.receiveInitial = 100 ∧
    ((synAcked.handle .invalidate).renewed.handle (.connect 7)).session.info.receiveInitial = 0 := by
  decide

end Endpoint

end ReliableDatagram
