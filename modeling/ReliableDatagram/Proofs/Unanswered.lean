import ReliableDatagram.Proofs.Retries
import ReliableDatagram.Socket
/-!
# How long an unanswered open waits

An active open that no peer answers sends its SYN, sends it again at each handshake wake-up
while retries are left, and gives up at the wake-up after the last one. Each wake-up comes one
retransmission timeout after the one before, so the open gives up exactly
`maxRetransmissions + 1` timeouts after it started, whatever the configuration
(`Socket.unansweredOpenSpan_eq`); a caller that waits at most `deadline` milliseconds sees the
refusal exactly when that span is shorter (`Socket.connect_unanswered`).

The run is followed with one invariant, `Endpoint.Unanswered config k`: the session is
initiating, opened actively with `config`, has counted `k` retries, and holds one wake-up, the
handshake one after the configured timeout. An active open of a closed session starts it with
`k = 0` (`Endpoint.Reachable.connect_unanswered`); a wake-up keeps it with `k + 1` while retries
are left and closes the session after the last one (`Endpoint.Unanswered.fire`).
-/

namespace ReliableDatagram

namespace Endpoint

variable {e : Endpoint} {config : Config} {k : Nat}

open Act

/-- `e` is an active open with `config` that has had no answer and has counted `k` retries: it
is reachable and initiating, was opened actively, and holds one wake-up, the handshake one after
the configured retransmission timeout. -/
structure Unanswered (config : Config) (k : Nat) (e : Endpoint) : Prop where
  reachable : e.Reachable
  state : e.session.state = .initiating
  active : e.session.info.passive = false
  configured : e.session.info.config = config
  count : e.session.timers.handshakeCount.toNat = k
  pending : ∃ hd, e.schedule.pending = [⟨hd, .handshake, config.retransmissionDelay⟩]

/-- An active open of a reachable closed session starts an unanswered open with its own
configuration and no retry counted. -/
theorem Reachable.connect_unanswered (h : e.Reachable) (hc : e.session.state = .closed)
    (iss : UInt16) : Unanswered e.session.info.config 0 (e.handle (.connect iss)) := by
  have hrun : e.handle (.connect iss) =
      ((enter .initiating).run ((start iss false).run { e with effects := [] }).2).2 := by
    -- `handle` alone would name the constructor of `Reachable` here
    simp only [Endpoint.handle, Event.act, Act.connect, run_bind, run_session, prepare, hc,
      ↓reduceIte]
  -- a closed session holds nothing, so the handshake wake-up is the only one pending after
  have hclear : e.schedule.pending = [] := (h.cleared (.inl hc)).1
  refine ⟨h.handle _, by rw [hrun, state_enter], ?_, ?_, ?_, ?_⟩ <;>
    rw [hrun, run_enter, run_start] <;>
    simp only [hc, reduceCtorEq, ↓reduceIte, run_leave_closed, run_arrive_initiating,
      run_sendSyn_datagram, run_armHandshake, run_rearmHandshake, UInt8.toNat_zero]
  -- the three record fields are settled; what is left is the schedule
  have hnone : (e.schedule.cancel? e.session.timers.handshake).pending = [] := by
    cases e.session.timers.handshake with
    | none => exact hclear
    | some hd => rw [Schedule.cancel?, Schedule.pending_cancel, hclear, List.filter_nil]
  rw [Schedule.pending_add, hnone]
  exact ⟨_, rfl⟩

theorem Unanswered.handshaking (hu : Unanswered config k e) : e.session.state.handshaking = true := by
  rw [hu.state]
  rfl

/-- The wake-up an unanswered open holds is the handshake one it is waiting for. -/
theorem Unanswered.holds {hd : Handle} (hu : Unanswered config k e)
    (hpend : e.schedule.pending = [⟨hd, .handshake, config.retransmissionDelay⟩]) :
    e.session.timers.handshake = some hd := by
  obtain ⟨a, ha, -, hha⟩ := hu.reachable.pending_handshake hu.handshaking
  rw [hpend, List.singleton_inj] at ha
  rw [hha, ← ha]

/-- **One wake-up of an unanswered open.** With retries left the open stays unanswered with one
more retry counted; after the last one the session closes. -/
theorem Unanswered.fire {hd : Handle} (hu : Unanswered config k e)
    (hpend : e.schedule.pending = [⟨hd, .handshake, config.retransmissionDelay⟩]) :
    (k < config.maxRetransmissions.toNat →
      Unanswered config (k + 1) (e.handle (.fire hd .handshake))) ∧
    (config.maxRetransmissions.toNat ≤ k →
      (e.handle (.fire hd .handshake)).session.state = .closed) := by
  obtain ⟨hretry, hgive⟩ :=
    hu.reachable.fire_handshake hu.handshaking hu.reachable.acked_connecting (hu.holds hpend)
  have hmax : e.session.info.config.maxRetransmissions.toNat = config.maxRetransmissions.toNat := by
    rw [hu.configured]
  refine ⟨fun hk ↦ ?_, fun hk ↦ ?_⟩
  · have hc : e.session.timers.handshakeCount < e.session.info.config.maxRetransmissions := by
      rw [UInt8.lt_iff_toNat_lt, hu.count, hmax]
      exact hk
    have hr := hretry hc
    refine ⟨hu.reachable.handle _, hr.state.trans hu.state, by rw [hr.info]; exact hu.active,
      by rw [hr.info]; exact hu.configured, by rw [(hr.count_toNat hc).1, hu.count], ?_⟩
    rw [hr.rearmed, hu.configured]
    exact ⟨_, rfl⟩
  · have hc : e.session.info.config.maxRetransmissions ≤ e.session.timers.handshakeCount := by
      rw [UInt8.le_iff_toNat_le, hu.count, hmax]
      exact hk
    rw [(hgive hc).state, hu.active, if_neg Bool.false_ne_true]

/-- Waiting out an unanswered open delivers the handshake wake-up it holds, one retransmission
timeout later. -/
theorem Unanswered.waitOut_succ {hd : Handle} (hu : Unanswered config k e)
    (hpend : e.schedule.pending = [⟨hd, .handshake, config.retransmissionDelay⟩])
    (elapsed fuel : Nat) :
    Socket.waitOut e elapsed (fuel + 1) =
      Socket.waitOut (e.handle (.fire hd .handshake)) (elapsed + config.retransmissionDelay) fuel := by
  have hfirst : e.schedule.firstFor .handshake = some ⟨hd, .handshake, config.retransmissionDelay⟩ := by
    rw [Schedule.firstFor, hpend]
    rfl
  rw [Socket.waitOut, if_neg (not_not.2 hu.state), hfirst]

/-- **Waiting out an unanswered open.** With `n` retries left, the open gives up `n + 1`
retransmission timeouts later, given fuel for those wake-ups and one more look. -/
theorem Unanswered.waitOut_eq {n : Nat} (hu : Unanswered config k e)
    (hn : k + n = config.maxRetransmissions.toNat) {fuel : Nat} (hfuel : n + 2 ≤ fuel)
    (elapsed : Nat) :
    Socket.waitOut e elapsed fuel = some (elapsed + (n + 1) * config.retransmissionDelay) := by
  -- induction on the retries left; the invariant `Unanswered` carries the open along
  induction n generalizing k e elapsed fuel with
  | zero =>
    obtain ⟨hd, hpend⟩ := hu.pending
    obtain ⟨fuel, rfl⟩ : ∃ f, fuel = f + 2 := ⟨fuel - 2, by omega⟩
    have hclosed := (hu.fire hpend).2 (by omega)
    rw [hu.waitOut_succ hpend, Socket.waitOut, if_pos (by rw [hclosed]; decide)]
    simp
  | succ n ih =>
    obtain ⟨hd, hpend⟩ := hu.pending
    obtain ⟨fuel, rfl⟩ : ∃ f, fuel = f + 1 := ⟨fuel - 1, by omega⟩
    have hu' := (hu.fire hpend).1 (by omega)
    rw [hu.waitOut_succ hpend, ih hu' (by omega) (by omega)]
    congr 1
    rw [Nat.succ_mul (n + 1)]
    omega

end Endpoint

namespace Socket

open Endpoint

variable {config : Config}

/-- **The span of an unanswered open.** A usable configuration gives up an open that is never
answered after exactly `maxRetransmissions + 1` retransmission timeouts; an unusable one opens
nothing. -/
theorem unansweredOpenSpan_eq (config : Config) :
    unansweredOpenSpan config = if config.isValid then
      some ((config.maxRetransmissions.toNat + 1) * config.retransmissionDelay) else none := by
  by_cases hv : config.isValid = true
  · have hnew := Session.new_of_isValid hv
    have hu := (Reachable.fresh hnew).connect_unanswered rfl 0
    rw [unansweredOpenSpan, hnew, if_pos hv]
    exact (hu.waitOut_eq (Nat.zero_add _) le_rfl 0).trans (by rw [Nat.zero_add])
  · rw [if_neg hv]
    cases hnew : Session.new config with
    | error err =>
      rw [unansweredOpenSpan, hnew]
    | ok s =>
      exact absurd (Session.new_eq_ok_iff.1 hnew).1 hv

/-- **An open towards a resolvable address with a usable configuration**, on a host where no
datagram leaves, is refused exactly when the handshake gives up before the caller's deadline,
and is otherwise unfinished when the deadline passes. -/
theorem connect_unanswered {address : String} {hostPort : String × UInt16} (deadline : Nat)
    (haddr : splitAddress address = .ok hostPort) (hvalid : config.validate = .ok ()) :
    connect deadline config address =
      if (config.maxRetransmissions.toNat + 1) * config.retransmissionDelay < deadline then
        .failed .refused
      else .unfinished := by
  have hv : config.isValid = true := by
    rw [Config.isValid, hvalid]
  rw [connect, haddr]
  dsimp only
  rw [hvalid]
  dsimp only
  rw [unansweredOpenSpan_eq, if_pos hv]

end Socket

end ReliableDatagram
