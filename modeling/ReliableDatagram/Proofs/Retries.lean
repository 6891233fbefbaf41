import ReliableDatagram.Proofs.Strays
import ReliableDatagram.Proofs.Resending
/-!
# Handshake retries

A session opens a connection by handshake in two states: `initiating`, having sent the first
SYN, and `connecting`, having taken the peer's SYN and answering it with its own. Entering either
state sends the state's SYN, `Session.openingSyn`, counts no retry yet and arms the handshake
wake-up (`Entered`). Each delivery of that wake-up sends the same SYN again and arms it again
while fewer retries than the configured maximum are counted, counting one more (`Retried`); the
delivery after that gives the attempt up, back to `waiting` for a passive opener and to
`closed` otherwise, with nothing pending (`GaveUp`).

Every other event either only speaks to the peer, or starts a handshake afresh, or leaves the
session outside the two states (`Reachable.handshake_step`). So during a stay in one of them the
SYN never changes, the count is the number of wake-ups delivered, and it never passes the
maximum (`Reachable.along_stay`). A connecting session answers the peer's SYN repeated with its
own SYN again, and that counts no retry (`run_onSyn_repeated`).
-/

namespace ReliableDatagram

namespace State

/-- Initiating or connecting: the session is opening by handshake. -/
def handshaking : State → Bool
  | .initiating | .connecting => true
  | _ => false

theorem handshaking_iff {st : State} :
    st.handshaking = true ↔ st = .initiating ∨ st = .connecting := by
  cases st <;> simp [handshaking]

end State

namespace Session

/-- The SYN a session sends while it opens: its configuration and initial number, acknowledging
the peer's initial number while connecting. -/
def openingSyn (s : Session) : Header :=
  Header.buildSyn s.info.config s.info.sendInitial
    (if s.state = .connecting then some s.info.receiveInitial else none)

end Session

namespace Act

variable (e : Endpoint)

theorem Spoken.handshakeCount {e e' : Endpoint} (hs : Spoken e e') :
    e'.session.timers.handshakeCount = e.session.timers.handshakeCount := by
  rw [hs.2]

theorem state_establish : (establish.run e).2.session.state = .connected := by
  rw [run_establish]
  exact state_enter _ _

theorem state_reset :
    (reset.run e).2.session.state = if e.session.info.passive then .waiting else .closed := by
  rw [run_reset]
  exact state_enter _ _

theorem handshaking_reset : (reset.run e).2.session.state.handshaking = false := by
  rw [state_reset]
  split <;> rfl

theorem handshaking_establish : (establish.run e).2.session.state.handshaking = false := by
  rw [state_establish]
  rfl

variable {e}

/-- Giving up leaves a handshake state. -/
theorem state_reset_ne (hst : e.session.state.handshaking = true) :
    (reset.run e).2.session.state ≠ e.session.state := by
  rw [state_reset]
  rcases State.handshaking_iff.1 hst with hst | hst <;> rw [hst] <;> split <;> nofun

/-- Giving up a handshake tells the host of the state it falls back to, and of nothing else. -/
theorem effects_reset (hst : e.session.state.handshaking = true) :
    (reset.run e).2.effects = e.effects ++ [.entered (reset.run e).2.session.state] := by
  have hne := state_reset_ne hst
  rw [run_reset] at hne ⊢
  rw [state_enter] at hne ⊢
  have hnext : (if e.session.info.passive then State.waiting else .closed) = .closed ∨
      (if e.session.info.passive then State.waiting else .closed) = .waiting := by
    split <;> simp
  generalize (if e.session.info.passive then State.waiting else .closed) = next at hne hnext ⊢
  rw [run_enter, if_neg (Ne.symm hne)]
  dsimp only
  -- arriving in `closed` or `waiting` only withdraws wake-ups and drops the windows
  have harrive : ∀ e₀ : Endpoint, ((arrive next).run e₀).2.effects = e₀.effects := by
    intro e₀
    rcases hnext with rfl | rfl
    · rw [run_arrive_closed, run_dropWindows]
      exact (Endpoint.sameTalk_cancelRetransmissions _).2.2.2.2.trans (Endpoint.sameTalk_cancelAllTimers _).2.2.2.2
    · rw [run_arrive_waiting, run_dropWindows]
      exact (Endpoint.sameTalk_cancelRetransmissions _).2.2.2.2.trans (Endpoint.sameTalk_cancelAllTimers _).2.2.2.2
  rw [harrive]
  exact congrArg (· ++ _) (Endpoint.sameTalk_leave e _).2.2.2.2

end Act

namespace Endpoint

variable {e e' : Endpoint}

open Act

/-! ### Entering a handshake -/

/-- `e'` has just entered `initiating` or `connecting` after the effects `pre`: the state's SYN
went out and the state was reported, no retry is counted yet, and a connecting session
acknowledges exactly the peer's SYN. -/
structure Entered (e' : Endpoint) (pre : List Effect) : Prop where
  effects : e'.effects = pre ++
    [.transmit e'.session.openingSyn.datagram, .entered e'.session.state]
  count : e'.session.timers.handshakeCount = 0
  acked : e'.session.state = .connecting →
    e'.session.info.receiveAcked = e'.session.info.receiveInitial

/-- Entering a handshake state from `closed`, `waiting` or `initiating` starts the handshake
afresh. -/
theorem entered_enter {st : State} (hop : st = .initiating ∨ st = .connecting)
    (hfrom : e.session.state = .closed ∨ e.session.state = .waiting ∨
      e.session.state = .initiating)
    (hne : e.session.state ≠ st)
    (hacked : st = .connecting → e.session.info.receiveAcked = e.session.info.receiveInitial) :
    Entered ((enter st).run e).2 e.effects := by
  -- leaving a closed, waiting or initiating session keeps its record and its effects
  have hleave : ∃ sc tm, ((leave e.session.state).run e).2 =
      { e with schedule := sc, session := { e.session with timers := tm } } := by
    rcases hfrom with h | h | h <;> rw [h]
    · exact ⟨_, _, rfl⟩
    · exact ⟨_, _, rfl⟩
    · exact ⟨_, _, run_leave_initiating e ▸ run_cancelHandshake e⟩
  obtain ⟨sc, tm, hl⟩ := hleave
  rw [run_enter, if_neg hne]
  dsimp only
  rw [hl]
  rcases hop with rfl | rfl
  · simp only [run_arrive_initiating, run_sendSyn_datagram, run_armHandshake, run_rearmHandshake]
    exact ⟨by simp [Session.openingSyn], rfl, nofun⟩
  · have ha := hacked rfl
    simp only [run_arrive_connecting, run_sendSyn_datagram, run_armHandshake, run_rearmHandshake]
    exact ⟨by simp [Session.openingSyn, ha], rfl, fun _ ↦ ha⟩

/-- Taking the peer's SYN in `waiting` or `initiating`: a usable configuration starts the
`connecting` handshake, an unusable one gives up. -/
theorem run_answer (c : Common) (config : Config) :
    ((do if ← acceptRemote c config then enter .connecting : Act Unit).run e).2 =
      if config.isValid then
        ((enter .connecting).run { e with session := { e.session with info := { e.session.info with
          remote := some config, receiveInitial := c.seq, receiveAcked := c.seq } } }).2
      else (reset.run ((replyRst c).run e).2).2 := by
  rw [run_bind, run_acceptRemote]
  split <;> rfl

/-! ### What one handler does to a handshake -/

/-- What a handler may do to the handshake of the session it runs on: only speak to the peer;
start a handshake, entering `initiating` or `connecting` from another state; or leave the session
in neither. -/
inductive HandshakeMove (e e' : Endpoint) : Prop
  /-- Only speaking: state, record and wake-ups stay. -/
  | speak : Spoken e e' → HandshakeMove e e'
  /-- A handshake starts afresh. -/
  | enter : e'.session.state ≠ e.session.state → Entered e' e.effects → HandshakeMove e e'
  /-- The session ends up outside the handshake states. -/
  | out : e'.session.state.handshaking = false → HandshakeMove e e'

/-- Recording the peer's SYN in `waiting` or `initiating` starts the `connecting` handshake. -/
theorem handshakeMove_accepted (hst : e.session.state = .waiting ∨ e.session.state = .initiating)
    (c : Common) (config : Config) :
    HandshakeMove e ((enter .connecting).run { e with session := { e.session with info :=
      { e.session.info with remote := some config, receiveInitial := c.seq, receiveAcked := c.seq } } }).2 := by
  refine .enter ?_ (entered_enter (.inr rfl) ?_ ?_ fun _ ↦ rfl)
  · rw [state_enter]
    rcases hst with hst | hst <;> rw [hst] <;> decide
  · exact hst.elim (fun h ↦ .inr (.inl h)) fun h ↦ .inr (.inr h)
  · show e.session.state ≠ .connecting
    rcases hst with hst | hst <;> rw [hst] <;> decide

/-- Taking the peer's SYN in `waiting` or `initiating` starts the `connecting` handshake or
gives up. -/
theorem handshakeMove_answer (hst : e.session.state = .waiting ∨ e.session.state = .initiating)
    (c : Common) (config : Config) :
    HandshakeMove e ((do if ← acceptRemote c config then enter .connecting : Act Unit).run e).2 := by
  rw [run_answer]
  split
  · exact handshakeMove_accepted hst c config
  · exact .out (handshaking_reset _)

/-- A segment reaching an initiating session: the peer's SYN crossing ours starts the
`connecting` handshake, and a segment that neither refuses nor completes the handshake only
speaks. -/
theorem handshakeMove_onSegment_initiating (hst : e.session.state = .initiating)
    (seg : Segment) : HandshakeMove e ((onSegment seg).run e).2 := by
  obtain ⟨header, payload⟩ := seg
  -- each handler's branches for the other states are not taken
  cases header with
  | syn c config =>
    exact onSyn_cases (motive := HandshakeMove e) e c config
      (fun _ ↦ .speak (spoken_replyRst e c)) (fun hs _ _ ↦ handshakeMove_accepted hs c config)
      (fun _ _ _ ↦ .out (by rw [(spoken_sendAck _).state]; exact handshaking_establish _))
      (fun _ ↦ .out (handshaking_reset _)) (fun h ↦ by simp [hst] at h)
      (fun h ↦ by simp [hst] at h) (fun h ↦ by simp [hst] at h) (fun h ↦ by simp [hst] at h)
      (fun h ↦ by simp [hst] at h)
  | rst c =>
    exact onRst_cases (motive := HandshakeMove e) e (fun _ ↦ .out (handshaking_reset _))
      (fun h ↦ by simp [hst] at h) (fun h ↦ by simp [hst] at h) (fun h ↦ by simp [hst] at h)
  | nul c =>
    exact onNul_cases (motive := HandshakeMove e) e c (fun h ↦ by simp [hst] at h)
      (fun h ↦ by simp [hst] at h) (fun h ↦ by simp [hst] at h) (fun h ↦ by simp [hst] at h)
      (fun _ ↦ .speak (Spoken.refl e))
  | ack c n =>
    exact onAck_cases (motive := HandshakeMove e) e c payload (fun h ↦ by simp [hst] at h)
      (fun h ↦ by simp [hst] at h) (fun h ↦ by simp [hst] at h) (fun h ↦ by simp [hst] at h)
      (fun _ ↦ .speak (Spoken.refl e))
  | eack c n acks =>
    exact onEack_cases (motive := HandshakeMove e) e c acks payload (fun h ↦ by simp [hst] at h)
      (fun h ↦ by simp [hst] at h) (fun h ↦ by simp [hst] at h) (fun _ ↦ .speak (Spoken.refl e))

/-- A connecting session answers its peer's SYN repeated, one that does not acknowledge its own,
with its SYN again. -/
theorem run_onSyn_repeated (hst : e.session.state = .connecting) {c : Common} {config : Config}
    (hseq : c.seq = e.session.info.receiveInitial)
    (hk : (c.flags.has .ack && c.ack == e.session.info.sendInitial) = false) :
    ((onSyn c config).run e).2 = ((sendSyn (some e.session.info.receiveAcked)).run e).2 := by
  unfold onSyn
  rw [run_bind, run_session]
  dsimp only
  rw [hst]
  dsimp only
  rw [if_neg (not_not.2 hseq), run_bind, run_acknowledgesSyn]
  dsimp only
  rw [hk, if_neg Bool.false_ne_true]

/-- A segment reaching a connecting session either completes or refuses the handshake, or only
speaks. -/
theorem handshakeMove_onSegment_connecting (hst : e.session.state = .connecting)
    (seg : Segment) : HandshakeMove e ((onSegment seg).run e).2 := by
  obtain ⟨header, payload⟩ := seg
  -- each handler's branches for the other states are not taken
  cases header with
  | syn c config =>
    exact onSyn_cases (motive := HandshakeMove e) e c config (fun h ↦ by simp [hst] at h)
      (fun h ↦ by simp [hst] at h) (fun h ↦ by simp [hst] at h) (fun _ ↦ .out (handshaking_reset _))
      (fun _ _ _ ↦ .out (by rw [(spoken_sendAck _).state]; exact handshaking_establish _))
      (fun _ _ _ ↦ .speak (spoken_sendSyn e _)) (fun h ↦ by simp [hst] at h)
      (fun h ↦ by simp [hst] at h) (fun h ↦ by simp [hst] at h)
  | rst c =>
    exact onRst_cases (motive := HandshakeMove e) e (fun _ ↦ .out (handshaking_reset _))
      (fun h ↦ by simp [hst] at h) (fun h ↦ by simp [hst] at h) (fun h ↦ by simp [hst] at h)
  | nul c =>
    exact onNul_cases (motive := HandshakeMove e) e c (fun h ↦ by simp [hst] at h)
      (fun _ _ ↦ .out (by rw [(unmoved_nulArrives _ c).state]; exact handshaking_establish _))
      (fun _ _ ↦ .speak (spoken_replyRst e c)) (fun h ↦ by simp [hst] at h)
      (fun h ↦ by simp [hst] at h)
  | ack c n =>
    exact onAck_cases (motive := HandshakeMove e) e c payload (fun h ↦ by simp [hst] at h)
      (fun _ _ ↦ .out (by rw [(unmoved_segmentArrives _ c [] _).state]; exact handshaking_establish _))
      (fun _ _ ↦ .speak (spoken_replyRst e c)) (fun h ↦ by simp [hst] at h)
      (fun h ↦ by simp [hst] at h)
  | eack c n acks =>
    exact onEack_cases (motive := HandshakeMove e) e c acks payload (fun h ↦ by simp [hst] at h)
      (fun _ ↦ .out (handshaking_reset _)) (fun h ↦ by simp [hst] at h)
      (fun h ↦ by simp [hst] at h)


/-! ### The handshake wake-up -/

/-- The endpoint a handshake wake-up finds: delivered by the host, forgotten by the session, with
no effects recorded. -/
def takesHandshake (e : Endpoint) (hd : Handle) : Endpoint :=
  { e with
    schedule := e.schedule.deliver hd .handshake, effects := []
    session := { e.session with timers := { e.session.timers with handshake := none } } }

/-- The delivery of the handshake wake-up a handshaking session holds: with retries left it sends
its SYN again, counts one more retry and arms the wake-up again; with none left it gives up. -/
theorem handle_fire_handshake (hst : e.session.state = .initiating ∨ e.session.state = .connecting)
    {hd : Handle} (hh : e.session.timers.handshake = some hd)
    (hacked : e.session.state = .connecting →
      e.session.info.receiveAcked = e.session.info.receiveInitial) :
    e.handle (.fire hd .handshake) =
      if e.session.timers.handshakeCount ≥ e.session.info.config.maxRetransmissions then
        (reset.run (e.takesHandshake hd)).2
      else { e.takesHandshake hd with
        schedule := ((e.schedule.deliver hd .handshake).add
          e.session.info.config.retransmissionDelay .handshake).2
        effects := [.transmit e.session.openingSyn.datagram]
        session := { e.session with timers := { e.session.timers with
          handshake := some ⟨e.schedule.issued + 1⟩
          handshakeCount := e.session.timers.handshakeCount + 1, idle := false } } } := by
  unfold handle Event.act timerFired
  rw [run_bind, run_session]
  dsimp only [prepare]
  rcases hst with hst | hst <;> rw [hst] <;> dsimp only <;>
    rw [run_bind, run_handshakeTimeout] <;> dsimp only <;> rw [hh, if_neg (by simp)] <;>
    by_cases hc : e.session.timers.handshakeCount ≥ e.session.info.config.maxRetransmissions
  -- the run lemmas go in by `rw`: `simp` rewriting under `StateT.run` costs seconds of kernel
  -- time here
  · simp only [if_pos hc]
    rfl
  · simp only [if_neg hc]
    rw [run_sendSyn_datagram, run_rearmHandshake]
    simp only [Schedule.cancel?]
    simp [Session.openingSyn, hst]
  · simp only [if_pos hc]
    rfl
  · simp only [if_neg hc]
    rw [run_bind, run_info, run_sendSyn_datagram, run_rearmHandshake]
    simp only [Schedule.cancel?]
    simp [Session.openingSyn, hst, hacked hst]

/-- `e'` is `e` after its handshake wake-up with retries left: the same SYN went out again and
nothing else, one more retry is counted, and a fresh handshake wake-up, after the configured
delay, is the only one pending. -/
structure Retried (e e' : Endpoint) : Prop where
  effects : e'.effects = [.transmit e.session.openingSyn.datagram]
  state : e'.session.state = e.session.state
  info : e'.session.info = e.session.info
  count : e'.session.timers.handshakeCount = e.session.timers.handshakeCount + 1
  rearmed : e'.schedule.pending =
    [⟨⟨e.schedule.issued + 1⟩, .handshake, e.session.info.config.retransmissionDelay⟩]

/-- `e'` is `e` after its handshake wake-up with no retries left: nothing went out, the session
fell back to `waiting` if it was opened passively and to `closed` otherwise, reporting that
state, and it holds no wake-up and no peer configuration. -/
structure GaveUp (e e' : Endpoint) : Prop where
  effects : e'.effects = [.entered e'.session.state]
  state : e'.session.state = if e.session.info.passive then .waiting else .closed
  pending : e'.schedule.pending = []
  remote : e'.session.info.remote = none

/-- A retry counted below the maximum stays within it, and counts one in the naturals. -/
theorem Retried.count_toNat (hr : Retried e e')
    (hc : e.session.timers.handshakeCount < e.session.info.config.maxRetransmissions) :
    e'.session.timers.handshakeCount.toNat = e.session.timers.handshakeCount.toNat + 1 ∧
      e'.session.timers.handshakeCount ≤ e.session.info.config.maxRetransmissions := by
  have hlt := UInt8.lt_iff_toNat_lt.1 hc
  have hmax := e.session.info.config.maxRetransmissions.toNat_lt
  rw [hr.count, UInt8.le_iff_toNat_le, UInt8.toNat_add]
  simp only [UInt8.toNat_one]
  omega

/-- A reachable closed or waiting session has nothing pending and no peer configuration. -/
theorem Reachable.cleared (h : e.Reachable)
    (hst : e.session.state = .closed ∨ e.session.state = .waiting) :
    e.schedule.pending = [] ∧ e.session.info.remote = none := by
  have hfits := h.owns_wakeups.by_state
  unfold Session.PendingFits at hfits
  rcases hst with hst | hst <;> rw [hst] at hfits <;> exact ⟨hfits.1, hfits.2.2.2.2⟩

/-- A reachable handshaking session has exactly one wake-up pending, the handshake one it
holds. -/
theorem Reachable.pending_handshake (h : e.Reachable) (hop : e.session.state.handshaking = true) :
    ∃ a, e.schedule.pending = [a] ∧ a.timer = .handshake ∧
      e.session.timers.handshake = some a.handle := by
  have hfits := h.owns_wakeups.by_state
  unfold Session.PendingFits at hfits
  obtain ⟨a, ha, hta⟩ : ∃ a, e.schedule.pending = [a] ∧ a.timer = .handshake := by
    rcases State.handshaking_iff.1 hop with hst | hst <;> rw [hst] at hfits <;> exact hfits
  refine ⟨a, ha, hta, (h.owns_wakeups.pending_iff a.handle .handshake).1 ⟨a, ?_, rfl, hta⟩⟩
  rw [ha]
  exact List.mem_singleton_self a

/-- The handshake wake-up a handshaking session holds, delivered: with fewer retries counted than
the maximum the SYN goes out again; with the maximum counted the session gives up. -/
theorem Reachable.fire_handshake (h : e.Reachable) (hop : e.session.state.handshaking = true)
    (hacked : e.session.state = .connecting →
      e.session.info.receiveAcked = e.session.info.receiveInitial)
    {hd : Handle} (hh : e.session.timers.handshake = some hd) :
    (e.session.timers.handshakeCount < e.session.info.config.maxRetransmissions →
      Retried e (e.handle (.fire hd .handshake))) ∧
    (e.session.info.config.maxRetransmissions ≤ e.session.timers.handshakeCount →
      GaveUp e (e.handle (.fire hd .handshake))) := by
  have heq := handle_fire_handshake (State.handshaking_iff.1 hop) hh hacked
  -- the wake-up delivered is the only one pending
  obtain ⟨a, hpend, hta, hha⟩ := h.pending_handshake hop
  have hdel : (e.schedule.deliver hd .handshake).pending = [] := by
    rw [hh, Option.some.injEq] at hha
    simp [Schedule.deliver, hpend, hta, hha]
  refine ⟨fun hc ↦ ?_, fun hc ↦ ?_⟩
  · rw [heq, if_neg (UInt8.not_le.2 hc)]
    refine ⟨rfl, rfl, rfl, rfl, ?_⟩
    rw [Schedule.pending_add, hdel]
    rfl
  · have hst' : (e.handle (.fire hd .handshake)).session.state =
        if e.session.info.passive then .waiting else .closed := by
      rw [heq, if_pos hc, state_reset]
      rfl
    have hcleared := (Reachable.handle _ h).cleared (by rw [hst']; split <;> simp)
    refine ⟨?_, hst', hcleared.1, hcleared.2⟩
    rw [heq, if_pos hc, effects_reset (e := e.takesHandshake hd) hop]
    rfl

/-! ### What one event does to a handshake -/

/-- Whether an event delivers the handshake wake-up the session holds. -/
def deliversHandshake (e : Endpoint) : Event → Bool
  | .fire hd .handshake => e.session.timers.handshake == some hd
  | _ => false

/-- What one event can do to the handshake of a session. -/
inductive HandshakeStep (e : Endpoint) (ev : Event) (e' : Endpoint) : Prop
  /-- Anything but the handshake wake-up may only speak to the peer. -/
  | speak : e.deliversHandshake ev = false → Spoken e e' → HandshakeStep e ev e'
  /-- A handshake starts afresh. -/
  | enter : e'.session.state ≠ e.session.state → Entered e' [] → HandshakeStep e ev e'
  /-- The session ends up outside the handshake states. -/
  | out : e'.session.state.handshaking = false → HandshakeStep e ev e'
  /-- The handshake wake-up with retries left sends the SYN again. -/
  | retry : e.deliversHandshake ev = true →
      e.session.timers.handshakeCount < e.session.info.config.maxRetransmissions →
      Retried e e' → HandshakeStep e ev e'

/-- A handler's move from the endpoint as an event finds it is a step of an event that does not
deliver the handshake wake-up. -/
theorem HandshakeMove.step {ev : Event} (hm : HandshakeMove { e with effects := [] } e')
    (hd : e.deliversHandshake ev = false) : HandshakeStep e ev e' := by
  cases hm with
  | speak hs => exact .speak hd hs
  | enter hne he => exact .enter hne he
  | out hout => exact .out hout

/-- A connected or disconnecting session never returns to a handshake state. -/
theorem Moved.handshaking {ev : Event} (hm : Moved e ev e')
    (hst : e.session.state = .connected ∨ e.session.state = .disconnecting) :
    e'.session.state.handshaking = false := by
  by_cases hs : e'.session.state = e.session.state
  · rcases hst with hst | hst <;> rw [hs, hst] <;> rfl
  · have hmv := hm.move hs
    generalize e'.session.state = st at hmv ⊢
    rcases hst with hst | hst <;> rw [hst] at hmv <;> cases hmv <;> rfl

/-- A datagram is dropped unless it fits the segment size and decodes; then it goes to the
handler of its kind. -/
theorem handle_receive_cases (e : Endpoint) (d : Bytes) :
    e.handle (.receive d) = { e with effects := [] } ∨
      ∃ seg, Segment.parse d = .ok seg ∧
        e.handle (.receive d) = ((onSegment seg).run { e with effects := [] }).2 := by
  by_cases hfit : d.length ≤ e.session.info.config.maxSegmentSize.toNat
  · cases hp : Segment.parse d with
    | ok seg => exact .inr ⟨seg, rfl, handle_receive_of_parse hp hfit⟩
    | error err =>
      have hnot : ¬ d.length > e.session.info.config.maxSegmentSize.toNat := by omega
      left
      simp only [handle, prepare, Event.act, receive, run_bind, run_info, hnot, ↓reduceIte, hp]
      rfl
  · have hover : d.length > e.session.info.config.maxSegmentSize.toNat := by omega
    left
    simp only [handle, prepare, Event.act, receive, run_bind, run_info, hover, ↓reduceIte]
    rfl

/-- A datagram reaching a session outside `connected` and `disconnecting`: a closed session only
answers; a waiting one starts the `connecting` handshake when asked for a connection. -/
theorem handshakeStep_receive
    (hst : e.session.state ≠ .connected ∧ e.session.state ≠ .disconnecting) (d : Bytes) :
    HandshakeStep e (.receive d) (e.handle (.receive d)) := by
  rcases handle_receive_cases e d with hdrop | ⟨seg, hp, hrun⟩
  · rw [hdrop]
    exact .speak rfl ⟨rfl, rfl⟩
  rw [hrun]
  have hf := Segment.formed_of_parse hp
  have hv := Segment.valid_of_parse hp
  refine HandshakeMove.step ?_ rfl
  cases hs : e.session.state with
  | closed =>
    refine .out ?_
    rw [(rejected_onSegment hf hv (.inl hs)).2.state]
    dsimp only
    rw [hs]
    rfl
  | waiting =>
    cases hq : seg.header.requestsConnection with
    | false =>
      refine .out ?_
      rw [(rejected_onSegment hf hv (.inr ⟨hs, hq⟩)).2.state]
      dsimp only
      rw [hs]
      rfl
    | true =>
      -- the peer asks for a connection with a SYN without ACK
      obtain ⟨header, payload⟩ := seg
      cases header with
      | syn c config =>
        have ha : c.flags.has .ack = false := by simpa [Header.requestsConnection] using hq
        rw [onSegment]
        dsimp only
        rw [run_onSyn_waiting (e := { e with effects := [] }) hs, if_neg (by simp [ha])]
        exact handshakeMove_answer (e := { e with effects := [] }) (.inl hs) c config
      | rst c | nul c | ack c n | eack c n acks => cases hq
  | initiating => exact handshakeMove_onSegment_initiating (e := { e with effects := [] }) hs seg
  | connecting => exact handshakeMove_onSegment_connecting (e := { e with effects := [] }) hs seg
  | connected => exact absurd hs hst.1
  | disconnecting => exact absurd hs hst.2

/-- A wake-up delivered to a reachable session outside `connected` and `disconnecting`: only a
handshaking session holds one, its handshake wake-up, and a stale one changes nothing. -/
theorem Reachable.handshakeStep_fire (h : e.Reachable)
    (hacked : e.session.state = .connecting →
      e.session.info.receiveAcked = e.session.info.receiveInitial)
    (hst : e.session.state ≠ .connected ∧ e.session.state ≠ .disconnecting)
    (hd : Handle) (t : Timer) :
    HandshakeStep e (.fire hd t) (e.handle (.fire hd t)) := by
  by_cases hlive : e.session.held t = some hd
  · have hallowed := h.invariant.allowed
    unfold Session.TimersAllowed at hallowed
    cases hs : e.session.state with
    | closed | waiting =>
      rw [hs] at hallowed
      exact absurd ((hallowed t).symm.trans hlive) nofun
    | connected => exact absurd hs hst.1
    | disconnecting => exact absurd hs hst.2
    | initiating | connecting =>
      rw [hs] at hallowed
      -- the only wake-up a handshaking session holds is its handshake one
      obtain rfl : t = .handshake := by
        by_contra ht
        exact absurd ((hallowed t ht).symm.trans hlive) nofun
      have hop : e.session.state.handshaking = true := by rw [hs]; rfl
      have hh : e.session.timers.handshake = some hd := hlive
      have hdel : e.deliversHandshake (.fire hd .handshake) = true := by
        simp [deliversHandshake, hh]
      obtain ⟨hretry, hgive⟩ := h.fire_handshake hop hacked hh
      by_cases hc : e.session.timers.handshakeCount < e.session.info.config.maxRetransmissions
      · exact .retry hdel hc (hretry hc)
      · refine .out ?_
        rw [(hgive (UInt8.not_lt.1 hc)).state]
        split <;> rfl
  · rw [h.owns_wakeups.stale hd t hlive]
    refine .speak ?_ ⟨rfl, rfl⟩
    cases t with
    | handshake => simpa [deliversHandshake, Session.held] using hlive
    | keepAlive | disconnect | retransmission _ => rfl

/-- Closing a session that is neither connected nor disconnecting closes it at once. -/
theorem state_close (hst : e.session.state ≠ .connected ∧ e.session.state ≠ .disconnecting) :
    (Act.close.run e).2.session.state = .closed := by
  unfold Act.close
  rw [run_bind, run_session]
  cases hs : e.session.state with
  | closed => exact hs
  | waiting => exact state_enter _ _
  | initiating => rw [run_bind, run_info, run_bind, state_enter]
  | connecting => rw [run_bind, state_enter]
  | connected => exact absurd hs hst.1
  | disconnecting => exact absurd hs hst.2

/-- What a session does on an event outside `connected` and `disconnecting` that is neither a
datagram nor a wake-up: only an active open of a closed session starts a handshake. -/
theorem handshakeStep_command
    (hst : e.session.state ≠ .connected ∧ e.session.state ≠ .disconnecting)
    (hm : Moved e ev (e.handle ev)) (hev : ∀ d, ev ≠ .receive d) (hfire : ∀ hd t, ev ≠ .fire hd t) :
    HandshakeStep e ev (e.handle ev) := by
  cases ev with
  | connect iss =>
    by_cases hc : e.session.state = .closed
    · have hrun : e.handle (.connect iss) =
          ((enter .initiating).run ((start iss false).run { e with effects := [] }).2).2 := by
        simp only [handle, Event.act, Act.connect, run_bind, run_session, prepare, hc,
          ↓reduceIte]
      rw [hrun]
      refine .enter ?_ (entered_enter (.inl rfl) (.inl hc)
        (fun h' ↦ absurd (hc.symm.trans h') (by decide)) fun h' ↦ absurd h' (by decide))
      rw [state_enter, hc]
      decide
    · exact .speak rfl (by rw [hm.ignored rfl hc]; exact ⟨rfl, rfl⟩)
  | wait iss =>
    by_cases hc : e.session.state = .closed
    · have hrun : e.handle (.wait iss) =
          ((enter .waiting).run ((start iss true).run { e with effects := [] }).2).2 := by
        simp only [handle, Event.act, Act.wait, run_bind, run_session, prepare, hc, ↓reduceIte]
      refine .out ?_
      rw [hrun, state_enter]
      rfl
    · exact .speak rfl (by rw [hm.ignored rfl hc]; exact ⟨rfl, rfl⟩)
  | close =>
    refine .out ?_
    rw [show e.handle .close = (Act.close.run { e with effects := [] }).2 from rfl,
      state_close (e := { e with effects := [] }) hst]
    rfl
  | invalidate =>
    refine .out ?_
    simp only [handle, Event.act, prepare, Act.invalidate]
    rw [state_enter]
    rfl
  | send payload =>
    have hrun : e.handle (.send payload) = { e with effects := [] } := by
      simp only [handle, Event.act, prepare, Act.send, run_bind, run_session, hst.1,
        ↓reduceIte, run_pure]
    rw [hrun]
    exact .speak rfl ⟨rfl, rfl⟩
  | receive d => exact absurd rfl (hev d)
  | fire hd t => exact absurd rfl (hfire hd t)

/-- **One event and a handshake.** An event a reachable session takes either only speaks to the
peer, or starts a handshake afresh from another state, or leaves the session outside the
handshake states, or is the handshake wake-up with retries left and sends the SYN again. -/
theorem Reachable.handshake_step (h : e.Reachable)
    (hacked : e.session.state = .connecting →
      e.session.info.receiveAcked = e.session.info.receiveInitial)
    (ev : Event) : HandshakeStep e ev (e.handle ev) := by
  have hm := h.moves_along_diagram ev
  -- a connected or disconnecting session never returns to a handshake
  by_cases hlate : e.session.state = .connected ∨ e.session.state = .disconnecting
  · exact .out (hm.handshaking hlate)
  have hst : e.session.state ≠ .connected ∧ e.session.state ≠ .disconnecting := not_or.1 hlate
  cases ev with
  | receive d => exact handshakeStep_receive hst d
  | fire hd t => exact h.handshakeStep_fire hacked hst hd t
  | _ => exact handshakeStep_command hst hm (fun _ ↦ nofun) fun _ _ ↦ nofun

/-- A connecting session has delivered nothing yet: it acknowledges exactly the peer's SYN. -/
theorem Reachable.acked_connecting (h : e.Reachable) :
    e.session.state = .connecting → e.session.info.receiveAcked = e.session.info.receiveInitial := by
  induction h with
  | @fresh c s hs =>
    obtain rfl := Session.eq_of_new hs
    nofun
  | handle ev h ih =>
    intro hst
    cases h.handshake_step ih ev with
    | speak _ hs => rw [hs.info]; exact ih (hs.state ▸ hst)
    | enter _ he => exact he.acked hst
    | out hout => rw [hst] at hout; cases hout
    | retry _ _ hr => rw [hr.info]; exact ih (hr.state ▸ hst)


/-! ### A stay in a handshake state -/

/-- Every event of the run leaves the session in the state it found it in. -/
def KeepsState : Endpoint → List Event → Prop
  | _, [] => True
  | e, ev :: evs => (e.handle ev).session.state = e.session.state ∧ (e.handle ev).KeepsState evs

/-- How many events of the run deliver the handshake wake-up the session holds as it takes
them. -/
def handshakesAlong : Endpoint → List Event → Nat
  | _, [] => 0
  | e, ev :: evs => (if e.deliversHandshake ev then 1 else 0) + (e.handle ev).handshakesAlong evs

/-- `e'` is `e` later in the same stay in a handshake state, `n` handshake wake-ups on: the
state and record are the same, `n` more retries are counted, and no more than the maximum. -/
structure Retrying (e : Endpoint) (n : Nat) (e' : Endpoint) : Prop where
  state : e'.session.state = e.session.state
  info : e'.session.info = e.session.info
  count : e'.session.timers.handshakeCount.toNat = e.session.timers.handshakeCount.toNat + n
  bounded : e'.session.timers.handshakeCount ≤ e.session.info.config.maxRetransmissions

/-- An event that keeps a handshake state only speaks or sends the SYN again, counting the
wake-up it delivers. -/
theorem Retrying.step {e₁ e₂ : Endpoint} {n : Nat} {ev : Event} (hr : Retrying e₁ n e)
    (hop : e₁.session.state.handshaking = true) (hs : HandshakeStep e ev e₂)
    (hkeep : e₂.session.state = e.session.state) :
    Retrying e₁ (n + if e.deliversHandshake ev then 1 else 0) e₂ := by
  cases hs with
  | speak hd hsp =>
    rw [hd, if_neg Bool.false_ne_true, Nat.add_zero]
    refine ⟨hsp.state.trans hr.state, hsp.info.trans hr.info, ?_, ?_⟩
    · rw [hsp.handshakeCount]
      exact hr.count
    · rw [hsp.handshakeCount]
      exact hr.bounded
  | enter hne _ => exact absurd hkeep hne
  | out hout =>
    rw [hkeep, hr.state, hop] at hout
    cases hout
  | retry hd hc hre =>
    rw [hd, if_pos rfl]
    obtain ⟨hcount, hbound⟩ := hre.count_toNat hc
    refine ⟨hre.state.trans hr.state, hre.info.trans hr.info, ?_, ?_⟩
    · rw [hcount, hr.count, Nat.add_assoc]
    · rw [← hr.info]
      exact hbound

/-- **A stay in a handshake state.** Along events that keep a reachable session in `initiating`
or `connecting`, the state and record stay, and each delivery of the handshake wake-up counts
one retry, never past the maximum. -/
theorem Reachable.along_stay {e₁ : Endpoint} {n : Nat} (h : e.Reachable)
    (hop : e₁.session.state.handshaking = true) (hr : Retrying e₁ n e) {evs : List Event}
    (hkeep : e.KeepsState evs) :
    Retrying e₁ (n + e.handshakesAlong evs) (evs.foldl Endpoint.handle e) := by
  induction evs generalizing e n with
  | nil => exact hr
  | cons ev evs ih =>
    obtain ⟨hkeep₁, hkeep'⟩ := hkeep
    have hstep := hr.step hop (h.handshake_step h.acked_connecting ev) hkeep₁
    rw [List.foldl_cons, handshakesAlong, ← Nat.add_assoc]
    exact ih (h.handle ev) hstep hkeep'

/-- A connecting session answers the peer's SYN sent again, one that does not acknowledge its
own, with its own SYN again and changes nothing else: no retry is counted and the wake-up
stays. -/
theorem Reachable.answers_repeated_syn (h : e.Reachable) (hst : e.session.state = .connecting)
    {d : Bytes} {c : Common} {config : Config} {payload : Bytes}
    (hp : Segment.parse d = .ok ⟨.syn c config, payload⟩)
    (hfit : d.length ≤ e.session.info.config.maxSegmentSize.toNat)
    (hseq : c.seq = e.session.info.receiveInitial)
    (hk : (c.flags.has .ack && c.ack == e.session.info.sendInitial) = false) :
    (e.handle (.receive d)).effects = [.transmit e.session.openingSyn.datagram] ∧
      Spoken e (e.handle (.receive d)) := by
  rw [handle_receive_of_parse hp hfit, onSegment]
  dsimp only
  rw [run_onSyn_repeated (e := { e with effects := [] }) hst hseq hk]
  refine ⟨?_, spoken_sendSyn { e with effects := [] } _⟩
  rw [run_sendSyn_datagram]
  simp [Session.openingSyn, hst, h.acked_connecting hst]

/-- **Handshake retries are bounded and identical.** Let an event bring a reachable session into
`initiating` or `connecting` from another state, and let more events keep it there. Entering
sends the state's SYN and reports the state. The SYN stays the same throughout; the handshake
wake-ups delivered so far number at most the configured maximum, and the one wake-up pending is
the handshake one. Delivering it while fewer than the maximum were delivered sends that SYN again
and arms a new wake-up (`Retried`); delivering it after the maximum sends nothing and falls back
to `waiting` for a passive opener and to `closed` otherwise, with nothing pending and no peer
configuration (`GaveUp`). A connecting session answers the peer's SYN sent again with the same
SYN, counting no retry and touching no wake-up. -/
theorem Reachable.handshake_retries (h : e.Reachable) {ev : Event} {evs : List Event}
    (hopen : (e.handle ev).session.state.handshaking = true)
    (hnew : (e.handle ev).session.state ≠ e.session.state)
    (hkeep : (e.handle ev).KeepsState evs) :
    let e₁ := e.handle ev
    let e' := evs.foldl Endpoint.handle e₁
    let n := e₁.handshakesAlong evs
    let max := e₁.session.info.config.maxRetransmissions.toNat
    e₁.effects = [.transmit e₁.session.openingSyn.datagram, .entered e₁.session.state] ∧
    e'.session.openingSyn = e₁.session.openingSyn ∧ n ≤ max ∧
    ∃ a, e'.schedule.pending = [a] ∧ a.timer = .handshake ∧
      (n < max → Retried e' (e'.handle (.fire a.handle .handshake))) ∧
      (n = max → GaveUp e' (e'.handle (.fire a.handle .handshake))) ∧
      (e'.session.state = .connecting → ∀ d c config payload,
        Segment.parse d = .ok ⟨.syn c config, payload⟩ →
        d.length ≤ e'.session.info.config.maxSegmentSize.toNat →
        c.seq = e'.session.info.receiveInitial →
        (c.flags.has .ack && c.ack == e'.session.info.sendInitial) = false →
        (e'.handle (.receive d)).effects = [.transmit e₁.session.openingSyn.datagram] ∧
          Spoken e' (e'.handle (.receive d))) := by
  intro e₁ e' n max
  have h₁ : e₁.Reachable := h.handle ev
  -- the event is the only kind of step into a handshake state from another
  have hent : Entered e₁ [] := by
    cases h.handshake_step h.acked_connecting ev with
    | speak _ hs => exact absurd hs.state hnew
    | enter _ he => exact he
    | out hout => exact absurd hopen (by rw [hout]; decide)
    | retry _ _ hr => exact absurd hr.state hnew
  have hr : Retrying e₁ n e' := by
    have hr₀ : Retrying e₁ 0 e₁ := ⟨rfl, rfl, rfl, by rw [hent.count]; exact UInt8.zero_le⟩
    simpa using h₁.along_stay hopen hr₀ hkeep
  have h' : e'.Reachable := h₁.foldl evs
  have hop' : e'.session.state.handshaking = true := by rw [hr.state]; exact hopen
  have hsyn : e'.session.openingSyn = e₁.session.openingSyn := by
    unfold Session.openingSyn
    rw [hr.state, hr.info]
  -- the count started at zero, so it is the number of wake-ups delivered
  have hn : e'.session.timers.handshakeCount.toNat = n := by
    rw [hr.count, hent.count]
    simp
  have hmax : e'.session.info.config.maxRetransmissions.toNat = max := by rw [hr.info]
  obtain ⟨a, hpend, hta, hha⟩ := h'.pending_handshake hop'
  obtain ⟨hretry, hgive⟩ := h'.fire_handshake hop' h'.acked_connecting hha
  refine ⟨by simpa using hent.effects, hsyn, ?_, a, hpend, hta, fun hlt ↦ hretry ?_,
    fun heq ↦ hgive ?_, fun hst d c config payload hp hfit hseq hk ↦ ?_⟩
  · rw [← hn]
    exact UInt8.le_iff_toNat_le.1 hr.bounded
  · rw [UInt8.lt_iff_toNat_lt, hn, hmax]
    exact hlt
  · rw [UInt8.le_iff_toNat_le, hn, hmax, heq]
  · rw [← hsyn]
    exact h'.answers_repeated_syn hst hp hfit hseq hk


/-- A fresh session of the default configuration opens actively with initial number 0, and its
handshake wake-up, handle 1, is delivered once: the SYN goes out again. -/
theorem connectZero_handshake_retries :
    let e : Endpoint := { session := { info := { config := {} } } }
    let evs : List Event := [.fire ⟨1⟩ .handshake]
    e.Reachable ∧ (e.handle (.connect 0)).session.state.handshaking = true ∧
      (e.handle (.connect 0)).session.state ≠ e.session.state ∧
      (e.handle (.connect 0)).KeepsState evs ∧
      let e₁ := e.handle (.connect 0)
      let e' := evs.foldl Endpoint.handle e₁
      let n := e₁.handshakesAlong evs
      let max := e₁.session.info.config.maxRetransmissions.toNat
      e₁.effects = [.transmit e₁.session.openingSyn.datagram, .entered e₁.session.state] ∧
      e'.session.openingSyn = e₁.session.openingSyn ∧ n ≤ max ∧
      ∃ a, e'.schedule.pending = [a] ∧ a.timer = .handshake ∧
        (n < max → Retried e' (e'.handle (.fire a.handle .handshake))) ∧
        (n = max → GaveUp e' (e'.handle (.fire a.handle .handshake))) ∧
        (e'.session.state = .connecting → ∀ d c config payload,
          Segment.parse d = .ok ⟨.syn c config, payload⟩ →
          d.length ≤ e'.session.info.config.maxSegmentSize.toNat →
          c.seq = e'.session.info.receiveInitial →
          (c.flags.has .ack && c.ack == e'.session.info.sendInitial) = false →
          (e'.handle (.receive d)).effects = [.transmit e₁.session.openingSyn.datagram] ∧
            Spoken e' (e'.handle (.receive d))) :=
  ⟨.fresh (c := {}) (by decide), by decide, by decide, ⟨by decide, trivial⟩,
    @Reachable.handshake_retries _ (.fresh (c := {}) (by decide)) (.connect 0)
      [.fire ⟨1⟩ .handshake] (by decide) (by decide) ⟨by decide, trivial⟩⟩

end Endpoint

end ReliableDatagram
