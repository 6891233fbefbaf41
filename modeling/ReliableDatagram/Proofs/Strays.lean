import ReliableDatagram.Proofs.ControlSegments
import ReliableDatagram.Proofs.Moves
/-!
# Closed and waiting sessions answer strays

A segment that reaches a closed session, or a waiting one without being a connection request,
belongs to no connection. The session answers it with one RST, `Header.strayReset`, unless it is
itself an RST, and changes nothing else: its state, connection record, windows and wake-ups stay
as they were (`Endpoint.Rejected`). The RST follows the stray's numbering: after the number the
stray acknowledges when it carries ACK or is a NUL, otherwise numbered zero and acknowledging the
stray itself.

A SYN without ACK reaching a waiting session is a connection request. With a usable
configuration the session moves to `connecting` and sends its own SYN acknowledging the request;
with an unusable one it answers as to a stray, and stays waiting, since only a passive opener
waits.

Main statement: `Endpoint.Reachable.answers_strays`, for every datagram that decodes and fits the
session's segment size. A larger datagram is dropped before it is decoded, and so is never
answered (`oversized_stray_unanswered`).
-/

namespace ReliableDatagram

namespace Header

/-- The RST answering header `h` when it has no place in a closed or waiting session: none for
an RST; for a NUL, or a segment carrying ACK, one numbered past the acknowledged number and
acknowledging nothing; otherwise one numbered zero that acknowledges the segment's own number.
Each carries error code zero. -/
def strayReset : Header → Option Header
  | rst _ => none
  | nul c => some (buildRst 0 (c.ack + 1) none)
  | h => if h.common.flags.has .ack then some (buildRst 0 (h.common.ack + 1) none)
    else some (buildRst 0 0 (some h.common.seq))

/-- Whether `h` is a SYN without ACK, the request that opens a passive connection. -/
def requestsConnection : Header → Bool
  | syn c _ => !c.flags.has .ack
  | _ => false

/-- For a segment whose description is valid and announces its kind, the session's answer to
a stray is the one `strayReset` names: the flags it tests agree with the kind. -/
theorem rstFor_eq_strayReset {h : Header} (hf : h.Formed) (hv : h.common.flags.valid = true) :
    Act.rstFor h.common = h.strayReset := by
  unfold Header.Formed at hf
  cases h with
  | syn c config =>
    -- a valid description with SYN sets neither RST nor NUL
    simp only [common, kind] at hf hv
    have hs : c.flags.has .syn = true := Flags.kind_eq_syn.1 hf
    have hrn : c.flags.has .rst = false ∧ c.flags.has .nul = false := by
      revert hv
      cases hr : c.flags.has .rst <;> cases hn : c.flags.has .nul <;>
        simp [Flags.valid, Flags.exclusiveCount, hs, hr, hn]
    cases ha : c.flags.has .ack <;> simp [Act.rstFor, strayReset, common, hrn.1, hrn.2, ha]
  | rst c =>
    simp only [common, kind] at hf
    have hr : c.flags.has .rst = true := (Flags.kind_eq_rst.1 hf).2
    simp [Act.rstFor, strayReset, common, hr]
  | nul c =>
    simp only [common, kind] at hf
    obtain ⟨-, hr, hn⟩ := Flags.kind_eq_nul.1 hf
    simp [Act.rstFor, strayReset, common, hr, hn]
  | ack c n =>
    simp only [common, kind] at hf
    obtain ⟨-, hr, hn, -⟩ := Flags.kind_eq_ack.1 hf
    cases ha : c.flags.has .ack <;> simp [Act.rstFor, strayReset, common, hr, hn, ha]
  | eack c n acks =>
    simp only [common, kind] at hf
    obtain ⟨-, hr, hn, -⟩ := Flags.kind_eq_eack.1 hf
    cases ha : c.flags.has .ack <;> simp [Act.rstFor, strayReset, common, hr, hn, ha]

/-- Every answer to a stray is an RST of error code zero, as the builder returns it. -/
theorem exists_of_strayReset {h r : Header} (hr : h.strayReset = some r) :
    ∃ seq ack, r = buildRst 0 seq ack := by
  unfold strayReset at hr
  split at hr
  · cases hr
  · cases hr
    exact ⟨_, _, rfl⟩
  · split at hr <;> cases hr <;> exact ⟨_, _, rfl⟩

end Header

namespace Endpoint

variable {e : Endpoint}

/-- `e'` is `e` having answered the stray header `h`: the RST `h.strayReset` went out, if there is
one, and nothing else happened; state, connection record, windows and wake-ups, held and pending,
are as they were, the idle flag apart, which records that something was sent. -/
def Rejected (e : Endpoint) (h : Header) (e' : Endpoint) : Prop :=
  e'.effects = (h.strayReset.map fun r ↦ Effect.transmit r.datagram).toList ∧ Act.Spoken e e'

/-- A datagram that fits the session's segment size and decodes goes to the handler of its kind,
as found with no effects recorded. -/
theorem handle_receive_of_parse {d : Bytes} {seg : Segment} (hp : Segment.parse d = .ok seg)
    (hfit : d.length ≤ e.session.info.config.maxSegmentSize.toNat) :
    e.handle (.receive d) = ((Act.onSegment seg).run { e with effects := [] }).2 := by
  have hnot : ¬ d.length > e.session.info.config.maxSegmentSize.toNat := by omega
  simp only [handle, prepare, Event.act, Act.receive, Act.run_bind, Act.run_info, hnot,
    ↓reduceIte, hp]

/-- Answering a decoded stray: the RST it calls for goes out, and only the idle flag changes. -/
theorem rejected_replyRst (e : Endpoint) {h : Header} (hf : h.Formed)
    (hv : h.common.flags.valid = true) :
    Rejected { e with effects := [] } h ((Act.replyRst h.common).run { e with effects := [] }).2 := by
  unfold Rejected
  rw [Act.run_replyRst, Header.rstFor_eq_strayReset hf hv]
  cases hr : h.strayReset with
  | none => exact ⟨rfl, Act.Spoken.refl _⟩
  | some r =>
    obtain ⟨seq, ack, rfl⟩ := Header.exists_of_strayReset hr
    rw [Act.run_transmit_built _ (.rst 0 seq ack) rfl]
    exact ⟨rfl, rfl, rfl⟩

/-- A closed session answers a SYN as a stray. -/
theorem run_onSyn_closed (hst : e.session.state = .closed) (c : Common) (config : Config) :
    (Act.onSyn c config).run e = (Act.replyRst c).run e := by
  unfold Act.onSyn
  rw [Act.run_bind, Act.run_session]
  dsimp only
  rw [hst]

/-- A waiting session answers a SYN with ACK as a stray and takes one without ACK as a request. -/
theorem run_onSyn_waiting (hst : e.session.state = .waiting) (c : Common) (config : Config) :
    (Act.onSyn c config).run e =
      (if c.flags.has .ack then Act.replyRst c
       else do if ← Act.acceptRemote c config then Act.enter .connecting : Act Unit).run e := by
  unfold Act.onSyn
  rw [Act.run_bind, Act.run_session]
  dsimp only
  rw [hst]

/-- A closed session, or a waiting one that is not asked for a connection, answers any decoded
segment as a stray. -/
theorem rejected_onSegment {seg : Segment} (hf : seg.header.Formed)
    (hv : seg.header.common.flags.valid = true)
    (hst : e.session.state = .closed ∨
      e.session.state = .waiting ∧ seg.header.requestsConnection = false) :
    Rejected { e with effects := [] } seg.header
      ((Act.onSegment seg).run { e with effects := [] }).2 := by
  obtain ⟨header, payload⟩ := seg
  have hrej := rejected_replyRst e hf hv
  -- every handler of a closed or waiting session answers with `replyRst`, but the one for RST
  cases header with
  | syn c config =>
    rw [Act.onSegment]
    dsimp only
    rcases hst with hst | ⟨hst, hreq⟩
    · rw [run_onSyn_closed (e := { e with effects := [] }) hst]
      exact hrej
    · have ha : c.flags.has .ack = true := by simpa [Header.requestsConnection] using hreq
      rw [run_onSyn_waiting (e := { e with effects := [] }) hst, if_pos ha]
      exact hrej
  | rst c =>
    simp only [Act.onSegment, Act.onRst, Act.run_bind, Act.run_session]
    rcases hst with hst | ⟨hst, -⟩ <;> simp only [hst] <;> exact ⟨rfl, Act.Spoken.refl _⟩
  | nul c =>
    simp only [Act.onSegment, Act.onNul, Act.run_bind, Act.run_session]
    rcases hst with hst | ⟨hst, -⟩ <;> simp only [hst] <;> exact hrej
  | ack c n =>
    simp only [Act.onSegment, Act.onAck, Act.run_bind, Act.run_session]
    rcases hst with hst | ⟨hst, -⟩ <;> simp only [hst] <;> exact hrej
  | eack c n acks =>
    simp only [Act.onSegment, Act.onEack, Act.run_bind, Act.run_session]
    rcases hst with hst | ⟨hst, -⟩ <;> simp only [hst] <;> exact hrej

/-- A waiting passive opener asked for a connection with an unusable configuration answers as
to a stray: giving up returns it to `waiting`, where it already is. -/
theorem run_onSyn_unusable (hst : e.session.state = .waiting) (hp : e.session.info.passive = true)
    {c : Common} {config : Config} (ha : c.flags.has .ack = false)
    (hc : config.isValid = false) :
    ((Act.onSyn c config).run e).2 = ((Act.replyRst c).run e).2 := by
  have hs := Act.spoken_replyRst e c
  simp only [run_onSyn_waiting hst, ha, Bool.false_eq_true, ↓reduceIte, Act.run_bind,
    Act.run_acceptRemote, hc, Act.run_pure, Act.run_reset, hs.info, hp, Act.run_enter,
    hs.state.trans hst]

/-- A waiting session asked for a connection with a usable configuration moves to `connecting`
and sends its own SYN, acknowledging the request, before reporting the move. -/
theorem run_onSyn_usable (hst : e.session.state = .waiting) {c : Common} {config : Config}
    (ha : c.flags.has .ack = false) (hc : config.isValid = true) :
    ((Act.onSyn c config).run e).2.session.state = .connecting ∧
      ((Act.onSyn c config).run e).2.effects = e.effects ++
        [.transmit (Header.buildSyn e.session.info.config e.session.info.sendInitial
          (some c.seq)).datagram, .entered .connecting] := by
  simp only [run_onSyn_waiting hst, ha, Bool.false_eq_true, ↓reduceIte, Act.run_bind,
    Act.run_acceptRemote, hc, Act.run_enter, hst, reduceCtorEq, Act.run_leave_waiting, Act.run_arrive_connecting, Act.run_sendSyn_datagram,
    Act.run_armHandshake, Act.run_rearmHandshake, List.append_assoc, List.cons_append,
    List.nil_append, and_self]

end Endpoint

namespace Endpoint

variable {e : Endpoint}

/-- **Closed and waiting sessions answer strays.** A datagram that decodes and fits the segment
size, reaching a closed session, or a waiting one without being a SYN without ACK, is answered
with the one RST `Header.strayReset` names, none for an RST, and changes nothing else. A SYN
without ACK reaching a waiting session moves it to `connecting` with its own SYN sent, numbered
with its initial number, acknowledging the request and carrying its configuration, when the
request's configuration is usable; otherwise it is answered as a stray, and the session stays
waiting. -/
theorem Reachable.answers_strays (h : e.Reachable) {d : Bytes} {seg : Segment}
    (hp : Segment.parse d = .ok seg)
    (hfit : d.length ≤ e.session.info.config.maxSegmentSize.toNat) :
    ((e.session.state = .closed ∨
        e.session.state = .waiting ∧ seg.header.requestsConnection = false) →
      e.Rejected seg.header (e.handle (.receive d))) ∧
    ∀ c config, e.session.state = .waiting → seg.header = .syn c config →
      c.flags.has .ack = false →
      (config.isValid = true →
        (e.handle (.receive d)).session.state = .connecting ∧
        (e.handle (.receive d)).effects =
          [.transmit (Header.buildSyn e.session.info.config e.session.info.sendInitial
            (some c.seq)).datagram, .entered .connecting]) ∧
      (config.isValid = false → e.Rejected seg.header (e.handle (.receive d))) := by
  have hf := Segment.formed_of_parse hp
  have hv := Segment.valid_of_parse hp
  rw [handle_receive_of_parse hp hfit]
  refine ⟨rejected_onSegment hf hv, fun c config hst hseg ha ↦ ⟨fun hc ↦ ?_, fun hc ↦ ?_⟩⟩
  · obtain ⟨header, payload⟩ := seg
    cases hseg
    exact run_onSyn_usable (e := { e with effects := [] }) hst ha hc
  · -- only a passive opener waits, so giving up keeps it waiting
    have hpassive := h.openedRight.waiting hst
    have hrej := rejected_replyRst e hf hv
    obtain ⟨header, payload⟩ := seg
    cases hseg
    rw [Act.onSegment]
    dsimp only
    rw [run_onSyn_unusable (e := { e with effects := [] }) hst hpassive ha hc]
    exact hrej

/-- A session of the default configuration, opened passively with initial number 7. -/
def waitingSeven : Endpoint :=
  ({ session := { info := { config := {} } } } : Endpoint).handle (.wait 7)

/-- A SYN without ACK numbered 100, carrying the default configuration. -/
def requestHundred : Bytes :=
  [1, 1, 0, 22, 0, 100, 0, 0, 246, 202, 242, 249, 0, 0, 2, 88, 7, 208, 5, 120, 5, 32]

theorem waitingSeven_reachable : waitingSeven.Reachable :=
  .handle _ (.fresh (c := {}) (by decide))

/-- The waiting session takes the request. -/
theorem waitingSeven_answers_strays :
    waitingSeven.Reachable ∧
      Segment.parse requestHundred = .ok ⟨(Header.buildSyn {} 100 none).stamp 4140495609, []⟩ ∧
      requestHundred.length ≤ waitingSeven.session.info.config.maxSegmentSize.toNat ∧
      ((waitingSeven.session.state = .closed ∨ waitingSeven.session.state = .waiting ∧
          ((Header.buildSyn {} 100 none).stamp 4140495609).requestsConnection = false) →
        waitingSeven.Rejected ((Header.buildSyn {} 100 none).stamp 4140495609)
          (waitingSeven.handle (.receive requestHundred))) ∧
      ∀ c config, waitingSeven.session.state = .waiting →
        (Header.buildSyn {} 100 none).stamp 4140495609 = .syn c config →
        c.flags.has .ack = false →
        (config.isValid = true →
          (waitingSeven.handle (.receive requestHundred)).session.state = .connecting ∧
          (waitingSeven.handle (.receive requestHundred)).effects =
            [.transmit (Header.buildSyn waitingSeven.session.info.config
              waitingSeven.session.info.sendInitial (some c.seq)).datagram, .entered .connecting]) ∧
        (config.isValid = false →
          waitingSeven.Rejected ((Header.buildSyn {} 100 none).stamp 4140495609)
            (waitingSeven.handle (.receive requestHundred))) :=
  ⟨waitingSeven_reachable, by decide, by decide,
    @Reachable.answers_strays _ waitingSeven_reachable requestHundred
      ⟨(Header.buildSyn {} 100 none).stamp 4140495609, []⟩ (by decide) (by decide)⟩

/-- A datagram longer than the segment size is dropped before it is decoded: a closed session
with segment size 22 does not answer an acknowledgment of 24 bytes, carrying ten bytes of
payload, that decodes. -/
theorem oversized_stray_unanswered :
    let e : Endpoint := { session := { info := { config := { maxSegmentSize := 22 } } } }
    let d : Bytes := [40, 1, 0, 14, 0, 5, 0, 7, 207, 229, 243, 219, 0, 10, 0, 1, 2, 3, 4, 5, 6, 7,
      8, 9]
    e.Reachable ∧ e.session.state = .closed ∧
      Segment.parse d = .ok ⟨(Header.buildData 5 7 10).stamp 3487953883, [0, 1, 2, 3, 4, 5, 6, 7, 8, 9]⟩ ∧
      ((Header.buildData 5 7 10).stamp 3487953883).kind = .ack ∧
      (e.handle (.receive d)).effects = [] :=
  ⟨.fresh (c := { maxSegmentSize := 22 }) (by decide), rfl, by decide, by decide, by decide⟩

end Endpoint


end ReliableDatagram
