import ReliableDatagram.Session.Host
/-!
# Sessions over a socket, on a host without a reachable network

The socket wrapper runs a session over a UDP socket: it resolves the peer's address, checks the
configuration, opens actively or passively, and reports the first of: the connection is
established, or it is refused (the handshake gave up, or the session ended before connecting).

On the host this library describes, no datagram can leave: every send fails because the
network is unreachable. Nothing is ever received, so an active open always ends in refusal,
at the moment the handshake gives up. That moment is computed here by running the engine
itself: open, then deliver each pending handshake wake-up in turn, adding up the delays, until
the session closes. A caller that waits at most `deadline` milliseconds sees the refusal only
when it comes before then. The deadline is the caller's, and the text of the failed send is the
system's: both are parameters here, not constants of the library.

Addresses are written as a host and a service number joined by a colon, and are split at the
last colon; the service number is decimal, at most 65535, optionally preceded by `+`.
-/

namespace ReliableDatagram

namespace Socket

/-- Why a socket operation failed. -/
inductive SessionError where
  /-- The configuration is unusable. -/
  | config (error : ConfigError)
  /-- A payload was not accepted. -/
  | send (error : SendError)
  /-- The socket layer failed, with its explanation. -/
  | io (reason : String)
  /-- The peer refused or never answered. -/
  | refused
  /-- The session's task has ended. -/
  | closed
  deriving Repr

namespace SessionError

/-- The name of the error's kind. -/
def name : SessionError → String
  | config _ => "Config"
  | send _ => "Send"
  | io _ => "Io"
  | refused => "Refused"
  | closed => "Closed"

/-- The sentence that explains the error. -/
def message : SessionError → String
  | config e => e.message
  | send e => e.message
  | io reason => "Socket error: " ++ reason
  | refused => "The peer refused or never answered the connection"
  | closed => "The session task has stopped"

end SessionError

/-- Reads a service number: decimal digits, optionally after `+`, at most 65535. -/
def parseService (s : String) : Option UInt16 :=
  let digits := match s.toList with
    | '+' :: rest => rest
    | cs => cs
  if digits.isEmpty || !digits.all Char.isDigit then none
  else
    let n : Nat := digits.foldl (fun n c ↦ 10 * n + (c.toNat - (48 : Nat))) 0
    if n ≤ 65535 then some n.toUInt16 else none

/-- Splits an address at its last colon into host and service number. -/
def splitAddress (s : String) : Except String (String × UInt16) :=
  match (s.splitOn ":").reverse with
  | service :: host :: rest =>
    match parseService service with
    | some p => .ok (":".intercalate (host :: rest).reverse, p)
    | none => .error "invalid port value"
  | _ => .error "invalid socket address"

/-- The delivery of every handshake wake-up in turn, from the oldest pending one, until the
session leaves the handshake or `fuel` runs out; the result is the total delay. -/
def waitOut (e : Endpoint) (elapsed : Nat) : Nat → Option Nat
  | 0 => none
  | fuel + 1 =>
    if e.session.state ≠ .initiating then some elapsed
    else
      match e.schedule.firstFor .handshake with
      | some a => waitOut (e.handle (.fire a.handle .handshake)) (elapsed + a.delay) fuel
      | none => none

/-- The time after which an active open that is never answered gives up, in milliseconds. -/
def unansweredOpenSpan (config : Config) : Option Nat :=
  match Session.new config with
  | .ok s =>
    let e : Endpoint := { session := s }
    waitOut (e.handle (.connect 0)) 0 (config.maxRetransmissions.toNat + 2)
  | .error _ => none

/-- How an open ends, as seen by a caller that waits until the deadline. -/
inductive OpenResult where
  /-- The open failed. -/
  | failed (error : SessionError)
  /-- The deadline passed first. -/
  | unfinished
  deriving Repr

/-- Sends a datagram from a plain socket on a host whose network is unreachable: the send fails,
with the system's explanation `failure`. -/
def sendTo (failure : String) (_address : String) (_datagram : Bytes) : Except String Unit :=
  .error failure

/-- Opens passively with `config`: the configuration is checked at once, and the open then
waits for a peer that never comes. -/
def listen (config : Config) : Except SessionError Unit :=
  match config.validate with
  | .error e => .error (.config e)
  | .ok _ => .ok ()

/-- Opens actively towards `address` with `config`, for a caller that waits at most `deadline`
milliseconds: the address is resolved first, then the configuration checked; on this host the
handshake then gives up unanswered. -/
def connect (deadline : Nat) (config : Config) (address : String) : OpenResult :=
  match splitAddress address with
  | .error reason => .failed (.io reason)
  | .ok _ =>
    match config.validate with
    | .error e => .failed (.config e)
    | .ok _ =>
      match unansweredOpenSpan config with
      | some span => if span < deadline then .failed .refused else .unfinished
      | none => .unfinished

end Socket

end ReliableDatagram
