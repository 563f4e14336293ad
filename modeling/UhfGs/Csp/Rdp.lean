import UhfGs.Library.Serial
import UhfGs.Csp.Conn

/-! The reliable datagram protocol of `csp_rdp.c`: segments, the state of a connection and what
the router and the user of a connection do to it. -/
namespace UhfGs.Csp
open Bytes Serial

/- `RDP_SYN`, `RDP_ACK`, `RDP_EAK` and `RDP_RST`. -/
structure RdpFlags where
  syn : Bool := false
  ack : Bool := false
  eak : Bool := false
  rst : Bool := false
  deriving DecidableEq, Repr

/-- A packet with an RDP header. The header stands behind the data. -/
structure Segment where
  pri : Fin 4
  flags : RdpFlags
  seqNr : BitVec 16
  ackNr : BitVec 16
  data : List UInt8
  deriving DecidableEq, Repr

/- Sixteen bits in network order. -/
def net16 (x : BitVec 16) : List UInt8 := [UInt8.ofNat (x.toNat / 2 ^ 8), UInt8.ofNat x.toNat]

def host16 (high low : UInt8) : BitVec 16 := BitVec.ofNat 16 (high.toNat * 2 ^ 8 + low.toNat)

theorem host16_net16 (x : BitVec 16) :
    host16 (UInt8.ofNat (x.toNat / 2 ^ 8)) (UInt8.ofNat x.toNat) = x := by
  have hx := x.isLt
  apply BitVec.eq_of_toNat_eq
  simp only [host16, BitVec.toNat_ofNat, toNat_ofNat]
  omega

namespace RdpFlags

def byte (f : RdpFlags) : UInt8 :=
  UInt8.ofNat (f.syn.toNat * 8 + f.ack.toNat * 4 + f.eak.toNat * 2 + f.rst.toNat)

def ofByte (b : UInt8) : RdpFlags where
  syn := b.toNat.testBit 3
  ack := b.toNat.testBit 2
  eak := b.toNat.testBit 1
  rst := b.toNat.testBit 0

theorem ofByte_byte (f : RdpFlags) : ofByte f.byte = f := by
  obtain ⟨syn, ack, eak, rst⟩ := f
  cases syn <;> cases ack <;> cases eak <;> cases rst <;> rfl

end RdpFlags

namespace Segment

/-- `csp_rdp_header_add` and the fields set behind it. -/
def payload (s : Segment) : List UInt8 :=
  s.data ++ s.flags.byte :: (net16 s.seqNr ++ net16 s.ackNr)

def ofPayload (pri : Fin 4) (bytes : List UInt8) : Option Segment :=
  match bytes.drop (bytes.length - 5) with
  | [f, s₁, s₀, a₁, a₀] =>
      some ⟨pri, .ofByte f, host16 s₁ s₀, host16 a₁ a₀, bytes.take (bytes.length - 5)⟩
  | _ => none

theorem ofPayload_payload (s : Segment) : ofPayload s.pri s.payload = some s := by
  have hlen : s.payload.length - 5 = s.data.length := by
    simp [payload, net16]
  rw [ofPayload, hlen, payload, List.drop_left' rfl, List.take_left' rfl]
  simp only [net16, List.cons_append, List.nil_append, RdpFlags.ofByte_byte, host16_net16]

end Segment

structure TxElement where
  timestamp : BitVec 32
  quarantine : BitVec 32
  segment : Segment

/-- What happened on a connection. The code keeps no such record. -/
inductive RdpEvent where
  | taken (message : List UInt8)
  /-- A message was received in sequence; `queued` when the user can read it. -/
  | passed (message : List UInt8) (queued : Bool)
  | transmitted (segment : Segment)
  | synchronised

/-- A connection with RDP: `csp_conn_t`, whose `rx_queue` is `conn.rdpRx`. The semaphore `tx_wait` is
posted or busy. The history is kept latest first. -/
structure RdpConn where
  conn : Conn Segment
  timestamp : BitVec 32
  sndNxt : BitVec 16
  sndUna : BitVec 16
  sndIss : BitVec 16
  rcvCur : BitVec 16
  rcvIrs : BitVec 16
  rcvLsa : BitVec 16
  windowSize : BitVec 32
  connTimeout : BitVec 32
  packetTimeout : BitVec 32
  delayedAcks : BitVec 32
  ackTimeout : BitVec 32
  ackDelayCount : BitVec 32
  ackTimestamp : BitVec 32
  txQueue : List TxElement
  txWait : Bool
  history : List RdpEvent

/-- What a step gets from outside: the time, a random number, whether buffers are free, whether
the interface takes a segment and whether the socket takes the connection. The padding is what a
new buffer has in it. -/
structure RdpEnv where
  now : BitVec 32
  rand : BitVec 16
  padding : BitVec 32
  get : Bool
  clone : Bool
  sent : Bool
  resent : Nat → Bool
  posted : Bool

structure RdpOptions where
  windowSize : BitVec 32
  connTimeout : BitVec 32
  packetTimeout : BitVec 32
  delayedAcks : BitVec 32
  ackTimeout : BitVec 32
  ackDelayCount : BitVec 32

def RdpOptions.bytes (o : RdpOptions) : List UInt8 :=
  beBytes o.windowSize.toNat ++ beBytes o.connTimeout.toNat ++ beBytes o.packetTimeout.toNat ++
    beBytes o.delayedAcks.toNat ++ beBytes o.ackTimeout.toNat ++ beBytes o.ackDelayCount.toNat

def data32 (data : List UInt8) (k : Nat) : BitVec 32 :=
  BitVec.ofNat 32 (beWord ((data.drop (4 * k)).take 4))

def eackNumbers : List UInt8 → List (BitVec 16)
  | high :: low :: rest => host16 high low :: eackNumbers rest
  | _ => []

def cspConnEnqueuePacket (c : Conn Segment) (prio : Fin 4) (packet : Option Segment) :
    Conn Segment × Bool :=
  match c.pushRx prio packet with
  | none => (c, false)
  | some c =>
      match c.pushEvent with
      | none => (c, false)
      | some c => (c, true)

namespace RdpConn

def state (c : RdpConn) : RdpState := c.conn.rdpState

def rxQueue (c : RdpConn) : List Segment := c.conn.rdpRx

def withState (c : RdpConn) (st : RdpState) : RdpConn :=
  { c with conn := { c.conn with rdpState := st } }

def withRx (c : RdpConn) (rx : List Segment) : RdpConn :=
  { c with conn := { c.conn with rdpRx := rx } }

def postTxWait (c : RdpConn) : RdpConn := { c with txWait := true }

def transmit (c : RdpConn) (s : Segment) : RdpConn :=
  { c with history := .transmitted s :: c.history }

/-- A segment goes to the retransmission queue, which has `CSP_RDP_MAX_WINDOW` places. -/
def enqueueTx (env : RdpEnv) (c : RdpConn) (s : Segment) : RdpConn :=
  if c.txQueue.length < 20 then
    { c with txQueue := c.txQueue ++ [⟨env.now, env.padding, s⟩] }
  else c

/-- `csp_rdp_send_cmp`, and whether it returns `CSP_ERR_NONE`. -/
def cspRdpSendCmp (env : RdpEnv) (c : RdpConn) (packet : Option (List UInt8)) (flags : RdpFlags)
    (seqNr ackNr : BitVec 16) : RdpConn × Bool :=
  if packet.isNone ∧ !env.get then (c, false)
  else
    let s : Segment := ⟨min c.conn.idout.pri 1, flags, seqNr, ackNr, packet.getD []⟩
    if flags.syn ∧ !env.clone then (c, false)
    else
      let c := if flags.syn then c.enqueueTx env s else c
      if env.sent then
        let c := c.transmit s
        (if flags.ack then { c with rcvLsa := ackNr, ackTimestamp := env.now } else c, true)
      else (c, false)

def cspRdpSendEack (env : RdpEnv) (c : RdpConn) : RdpConn :=
  if env.get then
    (c.cspRdpSendCmp env (some (c.rxQueue.flatMap fun s => net16 s.seqNr))
      { ack := true, eak := true } c.sndNxt c.rcvCur).1
  else c

def cspRdpSendSyn (env : RdpEnv) (o : RdpOptions) (c : RdpConn) : RdpConn × Bool :=
  if env.get then c.cspRdpSendCmp env (some o.bytes) { syn := true } c.sndIss 0 else (c, false)

/-- `csp_rdp_receive_data`: the first message posts the connection to its socket. -/
def cspRdpReceiveData (env : RdpEnv) (c : RdpConn) (s : Segment) : RdpConn × Bool :=
  if c.conn.socket ∧ !env.posted then (c, false)
  else
    let (conn, queued) := cspConnEnqueuePacket { c.conn with socket := false } s.pri (some s)
    ({ c with conn := conn }, queued)

/-- `csp_rdp_rx_queue_flush`. The loop takes segments from the front and puts them back behind
the others until it finds the next one in sequence. -/
def rxQueueFlush (env : RdpEnv) : Nat → RdpConn → RdpConn
  | 0, c => c
  | count + 1, c =>
      match c.rxQueue.dropWhile fun s => s.seqNr ≠ c.rcvCur + 1 with
      | [] => c
      | s :: rest =>
          let front := c.rxQueue.takeWhile fun s => s.seqNr ≠ c.rcvCur + 1
          let (c, queued) := (c.withRx (rest ++ front)).cspRdpReceiveData env s
          rxQueueFlush env count
            { c with rcvCur := c.rcvCur + 1, history := .passed s.data queued :: c.history }

def cspRdpRxQueueFlush (env : RdpEnv) (c : RdpConn) : RdpConn :=
  rxQueueFlush env c.rxQueue.length c

/-- `csp_rdp_rx_queue_add`. The search leaves the queue turned when it finds the number. -/
def cspRdpRxQueueAdd (c : RdpConn) (s : Segment) : RdpConn × Bool :=
  match c.rxQueue.dropWhile fun x => x.seqNr ≠ s.seqNr with
  | x :: rest =>
      (c.withRx (rest ++ (c.rxQueue.takeWhile fun x => x.seqNr ≠ s.seqNr) ++ [x]), false)
  | [] => if c.rxQueue.length < 40 then (c.withRx (c.rxQueue ++ [s]), true) else (c, false)

/-- One number of an EACK against an element that is not yet acknowledged: a later number brings
the retransmission forward, except in quarantine. -/
def advance (env : RdpEnv) (c : RdpConn) (e : TxElement) (number : BitVec 16) : TxElement :=
  if e.segment.seqNr.toNat < number.toNat ∧ before e.quarantine env.now then
    { e with
      timestamp := env.now - c.packetTimeout - 1
      quarantine := env.now + c.packetTimeout / 2 }
  else e

def cspRdpFlushEack (env : RdpEnv) (c : RdpConn) (data : List UInt8) : RdpConn :=
  { c with txQueue :=
    (c.txQueue.filter fun e => e.segment.seqNr ∉ eackNumbers data).map fun e =>
      (eackNumbers data).foldl (c.advance env) e }

def cspRdpShouldAck (env : RdpEnv) (c : RdpConn) : Bool :=
  if c.delayedAcks = 0 then c.rcvLsa ≠ c.rcvCur
  else before (c.ackTimestamp + c.ackTimeout) env.now ||
    before (c.rcvLsa + c.ackDelayCount.setWidth 16) c.rcvCur

def cspRdpCheckAck (env : RdpEnv) (c : RdpConn) : RdpConn :=
  if (∀ prio, 2 * c.windowSize.toInt < 25 - (c.conn.rxQueue prio).length) ∧
      c.cspRdpShouldAck env then
    (c.cspRdpSendCmp env none { ack := true } c.sndNxt c.rcvCur).1
  else c

def cspRdpFlushAll (c : RdpConn) : RdpConn := { c.withRx [] with txQueue := [] }

/-- The end of `csp_close`, with the lock obtained: the connection is closed and its queues are
emptied. -/
def shut (c : RdpConn) : RdpConn :=
  { c with conn := { c.conn.flushRxQueue with state := .closed } }.cspRdpFlushAll

/-- `csp_rdp_close` and `csp_close` of a connection with RDP. -/
def cspClose (env : RdpEnv) (c : RdpConn) : RdpConn :=
  if c.conn.state = .closed then c
  else
    match ConnTable.cspRdpClose c.conn with
    | (conn, true) =>
        ({ c with conn := conn, timestamp := env.now }.cspRdpSendCmp env none
          { ack := true, rst := true } c.sndNxt c.rcvCur).1
    | (conn, false) => { c with conn := conn }.shut

/-- The message timeout of `csp_rdp_check_timeouts`, from the `k`-th element on. -/
def resend (env : RdpEnv) : Nat → List TxElement → RdpConn → RdpConn
  | _, [], c => c
  | k, e :: rest, c =>
      if before e.segment.seqNr c.sndUna then resend env (k + 1) rest c
      else if before (e.timestamp + c.packetTimeout) env.now then
        let e : TxElement :=
          { e with timestamp := env.now, segment := { e.segment with ackNr := c.rcvCur } }
        let c :=
          if env.resent k then c.transmit { e.segment with pri := c.conn.idout.pri } else c
        resend env (k + 1) rest { c with txQueue := c.txQueue ++ [e] }
      else resend env (k + 1) rest { c with txQueue := c.txQueue ++ [e] }

def reach (c : RdpConn) : BitVec 16 := (c.windowSize * 2).setWidth 16

/-- The end of `csp_rdp_check_timeouts`: a user that waits for the window may go on. -/
def wakeUser (c : RdpConn) : RdpConn :=
  if c.state = .opened ∧ (c.txQueue.length : Int) < c.windowSize.toInt ∧
      before (c.sndNxt - c.sndUna) c.reach then c.postTxWait
  else c

def cspRdpCheckTimeouts (env : RdpEnv) (c : RdpConn) : RdpConn :=
  if c.conn.socket ∧ before (c.timestamp + c.connTimeout) env.now then c.cspClose env
  else if c.state = .closeWait then
    if before (c.timestamp + c.connTimeout) env.now then c.cspClose env else c
  else ((resend env 0 c.txQueue { c with txQueue := [] }).cspRdpCheckAck env).wakeUser

/-- `discard_close`: a user that has the connection gets a null pointer. -/
def discardClose (env : RdpEnv) (c : RdpConn) : RdpConn :=
  if c.conn.socket then c.cspClose env
  else { c with conn := (cspConnEnqueuePacket c.conn 3 none).1 }

def receiveReset (env : RdpEnv) (c : RdpConn) (s : Segment) : RdpConn :=
  let c := if s.flags.ack then { c with sndUna := s.ackNr + 1 } else c
  if c.state = .closeWait ∨ c.state = .closed then c.cspClose env
  else if s.seqNr = c.rcvCur + 1 then
    (({ c.withState .closeWait with timestamp := env.now }.cspRdpSendCmp env none
      { ack := true, rst := true } c.sndNxt c.rcvCur).1).discardClose env
  else c

def receiveClosed (env : RdpEnv) (c : RdpConn) (s : Segment) : RdpConn :=
  if s.flags.syn then
    (({ c.withState .synRcvd with
      sndIss := env.rand
      sndNxt := env.rand + 1
      sndUna := env.rand
      rcvCur := s.seqNr
      rcvIrs := s.seqNr
      rcvLsa := s.seqNr
      windowSize := data32 s.data 0
      connTimeout := data32 s.data 1
      packetTimeout := data32 s.data 2
      delayedAcks := data32 s.data 3
      ackTimeout := data32 s.data 4
      ackDelayCount := data32 s.data 5
      history := .synchronised :: c.history }).cspRdpSendCmp env none
        { ack := true, syn := true } env.rand s.seqNr).1
  else (c.cspRdpSendCmp env none { rst := true } c.sndNxt c.rcvCur).1.discardClose env

/-- State SYN-SENT. An acknowledgement without SYN comes from a connection that the other side still
has open. -/
def receiveSynSent (env : RdpEnv) (c : RdpConn) (s : Segment) : RdpConn :=
  if s.flags.syn ∧ s.flags.ack then
    let c := { c.withState .opened with
      rcvCur := s.seqNr
      rcvIrs := s.seqNr
      rcvLsa := s.seqNr - 1
      sndUna := s.ackNr + 1
      ackTimestamp := env.now
      history := .synchronised :: c.history }
    (if c.delayedAcks = 0 then (c.cspRdpSendCmp env none { ack := true } c.sndNxt c.rcvCur).1
      else c).postTxWait
  else if s.flags.ack then
    (c.cspRdpSendCmp env none { rst := true } c.sndNxt c.rcvCur).1.postTxWait
  else c.discardClose env

/-- What state OPEN does with a segment whose numbers are in order. -/
def receiveData (env : RdpEnv) (c : RdpConn) (s : Segment) : RdpConn :=
  if s.flags.eak then
    if s.data = [] then c else c.cspRdpFlushEack env s.data
  else if s.data = [] then c
  else if s.seqNr ≠ c.rcvCur + 1 then
    match c.cspRdpRxQueueAdd s with
    | (c, true) => c.cspRdpSendEack env
    | (c, false) => c
  else
    match c.cspRdpReceiveData env s with
    | (c, true) =>
        ({ c with rcvCur := s.seqNr, history := .passed s.data true :: c.history }.cspRdpCheckAck
          env).cspRdpRxQueueFlush env
    | (c, false) => c

def receiveOpen (env : RdpEnv) (c : RdpConn) (s : Segment) : RdpConn :=
  if s.flags.syn ∨ !s.flags.ack then
    if s.seqNr ≠ c.rcvIrs then c.discardClose env else c
  else if !between s.seqNr (c.rcvCur + 1) (c.rcvCur + c.reach) then
    if c.state = .synRcvd then
      (c.cspRdpSendCmp env none { ack := true, syn := true } c.sndIss c.rcvIrs).1
    else c.cspRdpSendEack env
  else if !between s.ackNr (c.sndUna - 1 - c.reach) (c.sndNxt - 1) then c
  else if c.state = .synRcvd ∧ s.ackNr ≠ c.sndIss then c.discardClose env
  else receiveData env { c.withState .opened with sndUna := s.ackNr + 1 } s

def receiveCloseWait (env : RdpEnv) (c : RdpConn) (s : Segment) : RdpConn :=
  if s.flags.syn ∨ !s.flags.ack then c
  else if !between s.ackNr (c.sndUna - 1 - c.reach) (c.sndNxt - 1) then c
  else
    ({ c with sndUna := s.ackNr + 1 }.cspRdpSendCmp env none { ack := true, rst := true }
      c.sndNxt c.rcvCur).1

def cspRdpNewPacket (env : RdpEnv) (c : RdpConn) (s : Segment) : RdpConn :=
  if s.flags.rst then c.receiveReset env s
  else
    match c.state with
    | .closed => c.receiveClosed env s
    | .synSent => c.receiveSynSent env s
    | .synRcvd | .opened => c.receiveOpen env s
    | .closeWait => c.receiveCloseWait env s

def attempt (env : RdpEnv) (c : RdpConn) : RdpConn :=
  { c.withState .synSent with
    sndIss := env.rand
    sndNxt := env.rand + 1
    sndUna := env.rand
    txWait := false }

def calling (env : RdpEnv) (o : RdpOptions) (c : RdpConn) : RdpConn :=
  { c with
    windowSize := o.windowSize
    connTimeout := o.connTimeout
    packetTimeout := o.packetTimeout
    delayedAcks := o.delayedAcks
    ackTimeout := o.ackTimeout
    ackDelayCount := o.ackDelayCount
    ackTimestamp := env.now }.attempt env

def callOut (env : RdpEnv) (o : RdpOptions) (c : RdpConn) : RdpConn × Bool :=
  match c.cspRdpSendSyn env o with
  | (c, true) => (c, true)
  | (c, false) => (c.withState .closeWait, false)

/-- `csp_rdp_connect` up to where it waits for the answer. -/
def cspRdpConnect (env : RdpEnv) (o : RdpOptions) (c : RdpConn) : RdpConn × Bool :=
  (c.calling env o).callOut env o

/-- `csp_rdp_connect` from where it finds a half-open connection: everything is flushed, and another
SYN goes out with another number. -/
def cspRdpRetry (env : RdpEnv) (o : RdpOptions) (c : RdpConn) : RdpConn × Bool :=
  (c.cspRdpFlushAll.attempt env).callOut env o

/-- `csp_send` on a connection with RDP: `csp_rdp_send` once the window lets it, and the first
transmission. A call that has to wait makes the semaphore busy, and is one that does not take the
message yet. -/
def cspSend (env : RdpEnv) (c : RdpConn) (message : List UInt8) : RdpConn × Bool :=
  if c.conn.state = .closed ∨ c.state ≠ .opened then (c, false)
  else if before (c.sndUna + c.windowSize.setWidth 16) c.sndNxt then
    ({ c with txWait := false }, false)
  else if !env.clone then (c, false)
  else if 20 ≤ c.txQueue.length then (c, false)
  else
    let s : Segment := ⟨c.conn.idout.pri, { ack := true }, c.sndNxt, c.rcvCur, message⟩
    let c := { c with
      txQueue := c.txQueue ++ [⟨env.now, 0, s⟩]
      sndNxt := c.sndNxt + 1
      history := .taken message :: c.history }
    if env.sent then (c.transmit s, true) else (c, false)

def cspRead (env : RdpEnv) (c : RdpConn) : RdpConn × Option Segment :=
  if c.conn.state = .closed ∨ c.conn.rxEvent = 0 then (c, none)
  else
    match c.conn.popRx with
    | some (packet, conn) =>
        ({ c with conn := { conn with rxEvent := c.conn.rxEvent - 1 } }.cspRdpCheckAck env, packet)
    | none =>
        ({ c with conn := { c.conn with rxEvent := c.conn.rxEvent - 1 } }.cspRdpCheckAck env, none)

end RdpConn
end UhfGs.Csp
