import UhfGs.Csp.Connect
import UhfGs.Library.Runs
import UhfGs.Station.ReceivePacket
import UhfGs.Station.Requests

/-! The router task and `task_server` on the connection array they share. A step of either is one
access to the array or to a queue, and the steps of the two come in any order. -/
namespace UhfGs.Station
open Bytes Csp Csp.ConnTable

/-- A received packet; the serial number stands for its buffer. -/
structure QueuedPacket where
  serial : Nat
  id : CspId
  length : UInt16
  deriving DecidableEq, Repr

def QueuedPacket.overRdp (p : QueuedPacket) : Bool := p.id.flags &&& frdp ≠ 0

/-- Where a task is in `csp_close`. The stages from `set` on hold the lock of the array. -/
inductive CloseStage where
  | check
  | lock
  | set
  | flush (stage : Nat)
  deriving DecidableEq, Repr

def CloseStage.locks : CloseStage → Bool
  | .check => false
  | .lock => false
  | .set => true
  | .flush _ => true

/-- Where the router is in `csp_route_work`, `csp_conn_new` and `csp_udp_new_packet`. -/
inductive RouterPc where
  | idle
  | find (p : QueuedPacket)
  | create (p : QueuedPacket)
  | fill (p : QueuedPacket) (k : Slot)
  | clear (p : QueuedPacket) (k : Slot) (stage : Nat)
  | attach (p : QueuedPacket) (k : Slot)
  | deliver (p : QueuedPacket) (k : Slot)
  | event (p : QueuedPacket) (k : Slot)
  | post (p : QueuedPacket) (k : Slot)
  | detach (k : Slot)
  | rdp (p : Option QueuedPacket) (k : Slot)
  | close (k : Slot) (stage : CloseStage)
  deriving DecidableEq, Repr

/-- Where `task_server` is: in its loop, in `csp_accept`, `csp_read` or `csp_close`, or in the
`csp_connect` of `reply_data`. `inLoop` tells the two calls of `csp_close` apart. -/
inductive ServerPc where
  | accept
  | accepted (k : Slot)
  | read (k : Slot)
  | wait (k : Slot)
  | take (k : Slot)
  | handle (k : Slot) (p : QueuedPacket)
  | connect (k : Slot)
  | replyFill (k j : Slot)
  | replyClear (k j : Slot) (stage : Nat)
  | close (k : Slot) (inLoop : Bool) (stage : CloseStage)
  deriving DecidableEq, Repr

def RouterPc.locks : RouterPc → Bool
  | .close _ stage => stage.locks
  | _ => false

def ServerPc.locks : ServerPc → Bool
  | .close _ _ stage => stage.locks
  | _ => false

/-- What can be observed of a run. `received` has the identifier of the packet's connection, and the
one that `csp_conn_get_header_values` reads for `receive_packet`. -/
inductive Obs where
  | created (k : Slot) (id : CspId)
  | delivered (k : Slot) (p : QueuedPacket)
  | flushed (k : Slot) (p : QueuedPacket)
  | accepted (k : Slot) (id : CspId)
  | taken (k : Slot) (p : QueuedPacket)
  | received (k : Slot) (p : QueuedPacket) (idin header : CspId)
  | closed (k : Slot) (id : CspId)
  deriving DecidableEq, Repr

/-- The connections, the accept queue of the socket, both tasks, the number of packets so far and the
observations, latest first. -/
structure System where
  table : ConnTable QueuedPacket
  backlog : List Slot
  router : RouterPc
  server : ServerPc
  arrivals : Nat
  history : List Obs

/-- The steps of RDP on a packet or a timeout. Which of them it takes is left open. -/
inductive RdpAct where
  | setState (st : RdpState)
  | store
  | enqueueNull
  | enqueue
  | enqueueStored (p : QueuedPacket)
  | event
  | post
  | detach
  | close
  | done

/-- `ok` is whether a lock is obtained in time, a packet passes the router's checks, or `csp_connect`
finds a port, which then is `sport`. -/
inductive Move where
  | arrive (id : CspId) (length : UInt16)
  | timeout (k : Slot)
  | route (ok : Bool)
  | rdp (act : RdpAct)
  | serve (ok : Bool) (sport : Fin 64)

/-- One step of `csp_conn_flush_rx_queue`: the packet it takes out, if any, and the next stage. Stages
0 to 3 are the queues, then come the events. -/
def flushStep (c : Conn QueuedPacket) (stage : Nat) :
    Conn QueuedPacket × Option QueuedPacket × Option Nat :=
  if h : stage < 4 then
    match c.rxQueue ⟨stage, h⟩ with
    | [] => (c, none, some (stage + 1))
    | p :: rest =>
        ({ c with rxQueue := Function.update c.rxQueue ⟨stage, h⟩ rest }, p, some stage)
  else if c.rxEvent = 0 then (c, none, none)
  else ({ c with rxEvent := c.rxEvent - 1 }, none, some stage)

namespace System

def start : System where
  table := (ConnTable.init.allocate .server).elim .init Prod.snd
  backlog := []
  router := .idle
  server := .accept
  arrivals := 0
  history := []

def update (s : System) (k : Slot) (f : Conn QueuedPacket → Conn QueuedPacket) : System :=
  { s with table := s.table.update k f }

def observe (s : System) (o : Obs) : System := { s with history := o :: s.history }

def flush (s : System) (k : Slot) (stage : Nat) : System × Option Nat :=
  let (c, p, next) := flushStep (s.table.conn k) stage
  let s := s.update k fun _ => c
  (p.elim s fun p => s.observe (.flushed k p), next)

/-- A step of `csp_close` on slot `k`, while `free` says whether the other task is outside the lock.
There is no next stage when it returns. -/
def close (s : System) (ok free : Bool) (k : Slot) : CloseStage → Option (System × Option CloseStage)
  | .check =>
      let (table, goesOn) := s.table.closeBegin k
      some ({ s with table }, if goesOn then some .lock else none)
  | .lock => if ¬ ok then some (s, none) else if free then some (s, some .set) else none
  | .set => some (s.update k fun c => { c with state := .closed }, some (.flush 0))
  | .flush stage =>
      match s.flush k stage with
      | (s, some stage) => some (s, some (.flush stage))
      | (s, none) =>
          some (s.update k fun c =>
            { c with rdpRx := if c.idin.flags &&& frdp ≠ 0 then [] else c.rdpRx }, none)

section
variable (me : Fin 32)

def route (ok : Bool) (s : System) : Option System :=
  match s.router with
  | .idle => none
  | .rdp _ _ => none
  | .find p =>
      if ¬ ok then some { s with router := .idle }
      else
        match s.table.cspConnFind (p.id.ext .little) connMask with
        | some k => some { s with router := .deliver p k }
        | none => some { s with router := if p.id.dport < 32 then .create p else .idle }
  | .create p =>
      if ¬ ok then some { s with router := .idle }
      else if s.server.locks then none
      else
        match s.table.allocate .client with
        | none => some { s with router := .idle }
        | some (k, table) => some { s with table, router := .fill p k }
  | .fill p k =>
      let s := s.update k fun c => { c with idin := p.id, idout := routeIdout me p.id }
      some { s.observe (.created k p.id) with router := .clear p k 0 }
  | .clear p k stage =>
      match s.flush k stage with
      | (s, some stage) => some { s with router := .clear p k stage }
      | (s, none) => some { s with router := .attach p k }
  | .attach p k =>
      some { s.update k fun c => { c with socket := true } with router := .deliver p k }
  | .deliver p k =>
      if p.overRdp then some { s with router := .rdp (some p) k }
      else
        match (s.table.conn k).pushRx p.id.pri (some p) with
        | none => some { s with router := .idle }
        | some c => some { s.update k fun _ => c with router := .event p k }
  | .event p k =>
      match (s.table.conn k).pushEvent with
      | none => some { s with router := .idle }
      | some c => some { s.update k fun _ => c with router := .post p k }
  | .post p k =>
      if ¬ (s.table.conn k).socket then
        some { s.observe (.delivered k p) with router := .idle }
      else if s.backlog.length < 10 then
        some { s.observe (.delivered k p) with backlog := s.backlog ++ [k], router := .detach k }
      else some { s with router := .close k .check }
  | .detach k => some { s.update k fun c => { c with socket := false } with router := .idle }
  | .close k stage =>
      (s.close ok (!s.server.locks) k stage).map fun (s, next) =>
        { s with router := next.elim .idle fun stage => .close k stage }

def routeRdp (s : System) (act : RdpAct) : Option System :=
  match s.router with
  | .rdp p k =>
      let c := s.table.conn k
      match act with
      | .setState st => some (s.update k fun c => { c with rdpState := st })
      | .store =>
          p.map fun p =>
            { s.update k fun c => { c with rdpRx := c.rdpRx ++ [p] } with router := .rdp none k }
      | .enqueueNull => (c.pushRx 3 none).map fun c => s.update k fun _ => c
      | .enqueue =>
          p.bind fun p => (c.pushRx p.id.pri (some p)).map fun c =>
            { s.update k fun _ => c with router := .rdp none k }
      | .enqueueStored p =>
          if p ∈ c.rdpRx then
            ({ c with rdpRx := c.rdpRx.erase p }.pushRx p.id.pri (some p)).map fun c =>
              s.update k fun _ => c
          else none
      | .event => c.pushEvent.map fun c => s.update k fun _ => c
      | .post =>
          if c.socket ∧ s.backlog.length < 10 then some { s with backlog := s.backlog ++ [k] }
          else none
      | .detach => some (s.update k fun c => { c with socket := false })
      | .close => some { s with router := .close k .check }
      | .done => some { s with router := .idle }
  | _ => none

def serve (ok : Bool) (sport : Fin 64) (s : System) : Option System :=
  match s.server with
  | .accept =>
      match s.backlog with
      | [] => none
      | k :: backlog =>
          some { s.observe (.accepted k (s.table.conn k).idin) with
            backlog, server := .accepted k }
  | .accepted k =>
      -- an FTP connection goes to another thread, which is not followed here
      some { s with server := if (s.table.conn k).idin.dport = ftpPort then .accept else .read k }
  | .read k =>
      some { s with server :=
        if (s.table.conn k).state = .opened then .wait k else .close k false .check }
  | .wait k =>
      if 0 < (s.table.conn k).rxEvent then
        some { s.update k fun c => { c with rxEvent := c.rxEvent - 1 } with server := .take k }
      else some { s with server := .close k false .check }
  | .take k =>
      match (s.table.conn k).popRx with
      | none => some { s with server := .close k false .check }
      | some (none, c) => some { s.update k fun _ => c with server := .close k false .check }
      | some (some p, c) =>
          some { (s.update k fun _ => c).observe (.taken k p) with server := .handle k p }
  | .handle k p =>
      let idin := (s.table.conn k).idin
      if idin.dport = myPort then
        some { s.observe (.received k p idin (s.table.conn 2).idin) with
          server := .close k true .check }
      else if idin.dport = rePort then some { s with server := .connect k }
      else some { s with server := .close k true .check }
  | .connect k =>
      if ¬ ok then some { s with server := .close k true .check }
      else if s.router.locks then none
      else
        match s.table.allocate .client with
        | none => some { s with server := .close k true .check }
        | some (j, table) => some { s with table, server := .replyFill k j }
  | .replyFill k j =>
      let idin := incomingId 2 me 23 15 sport
      if 32 ≤ sport then
        let s := s.update j fun c => { c with idin, idout := outgoingId 2 me 23 15 sport }
        some { s.observe (.created j idin) with server := .replyClear k j 0 }
      else none
  | .replyClear k j stage =>
      match s.flush j stage with
      | (s, some stage) => some { s with server := .replyClear k j stage }
      | (s, none) => some { s with server := .close k true .check }
  | .close k inLoop stage =>
      let wasOpen := stage = .set ∧ (s.table.conn k).state = .opened
      (s.close ok (!s.router.locks) k stage).map fun (t, next) =>
        let t := if wasOpen then t.observe (.closed k (s.table.conn k).idin) else t
        { t with server :=
            next.elim (if inLoop then .read k else .accept) fun stage => .close k inLoop stage }

/-- A packet to another node goes out again without a connection. Only connections over RDP have
timeouts. -/
def step (s : System) : Move → Option System
  | .arrive id length =>
      if s.router = .idle then
        some { s with
          router := if id.dst = me ∨ id.dst = 31 then .find ⟨s.arrivals, id, length⟩ else .idle
          arrivals := s.arrivals + 1 }
      else none
  | .timeout k =>
      let c := s.table.conn k
      if s.router = .idle ∧ c.state = .opened ∧ c.idin.flags &&& frdp ≠ 0 then
        some { s with router := .rdp none k }
      else none
  | .route ok => s.route me ok
  | .rdp act => s.routeRdp act
  | .serve ok sport => s.serve me ok sport

end

end System

/- Runs: a packet arrives and the router takes some steps with it, `task_server` takes some steps,
with every lock obtained. -/
def arrival (id : CspId) (steps : Nat) : List Move :=
  .arrive id 4 :: List.replicate steps (.route true)

def serving (steps : Nat) : List Move := List.replicate steps (.serve true 32)

def downlinkId (src : Fin 32) : CspId :=
  { pri := 2, src := src, dst := 10, dport := myPort, sport := 40, flags := 0 }

end UhfGs.Station
