import UhfGs.Clients.Transaction
import UhfGs.Library.Handles

/-! The clients that send one request over a connection of their own and then read packet after
packet, until a stop condition or a time-out. -/
namespace UhfGs.Clients
open Csp Bytes Packed Handles

inductive Handle where
  | conn
  | request
  | reply (k : Nat)
  deriving DecidableEq, Repr

abbrev Trace := List (Event Handle)

/-- A packet that `csp_read` gives: its length field, the memory from its data on, and the same
memory once the buffer was released. -/
structure Reply where
  length : UInt16
  data : Nat → UInt8
  later : Nat → UInt8

/-- What the calls into the CSP library give. After the replies comes a time-out. -/
structure SessionEnv where
  conn : Bool
  buffer : Option (Nat → UInt8)
  sent : Bool
  replies : List Reply

/-- What a client does; the data of the request, if it was sent; and the client's value, unless
the program died. -/
structure Session where
  trace : Trace
  transmitted : Option (List UInt8)
  result : Option Int

inductive Next (σ : Type) where
  | again (s : σ)
  | stop
  | died

structure Handled (σ : Type) where
  trace : Trace
  next : Next σ

variable {σ : Type}

def readLoop (body : σ → Nat → Reply → Handled σ) : σ → Nat → List Reply → Trace × Bool
  | _, _, [] => ([], true)
  | s, k, r :: rs =>
      let h := body s k r
      let head := Event.acquire (.reply k) r.length.toNat :: h.trace
      match h.next with
      | .again s =>
          let rest := readLoop body s (k + 1) rs
          (head ++ rest.1, rest.2)
      | .stop => (head, true)
      | .died => (head, false)

def Visits (body : σ → Nat → Reply → Handled σ) (P : σ → Nat → Reply → Prop) :
    σ → Nat → List Reply → Prop
  | _, _, [] => True
  | s, k, r :: rs =>
      P s k r ∧
        match (body s k r).next with
        | .again s => Visits body P s (k + 1) rs
        | _ => True

def requestData (copied : List UInt8) (length : Nat) (mem : Nat → UInt8) : List UInt8 :=
  readMem length (writeMem 0 copied mem)

/-- Where a list packet has its count, its end flag and its elements. -/
structure ListLayout where
  (count endFlag first size : Nat)

/-- The part of a `gatoss` loop that differs from client to client. -/
structure ListClient where
  copied : List UInt8
  bufSize : Nat
  length : Nat
  layout : ListLayout

def ListLayout.handle (l : ListLayout) (_ : Unit) (k : Nat) (r : Reply) : Handled Unit where
  trace := elements (.reply k) l.first l.size (r.data l.count).toNat ++
    [.dispose (.reply k), .use (.reply k) l.endFlag 1]
  next := if r.later l.endFlag ≠ 0 then .stop else .again ()

/-- The five `gatoss` clients. The packet for the request is used without a check. -/
def ListClient.session (c : ListClient) (env : SessionEnv) : Session :=
  if ¬ env.conn then ⟨[], none, some (-1)⟩
  else
    match env.buffer with
    | none => ⟨[.acquire .conn 0, .null], none, none⟩
    | some mem =>
        let opened : Trace := [.acquire .conn 0, .acquire .request c.bufSize]
        if ¬ env.sent then ⟨opened ++ [.dispose .request, .dispose .conn], none, some (-1)⟩
        else
          let loop := readLoop c.layout.handle () 0 env.replies
          ⟨opened ++ .dispose .request :: loop.1 ++ [.dispose .conn],
            some (requestData c.copied c.length mem), some 0⟩

section Gatoss
variable (e : Endian)

def requestWords (ws : List UInt32) : List UInt8 :=
  ws.flatMap fun w => u32.store e (cspHton32Word e w)

def gatossListShort (filtering packetLimit startIndex : UInt32) : ListClient :=
  let req := requestWords e [filtering, packetLimit, startIndex]
  ⟨req, req.length, req.length, ⟨0, 1, 2, 14⟩⟩

def gatossListFull (filtering packetLimit startIndex : UInt32) : ListClient :=
  let req := requestWords e [filtering, packetLimit, startIndex]
  ⟨req, req.length, req.length, ⟨0, 1, 2, 40⟩⟩

def gatossPlanePositions (icao24 minDistance : UInt32) : ListClient :=
  let req := requestWords e [icao24, minDistance]
  ⟨req, req.length, req.length, ⟨4, 5, 6, 11⟩⟩

/-- The length is that of `struct gatoss_plane_contacts`, the reply. -/
def gatossPlaneContacts (icao24 : UInt32) : ListClient :=
  let req := requestWords e [icao24]
  ⟨req, req.length, 4 + 1 + 1 + 4 + 2 * 95, ⟨4, 5, 10, 2⟩⟩

def gatossBlobLs : ListClient := ⟨[], 4, 0, ⟨0, 1, 2, 29⟩⟩

end Gatoss

/- A field in network order, once it is converted. -/
def Reply.field16 (r : Reply) (e : Endian) (off : Nat) : UInt16 :=
  cspNtoh16 e (u16.load e [r.data off, r.data (off + 1)])

def Reply.field32 (r : Reply) (e : Endian) (off : Nat) : UInt32 :=
  cspNtoh32Word e
    (u32.load e [r.data off, r.data (off + 1), r.data (off + 2), r.data (off + 3)])

def imgListReply (e : Endian) (_ : Unit) (k : Nat) (r : Reply) : Handled Unit :=
  let total := r.field16 e 0
  let seq := r.field16 e 2
  let count := r.data 4
  if total = 0 then ⟨[.use (.reply k) 0 2, .dispose (.reply k)], .stop⟩
  else
    ⟨.use (.reply k) 0 2 :: elements (.reply k) 8 24 count.toNat ++
        [.use (.reply k) 0 5, .dispose (.reply k)],
      if seq.toNat + count.toNat = total.toNat then .stop else .again ()⟩

def camList : List UInt8 := [3, 0, 0, 0, 0, 0, 0, 0]

/-- A request that is not sent is released, and then the replies are read all the same. -/
def nanocamImgList (e : Endian) (env : SessionEnv) : Session :=
  match env.buffer with
  | none => ⟨[], none, some (-1)⟩
  | some mem =>
      if ¬ env.conn then ⟨[.acquire .request 8, .dispose .request], none, some (-1)⟩
      else
        let loop := readLoop (imgListReply e) () 0 env.replies
        ⟨.acquire .request 8 :: .acquire .conn 0 :: .dispose .request :: loop.1 ++
            [.dispose .conn],
          if env.sent then some (requestData camList 8 mem) else none, some 0⟩

/-- What the two `adcs_gps` clients make of `csp_connect` and `csp_buffer_get`, checking neither,
with the data of the packet to send and the loop over the replies. -/
def adcsSession (bufSize : Nat) (data : (Nat → UInt8) → List UInt8)
    (loop : List Reply → Trace × Bool) (env : SessionEnv) : Session :=
  let conn : Trace := if env.conn then [.acquire .conn 0] else []
  match env.buffer with
  | none => ⟨conn ++ [.null], none, none⟩
  | some mem =>
      if ¬ env.conn then
        ⟨[.acquire .request bufSize, .null, .dispose .request, .null], none, some (-1)⟩
      else
        let opened := conn ++ [.acquire .request bufSize, .dispose .request]
        if ¬ env.sent then ⟨opened ++ [.dispose .conn], none, some (-1)⟩
        else
          let (trace, survives) := loop env.replies
          if survives then ⟨opened ++ trace ++ [.dispose .conn], some (data mem), some 0⟩
          else ⟨opened ++ trace, some (data mem), none⟩

/- `gps_ascii_cmd_t`, with the memory from its data on. -/
structure GpsAsciiCmd where
  (length timeout : UInt16)
  data : Nat → UInt8

def GpsAsciiCmd.packet (cmd : GpsAsciiCmd) (e : Endian) (reply : UInt8) : List UInt8 :=
  55 :: reply :: u16.store e (cspHton16 e cmd.length) ++ u16.store e (cspHton16 e cmd.timeout) ++
    (List.range 180).map fun i => if i < cmd.length.toNat then cmd.data i else 0

/-- One packet of `gps_csp_res_t`, copied to the stack whatever its length. The state is the
length byte of that copy. -/
def asciiReply (len : UInt8) (k : Nat) (r : Reply) : Handled UInt8 :=
  if 181 < r.length then ⟨[], .died⟩
  else
    let len := if 0 < r.length then r.data 0 else len
    ⟨[.use (.reply k) 0 r.length.toNat, .dispose (.reply k)],
      if len < 180 then .stop else .again len⟩

/-- A command of more than 180 characters overruns the packet on the stack. -/
def adcsGpsAscii (e : Endian) (cmd : GpsAsciiCmd) (reply len : UInt8) (env : SessionEnv) :
    Session :=
  if 180 < cmd.length then
    ⟨(if env.conn then [.acquire .conn 0] else []) ++
      (if env.buffer.isSome then [.acquire .request 186] else []), none, none⟩
  else
    adcsSession 186 (requestData ((cmd.packet e reply).take 184) 186)
      (readLoop asciiReply len 0) env

def trackstatReply (e : Endian) (n k : Nat) (r : Reply) : Handled Nat :=
  if r.field32 e 0 = 0xffffffff then
    ⟨[.use (.reply k) 0 4, .dispose (.reply k), .dispose .conn], .stop⟩
  else
    ⟨.use (.reply k) 0 4 :: (if n = 0 then [.use (.reply k) 0 16] else []) ++
        elements (.reply k) 16 40 4 ++ [.dispose (.reply k)],
      if 4 < n + 1 then .stop else .again (n + 1)⟩

def adcsGpsTrackstat (e : Endian) (stack : List UInt8) (env : SessionEnv) : Session :=
  adcsSession 6 (requestData (56 :: stack.take 185) 6) (readLoop (trackstatReply e) 0 0) env

end UhfGs.Clients
