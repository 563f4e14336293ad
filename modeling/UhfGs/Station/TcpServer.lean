import UhfGs.Station.DownlinkClient

/-! The loop of `tcp_server` with the calls that run beside it: console
retransmissions and downlinks. -/
namespace UhfGs.Station
open Csp

structure Chunk where
  bytes : List UInt8
  pos : 0 < bytes.length
  le : bytes.length ≤ 1024

/-- What happens on the way of a received chunk: whether its file opens for writing, how much is
written, and the rest of `send_packet`'s surroundings; `reopen` says whether the file opens for
reading, and how far its two reads get. -/
structure RecvEnv where
  opens : Bool
  written : Nat
  reopen : Option (Nat × Nat)
  send : SendEnv

def reopenFile (content : List UInt8) (reopen : Option (Nat × Nat)) : Option OpenFile :=
  reopen.map fun (headerRead, bodyRead) => ⟨content, headerRead, bodyRead⟩

/-- The server: whether process and loop are still running, the content of the file `fr_name`
once it has been named, and `ret` of the downlink client. -/
structure Server where
  running : Bool
  saved : Option (List UInt8)
  ret : Int

def Server.init : Server := ⟨true, none, 1⟩

inductive Event where
  | select (ok : Bool)
  | accept (ok : Bool)
  /-- The client closed, or `recv` failed. -/
  | hangup
  | recv (env : RecvEnv) (chunk : Chunk)
  | retransmit (reopen : Option (Nat × Nat)) (env : SendEnv)
  | downlink (env : ReceiveEnv) (headerValues : Nat → UInt8) (length : UInt16)
      (data : List UInt8) (client : DownlinkEnv)

def SendRun.returned (run : SendRun) : Bool :=
  match run.fate with
  | .returns _ => true
  | .exits => false
  | .crashes => false

/-- The two failures of the loop's own calls make `tcp_server` return. -/
def Server.step (s : Server) : Event → Server
  | .select ok => { s with running := s.running && ok }
  | .accept ok => { s with running := s.running && ok }
  | .hangup => s
  | .recv env chunk =>
      -- a file that did not open is closed all the same
      if ¬ env.opens then { s with running := false }
      else
        let content := chunk.bytes.take env.written
        let run := sendPacket { env.send with mcsUplinkFile := reopenFile content env.reopen }
        { s with running := s.running && run.returned, saved := some content }
  | .retransmit reopen env =>
      let file := s.saved.bind fun content => reopenFile content reopen
      let run := sendPacket { env with mcsUplinkFile := file }
      { s with running := s.running && run.returned }
  | .downlink env headerValues length data client =>
      match (receivePacket env headerValues length data).archive,
          (receivePacket env headerValues length data).downlinkClient with
      | some (_, content), some _ =>
          let run := downlinkClient client s.ret content
          { s with running := s.running && run.alive, ret := run.ret }
      | _, _ => s

end UhfGs.Station
