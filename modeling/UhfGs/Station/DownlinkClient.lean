import UhfGs.Station.ReceivePacket

/-! `downlink_client`: a file goes to the MCS server over a connection that is kept
from one call to the next. -/
namespace UhfGs.Station

inductive SendResult where
  | accepted (n : Nat)
  | failed
  | peerClosed
  deriving DecidableEq, Repr

/-- The outcomes of the calls that `downlink_client` makes. `results i` is that of its `i`-th
`send`. -/
structure DownlinkEnv where
  socketOk : Bool
  ptonOk : Bool
  connectOk : Bool
  opens : Bool
  results : Nat → SendResult

/-- What a call leaves: the global `ret`, the bytes that the socket took, and whether the process
lives. -/
structure DownlinkRun where
  ret : Int
  sent : List UInt8 := []
  alive : Bool := true
  deriving DecidableEq

/-- The loop over the blocks of the file. Nothing handles SIGPIPE. -/
def sendBlocks (results : Nat → SendResult) : Nat → List (List UInt8) → DownlinkRun
  | _, [] => { ret := 0 }
  | i, block :: blocks =>
      match results i with
      | .accepted n =>
          let run := sendBlocks results (i + 1) blocks
          { run with sent := block.take n ++ run.sent }
      | .failed => { ret := 1 }
      | .peerClosed => { ret := 0, alive := false }

/-- `ret` is 1 where a new connection is due. -/
def downlinkClient (env : DownlinkEnv) (ret : Int) (file : List UInt8) : DownlinkRun :=
  if ret = 1 ∧ ¬ (env.socketOk ∧ env.ptonOk ∧ env.connectOk) then { ret := 1 }
  else if ¬ env.opens then { ret := 0 }
  else sendBlocks env.results 0 (file.toChunks 32768)

def hitsClosed (results : Nat → SendResult) : Nat → List (List UInt8) → Bool
  | _, [] => false
  | i, _ :: blocks =>
      match results i with
      | .accepted _ => hitsClosed results (i + 1) blocks
      | .failed => false
      | .peerClosed => true

theorem sendBlocks_alive (results : Nat → SendResult) (blocks : List (List UInt8)) (i : Nat) :
    (sendBlocks results i blocks).alive = !hitsClosed results i blocks := by
  induction blocks generalizing i with
  | nil => rfl
  | cons block blocks ih =>
      cases h : results i with
      | accepted n => simp [sendBlocks, hitsClosed, h, ih]
      | failed => simp [sendBlocks, hitsClosed, h]
      | peerClosed => simp [sendBlocks, hitsClosed, h]

theorem sendBlocks_ret (results : Nat → SendResult) (i : Nat) (blocks : List (List UInt8)) :
    (sendBlocks results i blocks).ret = 0 ∨ (sendBlocks results i blocks).ret = 1 := by
  induction blocks generalizing i with
  | nil => exact Or.inl rfl
  | cons block blocks ih =>
      cases h : results i with
      | accepted n => simpa only [sendBlocks, h] using ih (i + 1)
      | failed => simp [sendBlocks, h]
      | peerClosed => simp [sendBlocks, h]

end UhfGs.Station
