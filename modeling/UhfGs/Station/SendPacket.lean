import UhfGs.Csp.Output
import UhfGs.Station.McsFile
import UhfGs.Station.SatSel

/-! `send_packet`: one MCS file goes to the satellite, or is carried out as a command
at the station, and is backed up. -/
namespace UhfGs.Station
open Bytes Csp

inductive Command where
  | mcsSatSel (no : UInt32)
  | mcsSatRead
  | updateTle
  | setRxFreq (freq : UInt32)
  | setTxFreq (freq : UInt32)
  deriving DecidableEq, Repr

inductive Act where
  | sendto (prio dest dport srcPort : UInt8) (packet : Packet)
  | command (c : Command)

/-- How a call ends: it returns, it calls `exit`, or it passes a null stream to the C library
or writes past an array. -/
inductive Fate where
  | returns (code : Int)
  | exits
  | crashes
  deriving DecidableEq, Repr

structure TimeString where
  chars : List Char
  length_eq : chars.length = 19

/-- What a call of `send_packet` finds. `mcsUplinkFile` is the file under the name it is given,
`stack` and `timeStringSent` are the uninitialised header buffer and time string, `recycled`
is the data area of the packet after the interface has released it. A command finds the statics
of the station, which the console can have changed, tle.txt and the radio. -/
structure SendEnv where
  node : Node
  buffer : Option Packet
  mcsUplinkFile : Option OpenFile
  stack : Nat → UInt8
  timeStringSent : List Char
  now : TimeString
  recycled : Nat → UInt8
  tracking : Tracking
  tle : TleEnv
  tx : SetResult
  rx : SetResult
  backupOpens : Bool

/-- What a call does: its action, the result of `csp_sendto`, the bytes on the serial line, name
and content of what it appends to the backup, and its end. -/
structure SendRun where
  act : Option Act := none
  sendto : Option Err := none
  line : List UInt8 := []
  backup : Option (List Char × List UInt8) := none
  fate : Fate

/-- Four bytes as the code adds them up, in 32 bits. -/
def freqAt (data : Nat → UInt8) : UInt32 :=
  ((data 1).toUInt32 <<< 24) + ((data 2).toUInt32 <<< 16) + ((data 3).toUInt32 <<< 8) +
    (data 4).toUInt32

def commandOf (data : Nat → UInt8) : Option Command :=
  if data 0 = 0x01 then some (.mcsSatSel (data 1).toUInt32)
  else if data 0 = 0x00 then some .mcsSatRead
  else if data 0 = 0x06 then some .updateTle
  else if data 0 = 0x02 then some (.setRxFreq (freqAt data))
  else if data 0 = 0x03 then some (.setTxFreq (freqAt data))
  else none

def Command.usesTle : Command → Bool
  | .mcsSatSel _ => true
  | .updateTle => true
  | .mcsSatRead => false
  | .setRxFreq _ => false
  | .setTxFreq _ => false

def SendEnv.selCall (env : SendEnv) (no : UInt32) : SelCall := ⟨no, env.tle, env.tx, env.rx⟩

/-- Whether a command comes back to `send_packet`. `tleupdate` uses the stream of tle.txt also
where it did not open, and writes past its static lines. -/
def SendEnv.comesBack (env : SendEnv) : Command → Bool
  | .mcsSatSel no => (env.tracking.mcsSatSel (env.selCall no)).state.isSome
  | .updateTle => (tleupdate env.tle 0 env.tracking.elements).elements.isSome
  | .mcsSatRead => true
  | .setRxFreq _ => true
  | .setTxFreq _ => true

def backupDir : List Char := "/home/rai/Desktop/GS_Server_Folder/Sent_To_MCS/".toList

def backupName (timeString : List Char) : List Char := backupDir ++ timeString ++ ".bin".toList

/-- The end of `send_packet`: append the packet's data to the backup file. The name has room
for 199 characters and its NUL. -/
def SendRun.saveBackup (run : SendRun) (env : SendEnv) (timeString : List Char)
    (data : Nat → UInt8) (length : Int) : SendRun :=
  let name := backupName timeString
  let saved : Bool := name.length + 1 ≤ 200 ∧ env.backupOpens
  { run with
    backup := if saved then some (name, readMem length.toNat data) else none
    fate := if saved then .returns 0 else .crashes }

/-- The branch for destinations up to 15. -/
def uplink (env : SendEnv) (header : Header) (packet : Packet) : SendRun :=
  let prio := UInt8.ofInt header.pri
  let dest := UInt8.ofInt header.dstAddr
  let dport := UInt8.ofInt header.dstPort
  let srcPort := UInt8.ofInt header.srcPort
  let (err, line) := cspSendto env.node prio dest dport srcPort 0 packet
  let run : SendRun :=
    { act := some (.sendto prio dest dport srcPort packet), sendto := some err, line := line,
      fate := .returns 0 }
  let timeString := if err.code = -1 then env.timeStringSent else env.now.chars
  -- the interface frees the packet it has sent
  let data := if err = .none then env.recycled else packet.data
  run.saveBackup env timeString data header.dataLength

/-- The branch for the other destinations. -/
def carryOut (env : SendEnv) (header : Header) (packet : Packet) : SendRun :=
  let c := commandOf packet.data
  let run : SendRun := { act := c.map .command, fate := .crashes }
  if c.all env.comesBack then
    run.saveBackup env env.timeStringSent packet.data header.dataLength
  else run

def sendPacket (env : SendEnv) : SendRun :=
  match env.buffer with
  | none => { fate := .returns (-1) }
  | some packet =>
      match processMcsFile env.stack env.mcsUplinkFile packet.data with
      | .exits => { fate := .exits }
      | .rejected => { fate := .returns (-1) }
      | .accepted params data =>
          let header := params.toHeader
          let packet := { packet with data := data, length := UInt16.ofInt header.dataLength }
          if header.dstAddr ≤ 15 then uplink env header packet
          else carryOut env header packet

def headerOf (f : List UInt8) : Header := (decodeParameters (byteAt f)).toHeader

theorem OpenFile.toHeader_regular {f : List UInt8} (h : 6 ≤ f.length) (stack : Nat → UInt8) :
    ((OpenFile.regular f).params stack).toHeader = headerOf f := by
  rw [OpenFile.params_regular h, headerOf]

def fillPacket (f : List UInt8) (packet : Packet) : Packet :=
  { packet with
    data := writeMem 0 ((f.drop 6).take (toInt32 f.length - 6).toNat) packet.data
    length := UInt16.ofInt (headerOf f).dataLength }

section
variable {env : SendEnv} {packet : Packet} {f : List UInt8}

theorem sendPacket_readable {file : OpenFile} (hb : env.buffer = some packet)
    (hf : env.mcsUplinkFile = some file) (h : file.Readable) :
    sendPacket env =
      let header := (file.params env.stack).toHeader
      let packet := { packet with
        data := file.data packet.data, length := UInt16.ofInt header.dataLength }
      if header.dstAddr ≤ 15 then uplink env header packet else carryOut env header packet := by
  simp only [sendPacket, hb, hf, processMcsFile_readable _ _ _ h]

theorem sendPacket_unreadable {file : OpenFile} (hb : env.buffer = some packet)
    (hf : env.mcsUplinkFile = some file) (h : ¬ file.Readable) :
    sendPacket env = { fate := .returns (-1) } := by
  simp only [sendPacket, hb, hf, processMcsFile_unreadable _ _ _ h]

theorem sendPacket_rejects (hb : env.buffer = some packet)
    (hf : env.mcsUplinkFile = some (.regular f)) (hs : toInt32 f.length ≤ 6) :
    sendPacket env = { fate := .returns (-1) } := by
  have h : ¬ (OpenFile.regular f).Readable := by
    rw [OpenFile.readable_regular]
    omega
  exact sendPacket_unreadable hb hf h

theorem sendPacket_accepts (hb : env.buffer = some packet)
    (hf : env.mcsUplinkFile = some (.regular f)) (hs : 6 < toInt32 f.length) :
    sendPacket env =
      if (headerOf f).dstAddr ≤ 15 then uplink env (headerOf f) (fillPacket f packet)
      else carryOut env (headerOf f) (fillPacket f packet) := by
  have hle := toInt32_le f.length
  rw [sendPacket_readable hb hf (OpenFile.readable_regular.mpr hs)]
  simp only [OpenFile.params_regular (f := f) (by omega), OpenFile.data_regular]
  rfl

theorem carryOut_act (env : SendEnv) (header : Header) (packet : Packet) :
    (carryOut env header packet).act = (commandOf packet.data).map .command := by
  simp only [carryOut]
  split <;> rfl

end

end UhfGs.Station
