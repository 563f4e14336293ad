import UhfGs.Csp.Transmit
import UhfGs.Station.Uplink

/-! The call of `csp_sendto` that `send_packet` makes, and the protection that the header of
the file asks for. -/
namespace UhfGs.Station
open Bytes Csp

/-- `csp_sendto(pri_int, dst_addr_int, dst_port_int, src_port_int, 0, packet, 1000)`. -/
def uplinkCall (header : Header) (packet : Packet) : SendtoCall where
  prio := UInt8.ofInt header.pri
  dest := UInt8.ofInt header.dstAddr
  dport := UInt8.ofInt header.dstPort
  srcPort := UInt8.ofInt header.srcPort
  opts := 0
  packet := packet

def sendtoCall (env : SendEnv) : Option SendtoCall :=
  env.buffer.bind fun packet =>
    match processMcsFile env.stack env.mcsUplinkFile packet.data with
    | .exits => none
    | .rejected => none
    | .accepted params data =>
        let header := params.toHeader
        if header.dstAddr ≤ 15 then
          some (uplinkCall header
            { packet with data := data, length := UInt16.ofInt header.dataLength })
        else none

theorem uplink_eq (env : SendEnv) (header : Header) (packet : Packet) :
    uplink env header packet =
      let call := uplinkCall header packet
      let err := (call.run env.node).1
      ({ act := some (.sendto call.prio call.dest call.dport call.srcPort packet),
         sendto := some err, line := (call.run env.node).2, fate := .returns 0 } : SendRun).saveBackup
        env (if err.code = -1 then env.timeStringSent else env.now.chars)
        (if err = .none then env.recycled else packet.data) header.dataLength := by
  simp only [uplink, SendtoCall.run, uplinkCall]
  rfl

def requestedFlags (header : Header) : UInt8 :=
  (if header.hmac ≠ 0 then fhmac else 0) ||| (if header.xtea ≠ 0 then fxtea else 0) |||
    (if header.rdp ≠ 0 then frdp else 0) ||| (if header.crc ≠ 0 then fcrc32 else 0)

/-- The call and every packet that it hands to an interface carry exactly the flags that the
header asks for; without a call the file is rejected and nothing goes out. -/
def HonoursOptions (env : SendEnv) (header : Header) : Prop :=
  match sendtoCall env with
  | none => (sendPacket env).fate = .returns (-1) ∧ (sendPacket env).line = []
  | some call =>
      call.opts &&& optRdp = 0 ∧ call.flags = requestedFlags header ∧
        ∀ nexthop p, call.handedOver env.node = some (nexthop, p) →
          p.id.flags = requestedFlags header

theorem requestedFlags_eq_zero (header : Header) : requestedFlags header = 0 ↔
    header.hmac = 0 ∧ header.xtea = 0 ∧ header.rdp = 0 ∧ header.crc = 0 := by
  unfold requestedFlags
  by_cases h : header.hmac = 0 <;> by_cases x : header.xtea = 0 <;>
    by_cases r : header.rdp = 0 <;> by_cases c : header.crc = 0 <;>
    simp [h, x, r, c, fhmac, fxtea, frdp, fcrc32]

theorem uplinkCall_flags (header : Header) (packet : Packet) :
    (uplinkCall header packet).flags = 0 := by
  change ((if (0 : UInt32) &&& optHmac ≠ 0 then fhmac else 0) |||
    (if (0 : UInt32) &&& optXtea ≠ 0 then fxtea else 0) |||
    (if (0 : UInt32) &&& optCrc32 ≠ 0 then fcrc32 else 0)) = 0
  decide

theorem uplinkCall_noRdp (header : Header) (packet : Packet) :
    (uplinkCall header packet).opts &&& optRdp = 0 := by
  change (0 : UInt32) &&& optRdp = 0
  decide

theorem uplinkCall_handedOver {node : Node} {header : Header} {packet p : Packet}
    {nexthop : Packet → Err × List UInt8}
    (h : (uplinkCall header packet).handedOver node = some (nexthop, p)) :
    p = { packet with id := (uplinkCall header packet).id node } ∧ p.id.flags = 0 := by
  have hid : ((uplinkCall header packet).id node).flags = 0 := uplinkCall_flags header packet
  obtain ⟨-, iface, -, -, hout, -⟩ := ((uplinkCall header packet).handedOver_eq_some node).mp h
  rw [outgoing_unflagged _ hid] at hout
  cases hout
  exact ⟨rfl, hid⟩

section
variable {env : SendEnv} {packet : Packet} {file : OpenFile}

theorem sendtoCall_readable (hb : env.buffer = some packet)
    (hf : env.mcsUplinkFile = some file) (h : file.Readable)
    (hd : (file.params env.stack).toHeader.dstAddr ≤ 15) :
    sendtoCall env = some (uplinkCall (file.params env.stack).toHeader
      { packet with
        data := file.data packet.data
        length := UInt16.ofInt (file.params env.stack).toHeader.dataLength }) := by
  simp only [sendtoCall, hb, Option.bind_some, hf, processMcsFile_readable _ _ _ h, hd, if_true]

theorem sendtoCall_unreadable (hf : env.mcsUplinkFile = some file) (h : ¬ file.Readable) :
    sendtoCall env = none := by
  cases hb : env.buffer with
  | none => rw [sendtoCall, hb, Option.bind_none]
  | some packet =>
      simp only [sendtoCall, hb, Option.bind_some, hf, processMcsFile_unreadable _ _ _ h]

theorem HonoursOptions.flags_zero (h : HonoursOptions env (file.params env.stack).toHeader)
    (hf : env.mcsUplinkFile = some file) (hd : (file.params env.stack).toHeader.dstAddr ≤ 15)
    (hb : env.buffer = some packet) (hr : file.Readable) :
    requestedFlags (file.params env.stack).toHeader = 0 := by
  rw [HonoursOptions, sendtoCall_readable hb hf hr hd] at h
  exact h.2.1.symm.trans (uplinkCall_flags _ _)

/-- The options of the header are honoured exactly when the file is rejected, or when it asks
for none. -/
theorem honoursOptions_iff (hf : env.mcsUplinkFile = some file)
    (hd : (file.params env.stack).toHeader.dstAddr ≤ 15) :
    HonoursOptions env (file.params env.stack).toHeader ↔
      env.buffer = none ∨ ¬ file.Readable ∨
        (let header := (file.params env.stack).toHeader
         header.hmac = 0 ∧ header.xtea = 0 ∧ header.rdp = 0 ∧ header.crc = 0) := by
  rw [← requestedFlags_eq_zero]
  cases hb : env.buffer with
  | none =>
      have hnone : sendtoCall env = none := by rw [sendtoCall, hb, Option.bind_none]
      have hrun : sendPacket env = { fate := .returns (-1) } := by simp only [sendPacket, hb]
      rw [HonoursOptions, hnone, hrun]
      simp
  | some packet =>
      by_cases hr : file.Readable
      · constructor
        · intro h
          exact Or.inr (Or.inr (h.flags_zero hf hd hb hr))
        · rintro (h | h | hzero)
          · cases h
          · exact absurd hr h
          · rw [HonoursOptions, sendtoCall_readable hb hf hr hd, hzero]
            exact ⟨uplinkCall_noRdp _ _, uplinkCall_flags _ _,
              fun _ _ h => (uplinkCall_handedOver h).2⟩
      · rw [HonoursOptions, sendtoCall_unreadable hf hr, sendPacket_unreadable hb hf hr]
        simp [hr]

end

theorem honoursOptions_iff_ping :
    HonoursOptions (callWith .little usedBuffer [0, 0x10, 0, 0, 0, 1, 0xAA])
      ((OpenFile.regular [0, 0x10, 0, 0, 0, 1, 0xAA]).params fun _ => 0).toHeader := by
  have hh : ((OpenFile.regular [0, 0x10, 0, 0, 0, 1, 0xAA]).params fun _ => 0).toHeader =
      headerOf [0, 0x10, 0, 0, 0, 1, 0xAA] := OpenFile.toHeader_regular (by decide) _
  have h := @honoursOptions_iff (callWith .little usedBuffer [0, 0x10, 0, 0, 0, 1, 0xAA])
    (.regular [0, 0x10, 0, 0, 0, 1, 0xAA]) rfl (by
      change ((OpenFile.regular _).params fun _ => 0).toHeader.dstAddr ≤ 15
      rw [hh, headerOf_eq]
      decide)
  refine h.mpr (Or.inr (Or.inr ?_))
  change (let header := ((OpenFile.regular _).params fun _ => 0).toHeader
    header.hmac = 0 ∧ header.xtea = 0 ∧ header.rdp = 0 ∧ header.crc = 0)
  rw [hh, headerOf_eq]
  decide

/-- A ping that asks for a CRC goes out without one. -/
theorem not_honoursOptions : ¬ ∀ (env : SendEnv) (file : OpenFile),
    env.mcsUplinkFile = some file → (file.params env.stack).toHeader.dstAddr ≤ 15 →
      HonoursOptions env (file.params env.stack).toHeader := by
  intro h
  have hh : ((OpenFile.regular [0, 0x10, 0, 1, 0, 1, 0xAA]).params
      (callWith .little usedBuffer [0, 0x10, 0, 1, 0, 1, 0xAA]).stack).toHeader =
      headerOf [0, 0x10, 0, 1, 0, 1, 0xAA] := OpenFile.toHeader_regular (by decide) _
  have hd : ((OpenFile.regular [0, 0x10, 0, 1, 0, 1, 0xAA]).params
      (callWith .little usedBuffer [0, 0x10, 0, 1, 0, 1, 0xAA]).stack).toHeader.dstAddr ≤ 15 := by
    rw [hh, headerOf_eq]
    decide
  have hr : (OpenFile.regular [0, 0x10, 0, 1, 0, 1, 0xAA]).Readable :=
    OpenFile.readable_of_length (by decide) (by decide)
  have hflags := (h (callWith .little usedBuffer [0, 0x10, 0, 1, 0, 1, 0xAA]) _ rfl hd).flags_zero
    rfl hd rfl hr
  rw [hh, headerOf_eq] at hflags
  exact absurd hflags (by decide)

end UhfGs.Station
