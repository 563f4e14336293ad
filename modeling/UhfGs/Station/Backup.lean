import UhfGs.Station.Options
import UhfGs.Station.Survival

/-! What `send_packet` keeps of an uplink: the packet is read once more after the interface
has released it. -/
namespace UhfGs.Station
open Bytes Csp

def OpenFile.packet (file : OpenFile) (stack : Nat → UInt8) (packet : Packet) : Packet :=
  { packet with
    data := file.data packet.data
    length := UInt16.ofInt (file.params stack).toHeader.dataLength }

/-- The backup is `payload` under the time of the call, whatever other tasks have made of the
released buffer, and whatever the time string held before it was set. -/
def BackedUp (env : SendEnv) (payload : List UInt8) : Prop :=
  ∀ timeStringSent recycled,
    (sendPacket { env with timeStringSent := timeStringSent, recycled := recycled }).backup =
      some (backupName env.now.chars, payload)

theorem saveBackup_backup (run : SendRun) (env : SendEnv) (timeString : List Char)
    (data : Nat → UInt8) (length : Int) :
    (run.saveBackup env timeString data length).backup =
      if timeString.length ≤ 148 ∧ env.backupOpens then
        some (backupName timeString, readMem length.toNat data)
      else none := by
  have h : (backupName timeString).length + 1 ≤ 200 ↔ timeString.length ≤ 148 := by
    rw [length_backupName]
    omega
  simp only [SendRun.saveBackup, h, decide_eq_true_eq]

theorem backupName_inj {s t : List Char} (h : backupName s = backupName t) : s = t := by
  have h' := List.append_cancel_right h
  exact List.append_cancel_left h'

theorem uplink_backup (env : SendEnv) (header : Header) (packet : Packet) :
    (uplink env header packet).backup =
      if env.backupOpens then
        some (backupName env.now.chars, readMem header.dataLength.toNat
          (if ((uplinkCall header packet).run env.node).1 = .none then env.recycled
            else packet.data))
      else none := by
  have hcode : ((uplinkCall header packet).run env.node).1.code ≠ -1 :=
    cspSendto_code_ne _ _ _ _ _ _ _
  simp only [uplink_eq, saveBackup_backup, hcode, if_false, env.now.length_eq]
  simp

theorem dataLength_decodeParameters (hexInput : Nat → UInt8) :
    (decodeParameters hexInput).toHeader.dataLength = (hexInput 5).toNat := by
  rw [toHeader_decodeParameters]

theorem OpenFile.packet_length (file : OpenFile) (stack : Nat → UInt8) (packet : Packet) :
    (file.packet stack packet).length.toNat =
      (file.params stack).toHeader.dataLength.toNat := by
  have h := (writeMem 0 ((file.content.take 6).take file.headerRead) stack 5).toNat_lt
  simp only [OpenFile.packet, OpenFile.params, dataLength_decodeParameters, UInt16.ofInt,
    UInt16.toNat_ofNat', Int.toNat_natCast]
  omega

theorem OpenFile.packet_payload (file : OpenFile) (stack : Nat → UInt8) (packet : Packet) :
    (file.packet stack packet).payload =
      readMem (file.params stack).toHeader.dataLength.toNat (file.data packet.data) := by
  rw [Packet.payload, file.packet_length]
  rfl

def disturbed (data : Nat → UInt8) : Nat → UInt8 := fun i => data i + 1

theorem readMem_disturbed {n : Nat} {data : Nat → UInt8} (h : readMem n (disturbed data) =
    readMem n data) : n = 0 := by
  by_contra hn
  have h0 := congrArg (fun bs : List UInt8 => bs[0]?) h
  have hpos : 0 < n := Nat.pos_of_ne_zero hn
  simp [readMem, hpos, disturbed] at h0

section
variable {env : SendEnv} {packet : Packet} {file : OpenFile}

theorem BackedUp.uplinked (hb : env.buffer = some packet) (hf : env.mcsUplinkFile = some file)
    (hr : file.Readable) (h : BackedUp env (file.packet env.stack packet).payload) :
    env.backupOpens ∧ (file.params env.stack).toHeader.dstAddr ≤ 15 ∧
      ((file.params env.stack).toHeader.dataLength.toNat = 0 ∨
        ¬ (uplinkCall (file.params env.stack).toHeader
          (file.packet env.stack packet)).Transmittable env.node) := by
  let env' : SendEnv := { env with
    timeStringSent := [], recycled := disturbed (file.data packet.data) }
  have hrun := h [] (disturbed (file.data packet.data))
  rw [@sendPacket_readable env' packet file hb hf hr] at hrun
  by_cases hd : (file.params env.stack).toHeader.dstAddr ≤ 15
  · have hup : (uplink env' (file.params env.stack).toHeader
        (file.packet env.stack packet)).backup =
          some (backupName env.now.chars, (file.packet env.stack packet).payload) := by
      rw [← hrun]
      simp only [env', hd, if_true]
      rfl
    rw [uplink_backup] at hup
    by_cases ho : env.backupOpens = true
    · refine ⟨ho, hd, ?_⟩
      by_contra hbad
      obtain ⟨hlen, ht⟩ := not_or.mp hbad
      rw [not_not] at ht
      have hnone := ((uplinkCall (file.params env.stack).toHeader
        (file.packet env.stack packet)).run_none_iff env.node).mpr ht
      have hnone' : ((uplinkCall (file.params env.stack).toHeader
        (file.packet env.stack packet)).run env'.node).1 = .none := hnone
      rw [if_pos ho, if_pos hnone', OpenFile.packet_payload, Option.some.injEq,
        Prod.mk.injEq] at hup
      exact hlen (readMem_disturbed hup.2)
    · rw [if_neg ho] at hup
      cases hup
  · have hname : (carryOut env' (file.params env.stack).toHeader
        (file.packet env.stack packet)).backup =
          some (backupName env.now.chars, (file.packet env.stack packet).payload) := by
      rw [← hrun]
      simp only [env', hd, if_false]
      rfl
    simp only [carryOut] at hname
    split at hname
    · rw [saveBackup_backup] at hname
      split at hname
      · rw [Option.some.injEq, Prod.mk.injEq] at hname
        have hempty : ([] : List Char) = env.now.chars := backupName_inj hname.1
        have hlen := env.now.length_eq
        rw [← hempty] at hlen
        cases hlen
      · cases hname
    · cases hname

/-- The backup of an accepted file is the uplinked payload under the time of the call exactly
when it opens and the file is an uplink that is empty or was not transmitted. -/
theorem backedUp_iff (hb : env.buffer = some packet) (hf : env.mcsUplinkFile = some file)
    (hr : file.Readable) :
    BackedUp env (file.packet env.stack packet).payload ↔
      env.backupOpens ∧ (file.params env.stack).toHeader.dstAddr ≤ 15 ∧
        ((file.params env.stack).toHeader.dataLength.toNat = 0 ∨
          ¬ (uplinkCall (file.params env.stack).toHeader
            (file.packet env.stack packet)).Transmittable env.node) := by
  constructor
  · intro h
    exact h.uplinked hb hf hr
  · rintro ⟨ho, hd, hkept⟩ timeStringSent recycled
    let env' : SendEnv := { env with timeStringSent := timeStringSent, recycled := recycled }
    have hup : (sendPacket env').backup =
        (uplink env' (file.params env.stack).toHeader (file.packet env.stack packet)).backup := by
      rw [@sendPacket_readable env' packet file hb hf hr]
      simp only [env', hd, if_true]
      rfl
    rw [OpenFile.packet_payload, hup, uplink_backup, if_pos ho]
    obtain hzero | hlost := hkept
    · rw [hzero]
      rfl
    · have hfail : ((uplinkCall (file.params env.stack).toHeader
          (file.packet env.stack packet)).run env'.node).1 ≠ .none :=
        mt ((uplinkCall (file.params env.stack).toHeader
          (file.packet env.stack packet)).run_none_iff env.node).mp hlost
      rw [if_neg hfail]
      rfl

def rewritten (b : UInt8) : UInt8 := if b = FEND then TFEND else if b = FESC then TFESC else b

/-- What `csp_kiss_tx` leaves in the data area, behind the four bytes of the identifier. -/
def kissResidue (e : Endian) (packet : Packet) : Nat → UInt8 := fun i =>
  let b := (cspCrc32Append e packet).data i
  if i + 4 < (packet.length + 4 + 4).toNat then rewritten b else b

theorem map_rewritten_iff (bs : List UInt8) :
    bs.map rewritten = bs ↔ FEND ∉ bs ∧ FESC ∉ bs := by
  induction bs with
  | nil => simp
  | cons b bs ih =>
      have hb : rewritten b = b ↔ FEND ≠ b ∧ FESC ≠ b := by
        by_cases h0 : b = FEND
        · subst h0
          decide
        · by_cases h1 : b = FESC
          · subst h1
            decide
          · simp [rewritten, h0, h1, Ne.symm h0, Ne.symm h1]
      simp only [List.map_cons, List.cons.injEq, ih, hb, List.mem_cons, not_or]
      tauto

/-- Where nobody takes the buffer, the backup of what went out over KISS still has the rewritten
bytes. -/
theorem uplink_backup_undisturbed {header : Header} (ho : env.backupOpens)
    (hsent : (uplinkCall header packet).Transmittable env.node)
    (hlen : header.dataLength.toNat = packet.length.toNat) (hshort : packet.length.toNat < 256)
    (hrest : env.recycled = kissResidue env.node.endian packet) :
    (uplink env header packet).backup =
      some (backupName env.now.chars, packet.payload.map rewritten) := by
  have hnone := ((uplinkCall header packet).run_none_iff env.node).mpr hsent
  have hdata : readMem packet.length.toNat (kissResidue env.node.endian packet) =
      packet.payload.map rewritten := by
    simp only [readMem, Packet.payload, List.map_map]
    refine List.map_congr_left fun i hi => ?_
    have hi' : i < packet.length.toNat := List.mem_range.mp hi
    have hin : i + 4 < (packet.length + 4 + 4).toNat := by
      simp only [UInt16.toNat_add, UInt16.reduceToNat]
      omega
    have hkeep : (cspCrc32Append env.node.endian packet).data i = packet.data i := by
      simp only [cspCrc32Append, writeMem, if_neg (Nat.not_le.mpr hi')]
    simp only [kissResidue, if_pos hin, hkeep, Function.comp_apply]
  rw [uplink_backup, if_pos ho, if_pos hnone, hlen, hrest, hdata]

end

theorem transmittable_stationNode (e : Endian) (header : Header) {packet : Packet}
    (h : packet.length ≤ 256) : (uplinkCall header packet).Transmittable (stationNode e) :=
  ⟨uplinkCall_noRdp header packet, kissIface e true, cspKissTx e true, _, rfl, rfl,
    outgoing_unflagged _ (uplinkCall_flags header packet) _, Or.inr h, rfl⟩

/-- A ping that found no route is backed up. -/
theorem backedUp_iff_unsent :
    BackedUp { callWith .little usedBuffer [0, 0x10, 0, 0, 0, 1, 0xAA] with
      node := { stationNode .little with cspRtableFindIface := fun _ => none } }
      ((OpenFile.regular [0, 0x10, 0, 0, 0, 1, 0xAA]).packet (fun _ => 0) usedBuffer).payload := by
  have hr : (OpenFile.regular [0, 0x10, 0, 0, 0, 1, 0xAA]).Readable :=
    OpenFile.readable_of_length (by decide) (by decide)
  refine (@backedUp_iff { callWith .little usedBuffer [0, 0x10, 0, 0, 0, 1, 0xAA] with
      node := { stationNode .little with cspRtableFindIface := fun _ => none } } usedBuffer
      (.regular [0, 0x10, 0, 0, 0, 1, 0xAA]) rfl rfl hr).mpr ⟨rfl, ?_, Or.inr ?_⟩
  · rw [OpenFile.toHeader_regular (by decide), headerOf_eq]
    decide
  · rintro ⟨-, iface, nexthop, p, hroute, -⟩
    cases hroute

/-- A ping with the byte 0xC0 is transmitted, and its released buffer backed up. -/
theorem not_backedUp : ¬ ∀ (env : SendEnv) (packet : Packet) (file : OpenFile),
    env.buffer = some packet → env.mcsUplinkFile = some file → file.Readable →
      BackedUp env (file.packet env.stack packet).payload := by
  intro h
  have hr : (OpenFile.regular [0, 0x10, 0, 0, 0, 1, 0xC0]).Readable :=
    OpenFile.readable_of_length (by decide) (by decide)
  have hh : ((OpenFile.regular [0, 0x10, 0, 0, 0, 1, 0xC0]).params fun _ => 0).toHeader =
      headerOf [0, 0x10, 0, 0, 0, 1, 0xC0] := OpenFile.toHeader_regular (by decide) _
  obtain ⟨-, -, hbad⟩ := (h (callWith .little usedBuffer [0, 0x10, 0, 0, 0, 1, 0xC0]) usedBuffer _
    rfl rfl hr).uplinked rfl rfl hr
  obtain hzero | hunsent := hbad
  · change ((OpenFile.regular _).params fun _ => 0).toHeader.dataLength.toNat = 0 at hzero
    rw [hh, headerOf_eq] at hzero
    exact absurd hzero (by decide)
  · refine hunsent (transmittable_stationNode .little _ ?_)
    change UInt16.ofInt ((OpenFile.regular _).params fun _ => 0).toHeader.dataLength ≤ 256
    rw [hh, headerOf_eq]
    decide

end UhfGs.Station
