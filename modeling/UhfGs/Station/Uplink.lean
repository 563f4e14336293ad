import UhfGs.Station.SendPacket

/-! What becomes of an uplink: which payload `send_packet` hands to `csp_sendto`, and
which identifier goes out on the serial line. -/
namespace UhfGs.Station
open Bits Bytes Csp

/-- The packet handed to `csp_sendto` carries the file's payload and nothing else, or the file
is rejected. -/
def Faithful (f : List UInt8) (run : SendRun) : Prop :=
  (∃ prio dest dport srcPort packet,
    run.act = some (.sendto prio dest dport srcPort packet) ∧
      packet.length.toNat = f.length - 6 ∧ packet.payload = f.drop 6) ∨
    (run.fate = .returns (-1) ∧ run.act = none)

theorem headerOf_eq (f : List UInt8) :
    headerOf f =
      { pri := ((byteAt f 0).toNat / 64 : Nat)
        srcAddr := ((byteAt f 0).toNat / 2 % 32 : Nat)
        dstAddr := (((byteAt f 0).toNat * 256 + (byteAt f 1).toNat) / 16 % 32 : Nat)
        dstPort := (((byteAt f 1).toNat * 256 + (byteAt f 2).toNat) / 64 % 64 : Nat)
        srcPort := ((byteAt f 2).toNat % 64 : Nat)
        hmac := ((byteAt f 3).toNat / 8 % 2 : Nat)
        xtea := ((byteAt f 3).toNat / 4 % 2 : Nat)
        rdp := ((byteAt f 3).toNat / 2 % 2 : Nat)
        crc := ((byteAt f 3).toNat % 2 : Nat)
        dataLength := (byteAt f 5).toNat } :=
  toHeader_decodeParameters (byteAt f)

theorem fillPacket_length (f : List UInt8) (packet : Packet) :
    (fillPacket f packet).length.toNat = (byteAt f 5).toNat := by
  have h := (byteAt f 5).toNat_lt
  rw [fillPacket, headerOf_eq]
  simp only [UInt16.ofInt, UInt16.toNat_ofNat']
  omega

theorem fillPacket_payload {f : List UInt8} (hs : 6 < f.length)
    (h5 : (byteAt f 5).toNat = f.length - 6) (packet : Packet) :
    (fillPacket f packet).payload = f.drop 6 := by
  have h := (byteAt f 5).toNat_lt
  have hsize : (toInt32 f.length - 6).toNat = f.length - 6 := by
    rw [toInt32_of_lt (by omega)]
    omega
  have htake : (f.drop 6).take (f.length - 6) = f.drop 6 :=
    List.take_of_length_le (by simp)
  rw [Packet.payload, fillPacket_length, h5]
  simp only [fillPacket, hsize, htake, readMem_writeMem_zero]
  simp

section
variable {env : SendEnv} {packet : Packet} {f : List UInt8}

theorem sendPacket_uplink (hb : env.buffer = some packet)
    (hf : env.mcsUplinkFile = some (.regular f)) (hs : 6 < toInt32 f.length)
    (hd : (headerOf f).dstAddr ≤ 15) :
    sendPacket env = uplink env (headerOf f) (fillPacket f packet) := by
  rw [sendPacket_accepts hb hf hs, if_pos hd]

theorem faithful_of_length (hb : env.buffer = some packet)
    (hf : env.mcsUplinkFile = some (.regular f)) (hd : (headerOf f).dstAddr ≤ 15)
    (h5 : (byteAt f 5).toNat = f.length - 6) : Faithful f (sendPacket env) := by
  by_cases hs : toInt32 f.length ≤ 6
  · rw [sendPacket_rejects hb hf hs]
    exact Or.inr ⟨rfl, rfl⟩
  · have hsize : 6 < toInt32 f.length := Int.not_le.mp hs
    have hle := toInt32_le f.length
    rw [sendPacket_uplink hb hf hsize hd]
    refine Or.inl ⟨_, _, _, _, fillPacket f packet, rfl, ?_, ?_⟩
    · rw [fillPacket_length, h5]
    · exact fillPacket_payload (by omega) h5 packet

theorem length_of_faithful (hb : env.buffer = some packet)
    (hf : env.mcsUplinkFile = some (.regular f)) (hs : 6 < toInt32 f.length)
    (hd : (headerOf f).dstAddr ≤ 15) (h : Faithful f (sendPacket env)) :
    (byteAt f 5).toNat = f.length - 6 := by
  rw [sendPacket_uplink hb hf hs hd] at h
  obtain ⟨prio, dest, dport, srcPort, p, hact, hlen, -⟩ | ⟨-, hact⟩ := h
  · have hp : fillPacket f packet = p := by
      simp only [uplink, SendRun.saveBackup, Option.some.injEq, Act.sendto.injEq] at hact
      exact hact.2.2.2.2
    rw [← hlen, ← hp, fillPacket_length]
  · simp [uplink, SendRun.saveBackup] at hact

/-- An uplink file is sent with its payload, or rejected, exactly when the length byte of its
header agrees with its size or the size as an `int` is at most 6. -/
theorem sendPacket_faithful_iff (hb : env.buffer = some packet)
    (hf : env.mcsUplinkFile = some (.regular f)) (hd : (headerOf f).dstAddr ≤ 15) :
    Faithful f (sendPacket env) ↔
      toInt32 f.length ≤ 6 ∨ (byteAt f 5).toNat = f.length - 6 := by
  constructor
  · intro h
    by_cases hs : toInt32 f.length ≤ 6
    · exact Or.inl hs
    · exact Or.inr (length_of_faithful hb hf (Int.not_le.mp hs) hd h)
  · rintro (hs | h5)
    · rw [sendPacket_rejects hb hf hs]
      exact Or.inr ⟨rfl, rfl⟩
    · exact faithful_of_length hb hf hd h5

end

/-- A station at address 10 with the radio on its KISS line. -/
def stationNode (e : Endian) : Node where
  endian := e
  address := 10
  cspRtableFindIface := fun _ => some (kissIface e true)
  cspHmacAppend := some
  cspXteaEncrypt := some

/-- A call on file `f` where nothing else goes wrong. -/
def callWith (e : Endian) (packet : Packet) (f : List UInt8) : SendEnv where
  node := stationNode e
  buffer := some packet
  mcsUplinkFile := some (.regular f)
  stack := fun _ => 0
  timeStringSent := []
  now := ⟨"22-05-2025 12:00:00".toList, by decide⟩
  recycled := fun _ => 0
  tracking := .start 0 0
  tle := ⟨true, false, [], fun _ => 0⟩
  tx := .done
  rx := .done
  backupOpens := true

/-- A buffer whose last packet left 0x55 everywhere. -/
def usedBuffer : Packet := ⟨0, .zero, fun _ => 0x55⟩

theorem sendPacket_faithful_iff_ping : Faithful [0, 0x10, 0, 0, 0, 1, 0xAA]
    (sendPacket (callWith .little usedBuffer [0, 0x10, 0, 0, 0, 1, 0xAA])) :=
  (sendPacket_faithful_iff rfl rfl (by rw [headerOf_eq]; decide)).mpr (Or.inr (by decide))

/-- A header that announces three bytes before a payload of one. -/
theorem sendPacket_pads : ¬ ∀ (env : SendEnv) (packet : Packet) (f : List UInt8),
    env.buffer = some packet → env.mcsUplinkFile = some (.regular f) →
      (headerOf f).dstAddr ≤ 15 → Faithful f (sendPacket env) := by
  intro h
  have hd : (headerOf [0, 0x10, 0, 0, 0, 3, 0xAA]).dstAddr ≤ 15 := by
    rw [headerOf_eq]
    decide
  have hs : 6 < toInt32 [(0 : UInt8), 0x10, 0, 0, 0, 3, 0xAA].length := by
    rw [toInt32_of_lt (by decide)]
    decide
  have hf := h (callWith .little usedBuffer [0, 0x10, 0, 0, 0, 3, 0xAA]) usedBuffer _ rfl rfl hd
  exact absurd (length_of_faithful rfl rfl hs hd hf) (by decide)

theorem header_word {b0 b1 b2 b3 a : Nat} (h0 : b0 < 256) (h1 : b1 < 256) (h2 : b2 < 256)
    (h3 : b3 < 256) :
    setField 0 8 0 (setField 25 5 a (256 * (256 * (256 * b0 + b1) + b2) + b3)) =
      b0 / 64 * 2 ^ 30 + a * 2 ^ 25 + (b0 * 256 + b1) / 16 % 32 * 2 ^ 20 +
        (b1 * 256 + b2) / 64 % 64 * 2 ^ 14 + b2 % 64 * 2 ^ 8 := by
  have hdport : (b1 * 256 + b2) / 64 % 64 = b1 % 16 * 4 + b2 / 64 := by omega
  have hdst : (b0 * 256 + b1) / 16 % 32 = b0 % 2 * 16 + b1 / 16 := by
    clear hdport
    omega
  have hword : 256 * (256 * (256 * b0 + b1) + b2) + b3 - b0 / 2 % 32 * 2 ^ 25 =
      b0 / 64 * 2 ^ 30 + (b0 % 2 * 16 + b1 / 16) * 2 ^ 20 + (b1 % 16 * 4 + b2 / 64) * 2 ^ 14 +
        b2 % 64 * 2 ^ 8 + b3 := by
    clear hdport hdst
    simp only [Nat.reducePow]
    omega
  have hsrc : field 25 5 (256 * (256 * (256 * b0 + b1) + b2) + b3) = b0 / 2 % 32 := by
    clear hdport hdst hword
    simp only [field]
    omega
  rw [setField_eq, setField_eq, hsrc, hword, hdst, hdport]
  simp only [field, Nat.reducePow]
  omega

theorem ext_sendtoId {node : Node} {prio dest dport srcPort : Nat} (ha : node.address.toNat < 32)
    (hprio : prio < 4) (hdest : dest < 32) (hdport : dport < 64) (hsrc : srcPort < 64) :
    (sendtoId node (UInt8.ofInt prio) (UInt8.ofInt dest) (UInt8.ofInt dport)
        (UInt8.ofInt srcPort) 0).ext .big =
      prio * 2 ^ 30 + node.address.toNat * 2 ^ 25 + dest * 2 ^ 20 + dport * 2 ^ 14 +
        srcPort * 2 ^ 8 := by
  have h1 : prio % 256 % 4 = prio := by omega
  have h2 : dest % 256 % 32 = dest := by omega
  have h3 : dport % 256 % 64 = dport := by omega
  have h4 : srcPort % 256 % 64 = srcPort := by omega
  rw [CspId.ext_big]
  simp only [sendtoId, toNat_ofInt_natCast, Fin.val_ofNat, UInt8.toNat_zero, h1, h2, h3, h4,
    Nat.mod_eq_of_lt ha, Nat.add_zero]

theorem ext_sendtoId_headerOf {node : Node} {f : List UInt8} (hf : 6 < f.length)
    (ha : node.address < 32) :
    (sendtoId node (UInt8.ofInt (headerOf f).pri) (UInt8.ofInt (headerOf f).dstAddr)
        (UInt8.ofInt (headerOf f).dstPort) (UInt8.ofInt (headerOf f).srcPort) 0).ext .big =
      setField 0 8 0 (setField 25 5 node.address.toNat (beWord (f.take 4))) := by
  obtain ⟨b0, b1, b2, b3, rest, rfl⟩ : ∃ b0 b1 b2 b3 rest, f = b0 :: b1 :: b2 :: b3 :: rest := by
    match f, hf with
    | b0 :: b1 :: b2 :: b3 :: rest, _ => exact ⟨b0, b1, b2, b3, rest, rfl⟩
  have hw : beWord (List.take 4 (b0 :: b1 :: b2 :: b3 :: rest)) =
      256 * (256 * (256 * b0.toNat + b1.toNat) + b2.toNat) + b3.toNat := by
    simp [beWord]
  have h0 := b0.toNat_lt
  rw [hw, header_word h0 b1.toNat_lt b2.toNat_lt b3.toNat_lt, headerOf_eq]
  simp only [byteAt, List.getD_cons_zero, List.getD_cons_succ]
  have hpri : b0.toNat / 64 < 4 := by
    clear hw
    omega
  exact ext_sendtoId (UInt8.lt_iff_toNat_lt.mp ha) hpri (Nat.mod_lt _ (by decide))
    (Nat.mod_lt _ (by decide)) (Nat.mod_lt _ (by decide))

section
variable {env : SendEnv} {packet : Packet} {f : List UInt8}

/-- The first four bytes in the frame are those of the header, with the station's address as
source and no flags, on either host. -/
theorem uplink_frame_header (hb : env.buffer = some packet)
    (hf : env.mcsUplinkFile = some (.regular f))
    (hacc : ∃ params data, processMcsFile env.stack (some (.regular f)) packet.data =
      .accepted params data)
    (hd : (headerOf f).dstAddr ≤ 15) (ha : env.node.address < 32)
    (hr : env.node.cspRtableFindIface (UInt8.ofInt (headerOf f).dstAddr) =
      some (kissIface env.node.endian true)) :
    (deframe (sendPacket env).line).take 4 =
      beBytes (setField 0 8 0 (setField 25 5 env.node.address.toNat (beWord (f.take 4)))) := by
  have hs : 6 < toInt32 f.length := by
    by_contra hs
    obtain ⟨params, data, h⟩ := hacc
    rw [processMcsFile_unreadable _ _ _ (OpenFile.readable_regular.not.mpr hs)] at h
    cases h
  have hle := toInt32_le f.length
  have hlen : (fillPacket f packet).length ≤ 256 := by
    have h5 := (byteAt f 5).toNat_lt
    rw [UInt16.le_iff_toNat_le, fillPacket_length]
    simp
    omega
  rw [sendPacket_uplink hb hf hs hd]
  calc (deframe (uplink env (headerOf f) (fillPacket f packet)).line).take 4
      = (deframe (cspKissTx env.node.endian true
          { fillPacket f packet with
            id := sendtoId env.node (UInt8.ofInt (headerOf f).pri)
              (UInt8.ofInt (headerOf f).dstAddr) (UInt8.ofInt (headerOf f).dstPort)
              (UInt8.ofInt (headerOf f).srcPort) 0 }).2).take 4 := by
        have hline := cspSendto_line hr rfl hlen (UInt8.ofInt (headerOf f).pri)
          (UInt8.ofInt (headerOf f).dstPort) (UInt8.ofInt (headerOf f).srcPort)
        rw [← hline]
        rfl
    _ = _ := by
        rw [deframe_cspKissTx_take _ _ (by exact UInt16.le_trans hlen (by decide)),
          ext_sendtoId_headerOf (by omega) ha]

theorem uplink_frame_header_escaped :
    (deframe (sendPacket
      (callWith .little usedBuffer [0xC0, 0xC0, 0xDB, 9, 0, 1, 0xC0])).line).take 4 =
      [0xD4, 0xC0, 0xDB, 0] :=
  (@uplink_frame_header _ usedBuffer _ rfl rfl
    ⟨_, _, processMcsFile_readable _ _ _
      (OpenFile.readable_of_length (by decide) (by decide))⟩
    (by rw [headerOf_eq]; decide) (by decide) rfl).trans (by decide)

end

end UhfGs.Station
