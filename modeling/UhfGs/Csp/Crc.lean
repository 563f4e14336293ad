import UhfGs.Library.TableCrc
import UhfGs.Csp.Packet

/-! The receiving side of the checksum of `csp_crc32.c`. -/
namespace UhfGs.Csp
open Bytes

/-- `csp_crc32_verify` without the header. The packet that is accepted has lost its checksum. -/
def cspCrc32Verify (e : Endian) (packet : Packet) : Option Packet :=
  if packet.length < 4 then none
  else
    let n := packet.length.toNat - 4
    let crc := cspHton32 e (cspCrc32Memory (readMem n packet.data)).toNat
    if readMem 4 (fun i => packet.data (n + i)) ≠ e.bytes crc then none
    else some { packet with length := packet.length - 4 }

def checksum (data : List UInt8) : List UInt8 := beBytes (cspCrc32Memory data).toNat

@[simp] theorem length_checksum (data : List UInt8) : (checksum data).length = 4 := rfl

@[simp] theorem length_payload (p : Packet) : p.payload.length = p.length.toNat :=
  length_readMem _ _

theorem cspCrc32Append_payload (e : Endian) {p : Packet} (h : p.length.toNat + 4 < 2 ^ 16) :
    (cspCrc32Append e p).payload = p.payload ++ checksum p.payload := by
  have hlen : (p.length + 4).toNat = p.length.toNat + 4 := by
    rw [UInt16.toNat_add]
    exact Nat.mod_eq_of_lt h
  have hbytes : (e.bytes (cspHton32 e (cspCrc32Memory p.payload).toNat)) = checksum p.payload :=
    bytes_cspHton32 e _
  have hend := readMem_writeMem_end p.length.toNat (checksum p.payload) p.data
  rw [length_checksum] at hend
  simp only [cspCrc32Append, hbytes]
  rw [Packet.payload, hlen]
  exact hend

theorem cspCrc32Verify_eq_some {e : Endian} {p q : Packet} : cspCrc32Verify e p = some q ↔
    4 ≤ p.length.toNat ∧ q = { p with length := p.length - 4 } ∧
      p.payload = q.payload ++ checksum q.payload := by
  unfold cspCrc32Verify
  by_cases hshort : p.length < 4
  · rw [if_pos hshort]
    refine iff_of_false (fun h => nomatch h) fun h => ?_
    have hlt := UInt16.lt_iff_toNat_lt.mp hshort
    simp only [UInt16.reduceToNat] at hlt
    omega
  · have h4 : 4 ≤ p.length.toNat := by
      have hle := UInt16.le_iff_toNat_le.mp (UInt16.not_lt.mp hshort)
      simpa only [UInt16.reduceToNat] using hle
    have hlen : (p.length - 4).toNat = p.length.toNat - 4 := by
      rw [UInt16.toNat_sub_of_le _ _ (UInt16.not_lt.mp hshort)]
      rfl
    have hsplit : p.payload = readMem (p.length.toNat - 4) p.data ++
        readMem 4 fun i => p.data (p.length.toNat - 4 + i) := by
      rw [Packet.payload, ← readMem_add, Nat.sub_add_cancel h4]
    simp only [if_neg hshort, bytes_cspHton32, ne_eq, ite_not]
    constructor
    · intro h
      split at h
      · rename_i hcrc
        cases h
        refine ⟨h4, rfl, ?_⟩
        rw [hsplit, hcrc, Packet.payload, hlen]
        rfl
      · cases h
    · rintro ⟨-, rfl, hq⟩
      rw [hsplit, Packet.payload, hlen] at hq
      exact if_pos (List.append_cancel_left hq)

theorem cspCrc32Verify_append (e e' : Endian) {p : Packet} (h : p.length.toNat + 4 < 2 ^ 16) :
    ∃ q, cspCrc32Verify e' (cspCrc32Append e p) = some q ∧ q.id = p.id ∧ q.length = p.length ∧
      q.payload = p.payload := by
  have hlen : (p.length + 4).toNat = p.length.toNat + 4 := by
    rw [UInt16.toNat_add]
    exact Nat.mod_eq_of_lt h
  have hback : p.length + 4 - 4 = p.length := UInt16.add_sub_cancel _ _
  let q : Packet := { cspCrc32Append e p with length := p.length + 4 - 4 }
  have hq : q.payload = p.payload := by
    have hpay := cspCrc32Append_payload e h
    have htake := congrArg (List.take p.length.toNat) hpay
    rw [List.take_left' (length_payload p)] at htake
    rw [← htake, Packet.payload, Packet.payload]
    change readMem (p.length + 4 - 4).toNat _ = (readMem (p.length + 4).toNat _).take _
    rw [hback, hlen, readMem_add, List.take_left' (length_readMem _ _)]
  refine ⟨q, cspCrc32Verify_eq_some.mpr ⟨?_, rfl, ?_⟩, rfl, hback, hq⟩
  · change 4 ≤ (p.length + 4).toNat
    omega
  · rw [cspCrc32Append_payload e h, hq]

def crcWord (i : BitVec 8) : BitVec (24 + 8) := (crcTab.getD i.toNat 0).toBitVec

theorem length_crcTab : crcTab.length = 256 := by
  decide +kernel

theorem crcTab_high_nodup : (crcTab.map fun w => w.toNat / 2 ^ 24).Nodup := by
  decide +kernel

theorem crcWord_high {i : BitVec 8} (hi : i.toNat < crcTab.length) :
    (crcWord i >>> 24).toNat = crcTab[i.toNat].toNat / 2 ^ 24 := by
  rw [BitVec.toNat_ushiftRight, crcWord, UInt32.toNat_toBitVec, Nat.shiftRight_eq_div_pow,
    List.getD_eq_getElem?_getD, List.getElem?_eq_getElem hi, Option.getD_some]

theorem crcWord_injective : Function.Injective fun i => crcWord i >>> 24 := by
  intro i j hij
  have hi : i.toNat < crcTab.length := length_crcTab ▸ i.isLt
  have hj : j.toNat < crcTab.length := length_crcTab ▸ j.isLt
  have heq := congrArg BitVec.toNat hij
  simp only [crcWord_high hi, crcWord_high hj] at heq
  refine BitVec.eq_of_toNat_eq ?_
  have hi' : i.toNat < (crcTab.map fun w => w.toNat / 2 ^ 24).length := by
    rwa [List.length_map]
  have hj' : j.toNat < (crcTab.map fun w => w.toNat / 2 ^ 24).length := by
    rwa [List.length_map]
  have hmap : (crcTab.map fun w => w.toNat / 2 ^ 24)[i.toNat] =
      (crcTab.map fun w => w.toNat / 2 ^ 24)[j.toNat] := by
    rw [List.getElem_map, List.getElem_map]
    exact heq
  exact crcTab_high_nodup.getElem_inj_iff.mp hmap

theorem toBitVec_crcStep (crc : UInt32) (b : UInt8) :
    (crcTab.getD ((crc ^^^ b.toUInt32) &&& 0xFF).toNat 0 ^^^ (crc >>> 8)).toBitVec =
      TableCrc.step crcWord crc.toBitVec b.toBitVec := by
  have hindex : ((crc ^^^ b.toUInt32) &&& 0xFF).toNat =
      ((crc.toBitVec ^^^ b.toBitVec.setWidth 32).setWidth 8).toNat := by
    rw [UInt32.toNat_and, BitVec.toNat_setWidth, BitVec.toNat_xor, BitVec.toNat_setWidth,
      UInt32.toNat_xor, UInt8.toNat_toUInt32]
    have hb : b.toNat % 2 ^ 32 = b.toNat := Nat.mod_eq_of_lt (by have := b.toNat_lt; omega)
    simp only [UInt8.toNat_toBitVec, UInt32.toNat_toBitVec, hb]
    exact Nat.and_two_pow_sub_one_eq_mod _ 8
  have hlow : (b.toBitVec.setWidth 32) >>> 8 = 0#32 := by
    apply BitVec.eq_of_getLsbD_eq
    intro i _
    simp only [BitVec.getLsbD_ushiftRight, BitVec.getLsbD_setWidth, BitVec.getLsbD_zero]
    rw [BitVec.getLsbD_of_ge b.toBitVec (8 + i) (by omega), Bool.and_false]
  have hshift : (crc >>> 8).toBitVec = (crc.toBitVec ^^^ b.toBitVec.setWidth 32) >>> 8 := by
    rw [BitVec.ushiftRight_xor_distrib, hlow, BitVec.xor_zero, UInt32.toBitVec_shiftRight]
    rfl
  rw [UInt32.toBitVec_xor, hshift, hindex]
  rfl

theorem toBitVec_cspCrc32Memory (data : List UInt8) : (cspCrc32Memory data).toBitVec =
    TableCrc.run crcWord 0xFFFFFFFF#32 (data.map UInt8.toBitVec) ^^^ 0xFFFFFFFF#32 := by
  have hrun (crc : UInt32) : (data.foldl (fun (crc : UInt32) b =>
      crcTab.getD ((crc ^^^ b.toUInt32) &&& 0xFF).toNat 0 ^^^ (crc >>> 8)) crc).toBitVec =
        TableCrc.run crcWord crc.toBitVec (data.map UInt8.toBitVec) := by
    induction data generalizing crc with
    | nil => rfl
    | cons b data ih =>
        rw [List.foldl_cons, ih, toBitVec_crcStep, List.map_cons, TableCrc.run_cons]
  rw [cspCrc32Memory, UInt32.toBitVec_xor, hrun]
  rfl

theorem checksum_burst_ne (pre post : List UInt8) {u v : List UInt8} (hlen : u.length = v.length)
    (hfit : u.length ≤ 4) (hne : u ≠ v) :
    checksum (pre ++ u ++ post) ≠ checksum (pre ++ v ++ post) := by
  intro heq
  have hcrc : cspCrc32Memory (pre ++ u ++ post) = cspCrc32Memory (pre ++ v ++ post) := by
    rw [← UInt32.toNat_inj]
    exact beBytes_inj (UInt32.toNat_lt _) (UInt32.toNat_lt _) heq
  have hbits := congrArg UInt32.toBitVec hcrc
  rw [toBitVec_cspCrc32Memory, toBitVec_cspCrc32Memory] at hbits
  have hrun := TableCrc.xor_right_inj (n := 24) _ _ _ hbits
  simp only [List.map_append] at hrun
  refine TableCrc.run_burst_ne crcWord_injective _ _ _ ?_ ?_ ?_ hrun
  · simpa using hlen
  · rw [List.length_map]
    omega
  · exact fun h => hne (List.map_injective_iff.mpr (fun _ _ => UInt8.toBitVec_inj.mp) h)

theorem damaged_ne {pre post u v crc : List UInt8} (hlen : u.length = v.length)
    (hcrc : crc.length = 4)
    (hdamage : crc = checksum (pre ++ u ++ post) ∧ u.length ≤ 4 ∧ u ≠ v ∨
      crc ≠ checksum (pre ++ u ++ post) ∧ u = v) (data : List UInt8) :
    pre ++ v ++ post ++ crc ≠ data ++ checksum data := by
  intro heq
  obtain ⟨rfl, hsum⟩ := List.append_inj' heq (by rw [hcrc, length_checksum])
  obtain ⟨hgood, hfit, hne⟩ | ⟨hbad, rfl⟩ := hdamage
  · exact checksum_burst_ne pre post hlen hfit hne (hgood.symm.trans hsum)
  · exact hbad hsum

end UhfGs.Csp
