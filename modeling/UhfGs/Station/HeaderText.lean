import UhfGs.Library.Packed
import UhfGs.Station.Itoa
import UhfGs.Station.ReceivePacket

/-! `generate_csp_header`, the second encoder of the header for the MCS: it goes through strings of
binary digits and leaves a hexadecimal text. -/
namespace UhfGs.Station
open Bytes Csp Numerals

def binary : Base := ⟨2, by decide, by decide⟩

/-- The string of a `char` in base 2, in a buffer of 20 bytes. `char` is signed. -/
def itoaBuf (c : Int8) (buf : Nat → UInt8) : Option (List UInt8) :=
  (itoa c.toInt32 buf binary).map fun m => (readMem 20 m).takeWhile (· ≠ 0)

/-- `while (count != 0)`: from a negative count the loop runs out of the buffer. -/
def concatZeros (out : List UInt8) (count : Int) : Option (List UInt8) :=
  if count = 0 then some out
  else if count < 0 then none
  else concatZeros (out ++ [48]) (count - 1)
termination_by count.toNat

def concatField (out buf : List UInt8) (originalBits : Nat) : Option (List UInt8) :=
  if buf.length = originalBits then some (out ++ buf)
  else do
    let out ← concatZeros out (originalBits - buf.length)
    return out ++ buf

def sprintfX (n : Int32) : List UInt8 := (numeral 16 n.toUInt32.toNat).map upper

def sprintfX2 (n : Int32) : List UInt8 := (padded 16 2 n.toUInt32.toNat).map upper

/-- The text in `csp_header_output`; `stack` is what the buffers held before. -/
def generateCspHeader (destAddr srcAddr srcPort destPort dataLength : Int8)
    (stack : Nat → UInt8) : Option (List UInt8) := do
  let addrOriginalBits := 5
  let portOriginalBits := 6
  let lengthOriginalBits := 8
  let prioBuf := [48, 48]
  let destAddrBuf ← itoaBuf destAddr stack
  let srcAddrBuf ← itoaBuf srcAddr stack
  let srcPortBuf ← itoaBuf srcPort stack
  let destPortBuf ← itoaBuf destPort stack
  let dataLengthBuf ← itoaBuf dataLength stack
  let temp ← concatField prioBuf srcAddrBuf addrOriginalBits
  let temp ← concatField temp destAddrBuf addrOriginalBits
  let temp ← concatField temp destPortBuf portOriginalBits
  let temp ← concatField temp srcPortBuf portOriginalBits
  let temp := temp ++ List.replicate 8 48
  let value : Int8 := (Int32.ofInt (strtol 2 temp)).toInt8
  let hexString := sprintfX value.toInt32
  let dataLengthH ← concatField [] dataLengthBuf lengthOriginalBits
  let value2 := Int32.ofInt (strtol 2 dataLengthH)
  let hexString2 := sprintfX2 value2
  return hexString ++ hexString2

theorem concatZeros_natCast (out : List UInt8) (count : Nat) :
    concatZeros out count = some (out ++ List.replicate count 48) := by
  induction count generalizing out with
  | zero => simp [concatZeros]
  | succ count ih =>
      have hnext : ((count + 1 : Nat) : Int) - 1 = (count : Nat) := by omega
      rw [concatZeros, if_neg (by omega), if_neg (by omega), hnext, ih, List.append_assoc]
      rfl

theorem concatField_of_le {buf : List UInt8} {originalBits : Nat}
    (h : buf.length ≤ originalBits) (out : List UInt8) :
    concatField out buf originalBits =
      some (out ++ (List.replicate (originalBits - buf.length) 48 ++ buf)) := by
  unfold concatField
  split
  · rename_i heq
    rw [heq, Nat.sub_self]
    rfl
  · have hcount : (originalBits : Int) - buf.length = (originalBits - buf.length : Nat) := by omega
    rw [hcount, concatZeros_natCast, ← List.append_assoc]
    rfl

theorem itoaBuf_eq {c : Int8} (h : (itoaText c.toInt32 binary).length < 20) (buf : Nat → UInt8) :
    itoaBuf c buf = some (itoaText c.toInt32 binary) := by
  have hstored := stored_writeMem (zero_notMem_itoaText c.toInt32 binary) buf
  have htake := takeWhile_of_stored hstored (20 - ((itoaText c.toInt32 binary).length + 1))
  rw [Nat.add_sub_cancel' h] at htake
  rw [itoaBuf, itoa_eq, Option.map_some, htake]

def char (n : Nat) : Int8 := (UInt8.ofNat n).toInt8

theorem toInt_char {n : Nat} (h : n < 256) :
    (char n).toInt32.toInt = if n < 128 then (n : Int) else n - 256 := by
  have hbits : (char n).toInt32.toInt = ((UInt8.ofNat n).toNat : Int).bmod 256 := by
    rw [Int8.toInt_toInt32]
    exact BitVec.toInt_eq_toNat_bmod _
  rw [hbits, toNat_ofNat, Nat.mod_eq_of_lt h, Int.bmod_eq_emod]
  push_cast
  split <;> split <;> omega

theorem itoaText_char {n : Nat} (h : n < 128) :
    itoaText (char n).toInt32 binary = numeral 2 n := by
  have hint := toInt_char (n := n) (by omega)
  rw [if_pos h] at hint
  have hnonneg : 0 ≤ (char n).toInt32 := by
    rw [Int32.le_iff_toInt_le, hint, Int32.toInt_zero]
    omega
  rw [itoaText_of_nonneg hnonneg, canonical, if_neg (Int32.not_lt.mpr hnonneg), hint,
    Int.toNat_natCast]
  rfl

theorem itoaBuf_char {n : Nat} (h : n < 128) (buf : Nat → UInt8) :
    itoaBuf (char n) buf = some (numeral 2 n) := by
  have hlen := length_numeral_le (le_refl 2) (show 0 < 7 by decide) h
  have htext := itoaText_char h
  rw [itoaBuf_eq (by rw [htext]; omega), htext]

theorem length_digitBytes_le (base : Base) {num : Int} {k : Nat} (h : num.natAbs < base.val ^ k) :
    (digitBytes base num).length ≤ k := by
  induction k generalizing num with
  | zero =>
      have hzero : num = 0 := by
        rw [pow_zero] at h
        omega
      rw [hzero, digitBytes, dif_pos rfl, List.length_nil]
  | succ k ih =>
      by_cases hzero : num = 0
      · rw [hzero, digitBytes, dif_pos rfl]
        exact Nat.zero_le _
      · have hdiv : (num.tdiv base.val).natAbs < base.val ^ k := by
          rw [Int.natAbs_tdiv, Int.natAbs_natCast]
          exact Nat.div_lt_of_lt_mul (by rwa [pow_succ'] at h)
        rw [digitBytes_of_ne hzero, List.length_cons]
        exact Nat.succ_le_succ (ih hdiv)

/-- Truncation leaves the digits 0 and -1 of a negative number. -/
theorem mem_digitBytes_binary {num : Int} (hneg : num ≤ 0) {c : UInt8}
    (h : c ∈ digitBytes binary num) : c = 47 ∨ c = 48 := by
  induction num using digitBytes.induct binary with
  | case1 => simp [digitBytes] at h
  | case2 num hne ih =>
      have hdiv : num.tdiv binary.val ≤ 0 := tdiv_nonpos binary hneg
      have hrem : num.tmod binary.val ≤ 0 := by
        have hpos : 0 ≤ (-num).tmod binary.val := Int.tmod_nonneg _ (by omega)
        rw [Int.neg_tmod] at hpos
        omega
      have hlow : -2 < num.tmod binary.val := (abs_tmod_lt binary num).1
      rw [digitBytes_of_ne hne] at h
      obtain rfl | h := List.mem_cons.mp h
      · obtain hlast | hlast : num.tmod binary.val = -1 ∨ num.tmod binary.val = 0 := by omega
        · rw [hlast]
          exact Or.inl rfl
        · rw [hlast]
          exact Or.inr rfl
      · exact ih hdiv h

theorem itoaBuf_char_neg {n : Nat} (h : 128 ≤ n) (h' : n < 256) (buf : Nat → UInt8) :
    ∃ s, itoaBuf (char n) buf = some s ∧ s.length ≤ 8 ∧ ∀ c ∈ s, c = 47 ∨ c = 48 := by
  have hint := toInt_char h'
  rw [if_neg (by omega)] at hint
  have hneg : (char n).toInt32 < 0 := by
    rw [Int32.lt_iff_toInt_lt, hint, Int32.toInt_zero]
    omega
  have hzero : (char n).toInt32 ≠ 0 := fun h => Int32.lt_irrefl (h ▸ hneg)
  have htext : itoaText (char n).toInt32 binary =
      (digitBytes binary ((n : Int) - 256)).reverse := by
    rw [itoaText, if_neg hzero, if_neg fun hten => absurd hten.2 (by decide), hint]
  have hlen : (digitBytes binary ((n : Int) - 256)).length ≤ 8 :=
    length_digitBytes_le binary (show ((n : Int) - 256).natAbs < 2 ^ 8 by omega)
  refine ⟨_, itoaBuf_eq (by rw [htext, List.length_reverse]; omega) buf, ?_, ?_⟩
  · rwa [htext, List.length_reverse]
  · intro c hc
    rw [htext, List.mem_reverse] at hc
    exact mem_digitBytes_binary (by omega) hc

theorem strtol_binary {s : List UInt8} (h : ∀ c ∈ s, 48 ≤ c.toNat ∧ Numerals.digitValue c < 2) :
    strtol 2 s = numeralValue 2 s := by
  have hall : s.takeWhile (Numerals.digitValue · < 2) = s :=
    List.takeWhile_eq_self_iff.mpr fun c hc => by simpa using (h c hc).2
  have hsign (c : UInt8) (hc : c ∈ s) : 45 < c.toNat := Nat.lt_of_lt_of_le (by decide) (h c hc).1
  rw [strtol_of_forall_lt s hsign, hall]

theorem strtol_slashes {s : List UInt8} (h : ∀ c ∈ s, c = 47 ∨ c = 48) : strtol 2 s = 0 := by
  have hsign (c : UInt8) (hc : c ∈ s) : 45 < c.toNat := by
    obtain rfl | rfl := h c hc
    · decide
    · decide
  have hzeros : s.takeWhile (Numerals.digitValue · < 2) =
      List.replicate (s.takeWhile (Numerals.digitValue · < 2)).length 48 := by
    refine List.eq_replicate_of_mem fun c hc => ?_
    have hdigit := List.mem_takeWhile_imp hc
    obtain rfl | rfl := h c ((List.takeWhile_prefix _).subset hc)
    · exact absurd hdigit (by decide)
    · rfl
  rw [strtol_of_forall_lt s hsign, hzeros, numeralValue_zeros]
  rfl

def headerBits (src dst dport sport : Nat) : List UInt8 :=
  [48, 48] ++ padded 2 5 src ++ padded 2 5 dst ++ padded 2 6 dport ++ padded 2 6 sport ++
    List.replicate 8 48

theorem concatField_char {n originalBits : Nat} (hbits : 0 < originalBits)
    (h : n < 2 ^ originalBits) (out : List UInt8) :
    concatField out (numeral 2 n) originalBits = some (out ++ padded 2 originalBits n) :=
  concatField_of_le (length_numeral_le (le_refl 2) hbits h) out

theorem mem_headerBits {src dst dport sport : Nat} {c : UInt8}
    (h : c ∈ headerBits src dst dport sport) : 48 ≤ c.toNat ∧ Numerals.digitValue c < 2 := by
  have hzero : 48 ≤ (48 : UInt8).toNat ∧ Numerals.digitValue 48 < 2 := by decide
  have hpadded {width n : Nat} (hc : c ∈ padded 2 width n) :
      48 ≤ c.toNat ∧ Numerals.digitValue c < 2 :=
    mem_padded (le_refl 2) (by decide) hc
  simp only [headerBits, List.mem_append] at h
  obtain ((((h | h) | h) | h) | h) | h := h
  · have hc : c = 48 := by simpa using h
    rwa [hc]
  · exact hpadded h
  · exact hpadded h
  · exact hpadded h
  · exact hpadded h
  · rwa [List.eq_of_mem_replicate h]

theorem numeralValue_headerBits {src dst dport sport : Nat} (hdst : dst < 32) (hdport : dport < 64)
    (hsport : sport < 64) : numeralValue 2 (headerBits src dst dport sport) =
      (((src * 32 + dst) * 64 + dport) * 64 + sport) * 256 := by
  have hvalue (width n : Nat) : numeralValue 2 (padded 2 width n) = n :=
    numeralValue_padded (le_refl 2) (by decide) width n
  have hlen {width n : Nat} (hw : 0 < width) (h : n < 2 ^ width) :
      (padded 2 width n).length = width := length_padded (le_refl 2) hw h
  have hprio : numeralValue 2 [48, 48] = 0 := rfl
  simp only [headerBits, numeralValue_append, numeralValue_zeros, hvalue, hprio,
    hlen (show 0 < 5 by decide) hdst, hlen (show 0 < 6 by decide) hdport,
    hlen (show 0 < 6 by decide) hsport, List.length_replicate]
  omega

/-- A `char` keeps none of the 24 bits in front of the flag byte. -/
theorem toInt8_headerBits {src dst dport sport : Nat} (hdst : dst < 32) (hdport : dport < 64)
    (hsport : sport < 64) :
    (Int32.ofInt (strtol 2 (headerBits src dst dport sport))).toInt8 = 0 := by
  apply Int8.toInt.inj
  rw [strtol_binary fun c hc => mem_headerBits hc, numeralValue_headerBits hdst hdport hsport,
    Int32.toInt8_ofInt, Int8.toInt_ofInt, Int8.toInt_zero, Nat.cast_mul, Int.mul_comm]
  exact Int.mul_bmod_right _ _

theorem exists_lengthField {n : Nat} (h : n < 256) (stack : Nat → UInt8) :
    ∃ buf field, itoaBuf (char n) stack = some buf ∧ concatField [] buf 8 = some field ∧
      strtol 2 field = (if n < 128 then n else 0 : Nat) := by
  by_cases hlow : n < 128
  · refine ⟨_, padded 2 8 n, itoaBuf_char hlow stack, concatField_char (by decide) h [], ?_⟩
    rw [if_pos hlow, strtol_binary fun c hc => mem_padded (le_refl 2) (by decide) hc,
      numeralValue_padded (le_refl 2) (by decide)]
  · obtain ⟨buf, hbuf, hlen, hmem⟩ := itoaBuf_char_neg (Nat.le_of_not_lt hlow) h stack
    refine ⟨buf, _, hbuf, concatField_of_le hlen [], ?_⟩
    rw [if_neg hlow]
    refine strtol_slashes fun c hc => ?_
    rw [List.nil_append] at hc
    obtain hc | hc := List.mem_append.mp hc
    · exact Or.inr (List.eq_of_mem_replicate hc)
    · exact hmem c hc

theorem numeralValue_sprintfX2 {n : Nat} (h : n < 256) :
    numeralValue 16 (sprintfX2 (Int32.ofInt n)) = n := by
  have hnat : (Int32.ofInt n).toUInt32.toNat = n := by
    rw [Int32.ofInt_eq_ofNat, Int32.toUInt32_ofNat', UInt32.toNat_ofNat']
    omega
  rw [sprintfX2, numeralValue_map_upper, numeralValue_padded (by decide) (by decide), hnat]

/-- The call returns, and of all fields its text shows the length, if it is below 128. -/
theorem generateCspHeader_eq (src dst : Fin 32) (dport sport : Fin 64) (length : Fin 256)
    (stack : Nat → UInt8) : ∃ text,
      generateCspHeader (char dst) (char src) (char sport) (char dport) (char length) stack =
        some text ∧
      numeralValue 16 text = if length.val < 128 then length.val else 0 := by
  obtain ⟨buf, field, hbuf, hfield, hlength⟩ := exists_lengthField length.isLt stack
  have hdst := itoaBuf_char (show dst.val < 128 by omega) stack
  have hsrc := itoaBuf_char (show src.val < 128 by omega) stack
  have hsport := itoaBuf_char (show sport.val < 128 by omega) stack
  have hdport := itoaBuf_char (show dport.val < 128 by omega) stack
  have haddr {n : Nat} (h : n < 32) (out : List UInt8) :
      concatField out (numeral 2 n) 5 = some (out ++ padded 2 5 n) :=
    concatField_char (by decide) h out
  have hport {n : Nat} (h : n < 64) (out : List UInt8) :
      concatField out (numeral 2 n) 6 = some (out ++ padded 2 6 n) :=
    concatField_char (by decide) h out
  have hvalue := @toInt8_headerBits src dst dport sport dst.isLt dport.isLt sport.isLt
  refine ⟨sprintfX 0 ++ sprintfX2 (Int32.ofInt (strtol 2 field)), ?_, ?_⟩
  · simp only [generateCspHeader, hdst, hsrc, hsport, hdport, hbuf, haddr src.isLt, haddr dst.isLt,
      hport dport.isLt, hport sport.isLt, hfield, bind, Option.bind_some, pure]
    rw [headerBits] at hvalue
    rw [hvalue]
    rfl
  · have hzero : numeralValue 16 (sprintfX 0) = 0 := rfl
    rw [numeralValue_append, hzero, Nat.zero_mul, Nat.zero_add, hlength,
      numeralValue_sprintfX2 (by split <;> omega)]

/-- The header bytes that a text shows: those that are missing in front are zero. -/
def headerBytes (text : List UInt8) : List UInt8 := Endian.big.store 5 (numeralValue 16 text)

/-- The text shows bytes 0 to 3 and the length byte of `receive_packet`'s header. -/
def EncodersAgree (src dst : Fin 32) (dport sport : Fin 64) (length : Fin 256)
    (text : List UInt8) : Prop :=
  let header := cspHeader (headerValues ⟨0, src, dst, dport, sport, 0⟩) (UInt16.ofNat length)
  headerBytes text = header.take 4 ++ header.drop 5

theorem headerBytes_of_lt {text : List UInt8} (h : numeralValue 16 text < 256) :
    headerBytes text = [0, 0, 0, 0, UInt8.ofNat (numeralValue 16 text)] := by
  have hhigh : numeralValue 16 text / 256 = 0 := Nat.div_eq_of_lt h
  rw [headerBytes, Endian.store, leBytes, hhigh]
  rfl

theorem encodersAgree_iff {src dst : Fin 32} {dport sport : Fin 64} {length : Fin 256}
    {text : List UInt8} (h : numeralValue 16 text = if length.val < 128 then length.val else 0) :
    EncodersAgree src dst dport sport length text ↔
      (src = 0 ∧ dst = 0 ∧ dport = 0 ∧ sport = 0) ∧ length.val < 128 := by
  have hlength : (UInt16.ofNat length).toNat = length := by
    rw [UInt16.toNat_ofNat']
    omega
  have hlt : numeralValue 16 text < 256 := by
    rw [h]
    split <;> omega
  have hzero (n : Nat) : 0 = UInt8.ofNat n ↔ n % 256 = 0 := by
    rw [← UInt8.toNat_inj, toNat_ofNat, UInt8.toNat_zero, eq_comm]
  have hlow (m n : Nat) : UInt8.ofNat m = UInt8.ofNat n ↔ m % 256 = n % 256 := by
    rw [← UInt8.toNat_inj, toNat_ofNat, toNat_ofNat]
  have hfields : (src = 0 ∧ dst = 0 ∧ dport = 0 ∧ sport = 0) ↔
      src.val = 0 ∧ dst.val = 0 ∧ dport.val = 0 ∧ sport.val = 0 := by
    simp only [Fin.ext_iff, Fin.val_zero]
  rw [EncodersAgree, headerBytes_of_lt hlt, cspHeader_headerValues, hfields, hlength, h]
  simp only [List.take_succ_cons, List.take_zero, List.drop_succ_cons, List.drop_zero,
    List.cons_append, List.nil_append, List.cons.injEq, and_true, true_and, hzero, hlow]
  split <;> omega

/-- The text of the second encoder shows the header of the first exactly where that is zero up to
its length and the length fits a signed `char`. -/
theorem generateCspHeader_agrees_iff (src dst : Fin 32) (dport sport : Fin 64)
    (length : Fin 256) (stack : Nat → UInt8) :
    (∃ text, generateCspHeader (char dst) (char src) (char sport) (char dport) (char length)
        stack = some text ∧ EncodersAgree src dst dport sport length text) ↔
      (src = 0 ∧ dst = 0 ∧ dport = 0 ∧ sport = 0) ∧ length.val < 128 := by
  obtain ⟨text, htext, hvalue⟩ := generateCspHeader_eq src dst dport sport length stack
  constructor
  · rintro ⟨text', htext', hagree⟩
    obtain rfl := Option.some.inj (htext.symm.trans htext')
    exact (encodersAgree_iff hvalue).mp hagree
  · intro h
    exact ⟨text, htext, (encodersAgree_iff hvalue).mpr h⟩

/-- No field but the length shows: source 1 becomes 0. -/
theorem generateCspHeader_source_lost : ¬ ∀ (src dst : Fin 32) (dport sport : Fin 64)
    (length : Fin 256) (stack : Nat → UInt8), ∃ text,
      generateCspHeader (char dst) (char src) (char sport) (char dport) (char length) stack =
        some text ∧ EncodersAgree src dst dport sport length text := by
  intro h
  obtain ⟨text, htext, hvalue⟩ := generateCspHeader_eq 1 23 15 15 8 fun _ => 0
  obtain ⟨text', htext', hagree⟩ := h 1 23 15 15 8 fun _ => 0
  obtain rfl := Option.some.inj (htext.symm.trans htext')
  exact absurd ((encodersAgree_iff hvalue).mp hagree).1.1 (by decide)

end UhfGs.Station
