import UhfGs.Csp.Packet
import UhfGs.Library.CString

/-! Files of MCS messages: the decoding of the six header bytes into decimal
strings, and `process_mcs_file`. -/
namespace UhfGs.Station
open Bits Bytes Csp CString

structure Params where
  pri : List Char
  srcOut : List Char
  dstOut : List Char
  dstPOut : List Char
  srcPOut : List Char
  hmacOut : List Char
  xteaOut : List Char
  rdpOut : List Char
  crcOut : List Char
  dataLengthOut : List Char
  deriving DecidableEq

def decodeParameters (hexInput : Nat → UInt8) : Params :=
  let h (i : Nat) : Nat := (hexInput i).toNat
  { pri := sprintfD ((h 0 >>> 6 &&& 0x03 : Nat))
    srcOut := sprintfD ((h 0 >>> 1 &&& 0x1F : Nat))
    dstOut := sprintfD (((h 0 <<< 8 ||| h 1) >>> 4 &&& 0x1F : Nat))
    dstPOut := sprintfD (((h 1 <<< 8 ||| h 2) >>> 6 &&& 0x3F : Nat))
    srcPOut := sprintfD ((h 1 <<< 8 ||| h 2) &&& 0x3F : Nat)
    hmacOut := sprintfD ((h 3 >>> 3 &&& 0x01 : Nat))
    xteaOut := sprintfD ((h 3 >>> 2 &&& 0x01 : Nat))
    rdpOut := sprintfD ((h 3 >>> 1 &&& 0x01 : Nat))
    crcOut := sprintfD ((h 3 &&& 0x01 : Nat))
    dataLengthOut := sprintfD ((h 5 &&& 0xFF : Nat)) }

structure Header where
  pri : Int
  srcAddr : Int
  dstAddr : Int
  dstPort : Int
  srcPort : Int
  hmac : Int
  xtea : Int
  rdp : Int
  crc : Int
  dataLength : Int
  deriving DecidableEq, Repr

def Params.toHeader (p : Params) : Header where
  pri := atoi p.pri
  srcAddr := atoi p.srcOut
  dstAddr := atoi p.dstOut
  dstPort := atoi p.dstPOut
  srcPort := atoi p.srcPOut
  hmac := atoi p.hmacOut
  xtea := atoi p.xteaOut
  rdp := atoi p.rdpOut
  crc := atoi p.crcOut
  dataLength := atoi p.dataLengthOut

theorem toHeader_decodeParameters (hexInput : Nat → UInt8) :
    (decodeParameters hexInput).toHeader =
      { pri := ((hexInput 0).toNat / 64 : Nat)
        srcAddr := ((hexInput 0).toNat / 2 % 32 : Nat)
        dstAddr := (((hexInput 0).toNat * 256 + (hexInput 1).toNat) / 16 % 32 : Nat)
        dstPort := (((hexInput 1).toNat * 256 + (hexInput 2).toNat) / 64 % 64 : Nat)
        srcPort := ((hexInput 2).toNat % 64 : Nat)
        hmac := ((hexInput 3).toNat / 8 % 2 : Nat)
        xtea := ((hexInput 3).toNat / 4 % 2 : Nat)
        rdp := ((hexInput 3).toNat / 2 % 2 : Nat)
        crc := ((hexInput 3).toNat % 2 : Nat)
        dataLength := (hexInput 5).toNat } := by
  have h0 := (hexInput 0).toNat_lt
  have h1 := (hexInput 1).toNat_lt
  have h2 := (hexInput 2).toNat_lt
  have h5 := (hexInput 5).toNat_lt
  have hor (a : Nat) {b : Nat} (h : b < 256) : a * 256 ||| b = a * 256 + b := or_low (k := 8) a h
  have m1 (x : Nat) : x &&& 0x01 = x % 2 := Nat.and_two_pow_sub_one_eq_mod x 1
  have m2 (x : Nat) : x &&& 0x03 = x % 4 := Nat.and_two_pow_sub_one_eq_mod x 2
  have m5 (x : Nat) : x &&& 0x1F = x % 32 := Nat.and_two_pow_sub_one_eq_mod x 5
  have m6 (x : Nat) : x &&& 0x3F = x % 64 := Nat.and_two_pow_sub_one_eq_mod x 6
  have m8 (x : Nat) : x &&& 0xFF = x % 256 := Nat.and_two_pow_sub_one_eq_mod x 8
  simp only [Params.toHeader, decodeParameters, atoi_sprintfD, Nat.shiftLeft_eq,
    Nat.shiftRight_eq_div_pow, m1, m2, m5, m6, m8, Nat.reducePow, hor _ h1, hor _ h2,
    Header.mk.injEq, true_and]
  refine ⟨?_, ?_, ?_⟩ <;> omega

/-- A file that was opened: its content, and how many bytes the two reads deliver before an
error stops them. -/
structure OpenFile where
  content : List UInt8
  headerRead : Nat
  bodyRead : Nat

def OpenFile.regular (f : List UInt8) : OpenFile := ⟨f, 6, f.length⟩

def toInt32 (n : Nat) : Int := Int.bmod n (2 ^ 32)

inductive Processed where
  | exits
  | rejected
  | accepted (params : Params) (cspPacket : Nat → UInt8)

/-- `process_mcs_file` from the size check on. `stack` is what the header buffer holds before it
is read. -/
def readMcsFile (stack : Nat → UInt8) (fs1 : OpenFile) (size : Int) (cspPacket : Nat → UInt8) :
    Processed :=
  if size ≤ 6 then .rejected
  else
    let headerBuffer := (fs1.content.take 6).take fs1.headerRead
    if headerBuffer.length < 1 then .rejected
    else
      let dataSize := size - 6
      let body := ((fs1.content.drop headerBuffer.length).take dataSize.toNat).take fs1.bodyRead
      if body.length < 1 then .rejected
      else
        .accepted (decodeParameters (writeMem 0 headerBuffer stack)) (writeMem 0 body cspPacket)

/-- A file that does not open is `none`. -/
def processMcsFile (stack : Nat → UInt8) (fs1 : Option OpenFile) (cspPacket : Nat → UInt8) :
    Processed :=
  match fs1 with
  | none => .exits
  | some fs1 => readMcsFile stack fs1 (toInt32 fs1.content.length) cspPacket

theorem toInt32_of_lt {n : Nat} (h : n < 2 ^ 31) : toInt32 n = n := by
  unfold toInt32
  rw [Int.bmod_eq_of_le] <;> omega

theorem toInt32_le (n : Nat) : toInt32 n ≤ n := by
  unfold toInt32
  rw [Int.bmod_def]
  split <;> omega

namespace OpenFile
variable (file : OpenFile)

/-- The size passes its check, and both reads get something. -/
def Readable : Prop :=
  6 < toInt32 file.content.length ∧ 0 < file.headerRead ∧ 0 < file.bodyRead

def params (stack : Nat → UInt8) : Params :=
  decodeParameters (writeMem 0 ((file.content.take 6).take file.headerRead) stack)

def data (cspPacket : Nat → UInt8) : Nat → UInt8 :=
  writeMem 0 (((file.content.drop (min file.headerRead 6)).take
    (toInt32 file.content.length - 6).toNat).take file.bodyRead) cspPacket

end OpenFile

section
variable (stack : Nat → UInt8) (file : OpenFile) (cspPacket : Nat → UInt8)

theorem processMcsFile_readable (h : file.Readable) :
    processMcsFile stack (some file) cspPacket =
      .accepted (file.params stack) (file.data cspPacket) := by
  obtain ⟨hs, hh, hb⟩ := h
  have hle := toInt32_le file.content.length
  simp only [processMcsFile, OpenFile.params, OpenFile.data]
  generalize toInt32 file.content.length = size at hs hle ⊢
  have hlen : ((file.content.take 6).take file.headerRead).length = min file.headerRead 6 := by
    simp only [List.length_take]
    omega
  have hbody : ¬ (((file.content.drop (min file.headerRead 6)).take
      (size - 6).toNat).take file.bodyRead).length < 1 := by
    simp only [List.length_take, List.length_drop]
    omega
  simp only [readMcsFile, if_neg (Int.not_le.mpr hs), hlen]
  rw [if_neg (by omega), if_neg hbody]

theorem processMcsFile_unreadable (h : ¬ file.Readable) :
    processMcsFile stack (some file) cspPacket = .rejected := by
  simp only [processMcsFile]
  unfold OpenFile.Readable at h
  generalize toInt32 file.content.length = size at h ⊢
  by_cases hs : size ≤ 6
  · exact if_pos hs
  · simp only [readMcsFile, if_neg hs]
    by_cases hh : file.headerRead = 0
    · simp [hh]
    · have hb : file.bodyRead = 0 := by omega
      simp [hb]

end

def byteAt (f : List UInt8) (i : Nat) : UInt8 := f.getD i 0

theorem decodeParameters_writeMem {f : List UInt8} (h : 6 ≤ f.length) (stack : Nat → UInt8) :
    decodeParameters (writeMem 0 (f.take 6) stack) = decodeParameters (byteAt f) := by
  have hb (i : Nat) (hi : i < 6) : writeMem 0 (f.take 6) stack i = byteAt f i := by
    have hl : i < f.length := by omega
    simp [writeMem, byteAt, List.getD, hi, hl]
  simp only [decodeParameters, hb 0 (by decide), hb 1 (by decide), hb 2 (by decide),
    hb 3 (by decide), hb 5 (by decide)]

/- A file whose reads do not fail. -/
namespace OpenFile
variable {f : List UInt8}

theorem readable_regular : (regular f).Readable ↔ 6 < toInt32 f.length := by
  have hle := toInt32_le f.length
  constructor
  · intro h
    exact h.1
  · intro h
    refine ⟨h, Nat.zero_lt_succ 5, ?_⟩
    change 0 < f.length
    omega

theorem readable_of_length (h : 6 < f.length) (hl : f.length < 2 ^ 31) :
    (regular f).Readable := by
  rw [readable_regular, toInt32_of_lt hl]
  exact_mod_cast h

theorem params_regular (h : 6 ≤ f.length) (stack : Nat → UInt8) :
    (regular f).params stack = decodeParameters (byteAt f) := by
  have htake : (f.take 6).take 6 = f.take 6 := by simp
  simp only [params, regular, htake]
  exact decodeParameters_writeMem h stack

theorem data_regular (cspPacket : Nat → UInt8) : (regular f).data cspPacket =
    writeMem 0 ((f.drop 6).take (toInt32 f.length - 6).toNat) cspPacket := by
  have hbody : ((f.drop 6).take (toInt32 f.length - 6).toNat).length ≤ f.length := by
    simp only [List.length_take, List.length_drop]
    omega
  simp only [data, regular, Nat.min_self, List.take_of_length_le hbody]

end OpenFile
end UhfGs.Station
