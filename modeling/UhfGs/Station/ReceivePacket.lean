import UhfGs.Station.SendPacket

/-! `receive_packet`: a downlink packet gets a six byte header for the MCS, is archived
and goes on to the MCS server. -/
namespace UhfGs.Station
open Bits Bytes Csp CString

def headerValues (id : CspId) : Nat → UInt8
  | 0 => UInt8.ofNat id.dst
  | 1 => UInt8.ofNat id.src
  | 2 => UInt8.ofNat id.sport
  | 3 => UInt8.ofNat id.dport
  | 4 => id.flags
  | _ => 0

def cspHeader (headerValues : Nat → UInt8) (length : UInt16) : List UInt8 :=
  let v (i : Nat) : Nat := (headerValues i).toNat
  let prioValue := 0
  let reserve := 0
  let flags := 0
  [UInt8.ofNat (prioValue <<< 6 &&& 0xC0 ||| v 1 <<< 1 &&& 0x3E ||| v 0 >>> 4 &&& 0x01),
    UInt8.ofNat (v 0 <<< 4 &&& 0xF0 ||| v 3 >>> 2 &&& 0x0F),
    UInt8.ofNat (v 3 <<< 6 &&& 0xC0 ||| v 2 &&& 0x3F),
    UInt8.ofNat (reserve <<< 4 &&& 0xF0 ||| flags &&& 0x0F),
    UInt8.ofNat (length.toNat >>> 8),
    UInt8.ofNat length.toNat]

/-- What a call of `receive_packet` finds: the clock, the running count, whether the archive
file opens and how many header bytes it takes. -/
structure ReceiveEnv where
  now : TimeString
  count : Nat
  opens : Bool
  headerWritten : Nat

/-- What a call leaves: the archive file, and the call of `downlink_client`. -/
structure ReceiveRun where
  archive : Option (List Char × List UInt8)
  downlinkClient : Option (List Char × Int)
  deriving DecidableEq

def suffix (count : Nat) : List Char :=
  ['_', Nat.digitChar (count % 100 / 10), Nat.digitChar (count % 10)]

def receivePacket (env : ReceiveEnv) (headerValues : Nat → UInt8) (length : UInt16)
    (data : List UInt8) : ReceiveRun :=
  let name := backupDir ++ env.now.chars ++ suffix env.count ++ ".bin".toList
  let header := cspHeader headerValues length
  if ¬ env.opens then ⟨none, none⟩
  else if env.headerWritten = 0 then ⟨some (name, []), none⟩
  else
    ⟨some (name, header.take env.headerWritten ++ data),
      some (name, if (headerValues 0).toNat < 20 then 1 else 0)⟩

theorem cspHeader_headerValues (id : CspId) (length : UInt16) :
    cspHeader (headerValues id) length =
      [UInt8.ofNat (id.src * 2 + id.dst / 16), UInt8.ofNat (id.dst % 16 * 16 + id.dport / 4),
        UInt8.ofNat (id.dport % 4 * 64 + id.sport), 0,
        UInt8.ofNat (length.toNat / 256), UInt8.ofNat length.toNat] := by
  have hsrc := id.src.isLt
  have hdst := id.dst.isLt
  have hdport := id.dport.isLt
  have hsport := id.sport.isLt
  have v0 : (headerValues id 0).toNat = id.dst := by
    rw [headerValues, toNat_ofNat]
    omega
  have v1 : (headerValues id 1).toNat = id.src := by
    rw [headerValues, toNat_ofNat]
    omega
  have v2 : (headerValues id 2).toNat = id.sport := by
    rw [headerValues, toNat_ofNat]
    omega
  have v3 : (headerValues id 3).toNat = id.dport := by
    rw [headerValues, toNat_ofNat]
    omega
  have m1 (x : Nat) : x <<< 1 &&& 0x3E = x % 32 * 2 ^ 1 :=
    (and_mask 1 5 (x <<< 1)).trans (by simp [field, Nat.shiftLeft_eq])
  have m4 (x : Nat) : x <<< 4 &&& 0xF0 = x % 16 * 2 ^ 4 :=
    (and_mask 4 4 (x <<< 4)).trans (by simp [field, Nat.shiftLeft_eq])
  have m6 (x : Nat) : x <<< 6 &&& 0xC0 = x % 4 * 2 ^ 6 :=
    (and_mask 6 2 (x <<< 6)).trans (by simp [field, Nat.shiftLeft_eq])
  have n1 (x : Nat) : x &&& 0x01 = x % 2 ^ 1 := Nat.and_two_pow_sub_one_eq_mod x 1
  have n4 (x : Nat) : x &&& 0x0F = x % 2 ^ 4 := Nat.and_two_pow_sub_one_eq_mod x 4
  have n6 (x : Nat) : x &&& 0x3F = x % 2 ^ 6 := Nat.and_two_pow_sub_one_eq_mod x 6
  have low (k x a : Nat) : a * 2 ^ k ||| x % 2 ^ k = a * 2 ^ k + x % 2 ^ k :=
    or_low a (Nat.mod_lt x (Nat.two_pow_pos k))
  simp only [cspHeader, v0, v1, v2, v3, m1, m4, m6, n1, n4, n6, low, Nat.zero_mod, Nat.zero_mul,
    Nat.zero_or, Nat.shiftRight_eq_div_pow]
  have b0 : (id.src : Nat) % 32 * 2 ^ 1 + id.dst / 2 ^ 4 % 2 ^ 1 = id.src * 2 + id.dst / 16 := by
    omega
  have b1 : (id.dport : Nat) / 2 ^ 2 % 2 ^ 4 = id.dport / 4 := by omega
  have b2 : (id.sport : Nat) % 2 ^ 6 = id.sport := by omega
  simp only [b0, b1, b2]
  rfl

/-- Decoding a header that `receive_packet` wrote gives its fields back. -/
def RoundTrips (src dst : Fin 32) (dport sport : Fin 64) (length : UInt16) : Prop :=
  headerOf (cspHeader (headerValues ⟨0, src, dst, dport, sport, 0⟩) length) =
    { pri := 0, srcAddr := src, dstAddr := dst, dstPort := dport, srcPort := sport, hmac := 0,
      xtea := 0, rdp := 0, crc := 0, dataLength := length.toNat }

theorem headerOf_cspHeader (src dst : Fin 32) (dport sport : Fin 64) (length : UInt16) :
    headerOf (cspHeader (headerValues ⟨0, src, dst, dport, sport, 0⟩) length) =
      { pri := 0, srcAddr := src, dstAddr := dst, dstPort := dport, srcPort := sport, hmac := 0,
        xtea := 0, rdp := 0, crc := 0, dataLength := (length.toNat % 256 : Nat) } := by
  have hsrc := src.isLt
  have hdst := dst.isLt
  have hdport := dport.isLt
  have hsport := sport.isLt
  rw [cspHeader_headerValues, headerOf, toHeader_decodeParameters]
  simp only [byteAt, List.getD_cons_zero, List.getD_cons_succ, toNat_ofNat, UInt8.toNat_zero,
    Nat.zero_div, Nat.zero_mod, Nat.cast_zero, Header.mk.injEq, and_true,
    Int.natCast_inj, Int.natCast_eq_zero]
  have h0 : (src * 2 + dst / 16 : Nat) % 256 = src * 2 + dst / 16 := by omega
  have h1 : (dst % 16 * 16 + dport / 4 : Nat) % 256 = dst % 16 * 16 + dport / 4 := by omega
  have h2 : (dport % 4 * 64 + sport : Nat) % 256 = dport % 4 * 64 + sport := by omega
  rw [h0, h1, h2]
  clear h0 h1 h2
  refine ⟨?_, ?_, ?_, ?_, ?_⟩ <;> omega

/-- The station's decoder undoes its encoder exactly on lengths of one byte. -/
theorem roundTrips_iff (src dst : Fin 32) (dport sport : Fin 64) (length : UInt16) :
    RoundTrips src dst dport sport length ↔ length.toNat < 256 := by
  rw [RoundTrips, headerOf_cspHeader]
  simp only [Header.mk.injEq, true_and]
  omega

/-- The high byte of a length of 256 is lost. -/
theorem not_roundTrips_long : ¬ RoundTrips 1 23 15 15 256 := by
  rw [RoundTrips, headerOf_cspHeader]
  decide

end UhfGs.Station
