import Mathlib.Data.Rat.Floor
import Mathlib.Tactic.IntervalCases
import UhfGs.Csp.ByteOrder

/-! The positions of `gatoss_common.c`, with latitude and longitude as rational numbers. -/
namespace UhfGs.Clients
open Bits Bytes Csp

/- `gatoss_pos_t`. -/
structure GatossPos where
  (lat lon : ℚ)
  (altitude timestamp : UInt32)

/- `gatoss_compos_t`. -/
structure GatossCompos where
  compos : Vector UInt8 7
  timestamp : UInt32
  deriving DecidableEq, Repr

/-- A number that is not negative and fits, in a `uint32_t`. -/
def truncate (x : ℚ) : UInt32 := UInt32.ofNat ⌊x⌋₊

section Codes
variable (bs : Vector UInt8 7) (lon lat alt : UInt32)

def composBytes : Vector UInt8 7 :=
  #v[(lon >>> 15).toUInt8, (lon >>> 7).toUInt8, (lon <<< 1 ||| lat >>> 21).toUInt8,
    (lat >>> 13).toUInt8, (lat >>> 5).toUInt8, (lat <<< 3 ||| alt >>> 8).toUInt8,
    (alt &&& 0xff).toUInt8]

def lonCode : UInt32 := bs[0].toUInt32 <<< 15 ||| bs[1].toUInt32 <<< 7 ||| bs[2].toUInt32 >>> 1

def latCode : UInt32 :=
  (bs[2].toUInt32 &&& 1) <<< 21 ||| bs[3].toUInt32 <<< 13 ||| bs[4].toUInt32 <<< 5 |||
    (bs[5].toUInt32 &&& 0xf8) >>> 3

def altCode : UInt32 := (bs[5].toUInt32 &&& 0x7) <<< 8 ||| bs[6].toUInt32

theorem toNat_lonCode :
    (lonCode bs).toNat = bs[0].toNat * 2 ^ 15 + bs[1].toNat * 2 ^ 7 + bs[2].toNat / 2 := by
  have h0 := bs[0].toNat_lt
  have h1 := bs[1].toNat_lt
  have h2 := bs[2].toNat_lt
  simp only [lonCode, UInt32.toNat_or, UInt32.toNat_shiftLeft, UInt32.toNat_shiftRight,
    UInt8.toNat_toUInt32, UInt32.reduceToNat, Nat.reduceMod, Nat.shiftLeft_eq,
    Nat.shiftRight_eq_div_pow]
  simp (disch := omega) only [Nat.mod_eq_of_lt]
  rw [or_low (k := 15) _ (by omega), or_of_dvd (k := 7) (by omega) (by omega), Nat.pow_one]

theorem toNat_latCode :
    (latCode bs).toNat =
      bs[2].toNat % 2 * 2 ^ 21 + bs[3].toNat * 2 ^ 13 + bs[4].toNat * 2 ^ 5 + bs[5].toNat / 8 := by
  have h3 := bs[3].toNat_lt
  have h4 := bs[4].toNat_lt
  have h5 := bs[5].toNat_lt
  have hone : bs[2].toNat &&& 1 = bs[2].toNat % 2 := Nat.and_two_pow_sub_one_eq_mod _ 1
  have hhigh : bs[5].toNat &&& 0xf8 = bs[5].toNat / 2 ^ 3 % 2 ^ 5 * 2 ^ 3 := and_mask 3 5 _
  simp only [latCode, UInt32.toNat_or, UInt32.toNat_shiftLeft, UInt32.toNat_shiftRight,
    UInt32.toNat_and, UInt8.toNat_toUInt32, UInt32.reduceToNat, Nat.reduceMod, Nat.shiftLeft_eq,
    Nat.shiftRight_eq_div_pow, hone, hhigh]
  simp (disch := omega) only [Nat.mod_eq_of_lt]
  rw [or_low (k := 21) _ (by omega), or_of_dvd (k := 13) (b := bs[4].toNat * 2 ^ 5) (by omega)
    (by omega), or_of_dvd (k := 5) (by omega) (by omega)]
  omega

theorem toNat_altCode : (altCode bs).toNat = bs[5].toNat % 8 * 2 ^ 8 + bs[6].toNat := by
  have h6 := bs[6].toNat_lt
  have hlow : bs[5].toNat &&& 0x7 = bs[5].toNat % 8 := Nat.and_two_pow_sub_one_eq_mod _ 3
  simp only [altCode, UInt32.toNat_or, UInt32.toNat_shiftLeft, UInt32.toNat_and,
    UInt8.toNat_toUInt32, UInt32.reduceToNat, Nat.reduceMod, Nat.shiftLeft_eq, hlow]
  simp (disch := omega) only [Nat.mod_eq_of_lt]
  exact or_low _ h6

theorem lonCode_lt : (lonCode bs).toNat < 2 ^ 23 := by
  have h0 := bs[0].toNat_lt
  have h1 := bs[1].toNat_lt
  have h2 := bs[2].toNat_lt
  rw [toNat_lonCode]
  omega

theorem latCode_lt : (latCode bs).toNat < 2 ^ 22 := by
  have h3 := bs[3].toNat_lt
  have h4 := bs[4].toNat_lt
  have h5 := bs[5].toNat_lt
  rw [toNat_latCode]
  omega

theorem altCode_lt : (altCode bs).toNat < 2 ^ 11 := by
  have h6 := bs[6].toNat_lt
  rw [toNat_altCode]
  omega

theorem load_compos :
    Endian.big.load 7 bs.toList =
      (lonCode bs).toNat * 2 ^ 33 + (latCode bs).toNat * 2 ^ 11 + (altCode bs).toNat := by
  have hlist : bs.toList = [bs[0], bs[1], bs[2], bs[3], bs[4], bs[5], bs[6]] := by
    apply List.ext_getElem
    · simp
    · intro i h₁ h₂
      have hi : i < 7 := by simpa using h₁
      interval_cases i <;> simp
  rw [hlist, toNat_lonCode, toNat_latCode, toNat_altCode]
  simp only [Endian.load, List.take_succ_cons, List.take_zero, List.reverse_cons,
    List.reverse_nil, List.nil_append, List.cons_append, leWord]
  omega

theorem toList_composBytes (hlon : lon.toNat < 2 ^ 23) (hlat : lat.toNat < 2 ^ 22)
    (halt : alt.toNat < 2 ^ 11) :
    (composBytes lon lat alt).toList =
      Endian.big.store 7 (lon.toNat * 2 ^ 33 + lat.toNat * 2 ^ 11 + alt.toNat) := by
  have hbyte (x : UInt32) (n : Nat) (h : x.toNat % 2 ^ 8 = n % 2 ^ 8) :
      x.toUInt8 = UInt8.ofNat n := by
    rw [← UInt8.toNat_inj, toNat_ofNat, UInt32.toNat_toUInt8]
    exact h
  have hlonlat : (lon <<< 1 ||| lat >>> 21).toNat = lon.toNat * 2 ^ 1 + lat.toNat / 2 ^ 21 := by
    simp only [UInt32.toNat_or, UInt32.toNat_shiftLeft, UInt32.toNat_shiftRight,
      UInt32.reduceToNat, Nat.reduceMod, Nat.shiftLeft_eq, Nat.shiftRight_eq_div_pow]
    rw [Nat.mod_eq_of_lt (by omega), or_low _ (by omega)]
  have hlatalt : (lat <<< 3 ||| alt >>> 8).toNat = lat.toNat * 2 ^ 3 + alt.toNat / 2 ^ 8 := by
    simp only [UInt32.toNat_or, UInt32.toNat_shiftLeft, UInt32.toNat_shiftRight,
      UInt32.reduceToNat, Nat.reduceMod, Nat.shiftLeft_eq, Nat.shiftRight_eq_div_pow]
    rw [Nat.mod_eq_of_lt (by omega), or_low _ (by omega)]
  have halt' : (alt &&& 0xff).toNat = alt.toNat % 2 ^ 8 := Nat.and_two_pow_sub_one_eq_mod _ 8
  simp only [composBytes, Vector.toList_mk, Endian.store, leBytes, List.reverse_cons,
    List.reverse_nil, List.nil_append, List.cons_append, List.cons.injEq, and_true]
  refine ⟨hbyte _ _ ?_, hbyte _ _ ?_, hbyte _ _ ?_, hbyte _ _ ?_, hbyte _ _ ?_, hbyte _ _ ?_,
    hbyte _ _ ?_⟩
  all_goals
    simp only [hlonlat, hlatalt, halt', UInt32.toNat_shiftRight, UInt32.reduceToNat,
      Nat.reduceMod, Nat.shiftRight_eq_div_pow]
    omega

theorem composBytes_codes : composBytes (lonCode bs) (latCode bs) (altCode bs) = bs := by
  rw [← Vector.toList_inj, toList_composBytes _ _ _ (lonCode_lt bs) (latCode_lt bs) (altCode_lt bs),
    ← load_compos, Endian.big.store_load bs.length_toList]

theorem codes_composBytes (hlon : lon.toNat < 2 ^ 23) (hlat : lat.toNat < 2 ^ 22)
    (halt : alt.toNat < 2 ^ 11) :
    lonCode (composBytes lon lat alt) = lon ∧ latCode (composBytes lon lat alt) = lat ∧
      altCode (composBytes lon lat alt) = alt := by
  have hload := load_compos (composBytes lon lat alt)
  rw [toList_composBytes lon lat alt hlon hlat halt,
    ← List.append_nil (Endian.big.store 7 _), Endian.big.load_store (by omega)] at hload
  have hlat' := latCode_lt (composBytes lon lat alt)
  have halt' := altCode_lt (composBytes lon lat alt)
  simp only [← UInt32.toNat_inj]
  omega

end Codes

def gatossPositionCompress (e : Endian) (p : GatossPos) : GatossCompos where
  compos :=
    composBytes (truncate ((p.lon + 180) * 23300 + 1 / 2) &&& 0x7fffff)
      (truncate ((p.lat + 90) * 23300 + 1 / 2) &&& 0x3fffff)
      (truncate ((p.altitude / 25).toNat + 1 / 2) &&& 0x7ff)
  timestamp := cspHton32Word e p.timestamp

def gatossPositionsDecompress (e : Endian) (c : GatossCompos) : GatossPos where
  lat := (latCode c.compos).toNat / 23300 - 90
  lon := (lonCode c.compos).toNat / 23300 - 180
  altitude := altCode c.compos * 25
  timestamp := cspNtoh32Word e c.timestamp

theorem truncate_add_half (w : UInt32) : truncate (w.toNat + 1 / 2) = w := by
  have hfloor : ⌊(w.toNat : ℚ) + 1 / 2⌋₊ = w.toNat := by
    rw [Nat.floor_eq_iff (by positivity)]
    constructor
    · linarith
    · linarith
  rw [truncate, hfloor, UInt32.ofNat_toNat]

theorem truncate_angle (w : UInt32) (offset : ℚ) :
    truncate ((w.toNat / 23300 - offset + offset) * 23300 + 1 / 2) = w := by
  have hcode : (w.toNat / 23300 - offset + offset) * 23300 = (w.toNat : ℚ) := by ring
  rw [hcode, truncate_add_half]

theorem and_mask_of_lt (w : UInt32) (k : Nat) {m : UInt32} (hm : m.toNat = 2 ^ k - 1)
    (hw : w.toNat < 2 ^ k) : w &&& m = w := by
  rw [← UInt32.toNat_inj, UInt32.toNat_and, hm, Nat.and_two_pow_sub_one_eq_mod,
    Nat.mod_eq_of_lt hw]

theorem and_mask_lt (w : UInt32) (k : Nat) {m : UInt32} (hm : m.toNat = 2 ^ k - 1) :
    (w &&& m).toNat < 2 ^ k := by
  rw [UInt32.toNat_and, hm, Nat.and_two_pow_sub_one_eq_mod]
  exact Nat.mod_lt _ (Nat.two_pow_pos k)

theorem compress_decompress (e : Endian) (c : GatossCompos) :
    gatossPositionCompress e (gatossPositionsDecompress e c) = c := by
  obtain ⟨compos, timestamp⟩ := c
  have haltitude : altCode compos * 25 / 25 = altCode compos := by
    have halt := altCode_lt compos
    rw [← UInt32.toNat_inj, UInt32.toNat_div, UInt32.toNat_mul]
    simp only [UInt32.reduceToNat]
    omega
  simp only [gatossPositionCompress, gatossPositionsDecompress, truncate_angle, haltitude,
    truncate_add_half]
  rw [and_mask_of_lt _ 23 rfl (lonCode_lt compos), and_mask_of_lt _ 22 rfl (latCode_lt compos),
    and_mask_of_lt _ 11 rfl (altCode_lt compos), composBytes_codes, cspNtoh32Word,
    cspHton32Word_cspHton32Word]

/-- Compressing undoes decompressing, and the three fields do not touch each other. -/
theorem gatossPosition_exact (e : Endian) :
    (∀ c, gatossPositionCompress e (gatossPositionsDecompress e c) = c) ∧
      ∀ lon lat alt : UInt32,
        let c := composBytes (lon &&& 0x7fffff) (lat &&& 0x3fffff) (alt &&& 0x7ff)
        lonCode c = lon &&& 0x7fffff ∧ latCode c = lat &&& 0x3fffff ∧ altCode c = alt &&& 0x7ff :=
  ⟨compress_decompress e, fun lon lat alt =>
    codes_composBytes _ _ _ (and_mask_lt lon 23 rfl) (and_mask_lt lat 22 rfl)
      (and_mask_lt alt 11 rfl)⟩

/-- No mask and no conversion to 32 bits changes the number. -/
def Kept (x : ℚ) (m : UInt32) : Prop := ((truncate x &&& m).toNat : ℤ) = ⌊x⌋

structure Unwrapped (p : GatossPos) : Prop where
  lon : Kept ((p.lon + 180) * 23300 + 1 / 2) 0x7fffff
  lat : Kept ((p.lat + 90) * 23300 + 1 / 2) 0x3fffff
  altitude : Kept ((p.altitude / 25).toNat + 1 / 2) 0x7ff

/-- Within half a step of each field. -/
structure Accurate (p q : GatossPos) : Prop where
  lon : |q.lon - p.lon| ≤ 1 / 46600
  lat : |q.lat - p.lat| ≤ 1 / 46600
  altitude : |(q.altitude.toNat : ℚ) - p.altitude.toNat| ≤ 25 / 2

theorem kept_of_lt {x : ℚ} {k : Nat} {m : UInt32} (hm : m.toNat = 2 ^ k - 1) (hk : k ≤ 32)
    (h0 : 0 ≤ x) (h : x < 2 ^ k) : Kept x m := by
  have hfloor : ⌊x⌋₊ < 2 ^ k := (Nat.floor_lt h0).mpr (by exact_mod_cast h)
  have hword : ⌊x⌋₊ < 2 ^ 32 := hfloor.trans_le (Nat.pow_le_pow_right (by decide) hk)
  have hcode : (truncate x).toNat = ⌊x⌋₊ := UInt32.toNat_ofNat_of_lt' hword
  rw [Kept, and_mask_of_lt _ k hm (by rwa [hcode]), hcode, Int.natCast_floor_eq_floor h0]

theorem angle_accurate {angle offset : ℚ} {m : UInt32}
    (h : Kept ((angle + offset) * 23300 + 1 / 2) m) :
    |((truncate ((angle + offset) * 23300 + 1 / 2) &&& m).toNat / 23300 - offset : ℚ) - angle| ≤
      1 / 46600 := by
  have hcode : ((truncate ((angle + offset) * 23300 + 1 / 2) &&& m).toNat : ℚ) =
      round ((angle + offset) * 23300) := by
    rw [round_eq, ← h, Int.cast_natCast]
  have hround := abs_le.mp (abs_sub_round ((angle + offset) * 23300))
  rw [hcode, abs_le]
  constructor
  · linarith
  · linarith

theorem altitude_code {w : UInt32} (h : w ≤ 51175) :
    ((truncate ((w / 25).toNat + 1 / 2) &&& 0x7ff) * 25).toNat = w.toNat - w.toNat % 25 := by
  have hle := UInt32.le_iff_toNat_le.mp h
  have hdiv : (w / 25).toNat = w.toNat / 25 := UInt32.toNat_div _ _
  simp only [UInt32.reduceToNat] at hle
  rw [truncate_add_half, and_mask_of_lt _ 11 rfl (by omega), UInt32.toNat_mul, hdiv]
  simp only [UInt32.reduceToNat]
  omega

theorem altitude_error (e : Endian) {p : GatossPos} (halt : p.altitude ≤ 51175) :
    |((gatossPositionsDecompress e (gatossPositionCompress e p)).altitude.toNat : ℚ) -
      p.altitude.toNat| = (p.altitude.toNat % 25 : Nat) := by
  have hle : p.altitude.toNat % 25 ≤ p.altitude.toNat := Nat.mod_le _ _
  obtain ⟨-, -, hcode⟩ := codes_composBytes _ _ _
    (and_mask_lt (truncate ((p.lon + 180) * 23300 + 1 / 2)) 23 (m := 0x7fffff) rfl)
    (and_mask_lt (truncate ((p.lat + 90) * 23300 + 1 / 2)) 22 (m := 0x3fffff) rfl)
    (and_mask_lt (truncate ((p.altitude / 25).toNat + 1 / 2)) 11 (m := 0x7ff) rfl)
  simp only [gatossPositionsDecompress, gatossPositionCompress]
  rw [hcode, altitude_code halt, Nat.cast_sub hle, sub_sub_cancel_left, abs_neg, Nat.abs_cast]

section
variable {p : GatossPos} (hlat : |p.lat| ≤ 90) (hlon : |p.lon| ≤ 180) (halt : p.altitude ≤ 51175)
include hlat hlon halt

theorem unwrapped : Unwrapped p := by
  obtain ⟨hlat0, hlat1⟩ := abs_le.mp hlat
  obtain ⟨hlon0, hlon1⟩ := abs_le.mp hlon
  refine ⟨kept_of_lt (k := 23) rfl (by decide) ?_ ?_, kept_of_lt (k := 22) rfl (by decide) ?_ ?_,
    kept_of_lt (k := 11) rfl (by decide) ?_ ?_⟩
  · linarith
  · norm_num
    linarith
  · linarith
  · norm_num
    linarith
  · positivity
  · have hle := UInt32.le_iff_toNat_le.mp halt
    have hdiv : (p.altitude / 25).toNat ≤ 2047 := by
      rw [UInt32.toNat_div]
      simp only [UInt32.reduceToNat] at hle ⊢
      omega
    have hcast : ((p.altitude / 25).toNat : ℚ) ≤ 2047 := by exact_mod_cast hdiv
    linarith

/-- The angles are rounded, but the altitude is divided as an integer before the half is added. -/
theorem gatossPosition_accuracy_iff (e : Endian) :
    (Unwrapped p ∧ Accurate p (gatossPositionsDecompress e (gatossPositionCompress e p))) ↔
      p.altitude.toNat % 25 ≤ 12 := by
  have hkept := unwrapped hlat hlon halt
  obtain ⟨hloncode, hlatcode, -⟩ := codes_composBytes _ _ _
    (and_mask_lt (truncate ((p.lon + 180) * 23300 + 1 / 2)) 23 (m := 0x7fffff) rfl)
    (and_mask_lt (truncate ((p.lat + 90) * 23300 + 1 / 2)) 22 (m := 0x3fffff) rfl)
    (and_mask_lt (truncate ((p.altitude / 25).toNat + 1 / 2)) 11 (m := 0x7ff) rfl)
  constructor
  · rintro ⟨-, haccurate⟩
    have hbound := haccurate.altitude
    rw [altitude_error e halt] at hbound
    have hlt : ((p.altitude.toNat % 25 : Nat) : ℚ) < 13 := by linarith
    have hlt' : p.altitude.toNat % 25 < 13 := by exact_mod_cast hlt
    omega
  · intro hmod
    refine ⟨hkept, ?_, ?_, ?_⟩
    · simp only [gatossPositionsDecompress, gatossPositionCompress]
      rw [hloncode]
      exact angle_accurate hkept.lon
    · simp only [gatossPositionsDecompress, gatossPositionCompress]
      rw [hlatcode]
      exact angle_accurate hkept.lat
    · have hcast : ((p.altitude.toNat % 25 : Nat) : ℚ) ≤ 12 := by exact_mod_cast hmod
      rw [altitude_error e halt]
      linarith

end

theorem gatossPosition_accuracy_low :
    (Unwrapped ⟨1, 103, 12, 0⟩ ∧ Accurate ⟨1, 103, 12, 0⟩
      (gatossPositionsDecompress .little (gatossPositionCompress .little ⟨1, 103, 12, 0⟩))) ↔
      (12 : UInt32).toNat % 25 ≤ 12 :=
  gatossPosition_accuracy_iff (p := ⟨1, 103, 12, 0⟩) (by norm_num) (by norm_num) (by decide) .little

/-- From 24 the altitude goes to 0 and not to 25. -/
theorem gatossPosition_inaccurate : ¬ ∀ (e : Endian) (p : GatossPos), |p.lat| ≤ 90 →
    |p.lon| ≤ 180 → p.altitude ≤ 51175 →
      Unwrapped p ∧ Accurate p (gatossPositionsDecompress e (gatossPositionCompress e p)) := by
  intro h
  have hlat : |(1 : ℚ)| ≤ 90 := by norm_num
  have hlon : |(103 : ℚ)| ≤ 180 := by norm_num
  have halt : (24 : UInt32) ≤ 51175 := by decide
  have haltitude := (h .little ⟨1, 103, 24, 0⟩ hlat hlon halt).2.altitude
  have hmod : (24 : UInt32).toNat % 25 = 24 := rfl
  rw [altitude_error .little halt, hmod] at haltitude
  norm_num at haltitude

end UhfGs.Clients
