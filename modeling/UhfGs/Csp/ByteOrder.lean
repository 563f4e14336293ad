import UhfGs.Csp.Packet
import UhfGs.Library.Packed

/-! The conversions of `csp_endian.c` at the types of record fields. -/
namespace UhfGs.Csp
open Bits Bytes

/- `csp_hton16`. -/
def cspHton16 : Endian → UInt16 → UInt16
  | .big, h16 => h16
  | .little, h16 => (h16 &&& 0xff00) >>> 8 ||| (h16 &&& 0x00ff) <<< 8

def cspNtoh16 (e : Endian) (n16 : UInt16) : UInt16 := cspHton16 e n16

def cspHton32Word (e : Endian) (h32 : UInt32) : UInt32 := UInt32.ofNat (cspHton32 e h32.toNat)

def cspNtoh32Word (e : Endian) (n32 : UInt32) : UInt32 := cspHton32Word e n32

theorem toNat_cspHton16 (e : Endian) (w : UInt16) :
    (cspHton16 e w).toNat = e.network 2 w.toNat := by
  cases e with
  | big => rfl
  | little =>
      have hw : w.toNat < 2 ^ 16 := w.toNat_lt
      have h0 : w.toNat &&& 0x00ff = w.toNat % 2 ^ 8 := Nat.and_two_pow_sub_one_eq_mod _ 8
      have h1 : w.toNat &&& 0xff00 = w.toNat / 2 ^ 8 % 2 ^ 8 * 2 ^ 8 := and_mask 8 8 _
      have hlow : w.toNat / 2 ^ 8 < 2 ^ 8 := by omega
      have hhigh : w.toNat % 2 ^ 8 * 2 ^ 8 < 2 ^ 16 := by omega
      simp only [cspHton16, UInt16.toNat_or, UInt16.toNat_shiftRight, UInt16.toNat_shiftLeft,
        UInt16.toNat_and, UInt16.reduceToNat, Nat.reduceMod, h0, h1, Nat.shiftLeft_eq,
        Nat.shiftRight_eq_div_pow]
      rw [Nat.mul_div_cancel _ (Nat.two_pow_pos 8), Nat.mod_eq_of_lt hlow,
        Nat.mod_eq_of_lt hhigh, Nat.or_comm, or_low _ hlow]
      simp only [Endian.network, leBytes, leWord, List.reverse_cons, List.reverse_nil,
        List.nil_append, List.cons_append, toNat_ofNat]
      omega

theorem cspHton32_eq_network (e : Endian) (w : Nat) : cspHton32 e w = e.network 4 w := by
  cases e with
  | big => rfl
  | little =>
      have h1 : w / 256 % 256 = w / 2 ^ 8 % 2 ^ 8 := rfl
      have h2 : w / 256 / 256 % 256 = w / 2 ^ 16 % 2 ^ 8 := by omega
      have h3 : w / 256 / 256 / 256 % 256 = w / 2 ^ 24 % 2 ^ 8 := by omega
      rw [cspHton32_little]
      simp only [Endian.network, leBytes, leWord, List.reverse_cons, List.reverse_nil,
        List.nil_append, List.cons_append, toNat_ofNat, h1, h2, h3]
      omega

theorem toNat_cspHton32Word (e : Endian) (w : UInt32) :
    (cspHton32Word e w).toNat = e.network 4 w.toNat := by
  have h : w.toNat < 2 ^ 32 := w.toNat_lt
  have hlt : e.network 4 w.toNat < 2 ^ 32 := e.network_lt (k := 4) h
  rw [cspHton32Word, cspHton32_eq_network, UInt32.toNat_ofNat', Nat.mod_eq_of_lt hlt]

@[simp] theorem cspHton16_cspHton16 (e : Endian) (w : UInt16) :
    cspHton16 e (cspHton16 e w) = w := by
  rw [← UInt16.toNat_inj, toNat_cspHton16, toNat_cspHton16]
  exact e.network_network w.toNat_lt

@[simp] theorem cspHton32Word_cspHton32Word (e : Endian) (w : UInt32) :
    cspHton32Word e (cspHton32Word e w) = w := by
  rw [← UInt32.toNat_inj, toNat_cspHton32Word, toNat_cspHton32Word]
  exact e.network_network w.toNat_lt

/- A signed field is converted as the word of its bits. -/
theorem toInt16_eq_iff (a : UInt16) (b : Int16) : a.toInt16 = b ↔ a = b.toUInt16 := by
  constructor
  · rintro rfl
    rw [UInt16.toUInt16_toInt16]
  · rintro rfl
    exact b.toInt16_toUInt16

theorem toInt32_eq_iff (a : UInt32) (b : Int32) : a.toInt32 = b ↔ a = b.toUInt32 := by
  constructor
  · rintro rfl
    rw [UInt32.toUInt32_toInt32]
  · rintro rfl
    exact b.toInt32_toUInt32

/- The bytes of a word read the same from both ends. -/
def Mirrored16 (w : UInt16) : Prop := w.toNat / 2 ^ 8 = w.toNat % 2 ^ 8

def Mirrored32 (w : UInt32) : Prop :=
  w.toNat / 2 ^ 24 = w.toNat % 2 ^ 8 ∧ w.toNat / 2 ^ 16 % 2 ^ 8 = w.toNat / 2 ^ 8 % 2 ^ 8

instance (w : UInt16) : Decidable (Mirrored16 w) := by
  unfold Mirrored16
  infer_instance

instance (w : UInt32) : Decidable (Mirrored32 w) := by
  unfold Mirrored32
  infer_instance

@[simp] theorem cspHton16_big (w : UInt16) : cspHton16 .big w = w := rfl

@[simp] theorem cspHton32Word_big (w : UInt32) : cspHton32Word .big w = w := UInt32.ofNat_toNat

theorem cspHton16_little_eq_iff (w : UInt16) : cspHton16 .little w = w ↔ Mirrored16 w := by
  have hw : w.toNat < 2 ^ 16 := w.toNat_lt
  rw [← UInt16.toNat_inj, toNat_cspHton16]
  simp only [Endian.network, leBytes, leWord, List.reverse_cons, List.reverse_nil,
    List.nil_append, List.cons_append, toNat_ofNat, Mirrored16]
  omega

theorem cspHton32Word_little_eq_iff (w : UInt32) :
    cspHton32Word .little w = w ↔ Mirrored32 w := by
  have hw : w.toNat < 2 ^ 32 := w.toNat_lt
  rw [← UInt32.toNat_inj, toNat_cspHton32Word]
  simp only [Endian.network, leBytes, leWord, List.reverse_cons, List.reverse_nil,
    List.nil_append, List.cons_append, toNat_ofNat, Mirrored32]
  generalize w.toNat = n at hw
  have h1 : n / 256 % 256 = n / 2 ^ 8 % 2 ^ 8 := rfl
  have h2 : n / 256 / 256 % 256 = n / 2 ^ 16 % 2 ^ 8 := by omega
  have h3 : n / 256 / 256 / 256 % 256 = n / 2 ^ 24 := by omega
  have hsum : n = n % 2 ^ 8 + 2 ^ 8 * (n / 2 ^ 8 % 2 ^ 8) + 2 ^ 16 * (n / 2 ^ 16 % 2 ^ 8) +
      2 ^ 24 * (n / 2 ^ 24) := by omega
  have hb0 : n % 2 ^ 8 < 2 ^ 8 := Nat.mod_lt _ (by decide)
  have hb1 : n / 2 ^ 8 % 2 ^ 8 < 2 ^ 8 := Nat.mod_lt _ (by decide)
  have hb2 : n / 2 ^ 16 % 2 ^ 8 < 2 ^ 8 := Nat.mod_lt _ (by decide)
  have hb3 : n / 2 ^ 24 < 2 ^ 8 := by omega
  rw [h1, h2, h3, show n % 256 = n % 2 ^ 8 from rfl]
  generalize n % 2 ^ 8 = b0 at *
  generalize n / 2 ^ 8 % 2 ^ 8 = b1 at *
  generalize n / 2 ^ 16 % 2 ^ 8 = b2 at *
  generalize n / 2 ^ 24 = b3 at *
  omega

theorem store_cspHton16 (e : Endian) (w : UInt16) :
    Packed.u16.store e (cspHton16 e w) = Packed.u16.store .big w := by
  change e.store 2 (cspHton16 e w).toNat = Endian.big.store 2 w.toNat
  rw [toNat_cspHton16, e.store_network]

theorem store_cspHton32Word (e : Endian) (w : UInt32) :
    Packed.u32.store e (cspHton32Word e w) = Packed.u32.store .big w := by
  change e.store 4 (cspHton32Word e w).toNat = Endian.big.store 4 w.toNat
  rw [toNat_cspHton32Word, e.store_network]

theorem store_u32 (e : Endian) (w : UInt32) :
    Packed.u32.store e w = Packed.u32.store .big (cspHton32Word e w) := by
  rw [← store_cspHton32Word e, cspHton32Word_cspHton32Word]

theorem store_u8 (e : Endian) (w : UInt8) : Packed.u8.store e w = Packed.u8.store .big w := by
  cases e <;> rfl

theorem store_bytes (e : Endian) {n : Nat} (v : Vector UInt8 n) :
    (Packed.u8.array n).store e v = (Packed.u8.array n).store .big v := by
  have h := Packed.u8.array_store_map (f := id) (fun a => store_u8 e a) v
  rwa [Vector.map_id] at h

theorem load_u8 (e : Endian) (bs : List UInt8) : Packed.u8.load e bs = Packed.u8.load .big bs := by
  cases e <;> cases bs <;> rfl

theorem cspNtoh16_load (e : Endian) {bs : List UInt8} (h : 2 ≤ bs.length) :
    cspNtoh16 e (Packed.u16.load e bs) = Packed.u16.load .big bs := by
  change cspHton16 e (UInt16.ofNat (e.load 2 bs)) = UInt16.ofNat (Endian.big.load 2 bs)
  rw [← UInt16.toNat_inj, toNat_cspHton16, UInt16.toNat_ofNat_of_lt' (e.load_lt h),
    UInt16.toNat_ofNat_of_lt' (Endian.big.load_lt h), e.network_load h]

theorem cspNtoh32Word_load (e : Endian) {bs : List UInt8} (h : 4 ≤ bs.length) :
    cspNtoh32Word e (Packed.u32.load e bs) = Packed.u32.load .big bs := by
  change cspHton32Word e (UInt32.ofNat (e.load 4 bs)) = UInt32.ofNat (Endian.big.load 4 bs)
  rw [← UInt32.toNat_inj, toNat_cspHton32Word, UInt32.toNat_ofNat_of_lt' (e.load_lt h),
    UInt32.toNat_ofNat_of_lt' (Endian.big.load_lt h), e.network_load h]

/- The same for a field at an offset. -/
section
variable (e : Endian) {bs : List UInt8} {i : Nat}

theorem cspNtoh16_load_drop (h : i + 2 ≤ bs.length) :
    cspNtoh16 e (Packed.u16.load e (bs.drop i)) = Packed.u16.load .big (bs.drop i) :=
  cspNtoh16_load e (by rw [List.length_drop]; omega)

theorem cspNtoh32Word_load_drop (h : i + 4 ≤ bs.length) :
    cspNtoh32Word e (Packed.u32.load e (bs.drop i)) = Packed.u32.load .big (bs.drop i) :=
  cspNtoh32Word_load e (by rw [List.length_drop]; omega)

end
end UhfGs.Csp
