import UhfGs.Library.Keystream
import UhfGs.Csp.ByteOrder
import UhfGs.Csp.Hmac

/-! The counter mode of `csp_xtea.c`. -/
namespace UhfGs.Csp
open Bytes Keystream

/- `LOAD32L` and `STORE32L`. -/
def load32L (y : List UInt8) : UInt32 := Packed.u32.load .little y

def store32L (x : UInt32) : List UInt8 := Packed.u32.store .little x

def xteaRound (k : List UInt32) (v : UInt32 × UInt32 × UInt32) : UInt32 × UInt32 × UInt32 :=
  let delta : UInt32 := 0x9E3779B9
  let v0 := v.1
  let v1 := v.2.1
  let sum := v.2.2
  let v0 := v0 + ((((v1 <<< 4) ^^^ (v1 >>> 5)) + v1) ^^^ (sum + k.getD (sum &&& 3).toNat 0))
  let sum := sum + delta
  let v1 := v1 +
    ((((v0 <<< 4) ^^^ (v0 >>> 5)) + v0) ^^^ (sum + k.getD ((sum >>> 11) &&& 3).toNat 0))
  (v0, v1, sum)

def cspXteaEncryptBlock (key : Key) (block : List UInt8) : List UInt8 :=
  let k := (List.range 4).map fun i => load32L (key.val.drop (4 * i))
  let v := (xteaRound k)^[32] (load32L block, load32L (block.drop 4), 0)
  store32L v.1 ++ store32L v.2.1

@[simp] theorem length_cspXteaEncryptBlock (key : Key) (block : List UInt8) :
    (cspXteaEncryptBlock key block).length = 8 := by
  simp only [cspXteaEncryptBlock, store32L, List.length_append, Packed.length_store]
  rfl

def stream (e : Endian) (iv0 iv1 : UInt32) : List UInt8 :=
  Packed.u32.store e (cspHton32Word e iv0) ++ Packed.u32.store e (cspHton32Word e iv1)

/-- The loop of `csp_xtea_encrypt`, for as many blocks as are left of the text. The counter goes
up behind the use of it. -/
def xteaLoop (e : Endian) (key : Key) (iv0 : UInt32) :
    Nat → UInt32 → List UInt8 → List UInt8 → List UInt8
  | 0, _, _, plain => plain
  | blocks + 1, iv1, block, plain =>
      let block := cspXteaEncryptBlock key block
      let remain := plain.length
      List.zipWith (· ^^^ ·) (plain.take (if remain < 8 then remain else 8)) block ++
        xteaLoop e key iv0 blocks (iv1 + 1) (stream e iv0 iv1) (plain.drop 8)

/-- `csp_xtea_encrypt`, and `csp_xtea_decrypt`. -/
def cspXteaEncrypt (e : Endian) (key : Key) (iv0 iv1 : UInt32) (plain : List UInt8) : List UInt8 :=
  let blocks := (UInt32.ofNat plain.length + 8 - 1) / 8
  xteaLoop e key iv0 blocks.toNat iv1 (stream e iv0 iv1) plain

/-- The block of the key stream at each place: the first counter is used twice. -/
def xteaKeystream (key : Key) (iv0 iv1 : UInt32) (i : Nat) : List UInt8 :=
  cspXteaEncryptBlock key (stream .big iv0 (iv1 + UInt32.ofNat (i - 1)))

theorem stream_eq (e : Endian) (iv0 iv1 : UInt32) : stream e iv0 iv1 = stream .big iv0 iv1 := by
  simp only [stream, store_cspHton32Word]

@[simp] theorem length_xteaKeystream (key : Key) (iv0 iv1 : UInt32) (i : Nat) :
    (xteaKeystream key iv0 iv1 i).length = 8 :=
  length_cspXteaEncryptBlock _ _

/-- From the second block on, the loop is one block behind its counter. -/
theorem xteaLoop_eq (e : Endian) (key : Key) (iv0 iv1 : UInt32) (blocks i : Nat)
    (plain : List UInt8) :
    xteaLoop e key iv0 blocks (iv1 + UInt32.ofNat i) (stream e iv0 (iv1 + UInt32.ofNat (i - 1)))
      plain = cipher 8 (· ^^^ ·) (xteaKeystream key iv0 iv1) i (plain.take (8 * blocks)) ++
        plain.drop (8 * blocks) := by
  induction blocks generalizing i plain with
  | zero =>
      rw [Nat.mul_zero, List.take_zero, cipher_nil]
      rfl
  | succ blocks ih =>
      have htake : plain.take (if plain.length < 8 then plain.length else 8) = plain.take 8 := by
        split
        · rename_i hshort
          rw [List.take_length, List.take_of_length_le hshort.le]
        · rfl
      have hnext : iv1 + UInt32.ofNat i + 1 = iv1 + UInt32.ofNat (i + 1) := by
        rw [UInt32.ofNat_add, UInt32.add_assoc]
        rfl
      have hloop := ih (i + 1) (plain.drop 8)
      rw [Nat.add_sub_cancel, ← hnext, List.drop_drop] at hloop
      have hblocks : 8 * (blocks + 1) = 8 + 8 * blocks := by omega
      rw [xteaLoop, hloop, htake, stream_eq e, ← xteaKeystream, hblocks]
      by_cases hne : plain = []
      · simp [hne, cipher_nil]
      · have htext : plain.take (8 + 8 * blocks) ≠ [] := by
          rw [ne_eq, List.take_eq_nil_iff]
          exact not_or.mpr ⟨by omega, hne⟩
        rw [cipher_of_ne_nil (by decide) htext, List.take_take, List.drop_take,
          Nat.min_eq_left (by omega), Nat.add_sub_cancel_left, List.append_assoc]

theorem cspXteaEncrypt_loop (e : Endian) (key : Key) (iv0 iv1 : UInt32) (plain : List UInt8) :
    cspXteaEncrypt e key iv0 iv1 plain =
      let n := 8 * ((UInt32.ofNat plain.length + 8 - 1) / 8).toNat
      cipher 8 (· ^^^ ·) (xteaKeystream key iv0 iv1) 0 (plain.take n) ++ plain.drop n := by
  have hloop := xteaLoop_eq e key iv0 iv1
    ((UInt32.ofNat plain.length + 8 - 1) / 8).toNat 0 plain
  have hzero : iv1 + UInt32.ofNat 0 = iv1 := UInt32.add_zero iv1
  rw [Nat.zero_sub, hzero] at hloop
  exact hloop

theorem cspXteaEncrypt_eq (e : Endian) (key : Key) (iv0 iv1 : UInt32) {plain : List UInt8}
    (h : plain.length + 7 < 2 ^ 32) :
    cspXteaEncrypt e key iv0 iv1 plain =
      cipher 8 (· ^^^ ·) (xteaKeystream key iv0 iv1) 0 plain := by
  have hblocks : ((UInt32.ofNat plain.length + 8 - 1) / 8).toNat = (plain.length + 7) / 8 := by
    have hseven : UInt32.ofNat plain.length + 8 - 1 = UInt32.ofNat (plain.length + 7) := by
      rw [UInt32.ofNat_add, UInt32.sub_eq_add_neg, UInt32.add_assoc]
      rfl
    rw [hseven, UInt32.toNat_div, UInt32.toNat_ofNat_of_lt' h]
    rfl
  have hall : plain.length ≤ 8 * ((plain.length + 7) / 8) := by omega
  rw [cspXteaEncrypt_loop, hblocks]
  simp only [List.take_of_length_le hall, List.drop_eq_nil_of_le hall, List.append_nil]

@[simp] theorem length_cspXteaEncrypt (e : Endian) (key : Key) (iv0 iv1 : UInt32)
    (plain : List UInt8) : (cspXteaEncrypt e key iv0 iv1 plain).length = plain.length := by
  rw [cspXteaEncrypt_loop, List.length_append,
    length_cipher (by decide) (length_xteaKeystream key iv0 iv1), ← List.length_append,
    List.take_append_drop]

theorem xor_xor_self (x k : UInt8) : x ^^^ k ^^^ k = x := by
  rw [UInt8.xor_assoc, UInt8.xor_self, UInt8.xor_zero]

theorem cspXteaEncrypt_cspXteaEncrypt (e e' : Endian) (key : Key) (iv0 iv1 : UInt32)
    (plain : List UInt8) :
    cspXteaEncrypt e' key iv0 iv1 (cspXteaEncrypt e key iv0 iv1 plain) = plain := by
  have hlen := length_cspXteaEncrypt e key iv0 iv1 plain
  rw [cspXteaEncrypt_loop e', hlen, cspXteaEncrypt_loop e]
  generalize 8 * ((UInt32.ofNat plain.length + 8 - 1) / 8).toNat = n
  have hback (text : List UInt8) : cipher 8 (· ^^^ ·) (xteaKeystream key iv0 iv1) 0
      (cipher 8 (· ^^^ ·) (xteaKeystream key iv0 iv1) 0 text) = text :=
    cipher_cipher (by decide) (length_xteaKeystream key iv0 iv1) xor_xor_self 0 text
  have hsize (text : List UInt8) :
      (cipher 8 (· ^^^ ·) (xteaKeystream key iv0 iv1) 0 text).length = text.length :=
    length_cipher (by decide) (length_xteaKeystream key iv0 iv1) 0 text
  obtain hle | hle := Nat.le_total plain.length n
  · have hfront := (hsize plain).trans_le hle
    simp only [List.drop_eq_nil_of_le hle, List.append_nil, List.take_of_length_le hle]
    rw [List.take_of_length_le hfront, List.drop_eq_nil_of_le hfront, List.append_nil, hback]
  · have hfront := (hsize (plain.take n)).trans (List.length_take_of_le hle)
    simp only
    rw [List.take_left' hfront, List.drop_left' hfront, hback, List.take_append_drop]

theorem xteaRound_injective (k : List UInt32) : Function.Injective (xteaRound k) := by
  rintro ⟨v0, v1, sum⟩ ⟨w0, w1, sum'⟩ h
  simp only [xteaRound, Prod.mk.injEq] at h
  obtain ⟨h0, h1, hsum⟩ := h
  -- from the last half of the round to the first one
  rw [UInt32.add_left_inj] at hsum
  subst hsum
  rw [h0, UInt32.add_left_inj] at h1
  subst h1
  rw [UInt32.add_left_inj] at h0
  subst h0
  rfl

theorem load32L_inj {x y : List UInt8} (hx : x.length = 4) (hy : y.length = 4)
    (h : load32L x = load32L y) : x = y := by
  have hstore := congrArg UInt32.toNat h
  have hload {z : List UInt8} (hz : z.length = 4) : (load32L z).toNat = Endian.little.load 4 z :=
    UInt32.toNat_ofNat_of_lt' (Endian.little.load_lt hz.ge)
  rw [hload hx, hload hy] at hstore
  rw [← Endian.little.store_load hx, hstore, Endian.little.store_load hy]

theorem cspXteaEncryptBlock_inj (key : Key) {x y x' y' : List UInt8} (hx : x.length = 4)
    (hy : y.length = 4) (hx' : x'.length = 4) (hy' : y'.length = 4)
    (h : cspXteaEncryptBlock key (x ++ y) = cspXteaEncryptBlock key (x' ++ y')) :
    x = x' ∧ y = y' := by
  have hfirst {u v : List UInt8} (hu : u.length = 4) : load32L (u ++ v) = load32L u := by
    have htake := Packed.u32_local .little (u ++ v) 4 (by decide)
    rw [List.take_left' hu] at htake
    exact htake.symm
  have hrest {u v : List UInt8} (hu : u.length = 4) : (u ++ v).drop 4 = v := List.drop_left' hu
  simp only [cspXteaEncryptBlock, hfirst hx, hfirst hx', hrest hx, hrest hx'] at h
  generalize (List.range 4).map (fun i => load32L (key.val.drop (4 * i))) = k at h
  obtain ⟨h0, h1⟩ := List.append_inj h (by simp [store32L])
  -- the running sum is the same, whatever the block is
  have hsum (v : UInt32 × UInt32) : ((xteaRound k)^[32] (v.1, v.2, 0)).2.2 =
      (fun sum : UInt32 => sum + 0x9E3779B9)^[32] 0 := by
    have hstep : Function.Semiconj (fun s : UInt32 × UInt32 × UInt32 => s.2.2) (xteaRound k)
        (fun sum => sum + 0x9E3779B9) :=
      fun _ => rfl
    exact (hstep.iterate_right 32).eq (v.1, v.2, 0)
  have hwords := (xteaRound_injective k).iterate 32
    (Prod.ext (Packed.u32.store_inj.mp h0) (Prod.ext (Packed.u32.store_inj.mp h1)
      ((hsum (load32L x, load32L y)).trans (hsum (load32L x', load32L y')).symm)))
  simp only [Prod.mk.injEq, and_true] at hwords
  exact ⟨load32L_inj hx hx' hwords.1, load32L_inj hy hy' hwords.2⟩

/-- Two blocks of the key stream are the same when their counters are. -/
theorem xteaKeystream_eq_iff (key : Key) (iv0 iv1 : UInt32) {i j : Nat} (hi : i ≤ 2 ^ 32)
    (hj : j ≤ 2 ^ 32) :
    xteaKeystream key iv0 iv1 i = xteaKeystream key iv0 iv1 j ↔ i = j ∨ i ≤ 1 ∧ j ≤ 1 := by
  have hcounter : i - 1 = j - 1 ↔ i = j ∨ i ≤ 1 ∧ j ≤ 1 := by omega
  have hsize : UInt32.size = 2 ^ 32 := rfl
  rw [← hcounter]
  constructor
  · intro h
    obtain ⟨-, hword⟩ := cspXteaEncryptBlock_inj key (Packed.length_store _ _ _)
      (Packed.length_store _ _ _) (Packed.length_store _ _ _) (Packed.length_store _ _ _) h
    have hiv := Packed.u32.store_inj.mp hword
    rw [cspHton32Word_big, cspHton32Word_big, UInt32.add_right_inj] at hiv
    have hnat := congrArg UInt32.toNat hiv
    rwa [UInt32.toNat_ofNat_of_lt' (by omega), UInt32.toNat_ofNat_of_lt' (by omega)] at hnat
  · intro h
    rw [xteaKeystream, xteaKeystream, h]

/-- The key stream repeats itself in its first two blocks, and nowhere else; so the exclusive or of
the first two blocks of a text is that of what is sent for them, whatever the key is. -/
theorem cspXteaEncrypt_leaks (e : Endian) (key : Key) (iv0 iv1 : UInt32) {plain : List UInt8}
    (h : plain.length + 7 < 2 ^ 32) :
    (∀ i j, i ≤ 2 ^ 32 → j ≤ 2 ^ 32 → (xteaKeystream key iv0 iv1 i = xteaKeystream key iv0 iv1 j ↔
      i = j ∨ i ≤ 1 ∧ j ≤ 1)) ∧
    cspXteaEncrypt e key iv0 iv1 plain =
      cipher 8 (· ^^^ ·) (xteaKeystream key iv0 iv1) 0 plain ∧
    List.zipWith (· ^^^ ·) ((cspXteaEncrypt e key iv0 iv1 plain).take 8)
        (((cspXteaEncrypt e key iv0 iv1 plain).drop 8).take 8) =
      List.zipWith (· ^^^ ·) (plain.take 8) ((plain.drop 8).take 8) := by
  have hop (x y k : UInt8) : (x ^^^ k) ^^^ (y ^^^ k) = x ^^^ y := by
    rw [UInt8.xor_comm y, UInt8.xor_assoc, ← UInt8.xor_assoc k, UInt8.xor_self, UInt8.zero_xor]
  have hrep : xteaKeystream key iv0 iv1 (0 + 1) = xteaKeystream key iv0 iv1 0 :=
    (xteaKeystream_eq_iff key iv0 iv1 (by decide) (by decide)).mpr (by omega)
  refine ⟨fun i j hi hj => xteaKeystream_eq_iff key iv0 iv1 hi hj,
    cspXteaEncrypt_eq e key iv0 iv1 h, ?_⟩
  rw [cspXteaEncrypt_eq e key iv0 iv1 h]
  exact cipher_repeat (by decide) (length_xteaKeystream key iv0 iv1) hop hrep plain

def zeroKey : Key := ⟨List.replicate 16 0, rfl⟩

def twoBlocks : List UInt8 := [1, 2, 3, 4, 5, 6, 7, 8, 1, 2, 3, 4, 5, 6, 7, 9]

theorem cspXteaEncrypt_leaks_twoBlocks :
    let sent := cspXteaEncrypt .little zeroKey 7 1 twoBlocks
    List.zipWith (· ^^^ ·) (sent.take 8) ((sent.drop 8).take 8) = [0, 0, 0, 0, 0, 0, 0, 1] :=
  (cspXteaEncrypt_leaks .little zeroKey 7 1 (by decide)).2.2

end UhfGs.Csp
