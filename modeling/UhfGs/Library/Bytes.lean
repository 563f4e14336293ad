import Mathlib.Data.List.Basic
import Mathlib.Data.UInt
import Mathlib.Logic.Function.Basic
import Mathlib.Tactic.Ring

/-! Words of 32 bits in memory, on hosts of either byte order. -/
namespace UhfGs.Bytes

inductive Endian where
  | little
  | big
  deriving DecidableEq, Repr

def beWord (bs : List UInt8) : Nat := bs.foldl (fun w b => 256 * w + b.toNat) 0

def beBytes (w : Nat) : List UInt8 :=
  [UInt8.ofNat (w / 2 ^ 24), UInt8.ofNat (w / 2 ^ 16), UInt8.ofNat (w / 2 ^ 8), UInt8.ofNat w]

def Endian.bytes : Endian → Nat → List UInt8
  | .big, w => beBytes w
  | .little, w => (beBytes w).reverse

@[simp] theorem length_beBytes (w : Nat) : (beBytes w).length = 4 := rfl

@[simp] theorem beWord_beBytes {w : Nat} (h : w < 2 ^ 32) : beWord (beBytes w) = w := by
  simp only [beWord, beBytes, List.foldl_cons, List.foldl_nil, UInt8.toNat_ofNat']
  omega

theorem beBytes_inj {v w : Nat} (hv : v < 2 ^ 32) (hw : w < 2 ^ 32) (h : beBytes v = beBytes w) :
    v = w := by
  rw [← beWord_beBytes hv, h, beWord_beBytes hw]

theorem forall_byte {p : UInt8 → Prop} (h : ∀ n < 256, p (UInt8.ofNat n)) (c : UInt8) : p c := by
  simpa using h c.toNat c.toNat_lt

theorem toNat_ofNat (n : Nat) : (UInt8.ofNat n).toNat = n % 256 := by
  simp [UInt8.toNat_ofNat']

theorem toNat_ofInt_natCast (n : Nat) : (UInt8.ofInt n).toNat = n % 256 := by
  simp only [UInt8.ofInt, toNat_ofNat]
  omega

def readMem (n : Nat) (mem : Nat → UInt8) : List UInt8 := (List.range n).map mem

def writeMem (off : Nat) (bs : List UInt8) (mem : Nat → UInt8) : Nat → UInt8 :=
  fun i => if off ≤ i then bs.getD (i - off) (mem i) else mem i

@[simp] theorem length_readMem (n : Nat) (mem : Nat → UInt8) : (readMem n mem).length = n := by
  simp [readMem]

theorem readMem_writeMem_zero (n : Nat) (bs : List UInt8) (mem : Nat → UInt8) :
    readMem n (writeMem 0 bs mem) = bs.take n ++ (readMem n mem).drop bs.length := by
  apply List.ext_getElem
  · simp only [length_readMem, List.length_append, List.length_take, List.length_drop]
    omega
  · intro i h₁ h₂
    simp only [length_readMem] at h₁
    by_cases hi : i < bs.length
    · have ht : i < (bs.take n).length := by
        simp only [List.length_take]
        omega
      simp [readMem, writeMem, List.getElem_append_left ht, List.getD, hi]
    · have ht : (bs.take n).length ≤ i := by
        simp only [List.length_take]
        omega
      have hs : bs.length + (i - min n bs.length) = i := by omega
      simp [readMem, writeMem, List.getElem_append_right ht, List.getD, hi, hs]

theorem readMem_writeMem_end (n : Nat) (bs : List UInt8) (mem : Nat → UInt8) :
    readMem (n + bs.length) (writeMem n bs mem) = readMem n mem ++ bs := by
  apply List.ext_getElem
  · simp
  · intro i h₁ h₂
    simp only [length_readMem] at h₁
    by_cases hi : i < n
    · have hle : ¬ n ≤ i := by omega
      have hn : i < (readMem n mem).length := by rwa [length_readMem]
      rw [List.getElem_append_left hn]
      simp [readMem, writeMem, hle]
    · have hle : n ≤ i := by omega
      have hn : (readMem n mem).length ≤ i := by rwa [length_readMem]
      have hlt : i - n < bs.length := by omega
      rw [List.getElem_append_right hn]
      simp [readMem, writeMem, hle, List.getD, hlt]

theorem readMem_add (n k : Nat) (mem : Nat → UInt8) :
    readMem (n + k) mem = readMem n mem ++ readMem k fun i => mem (n + i) := by
  simp [readMem, List.range_add, Function.comp_def]

theorem writeMem_cons (off : Nat) (b : UInt8) (bs : List UInt8) (mem : Nat → UInt8) :
    writeMem off (b :: bs) mem = writeMem (off + 1) bs (Function.update mem off b) := by
  funext i
  simp only [writeMem]
  by_cases hi : off + 1 ≤ i
  · have hle : off ≤ i := by omega
    have hsub : i - off = (i - (off + 1)) + 1 := by omega
    rw [if_pos hle, if_pos hi, hsub, List.getD_cons_succ, Function.update_of_ne (by omega)]
  · by_cases heq : i = off
    · subst heq
      simp
    · have hle : ¬ off ≤ i := by omega
      rw [if_neg hle, if_neg hi, Function.update_of_ne heq]

def strlen (bs : List UInt8) : Nat := (bs.takeWhile (· ≠ 0)).length

theorem strlen_lt_iff (bs : List UInt8) : strlen bs < bs.length ↔ 0 ∈ bs := by
  induction bs with
  | nil => simp
  | cons b bs ih =>
      by_cases hb : b = 0
      · simp [strlen, hb]
      · have hlen : strlen (b :: bs) = strlen bs + 1 := by simp [strlen, hb]
        rw [hlen, List.length_cons, Nat.add_lt_add_iff_right, ih, List.mem_cons,
          or_iff_right (Ne.symm hb)]

end UhfGs.Bytes
