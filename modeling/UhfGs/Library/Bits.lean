import Mathlib.Data.Nat.Bitwise
import Mathlib.Tactic.Ring

/-! Bit fields of natural numbers: reading a field through a mask, joining
fields with `|||`, and packing a list of fields from either end of a word. -/
namespace UhfGs.Bits

def mask (lo len : Nat) : Nat := (2 ^ len - 1) <<< lo

def field (lo len x : Nat) : Nat := x / 2 ^ lo % 2 ^ len

def setField (lo len v x : Nat) : Nat := x - (x &&& mask lo len) + v <<< lo

theorem and_mask (lo len x : Nat) : x &&& mask lo len = field lo len x * 2 ^ lo := by
  apply Nat.eq_of_testBit_eq
  intro i
  simp only [mask, field, Nat.testBit_and, Nat.testBit_shiftLeft, Nat.testBit_two_pow_sub_one,
    ← Nat.shiftLeft_eq, Nat.testBit_mod_two_pow, Nat.testBit_div_two_pow]
  by_cases hi : lo ≤ i
  · simp only [ge_iff_le, hi, decide_true, Nat.sub_add_cancel hi, Bool.true_and]
    exact Bool.and_comm _ _
  · simp [hi]

theorem or_low {k b : Nat} (a : Nat) (h : b < 2 ^ k) : a * 2 ^ k ||| b = a * 2 ^ k + b := by
  rw [Nat.mul_comm, Nat.two_pow_add_eq_or_of_lt h a]

theorem or_of_dvd {k a b : Nat} (ha : 2 ^ k ∣ a) (hb : b < 2 ^ k) : a ||| b = a + b := by
  obtain ⟨q, rfl⟩ := ha
  rw [Nat.mul_comm, or_low q hb]

theorem and_mask_eq_iff (lo len x y : Nat) :
    x &&& mask lo len = y &&& mask lo len ↔ field lo len x = field lo len y := by
  rw [and_mask, and_mask]
  exact Nat.mul_left_inj (Nat.two_pow_pos lo).ne'

theorem setField_eq (lo len v x : Nat) :
    setField lo len v x = x - field lo len x * 2 ^ lo + v * 2 ^ lo := by
  rw [setField, and_mask, Nat.shiftLeft_eq]

/- A field list holds (width, value) pairs in the order of declaration. -/
def width (fs : List (Nat × Nat)) : Nat := (fs.map Prod.fst).sum

/-- The first field takes the least significant bits. -/
def packLow : List (Nat × Nat) → Nat
  | [] => 0
  | (len, v) :: fs => v + 2 ^ len * packLow fs

/-- The first field takes the most significant bits. -/
def packHigh : List (Nat × Nat) → Nat
  | [] => 0
  | (_, v) :: fs => v * 2 ^ width fs + packHigh fs

theorem packLow_append (fs gs : List (Nat × Nat)) :
    packLow (fs ++ gs) = packLow fs + 2 ^ width fs * packLow gs := by
  induction fs with
  | nil => simp [packLow, width]
  | cons f fs ih =>
    simp only [List.cons_append, packLow, ih, width, List.map_cons, List.sum_cons, pow_add]
    ring

theorem width_reverse (fs : List (Nat × Nat)) : width fs.reverse = width fs := by
  simp [width, List.map_reverse, List.sum_reverse]

/-- Declaring the fields in the opposite order and filling the word from the
opposite end gives the same word. -/
theorem packLow_reverse (fs : List (Nat × Nat)) : packLow fs.reverse = packHigh fs := by
  induction fs with
  | nil => rfl
  | cons f fs ih =>
    simp only [List.reverse_cons, packLow_append, ih, width_reverse, packLow, packHigh,
      Nat.mul_zero, Nat.add_zero]
    ring

end UhfGs.Bits
