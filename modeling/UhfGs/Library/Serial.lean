import Mathlib.Data.BitVec

/-! Serial numbers: counters that wrap around, compared by their distance. -/
namespace UhfGs.Serial
variable {w : Nat}

/-- The signed distance is negative. -/
def before (x y : BitVec w) : Bool := (x - y).msb

/-- The number is no further from the start than the end is. -/
def between (x start stop : BitVec w) : Bool := x - start ≤ stop - start

def nth (base : BitVec w) (i : Nat) : BitVec w := base + BitVec.ofNat w i

theorem nth_zero (base : BitVec w) : nth base 0 = base := by
  simp [nth]

theorem nth_add (base : BitVec w) (i j : Nat) : nth (nth base i) j = nth base (i + j) := by
  simp only [nth, BitVec.ofNat_add, BitVec.add_assoc]

theorem nth_succ (base : BitVec w) (i : Nat) : nth base (i + 1) = nth base i + 1 :=
  (nth_add base i 1).symm

theorem nth_succ_sub_one (base : BitVec w) (i : Nat) : nth base (i + 1) - 1 = nth base i := by
  rw [nth_succ, BitVec.add_sub_cancel]

theorem nth_sub_nth (base : BitVec w) (i d : Nat) :
    nth base (i + d) - nth base i = BitVec.ofNat w d := by
  rw [← nth_add, nth, BitVec.add_comm, BitVec.add_sub_cancel]

theorem nth_ne {base : BitVec w} (i : Nat) {d : Nat} (hd : 0 < d) (hw : d < 2 ^ w) :
    nth base (i + d) ≠ nth base i := by
  intro h
  have hzero : BitVec.ofNat w d = 0#w := by
    rw [← nth_sub_nth base i d, h, BitVec.sub_self]
  have hnat := congrArg BitVec.toNat hzero
  rw [BitVec.toNat_ofNat, Nat.mod_eq_of_lt hw, BitVec.toNat_zero] at hnat
  omega

theorem nth_inj {base : BitVec w} {i j : Nat} (h : nth base i = nth base j) (hij : i < j + 2 ^ w)
    (hji : j < i + 2 ^ w) : i = j := by
  obtain hlt | rfl | hgt := Nat.lt_trichotomy i j
  · obtain ⟨d, rfl⟩ := Nat.exists_eq_add_of_le hlt.le
    exact absurd h.symm (nth_ne i (by omega) (by omega))
  · rfl
  · obtain ⟨d, rfl⟩ := Nat.exists_eq_add_of_le hgt.le
    exact absurd h (nth_ne j (by omega) (by omega))

/-- Within half of the range the order of the numbers is the order of what they count. -/
theorem before_nth_iff {base : BitVec (w + 1)} {i j : Nat} (hij : i < j + 2 ^ w)
    (hji : j ≤ i + 2 ^ w) : before (nth base i) (nth base j) = true ↔ i < j := by
  obtain hle | hlt := (Nat.lt_or_ge i j).symm
  · obtain ⟨d, rfl⟩ := Nat.exists_eq_add_of_le hle
    rw [before, nth_sub_nth, BitVec.msb_eq_decide, BitVec.toNat_ofNat,
      Nat.mod_eq_of_lt (by rw [Nat.pow_succ]; omega), decide_eq_true_eq]
    rw [Nat.add_sub_cancel]
    omega
  · obtain ⟨d, rfl⟩ := Nat.exists_eq_add_of_le hlt.le
    have hneg : nth base i - nth base (i + d) = -(BitVec.ofNat (w + 1) d) := by
      rw [← nth_sub_nth base i d, BitVec.neg_sub, BitVec.sub_eq_add_neg, BitVec.add_comm]
    rw [before, hneg, BitVec.msb_eq_decide, BitVec.toNat_neg, BitVec.toNat_ofNat,
      Nat.mod_eq_of_lt (a := d) (by rw [Nat.pow_succ]; omega),
      Nat.mod_eq_of_lt (by rw [Nat.pow_succ]; omega), decide_eq_true_eq, Nat.add_sub_cancel,
      Nat.pow_succ]
    omega

theorem exists_of_between {base x : BitVec w} {i d : Nat} (hd : d < 2 ^ w)
    (h : between x (nth base i) (nth base (i + d)) = true) :
    ∃ j, i ≤ j ∧ j ≤ i + d ∧ x = nth base j := by
  refine ⟨i + (x - nth base i).toNat, Nat.le_add_right _ _, ?_, ?_⟩
  · rw [between, nth_sub_nth, decide_eq_true_eq, BitVec.le_def, BitVec.toNat_ofNat,
      Nat.mod_eq_of_lt hd] at h
    omega
  · rw [← nth_add, nth, BitVec.ofNat_toNat, BitVec.setWidth_eq, BitVec.add_comm, BitVec.sub_add_cancel]

end UhfGs.Serial
