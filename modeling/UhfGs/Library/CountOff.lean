import Mathlib.Algebra.BigOperators.Intervals
import Mathlib.Algebra.Order.BigOperators.Group.Finset
import Mathlib.Algebra.Order.Ring.Int

/-! Counting off periods of given lengths, as long as more than a whole period is left. -/
namespace UhfGs.CountOff

/-- The period that an amount reaches from period `k` on, and what is left in it. -/
def countOff {len : Nat → Int} (hpos : ∀ k, 0 < len k) (k : Nat) (s : Int) : Nat × Int :=
  if len k < s then countOff hpos (k + 1) (s - len k) else (k, s)
termination_by s.toNat
decreasing_by
  have := hpos k
  omega

variable {len : Nat → Int} (hpos : ∀ k, 0 < len k)

theorem le_countOff (k : Nat) (s : Int) : k ≤ (countOff hpos k s).1 := by
  induction k, s using countOff.induct hpos with
  | case1 k s h ih =>
      rw [countOff, if_pos h]
      omega
  | case2 k s h =>
      rw [countOff, if_neg h]

theorem countOff_le (k : Nat) (s : Int) :
    (countOff hpos k s).2 ≤ len (countOff hpos k s).1 := by
  induction k, s using countOff.induct hpos with
  | case1 k s h ih =>
      rw [countOff, if_pos h]
      exact ih
  | case2 k s h =>
      rw [countOff, if_neg h]
      exact Int.not_lt.mp h

theorem countOff_nonneg (k : Nat) {s : Int} (hs : 0 ≤ s) : 0 ≤ (countOff hpos k s).2 := by
  induction k, s using countOff.induct hpos with
  | case1 k s h ih =>
      rw [countOff, if_pos h]
      exact ih (by omega)
  | case2 k s h =>
      rw [countOff, if_neg h]
      exact hs

theorem countOff_add (k : Nat) (s : Int) :
    (countOff hpos k s).2 + ∑ j ∈ Finset.Ico k (countOff hpos k s).1, len j = s := by
  induction k, s using countOff.induct hpos with
  | case1 k s h ih =>
      have hle := le_countOff hpos (k + 1) (s - len k)
      rw [countOff, if_pos h, Finset.sum_eq_sum_Ico_succ_bot (by omega)]
      omega
  | case2 k s h =>
      rw [countOff, if_neg h, Finset.Ico_self, Finset.sum_empty, Int.add_zero]

theorem sum_lt_of_countOff {k m : Nat} {s : Int} (hk : k < m)
    (hm : m ≤ (countOff hpos k s).1) : ∑ j ∈ Finset.Ico k m, len j < s := by
  induction k, s using countOff.induct hpos with
  | case1 k s h ih =>
      rw [countOff, if_pos h] at hm
      rw [Finset.sum_eq_sum_Ico_succ_bot hk]
      obtain heq | hlt := Nat.eq_or_lt_of_le hk
      · rw [← heq, Finset.Ico_self, Finset.sum_empty]
        omega
      · have := ih hlt hm
        omega
  | case2 k s h =>
      rw [countOff, if_neg h] at hm
      exact absurd hk (Nat.not_lt.mpr hm)

theorem countOff_inj {k : Nat} {s t : Int} (h : countOff hpos k s = countOff hpos k t) :
    s = t := by
  rw [← countOff_add hpos k s, h, countOff_add]

theorem eq_zero_of_countOff {k : Nat} {s : Int} (hs : 0 ≤ s) (h : (countOff hpos k s).2 = 0) :
    s = 0 := by
  induction k, s using countOff.induct hpos with
  | case1 k s hlt ih =>
      rw [countOff, if_pos hlt] at h
      have hrest := ih (by omega) h
      omega
  | case2 k s hle =>
      rwa [countOff, if_neg hle] at h

theorem sum_Ico_add_inj {len : Nat → Nat} {k m m' r r' : Nat} (hm : k ≤ m) (hm' : k ≤ m')
    (hr : r < len m) (hr' : r' < len m')
    (h : ∑ j ∈ Finset.Ico k m, len j + r = ∑ j ∈ Finset.Ico k m', len j + r') :
    m = m' ∧ r = r' := by
  have hlt {a b s : Nat} (ha : k ≤ a) (hab : a < b) (hs : s < len a) :
      ∑ j ∈ Finset.Ico k a, len j + s < ∑ j ∈ Finset.Ico k b, len j := by
    have hstep := Finset.sum_Ico_succ_top ha len
    have hle : ∑ j ∈ Finset.Ico k (a + 1), len j ≤ ∑ j ∈ Finset.Ico k b, len j :=
      Finset.sum_le_sum_of_subset (Finset.Ico_subset_Ico le_rfl hab)
    omega
  obtain hmm | rfl | hmm := Nat.lt_trichotomy m m'
  · have := hlt hm hmm hr
    omega
  · exact ⟨rfl, by omega⟩
  · have := hlt hm' hmm hr'
    omega

end UhfGs.CountOff
