import Mathlib.Algebra.GroupWithZero.Nat
import Mathlib.Data.Fin.Basic

/-! Searching a ring of `n` places from a given place on. -/
namespace UhfGs.Cyclic
variable {n : Nat} [NeZero n] (p : Fin n → Bool)

def scan : Nat → Fin n → Option (Fin n)
  | 0, _ => none
  | k + 1, i => if p i then some i else scan k (i + 1)

variable {p}

theorem scan_some {k : Nat} {i j : Fin n} (h : scan p k i = some j) : p j = true := by
  induction k generalizing i with
  | zero => cases h
  | succ k ih =>
      rw [scan] at h
      split at h
      · rename_i hp
        cases h
        exact hp
      · exact ih h

theorem scan_none {k : Nat} {i : Fin n} (h : scan p k i = none) {m : Nat} (hm : m < k) :
    p ⟨(i + m) % n, Nat.mod_lt _ (Nat.pos_of_neZero n)⟩ = false := by
  induction k generalizing i m with
  | zero => exact absurd hm (Nat.not_lt_zero m)
  | succ k ih =>
      rw [scan] at h
      split at h
      · cases h
      · rename_i hp
        cases m with
        | zero =>
            have hi : (⟨(i + 0) % n, Nat.mod_lt _ (Nat.pos_of_neZero n)⟩ : Fin n) = i :=
              Fin.ext (Nat.mod_eq_of_lt i.isLt)
            rw [hi]
            exact Bool.eq_false_iff.mpr hp
        | succ m =>
            have hrest := ih h (Nat.lt_of_succ_lt_succ hm)
            have hmove : ((i + 1 : Fin n) + m) % n = (i + (m + 1)) % n := by
              rw [Fin.val_add, Fin.val_one', Nat.add_mod_mod, Nat.mod_add_mod, Nat.add_assoc,
                Nat.add_comm 1 m]
            simpa only [hmove] using hrest

theorem scan_full_eq_none_iff {i : Fin n} : scan p n i = none ↔ ∀ j, p j = false := by
  constructor
  · intro h j
    have hi := i.isLt
    have hj := j.isLt
    have hm : (n - i + j) % n < n := Nat.mod_lt _ (Nat.pos_of_neZero n)
    have hback : (i + (n - i + j) % n) % n = j := by
      have hsum : (i : Nat) + (n - i + j) = j + n := by omega
      rw [Nat.add_mod_mod, hsum, Nat.add_mod_right, Nat.mod_eq_of_lt hj]
    simpa only [hback] using scan_none h hm
  · intro h
    cases hs : scan p n i with
    | none => rfl
    | some j => exact absurd (scan_some hs) (by simp [h j])

end UhfGs.Cyclic
