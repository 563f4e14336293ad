import Mathlib.Data.List.Basic

/-! A stream that is compressed block by block: what a buffer collects piece by piece gives the
same as the whole stream at once. -/
namespace UhfGs.BlockHash
variable {σ α : Type*} {n : Nat} {compress : σ → List α → σ} {s : σ} {xs ys : List α}

def absorb (n : Nat) (compress : σ → List α → σ) (s : σ) (xs : List α) : σ × List α :=
  if _h : 0 < n ∧ n ≤ xs.length then absorb n compress (compress s (xs.take n)) (xs.drop n)
  else (s, xs)
termination_by xs.length
decreasing_by
  rw [List.length_drop]
  omega

theorem absorb_of_lt (h : xs.length < n) : absorb n compress s xs = (s, xs) := by
  rw [absorb, dif_neg]
  omega

theorem absorb_of_le (h : 0 < n ∧ n ≤ xs.length) :
    absorb n compress s xs = absorb n compress (compress s (xs.take n)) (xs.drop n) := by
  rw [absorb, dif_pos h]

theorem absorb_block (hn : 0 < n) (h : xs.length = n) (ys : List α) :
    absorb n compress s (xs ++ ys) = absorb n compress (compress s xs) ys := by
  have hle : 0 < n ∧ n ≤ (xs ++ ys).length := by
    rw [List.length_append]
    omega
  rw [absorb_of_le hle, List.take_left' h, List.drop_left' h]

theorem absorb_append : absorb n compress s (xs ++ ys) =
    absorb n compress (absorb n compress s xs).1 ((absorb n compress s xs).2 ++ ys) := by
  induction s, xs using absorb.induct n compress with
  | case1 s xs h ih =>
      have hblock : (xs.take n).length = n := List.length_take_of_le h.2
      have hwhole : absorb n compress s (xs ++ ys) =
          absorb n compress (compress s (xs.take n)) (xs.drop n ++ ys) := by
        rw [← absorb_block h.1 hblock, ← List.append_assoc, List.take_append_drop]
      rw [hwhole, ih, ← absorb_of_le h]
  | case2 s xs h =>
      have hnone : absorb n compress s xs = (s, xs) := by rw [absorb, dif_neg h]
      rw [hnone]

theorem length_absorb_mod : (absorb n compress s xs).2.length % n = xs.length % n := by
  induction s, xs using absorb.induct n compress with
  | case1 s xs h ih =>
      rw [absorb_of_le h, ih, List.length_drop, ← Nat.mod_eq_sub_mod h.2]
  | case2 s xs h => rw [absorb, dif_neg h]

end UhfGs.BlockHash
