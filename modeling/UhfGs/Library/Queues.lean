import Mathlib.Algebra.Order.BigOperators.Group.Finset

/-! Sums over a table, and how often a value is in a table of queues. -/
namespace UhfGs.Queues
variable {ι α β : Type*} [Fintype ι] [DecidableEq α]

def countAll (f : ι → List α) (a : α) : Nat := ∑ i, (f i).count a

theorem countAll_pos {f : ι → List α} {i : ι} {a : α} (h : a ∈ f i) : 0 < countAll f a := by
  have hle : (f i).count a ≤ ∑ j, (f j).count a :=
    Finset.single_le_sum (f := fun j => (f j).count a) (fun _ _ => Nat.zero_le _)
      (Finset.mem_univ i)
  exact (List.count_pos_iff.mpr h).trans_le hle

variable [DecidableEq ι]

theorem sum_update_add (f : ι → β) (g : β → Nat) (i : ι) (v : β) :
    ∑ j, g (Function.update f i v j) + g (f i) = ∑ j, g (f j) + g v := by
  have hrest : ∑ j ∈ Finset.univ.erase i, g (Function.update f i v j) =
      ∑ j ∈ Finset.univ.erase i, g (f j) :=
    Finset.sum_congr rfl fun j hj => by
      rw [Function.update_of_ne (Finset.ne_of_mem_erase hj)]
  rw [← Finset.add_sum_erase _ _ (Finset.mem_univ i), hrest,
    ← Finset.add_sum_erase _ (fun j => g (f j)) (Finset.mem_univ i), Function.update_self]
  omega

theorem countAll_push (f : ι → List α) (i : ι) (a x : α) :
    countAll (Function.update f i (f i ++ [x])) a = countAll f a + if x = a then 1 else 0 := by
  have h := sum_update_add f (List.count a) i (f i ++ [x])
  rw [List.count_append, List.count_singleton] at h
  simp only [beq_iff_eq] at h
  unfold countAll
  omega

theorem countAll_tail {f : ι → List α} {i : ι} {x : α} {rest : List α} (a : α)
    (hq : f i = x :: rest) :
    countAll (Function.update f i rest) a + (if x = a then 1 else 0) = countAll f a := by
  have h := sum_update_add f (List.count a) i rest
  rw [hq, List.count_cons] at h
  simp only [beq_iff_eq] at h
  unfold countAll
  omega

end UhfGs.Queues
