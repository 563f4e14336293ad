import Mathlib.Data.List.Count
import Mathlib.Order.Basic

/-! Repetitions in a list that goes up, and loops that look for a maximum. -/
namespace UhfGs.Ordered
variable {α : Type*} [PartialOrder α] {l : List α}

theorem eq_of_between (h : l.Pairwise (· ≤ ·)) {i j k : Nat} (hij : i ≤ j) (hjk : j ≤ k)
    (hk : k < l.length) (heq : l[i] = l[k]) : l[j] = l[i] := by
  have hle (m n : Nat) (hmn : m ≤ n) (hn : n < l.length) : l[m] ≤ l[n] := by
    obtain rfl | hlt := Nat.eq_or_lt_of_le hmn
    · exact le_rfl
    · exact List.pairwise_iff_getElem.mp h m n (by omega) hn hlt
  exact le_antisymm (heq ▸ hle j k hjk hk) (hle i j hij (by omega))

theorem lt_count_of_eq [DecidableEq α] (h : l.Pairwise (· ≤ ·)) {i j : Nat} (hij : i ≤ j)
    (hj : j < l.length) (heq : l[i] = l[j]) : j - i < l.count l[i] := by
  have hall : ∀ x ∈ (l.drop i).take (j - i + 1), l[i] = x := by
    intro x hx
    obtain ⟨k, hk, rfl⟩ := List.mem_iff_getElem.mp hx
    simp only [List.length_take, List.length_drop] at hk
    rw [List.getElem_take, List.getElem_drop]
    exact (eq_of_between h (by omega) (by omega) hj heq).symm
  have hlen : ((l.drop i).take (j - i + 1)).length = j - i + 1 := by
    simp only [List.length_take, List.length_drop]
    omega
  calc j - i < ((l.drop i).take (j - i + 1)).length := by omega
    _ = ((l.drop i).take (j - i + 1)).count l[i] := (List.count_eq_length.mpr hall).symm
    _ ≤ l.count l[i] := ((List.take_sublist _ _).trans (List.drop_sublist _ _)).count_le _

theorem foldl_le_iff {β γ : Type*} [LE β] {step : β → γ → β} {b : β} {p : γ → Prop}
    (hstep : ∀ a x, step a x ≤ b ↔ a ≤ b ∧ p x) (xs : List γ) (a : β) :
    xs.foldl step a ≤ b ↔ a ≤ b ∧ ∀ x ∈ xs, p x := by
  induction xs generalizing a with
  | nil => simp
  | cons x xs ih => rw [List.foldl_cons, ih, hstep, List.forall_mem_cons, and_assoc]

end UhfGs.Ordered
