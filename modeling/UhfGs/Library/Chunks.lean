import Mathlib.Data.List.Basic

/-! Cutting a list into chunks. -/
namespace UhfGs.Chunks
variable {α : Type*} {n : Nat}

theorem flatten_go (xs : List α) (acc₁ : Array α) (acc₂ : Array (List α)) :
    (List.toChunks.go n xs acc₁ acc₂).flatten = acc₂.toList.flatten ++ (acc₁.toList ++ xs) := by
  induction xs generalizing acc₁ acc₂ with
  | nil => simp [List.toChunks.go]
  | cons x xs ih =>
      rw [List.toChunks.go]
      split
      · rw [ih]
        simp
      · rw [ih]
        simp

theorem ne_nil_go (xs : List α) (acc₁ : Array α) (acc₂ : Array (List α)) (h₁ : acc₁.toList ≠ [])
    (h₂ : ∀ c ∈ acc₂.toList, c ≠ []) : ∀ c ∈ List.toChunks.go n xs acc₁ acc₂, c ≠ [] := by
  have hpush : ∀ c ∈ (acc₂.push acc₁.toList).toList, c ≠ [] := by
    intro c hc
    rw [Array.toList_push, List.mem_append, List.mem_singleton] at hc
    obtain hc | rfl := hc
    · exact h₂ c hc
    · exact h₁
  induction xs generalizing acc₁ acc₂ with
  | nil => exact hpush
  | cons x xs ih =>
      rw [List.toChunks.go]
      split
      · refine ih _ _ (by simp) hpush fun c hc => ?_
        rw [Array.toList_push, List.mem_append, List.mem_singleton] at hc
        obtain hc | rfl := hc
        · exact hpush c hc
        · simp
      · refine ih _ _ (by simp) h₂ fun c hc => ?_
        rw [Array.toList_push, List.mem_append, List.mem_singleton] at hc
        obtain hc | rfl := hc
        · exact h₂ c hc
        · simp

theorem flatten_toChunks (l : List α) : (l.toChunks (n + 1)).flatten = l := by
  cases l with
  | nil => rfl
  | cons x xs => simp [List.toChunks, flatten_go]

theorem ne_nil_of_mem_toChunks {l c : List α} (h : c ∈ l.toChunks (n + 1)) : c ≠ [] := by
  cases l with
  | nil => exact absurd h List.not_mem_nil
  | cons x xs => exact ne_nil_go xs #[x] #[] (by simp) (by simp) c h

end UhfGs.Chunks
