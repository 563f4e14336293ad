import Mathlib.Data.List.Basic

/-! Byte stuffing: a flag delimits frames, and inside a frame the flag and the
escape symbol are replaced by two-symbol sequences. -/
namespace UhfGs.Stuffing
variable {α : Type*}

/-- A stuffing alphabet. The four symbols that play a part are distinct. -/
structure Alphabet (α : Type*) where
  flag : α
  esc : α
  tflag : α
  tesc : α
  distinct : [flag, esc, tflag, tesc].Nodup

namespace Alphabet
variable (A : Alphabet α)

theorem flag_ne_esc : A.flag ≠ A.esc := by
  have h := A.distinct
  simp only [List.nodup_cons, List.mem_cons, not_or] at h
  exact h.1.1

theorem flag_ne_tflag : A.flag ≠ A.tflag := by
  have h := A.distinct
  simp only [List.nodup_cons, List.mem_cons, not_or] at h
  exact h.1.2.1

theorem flag_ne_tesc : A.flag ≠ A.tesc := by
  have h := A.distinct
  simp only [List.nodup_cons, List.mem_cons, not_or] at h
  exact h.1.2.2.1

theorem tflag_ne_tesc : A.tflag ≠ A.tesc := by
  have h := A.distinct
  simp only [List.nodup_cons, List.mem_cons, not_or] at h
  exact h.2.2.1.1

variable [DecidableEq α]

def stuffOne (x : α) : List α :=
  if x = A.flag then [A.esc, A.tflag] else if x = A.esc then [A.esc, A.tesc] else [x]

theorem stuffOne_ne_nil (x : α) : A.stuffOne x ≠ [] := by
  unfold stuffOne
  split
  · exact List.cons_ne_nil _ _
  · split
    · exact List.cons_ne_nil _ _
    · exact List.cons_ne_nil _ _

def stuff (xs : List α) : List α := xs.flatMap A.stuffOne

/-- Undo the stuffing; the flag says whether the last symbol was an escape. -/
def unstuffFrom : Bool → List α → List α
  | _, [] => []
  | false, x :: xs => if x = A.esc then unstuffFrom true xs else x :: unstuffFrom false xs
  | true, x :: xs =>
      (if x = A.tesc then [A.esc] else if x = A.tflag then [A.flag] else []) ++ unstuffFrom false xs

def unstuff (xs : List α) : List α := A.unstuffFrom false xs

theorem unstuff_stuffOne_append (x : α) (ys : List α) :
    A.unstuff (A.stuffOne x ++ ys) = x :: A.unstuff ys := by
  unfold stuffOne unstuff
  by_cases hf : x = A.flag
  · simp [hf, unstuffFrom, A.tflag_ne_tesc]
  · by_cases he : x = A.esc
    · simp [he, A.flag_ne_esc.symm, unstuffFrom]
    · simp [hf, he, unstuffFrom]

theorem unstuff_stuff (xs : List α) : A.unstuff (A.stuff xs) = xs := by
  induction xs with
  | nil => rfl
  | cons x xs ih =>
    rw [stuff, List.flatMap_cons, unstuff_stuffOne_append]
    exact congrArg (x :: ·) ih

theorem flag_notMem_stuff (xs : List α) : A.flag ∉ A.stuff xs := by
  intro h
  obtain ⟨x, -, hx⟩ := List.mem_flatMap.mp h
  unfold stuffOne at hx
  split at hx
  · simp [A.flag_ne_esc, A.flag_ne_tflag] at hx
  · split at hx
    · simp [A.flag_ne_esc, A.flag_ne_tesc] at hx
    · rename_i hf _
      exact hf (List.mem_singleton.mp hx).symm

theorem takeWhile_stuff (xs rest : List α) :
    (A.stuff xs ++ A.flag :: rest).takeWhile (fun x => decide (x ≠ A.flag)) = A.stuff xs := by
  rw [List.takeWhile_append_of_pos]
  · simp
  · intro x hx
    have hne : x ≠ A.flag := by
      rintro rfl
      exact A.flag_notMem_stuff xs hx
    simpa using hne

end Alphabet
end UhfGs.Stuffing
