import Mathlib.Data.Finset.Card
import Mathlib.Data.Finset.Range
import Mathlib.Data.List.Basic
import Mathlib.Logic.Function.Basic

/-! The descriptors of a process. The kernel gives out the lowest one that is not in use. -/
namespace UhfGs.Descriptors
variable {α : Type*}

abbrev Table (α : Type*) := Nat → Option α

def lowest (size : Nat) (t : Table α) : Option Nat :=
  (List.range size).find? fun fd => (t fd).isNone

def alloc (size : Nat) (t : Table α) (a : α) : Option (Nat × Table α) :=
  (lowest size t).map fun fd => (fd, Function.update t fd (some a))

def release (t : Table α) (fd : Nat) : Table α := Function.update t fd none

def tryOpen (size : Nat) (ok : Bool) (t : Table α) (a : α) : Option (Nat × Table α) :=
  if ok then alloc size t a else none

def openClose (size : Nat) (ok : Bool) (t : Table α) (a : α) : Option (Table α) :=
  (tryOpen size ok t a).map fun new => release new.2 new.1

def free (size : Nat) (t : Table α) : Finset Nat :=
  (Finset.range size).filter fun fd => (t fd).isNone

def CanOpen (size : Nat) (ok : Bool) (t : Table α) : Prop := ok = true ∧ 0 < (free size t).card

def without [DecidableEq α] (a : α) (t : Table α) : Table α :=
  fun fd => if t fd = some a then none else t fd

variable {size fd : Nat} {ok : Bool} {t t' : Table α} {a : α}

theorem lowest_eq_some (h : lowest size t = some fd) :
    fd < size ∧ t fd = none ∧ ∀ k < fd, t k ≠ none := by
  obtain ⟨hfree, i, hi, hget, hbelow⟩ := List.find?_eq_some_iff_getElem.mp h
  simp only [List.getElem_range] at hget hbelow
  subst hget
  refine ⟨by simpa using hi, Option.isNone_iff_eq_none.mp hfree, fun k hk hnone => ?_⟩
  have hused := hbelow k hk
  simp [hnone] at hused

theorem alloc_eq_some (h : alloc size t a = some (fd, t')) :
    fd < size ∧ t fd = none ∧ t' = Function.update t fd (some a) := by
  obtain ⟨k, hk, heq⟩ := Option.map_eq_some_iff.mp h
  obtain ⟨rfl, rfl⟩ := Prod.mk.inj heq
  exact ⟨(lowest_eq_some hk).1, (lowest_eq_some hk).2.1, rfl⟩

theorem release_alloc (h : alloc size t a = some (fd, t')) : release t' fd = t := by
  obtain ⟨-, hfree, rfl⟩ := alloc_eq_some h
  rw [release, Function.update_idem, ← hfree, Function.update_eq_self]

theorem isSome_tryOpen : (tryOpen size ok t a).isSome ↔ CanOpen size ok t := by
  have hlowest : (lowest size t).isSome ↔ (free size t).Nonempty := by
    simp only [lowest, free, List.find?_isSome, List.mem_range, Finset.Nonempty, Finset.mem_filter,
      Finset.mem_range]
  unfold CanOpen tryOpen
  cases ok with
  | false => simp
  | true => simp only [alloc, if_true, Option.isSome_map, hlowest, Finset.card_pos, true_and]

theorem CanOpen.exists (h : CanOpen size ok t) (a : α) :
    ∃ fd t', tryOpen size ok t a = some (fd, t') := by
  obtain ⟨new, hnew⟩ := Option.isSome_iff_exists.mp (isSome_tryOpen.mpr h)
  exact ⟨new.1, new.2, hnew⟩

theorem tryOpen_eq_none (h : ¬ CanOpen size ok t) (a : α) : tryOpen size ok t a = none :=
  Option.not_isSome_iff_eq_none.mp fun hsome => h (isSome_tryOpen.mp hsome)

theorem canOpen_of_tryOpen (h : tryOpen size ok t a = some (fd, t')) : CanOpen size ok t :=
  isSome_tryOpen.mp (Option.isSome_of_eq_some h)

theorem tryOpen_eq_some (h : tryOpen size ok t a = some (fd, t')) :
    t fd = none ∧ t' = Function.update t fd (some a) := by
  unfold tryOpen at h
  split at h
  · exact (alloc_eq_some h).2
  · cases h

theorem card_free_tryOpen (h : tryOpen size ok t a = some (fd, t')) :
    (free size t').card + 1 = (free size t).card := by
  unfold tryOpen at h
  split at h
  · obtain ⟨hlt, hnone, rfl⟩ := alloc_eq_some h
    have hmem : fd ∈ free size t := by simp [free, hlt, hnone]
    have herase : free size (Function.update t fd (some a)) = (free size t).erase fd := by
      ext k
      by_cases hk : k = fd
      · subst hk
        simp [free]
      · simp [free, hk]
    rw [herase, Finset.card_erase_add_one hmem]
  · cases h

theorem release_tryOpen (h : tryOpen size ok t a = some (fd, t')) : release t' fd = t := by
  unfold tryOpen at h
  split at h
  · exact release_alloc h
  · cases h

theorem openClose_eq_some (h : openClose size ok t a = some t') : t' = t := by
  obtain ⟨new, hnew, rfl⟩ := Option.map_eq_some_iff.mp h
  exact release_tryOpen hnew

theorem update_eq_some_iff {k : Nat} {b : α} (h : t fd = none) :
    Function.update t fd (some a) k = some b ↔ (k = fd ∧ a = b) ∨ t k = some b := by
  by_cases hk : k = fd
  · subst hk
    simp [h]
  · simp [hk]

theorem release_eq_some_iff {k : Nat} {b : α} :
    release t fd k = some b ↔ k ≠ fd ∧ t k = some b := by
  by_cases hk : k = fd
  · subst hk
    simp [release]
  · simp [release, hk]

section
variable [DecidableEq α] {b : α}

theorem without_update_self (h : t fd = none) :
    without a (Function.update t fd (some a)) = without a t := by
  funext k
  by_cases hk : k = fd
  · subst hk
    simp [without, h]
  · simp [without, hk]

theorem without_release (h : t fd = some a) : without a (release t fd) = without a t := by
  funext k
  by_cases hk : k = fd
  · subst hk
    simp [without, release, h]
  · simp [without, release, hk]

theorem without_update_ne (h : t fd = none) (hb : b ≠ a) :
    without a (Function.update t fd (some b)) ≠ without a t := by
  intro heq
  have hfd := congrFun heq fd
  simp [without, h, hb] at hfd

end
end UhfGs.Descriptors
