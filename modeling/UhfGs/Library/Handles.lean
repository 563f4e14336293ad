import Mathlib.Data.List.Basic
import Mathlib.Data.Set.Insert
import Mathlib.Logic.Function.Basic
import UhfGs.Library.Runs

/-! Traces of a program that acquires handles, uses the memory behind them and gives them up. -/
namespace UhfGs.Handles
variable {H : Type*}

inductive Event (H : Type*) where
  | acquire (h : H) (size : Nat)
  | use (h : H) (off len : Nat)
  | dispose (h : H)
  /-- A handle is used that was never given. -/
  | null
  deriving DecidableEq, Repr

def Uses (t : List (Event H)) : Prop := ∀ e ∈ t, ∃ h off len, e = .use h off len

theorem Uses.append {t u : List (Event H)} (ht : Uses t) (hu : Uses u) : Uses (t ++ u) := by
  intro e he
  obtain he | he := List.mem_append.mp he
  · exact ht e he
  · exact hu e he

theorem uses_nil : Uses ([] : List (Event H)) := fun _ he => absurd he List.not_mem_nil

theorem uses_singleton (h : H) (off len : Nat) : Uses [Event.use h off len] :=
  fun _ he => ⟨h, off, len, List.mem_singleton.mp he⟩

/-- `n` elements of `size` bytes, one behind the other from offset `first` on. -/
def elements (h : H) (first size n : Nat) : List (Event H) :=
  (List.range n).map fun i => .use h (first + size * i) size

theorem uses_elements (h : H) (first size n : Nat) : Uses (elements h first size n) := by
  intro e he
  obtain ⟨i, -, rfl⟩ := List.mem_map.mp he
  exact ⟨h, first + size * i, size, rfl⟩

variable [DecidableEq H]

def Event.acquires (h : H) : Event H → Bool
  | .acquire h' _ => h' = h
  | _ => false

/-- Each handle acquired is given up exactly once, and no other is. -/
def Balanced (t : List (Event H)) : Prop :=
  ∀ h, t.countP (Event.acquires h) ≤ 1 ∧ t.count (.dispose h) = t.countP (Event.acquires h)

theorem Uses.countP_acquires {t : List (Event H)} (ht : Uses t) (h : H) :
    t.countP (Event.acquires h) = 0 := by
  rw [List.countP_eq_zero]
  intro e he
  obtain ⟨h', off, len, rfl⟩ := ht e he
  exact Bool.false_ne_true

theorem Uses.balanced {t : List (Event H)} (ht : Uses t) : Balanced t := by
  intro h
  have hdispose : t.count (.dispose h) = 0 := by
    rw [List.count_eq_zero]
    intro he
    obtain ⟨h', off, len, heq⟩ := ht _ he
    cases heq
  rw [ht.countP_acquires h, hdispose]
  exact ⟨Nat.zero_le 1, rfl⟩

theorem Balanced.append {t u : List (Event H)} (ht : Balanced t) (hu : Balanced u)
    (hdisj : ∀ h, t.countP (Event.acquires h) = 0 ∨ u.countP (Event.acquires h) = 0) :
    Balanced (t ++ u) := by
  intro h
  obtain ⟨ht₁, ht₂⟩ := ht h
  obtain ⟨hu₁, hu₂⟩ := hu h
  rw [List.countP_append, List.count_append, ht₂, hu₂]
  obtain h0 | h0 := hdisj h
  · rw [h0]
    omega
  · rw [h0]
    omega

theorem Balanced.scope {t : List (Event H)} (ht : Balanced t) (h : H) (size : Nat)
    (hnew : t.countP (Event.acquires h) = 0) :
    Balanced (.acquire h size :: t ++ [.dispose h]) := by
  intro a
  obtain ⟨ht₁, ht₂⟩ := ht a
  by_cases ha : h = a
  · subst ha
    rw [hnew] at ht₂
    simp [List.countP_append, List.count_append, Event.acquires, hnew, ht₂]
  · have hne : ¬ (Event.dispose h : Event H) = .dispose a := fun heq => ha (Event.dispose.inj heq)
    simp [List.countP_append, List.count_append, Event.acquires, ha, hne, ht₁, ht₂]

theorem Balanced.dispose_notMem {t : List (Event H)} {h : H}
    (ht : Balanced (t ++ [.dispose h])) : .dispose h ∉ t := by
  obtain ⟨hone, hcount⟩ := ht h
  rw [← hcount, List.count_append, List.count_singleton_self] at hone
  exact List.count_eq_zero.mp (by omega)

/-- A trace that settles all it acquires, which is in the set, and uses nothing it was not
given. -/
structure Settled (S : Set H) (t : List (Event H)) : Prop where
  valid : .null ∉ t
  balanced : Balanced t
  fresh : ∀ h ∉ S, t.countP (Event.acquires h) = 0

theorem Uses.settled {t : List (Event H)} (ht : Uses t) : Settled ∅ t where
  valid he := by
    obtain ⟨h, off, len, heq⟩ := ht _ he
    cases heq
  balanced := ht.balanced
  fresh h _ := ht.countP_acquires h

namespace Settled
variable {S T : Set H} {t u : List (Event H)}

theorem mono (ht : Settled S t) (hST : S ⊆ T) : Settled T t :=
  ⟨ht.valid, ht.balanced, fun h hh => ht.fresh h fun hS => hh (hST hS)⟩

theorem append (ht : Settled S t) (hu : Settled T u) (hdisj : ∀ h ∈ S, h ∉ T) :
    Settled (S ∪ T) (t ++ u) where
  valid he := (List.mem_append.mp he).elim ht.valid hu.valid
  balanced := ht.balanced.append hu.balanced fun h => by
    by_cases hS : h ∈ S
    · exact .inr (hu.fresh h (hdisj h hS))
    · exact .inl (ht.fresh h hS)
  fresh h hh := by
    rw [Set.mem_union, not_or] at hh
    rw [List.countP_append, ht.fresh h hh.1, hu.fresh h hh.2]

theorem scope (ht : Settled S t) {h : H} (hS : h ∉ S) (size : Nat) :
    Settled (insert h S) (.acquire h size :: t ++ [.dispose h]) where
  valid he := by
    have : .null ∈ t := by simpa using he
    exact ht.valid this
  balanced := ht.balanced.scope h size (ht.fresh h hS)
  fresh a ha := by
    rw [Set.mem_insert_iff, not_or] at ha
    have hne : ¬ h = a := fun heq => ha.1 heq.symm
    simp [List.countP_append, Event.acquires, hne, ht.fresh a ha.2]

theorem perm (ht : Settled S t) (hperm : t.Perm u) : Settled S u where
  valid he := ht.valid (hperm.mem_iff.mpr he)
  balanced h := by
    rw [← hperm.countP_eq, ← hperm.count_eq]
    exact ht.balanced h
  fresh h hh := by
    rw [← hperm.countP_eq]
    exact ht.fresh h hh

end Settled

def held : (H → Option Nat) → Event H → H → Option Nat
  | l, .acquire h size => Function.update l h (some size)
  | l, .dispose h => Function.update l h none
  | l, _ => l

def Event.Within (l : H → Option Nat) : Event H → Prop
  | .use h off len => ∃ size, l h = some size ∧ off + len ≤ size
  | _ => True

def Inside : (H → Option Nat) → List (Event H) → Prop := Runs.Along held Event.Within

theorem inside_append (l : H → Option Nat) (t u : List (Event H)) :
    Inside l (t ++ u) ↔ Inside l t ∧ Inside (t.foldl held l) u :=
  Runs.along_append t u l

theorem Uses.foldl_held {t : List (Event H)} (ht : Uses t) (l : H → Option Nat) :
    t.foldl held l = l := by
  induction t with
  | nil => rfl
  | cons e t ih =>
      obtain ⟨h, off, len, rfl⟩ := ht e List.mem_cons_self
      exact ih fun e he => ht e (List.mem_cons_of_mem _ he)

theorem Uses.inside_iff {t : List (Event H)} (ht : Uses t) (l : H → Option Nat) :
    Inside l t ↔ ∀ e ∈ t, e.Within l := by
  induction t with
  | nil => exact iff_of_true trivial fun _ he => absurd he List.not_mem_nil
  | cons e t ih =>
      obtain ⟨h, off, len, rfl⟩ := ht e List.mem_cons_self
      rw [List.forall_mem_cons]
      exact and_congr_right fun _ => ih fun e he => ht e (List.mem_cons_of_mem _ he)

theorem inside_elements_iff {l : H → Option Nat} {h : H} {len : Nat} (hl : l h = some len)
    (first size n : Nat) :
    Inside l (elements h first size n) ↔ n = 0 ∨ first + size * n ≤ len := by
  rw [(uses_elements h first size n).inside_iff]
  constructor
  · intro hall
    cases n with
    | zero => exact .inl rfl
    | succ n =>
        obtain ⟨len', hlen', hlast⟩ := hall (.use h (first + size * n) size)
          (List.mem_map.mpr ⟨n, List.mem_range.mpr n.lt_succ_self, rfl⟩)
        cases hl.symm.trans hlen'
        exact .inr (by rwa [Nat.mul_succ, ← Nat.add_assoc])
  · intro hn e he
    obtain ⟨i, hi, rfl⟩ := List.mem_map.mp he
    have hin : i < n := List.mem_range.mp hi
    have hle : size * (i + 1) ≤ size * n := Nat.mul_le_mul_left size hin
    rw [Nat.mul_succ] at hle
    exact ⟨len, hl, by omega⟩

end UhfGs.Handles
