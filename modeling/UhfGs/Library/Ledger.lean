import Mathlib.Data.List.Nodup
import Mathlib.Logic.Function.Basic

/-! Files that are written one after another, and what each is meant to keep. -/
namespace UhfGs
variable {K V : Type*}

/-- The files by their names, and the entries so far: each with its file and the content that
shall stay there. -/
structure Ledger (K V : Type*) where
  files : K → Option V
  entries : List (K × V)

namespace Ledger

def empty : Ledger K V := ⟨fun _ => none, []⟩

def names (l : Ledger K V) : List K := l.entries.map Prod.fst

/-- Every entry is still there, in a file of its own. -/
structure Intact (l : Ledger K V) : Prop where
  kept : ∀ e ∈ l.entries, l.files e.1 = some e.2
  own : l.names.Nodup

def Closed (l : Ledger K V) : Prop := ∀ name ∉ l.names, l.files name = none

theorem closed_empty : (empty : Ledger K V).Closed := fun _ _ => rfl

theorem intact_empty : (empty : Ledger K V).Intact :=
  ⟨fun _ h => absurd h List.not_mem_nil, List.nodup_nil⟩

theorem mem_names {l : Ledger K V} {e : K × V} (h : e ∈ l.entries) : e.1 ∈ l.names :=
  List.mem_map.mpr ⟨e, h, rfl⟩

variable [DecidableEq K]

/-- Write to a file: `f` makes its new content of the old one, `want` is what it shall keep. -/
def record (l : Ledger K V) (name : K) (f : Option V → V) (want : V) : Ledger K V where
  files := Function.update l.files name (some (f (l.files name)))
  entries := (name, want) :: l.entries

variable {l : Ledger K V} {name : K} {f : Option V → V} {want : V}

@[simp] theorem names_record : (l.record name f want).names = name :: l.names := rfl

@[simp] theorem record_files_self :
    (l.record name f want).files name = some (f (l.files name)) := Function.update_self _ _ _

theorem record_files_of_ne {other : K} (h : other ≠ name) :
    (l.record name f want).files other = l.files other := Function.update_of_ne h _ _

theorem Closed.record (h : l.Closed) : (l.record name f want).Closed := by
  intro other hother
  rw [names_record, List.mem_cons, not_or] at hother
  rw [record_files_of_ne hother.1]
  exact h other hother.2

/-- A write leaves everything intact exactly when it makes a new file with the right content. -/
theorem intact_record_iff (h : l.Closed) : (l.record name f want).Intact ↔
    l.Intact ∧ name ∉ l.names ∧ f none = want := by
  constructor
  · rintro ⟨hkept, hown⟩
    rw [names_record, List.nodup_cons] at hown
    obtain ⟨hnew, hold⟩ := hown
    refine ⟨⟨fun e he => ?_, hold⟩, hnew, ?_⟩
    · have hne : e.1 ≠ name := fun heq => hnew (heq ▸ mem_names he)
      rw [← hkept e (List.mem_cons_of_mem _ he), record_files_of_ne hne]
    · have hfile := hkept (name, want) List.mem_cons_self
      rw [record_files_self, h name hnew] at hfile
      exact Option.some.inj hfile
  · rintro ⟨⟨hkept, hown⟩, hnew, hf⟩
    refine ⟨fun e he => ?_, List.nodup_cons.mpr ⟨hnew, hown⟩⟩
    obtain rfl | he := List.mem_cons.mp he
    · rw [record_files_self, h name hnew, hf]
    · have hne : e.1 ≠ name := fun heq => hnew (heq ▸ mem_names he)
      rw [record_files_of_ne hne]
      exact hkept e he

end Ledger
end UhfGs
