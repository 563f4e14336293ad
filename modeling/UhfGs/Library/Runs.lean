import Mathlib.Data.List.Induction

/-! Runs of a system that takes one step for each input. -/
namespace UhfGs.Runs
variable {σ ι : Type*}

/-- Every input of the run has the property in the state that it meets. -/
def Along (step : σ → ι → σ) (P : σ → ι → Prop) : σ → List ι → Prop
  | _, [] => True
  | s, i :: is => P s i ∧ Along step P (step s i) is

theorem along_append {step : σ → ι → σ} {P : σ → ι → Prop} (is js : List ι) (s : σ) :
    Along step P s (is ++ js) ↔ Along step P s is ∧ Along step P (is.foldl step s) js := by
  induction is generalizing s with
  | nil => simp [Along]
  | cons i is ih => rw [List.cons_append, Along, ih, Along, and_assoc, List.foldl_cons]

/-- Two properties that agree wherever the invariant holds agree along a run, if the first one
carries the invariant on. -/
theorem along_congr {step : σ → ι → σ} {P Q : σ → ι → Prop} (inv : σ → Prop)
    (hkeep : ∀ s i, inv s → P s i → inv (step s i)) (hiff : ∀ s i, inv s → (P s i ↔ Q s i))
    (is : List ι) (s : σ) (hs : inv s) : Along step P s is ↔ Along step Q s is := by
  induction is generalizing s with
  | nil => exact Iff.rfl
  | cons i is ih =>
      constructor
      · rintro ⟨hp, hrest⟩
        exact ⟨(hiff s i hs).mp hp, (ih _ (hkeep s i hs hp)).mp hrest⟩
      · rintro ⟨hq, hrest⟩
        have hp := (hiff s i hs).mpr hq
        exact ⟨hp, (ih _ (hkeep s i hs hp)).mpr hrest⟩

theorem Along.const {α : Type*} {step : σ → ι → σ} {f : σ → α} {s : σ} {is : List ι}
    (h : Along step (fun s i => f (step s i) = f s) s is) : f (is.foldl step s) = f s := by
  induction is generalizing s with
  | nil => rfl
  | cons i is ih => exact (ih h.2).trans h.1

/-- A mark that exactly the inputs without the property leave, and that stays, shows at the end
whether all inputs had it. -/
theorem marked_foldl_iff {step : σ → ι → σ} {P : σ → ι → Prop} (marked inv : σ → Prop)
    (hkeep : ∀ s i, inv s → inv (step s i))
    (hmark : ∀ s i, inv s → (marked (step s i) ↔ marked s ∨ ¬ P s i)) {s : σ} {is : List ι}
    (hs : inv s) : marked (is.foldl step s) ↔ marked s ∨ ¬ Along step P s is := by
  induction is generalizing s with
  | nil => simp [Along]
  | cons i is ih =>
      rw [List.foldl_cons, ih (hkeep s i hs), hmark s i hs, or_assoc, Along, not_and_or]

/-- The states that partial steps lead to from a start, while each state left satisfies the
condition. -/
inductive Reaches (step : σ → ι → Option σ) (C : σ → Prop) (s₀ : σ) : σ → Prop where
  | start : Reaches step C s₀ s₀
  | step {s s' : σ} {i : ι} (h : Reaches step C s₀ s) (hc : C s) (hs : step s i = some s') :
      Reaches step C s₀ s'

theorem Reaches.invariant {step : σ → ι → Option σ} {C : σ → Prop} {s₀ s : σ}
    (h : Reaches step C s₀ s) {inv : σ → Prop} (h₀ : inv s₀)
    (hstep : ∀ s i s', inv s → C s → step s i = some s' → inv s') : inv s := by
  induction h with
  | start => exact h₀
  | step _ hc hs ih => exact hstep _ _ _ ih hc hs

/-- The state after a run of inputs, if all are possible and the condition holds before each. -/
def exec (step : σ → ι → Option σ) (C : σ → Prop) [DecidablePred C] : σ → List ι → Option σ
  | s, [] => some s
  | s, i :: is => if C s then (step s i).bind fun s => exec step C s is else none

theorem reaches_of_exec {step : σ → ι → Option σ} {C : σ → Prop} [DecidablePred C] {is : List ι}
    {s₀ s s' : σ} (h₀ : Reaches step C s₀ s) (h : exec step C s is = some s') :
    Reaches step C s₀ s' := by
  induction is generalizing s with
  | nil => exact Option.some.inj h ▸ h₀
  | cons i is ih =>
      rw [exec] at h
      split at h
      · rename_i hc
        obtain ⟨s₁, hs₁, hrest⟩ := Option.bind_eq_some_iff.mp h
        exact ih (h₀.step hc hs₁) hrest
      · cases h

/-- A part of the state that some inputs set anew and no other input touches. `valid` tells whether
it was ever set, `leaves` whether the input sets it to something good. -/
structure Slot (step : σ → ι → σ) (enters : ι → Prop) (valid good : σ → Prop)
    (leaves : σ → ι → Prop) : Prop where
  enter : ∀ s i, enters i → valid (step s i) ∧ (good (step s i) ↔ leaves s i)
  keep : ∀ s i, ¬ enters i → (valid (step s i) ↔ valid s) ∧ (good (step s i) ↔ good s)

namespace Slot
variable {step : σ → ι → σ} {enters : ι → Prop} {valid good : σ → Prop} {leaves : σ → ι → Prop}

theorem foldl_keep (h : Slot step enters valid good leaves) {mid : List ι}
    (hmid : ∀ i ∈ mid, ¬ enters i) (s : σ) :
    (valid (mid.foldl step s) ↔ valid s) ∧ (good (mid.foldl step s) ↔ good s) := by
  induction mid generalizing s with
  | nil => exact ⟨Iff.rfl, Iff.rfl⟩
  | cons i mid ih =>
      obtain ⟨hv, hg⟩ := ih (fun j hj => hmid j (List.mem_cons_of_mem _ hj)) (step s i)
      obtain ⟨hv', hg'⟩ := h.keep s i (hmid i List.mem_cons_self)
      exact ⟨hv.trans hv', hg.trans hg'⟩

theorem foldl_entry (h : Slot step enters valid good leaves) {mid : List ι}
    (hmid : ∀ i ∈ mid, ¬ enters i) {entry : ι} (he : enters entry) (pre : List ι) (s : σ) :
    valid ((pre ++ entry :: mid).foldl step s) ∧
      (good ((pre ++ entry :: mid).foldl step s) ↔ leaves (pre.foldl step s) entry) := by
  rw [List.foldl_append, List.foldl_cons]
  obtain ⟨hv, hg⟩ := h.foldl_keep hmid (step (pre.foldl step s) entry)
  obtain ⟨hv', hg'⟩ := h.enter (pre.foldl step s) entry he
  exact ⟨hv.mpr hv', hg.trans hg'⟩

theorem exists_entry (h : Slot step enters valid good leaves) {is : List ι} {s : σ}
    (hs : ¬ valid s) (hv : valid (is.foldl step s)) :
    ∃ pre entry mid, is = pre ++ entry :: mid ∧ enters entry ∧ ∀ i ∈ mid, ¬ enters i := by
  induction is using List.reverseRecOn with
  | nil => exact absurd hv hs
  | append_singleton is i ih =>
      by_cases hi : enters i
      · exact ⟨is, i, [], rfl, hi, fun j hj => absurd hj List.not_mem_nil⟩
      · rw [List.foldl_append, List.foldl_cons, List.foldl_nil] at hv
        obtain ⟨pre, entry, mid, rfl, he, hmid⟩ := ih ((h.keep _ i hi).1.mp hv)
        refine ⟨pre, entry, mid ++ [i], by simp, he, fun j hj => ?_⟩
        obtain hj | hj := List.mem_append.mp hj
        · exact hmid j hj
        · rwa [List.mem_singleton.mp hj]

/-- Some inputs take an image of the slot, if it is valid. All that a run takes is good and was
set before, exactly if each entry that is the latest when something is taken leaves something
good. -/
theorem taken_iff {α : Type*} (h : Slot step enters valid good leaves) {takes : ι → Prop}
    {taken : σ → ι → Option α} {image : σ → α} (ok : α → Prop)
    (htaken : ∀ s i a, taken s i = some a ↔ takes i ∧ valid s ∧ image s = a)
    (hok : ∀ s, ok (image s) ↔ good s) {s : σ} (hs : ¬ valid s) (is : List ι) :
    (∀ pre i post, is = pre ++ i :: post → ∀ a, taken (pre.foldl step s) i = some a →
      ok a ∧ ∃ entry ∈ pre, enters entry) ↔
    ∀ pre entry mid i post, is = pre ++ entry :: mid ++ i :: post → enters entry →
      (∀ j ∈ mid, ¬ enters j) → takes i → leaves (pre.foldl step s) entry := by
  constructor
  · intro hall pre entry mid i post heq he hmid hi
    obtain ⟨hv, hg⟩ := h.foldl_entry hmid he pre s
    exact hg.mp ((hok _).mp (hall _ i post heq _ ((htaken _ i _).mpr ⟨hi, hv, rfl⟩)).1)
  · intro hall pre i post heq a ha
    obtain ⟨hi, hv, rfl⟩ := (htaken _ i a).mp ha
    obtain ⟨pre, entry, mid, rfl, he, hmid⟩ := h.exists_entry hs hv
    refine ⟨(hok _).mpr ((h.foldl_entry hmid he pre s).2.mpr ?_), entry, by simp, he⟩
    exact hall pre entry mid i post heq he hmid hi

end Slot

/-- Every entry of a history, latest first, has the property over what came before it. -/
def Throughout {α : Type*} (P : α → List α → Prop) : List α → Prop
  | [] => True
  | o :: past => P o past ∧ Throughout P past

theorem Throughout.at {α : Type*} {P : α → List α → Prop} {o : α} {past h : List α}
    (hall : Throughout P h) (hsuffix : o :: past <:+ h) : P o past := by
  induction h with
  | nil => exact absurd (List.suffix_nil.mp hsuffix) (List.cons_ne_nil _ _)
  | cons o' h ih =>
      obtain heq | hrest := List.suffix_cons_iff.mp hsuffix
      · obtain ⟨rfl, rfl⟩ := List.cons.inj heq
        exact hall.1
      · exact ih hall.2 hrest

end UhfGs.Runs
