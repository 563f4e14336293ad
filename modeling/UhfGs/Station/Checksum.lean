import UhfGs.Station.Elements

/-! What `KepCheck` makes of the checksums of an element set. -/
namespace UhfGs.Station
open CString TextLines

/-- What a character counts in the checksum of a line. -/
def digitValue (c : UInt8) : Nat := if isdigit c then c.toNat - 48 else if c = 45 then 1 else 0

def digitSum (line : List UInt8) : Nat :=
  ((List.range 68).map fun x => digitValue (byteAt line x)).sum

/-- The digit in column 68 is that of the sum of the columns before it. -/
def Summed (line : List UInt8) : Prop :=
  isdigit (byteAt line 68) ∧ digitSum line % 10 = digitValue (byteAt line 68)

instance (line : List UInt8) : Decidable (Summed line) := by
  unfold Summed
  infer_instance

/-- What `KepCheck` tests besides the sums. -/
structure TortureTest (line1 line2 : List UInt8) : Prop where
  layout1 : HasLayout line1 layout1
  layout2 : HasLayout line2 layout2
  catalogue : ∀ x ∈ [2, 3, 4, 5, 6], byteAt line1 x = byteAt line2 x
  digits1 : ∀ x ∈ [18, 19, 68], isdigit (byteAt line1 x)
  digits2 : ∀ x ∈ [31, 32, 68], isdigit (byteAt line2 x)

def tableSum (below : UInt8 → UInt8) (line : List UInt8) : Nat :=
  ((List.range 68).map fun x => (val below (byteAt line x)).toNat).sum

/-- One digit typed for another, in the first or the second line. -/
inductive Slip where
  | first (column : Nat) (digit : UInt8)
  | second (column : Nat) (digit : UInt8)
  deriving DecidableEq, Repr

namespace Slip

def line1 : Slip → List UInt8 → List UInt8
  | first column digit, line => line.set column digit
  | second _ _, line => line

def line2 : Slip → List UInt8 → List UInt8
  | first _ _, line => line
  | second column digit, line => line.set column digit

def Changes (line : List UInt8) (column : Nat) (digit : UInt8) : Prop :=
  column < 68 ∧ isdigit (byteAt line column) ∧ isdigit digit ∧ digit ≠ byteAt line column

def Within (line1 line2 : List UInt8) : Slip → Prop
  | first column digit => Changes line1 column digit
  | second column digit => Changes line2 column digit

/-- The number of the line, the catalogue number, and in the first line the 0 before the number of
the set. -/
def Noticed : Slip → Prop
  | first column _ => column = 0 ∨ column = 62 ∨ 2 ≤ column ∧ column ≤ 6
  | second column _ => column = 0 ∨ 2 ≤ column ∧ column ≤ 6

end Slip

theorem val_of_isdigit (below : UInt8 → UInt8) {c : UInt8} (h : isdigit c) : val below c = 0 := by
  have hle : c ≤ 57 := by
    simp only [isdigit, decide_eq_true_eq] at h
    exact h.2
  exact if_pos (UInt8.lt_of_le_of_lt hle (by decide))

theorem tableSum_of_ascii (below : UInt8 → UInt8) {line : List UInt8}
    (h : ∀ x < 68, byteAt line x < 128) : tableSum below line = 0 := by
  rw [tableSum, List.sum_eq_zero_iff_forall_eq_nat]
  intro n hn
  obtain ⟨x, hx, rfl⟩ := List.mem_map.mp hn
  rw [val, if_pos (h x (List.mem_range.mp hx))]
  rfl

theorem checksumOk_iff {below : UInt8 → UInt8} {line : List UInt8} (h : isdigit (byteAt line 68)) :
    checksumOk below line ↔ tableSum below line % 10 = 0 := by
  rw [checksumOk, val_of_isdigit below h, decide_eq_true_eq]
  exact eq_comm

/-- The sums play no part beyond characters that are not ASCII. -/
theorem kepCheck_iff (below : UInt8 → UInt8) (line1 line2 : List UInt8) :
    kepCheck below line1 line2 ↔
      TortureTest line1 line2 ∧ tableSum below line1 % 10 = 0 ∧ tableSum below line2 % 10 = 0 := by
  rw [kepCheck, decide_eq_true_eq]
  constructor
  · rintro ⟨hsum1, hsum2, hl1, hl2, hcat, h168, h268, h118, h119, h231, h232⟩
    refine ⟨⟨hl1, hl2, ?_, ?_, ?_⟩, (checksumOk_iff h168).mp hsum1, (checksumOk_iff h268).mp hsum2⟩
    · simpa using hcat
    · simpa using ⟨h118, h119, h168⟩
    · simpa using ⟨h231, h232, h268⟩
  · rintro ⟨⟨hl1, hl2, hcat, hd1, hd2⟩, hsum1, hsum2⟩
    have h168 := hd1 68 (by decide)
    have h268 := hd2 68 (by decide)
    exact ⟨(checksumOk_iff h168).mpr hsum1, (checksumOk_iff h268).mpr hsum2, hl1, hl2,
      by simpa using hcat, h168, h268, hd1 18 (by decide), hd1 19 (by decide), hd2 31 (by decide),
      hd2 32 (by decide)⟩

theorem isSome_setTLE_iff (below : UInt8 → UInt8) (line1 line2 : List UInt8) :
    (setTLE below line1 line2).isSome ↔ kepCheck below line1 line2 := by
  unfold setTLE
  split <;> simp_all

section
variable {line : List UInt8} {column : Nat} {digit : UInt8}

theorem byteAt_set_self (h : column < line.length) : byteAt (line.set column digit) column = digit := by
  simp [byteAt, h]

theorem byteAt_set_of_ne {x : Nat} (h : x ≠ column) :
    byteAt (line.set column digit) x = byteAt line x := by
  simp [byteAt, List.getD, List.getElem?_set_ne (Ne.symm h)]

theorem tableSum_set (below : UInt8 → UInt8) (hlen : column < line.length)
    (h : Slip.Changes line column digit) :
    tableSum below (line.set column digit) = tableSum below line := by
  obtain ⟨-, hold, hnew, -⟩ := h
  unfold tableSum
  congr 2
  funext x
  by_cases hx : x = column
  · rw [hx, byteAt_set_self hlen, val_of_isdigit below hnew, val_of_isdigit below hold]
  · rw [byteAt_set_of_ne hx]

theorem isdigit_set (hlen : column < line.length) (h : Slip.Changes line column digit) {x : Nat}
    (hx : isdigit (byteAt line x)) : isdigit (byteAt (line.set column digit) x) := by
  by_cases heq : x = column
  · rw [heq, byteAt_set_self hlen]
    exact h.2.2.1
  · rwa [byteAt_set_of_ne heq]

theorem hasLayout_set_iff (layout : List (Nat × Char)) (fixed : List Nat)
    (hfixed : ∀ place ∈ layout, isdigit (UInt8.ofNat place.2.toNat) → place.1 ∈ fixed)
    (hplaced : ∀ x ∈ fixed, ∃ place ∈ layout, place.1 = x) (hlen : column < line.length)
    (h : Slip.Changes line column digit) (hlayout : HasLayout line layout) :
    HasLayout (line.set column digit) layout ↔ column ∉ fixed := by
  obtain ⟨-, hold, -, hne⟩ := h
  simp only [HasLayout, List.all_eq_true, decide_eq_true_eq] at hlayout ⊢
  constructor
  · intro hset hmem
    obtain ⟨place, hplace, rfl⟩ := hplaced column hmem
    have hnew := hset place hplace
    rw [byteAt_set_self hlen] at hnew
    exact hne (hnew.trans (hlayout place hplace).symm)
  · intro hnot place hplace
    by_cases heq : place.1 = column
    · rw [← heq, hlayout place hplace] at hold
      exact absurd (heq ▸ hfixed place hplace hold) hnot
    · rw [byteAt_set_of_ne heq]
      exact hlayout place hplace

theorem catalogue_set_iff {other : List UInt8} (hlen : column < line.length)
    (h : Slip.Changes line column digit)
    (hsame : ∀ x ∈ [2, 3, 4, 5, 6], byteAt line x = byteAt other x) :
    (∀ x ∈ [2, 3, 4, 5, 6], byteAt (line.set column digit) x = byteAt other x) ↔
      ¬ (2 ≤ column ∧ column ≤ 6) := by
  have hmem : column ∈ [2, 3, 4, 5, 6] ↔ 2 ≤ column ∧ column ≤ 6 := by
    simp only [List.mem_cons, List.not_mem_nil, or_false]
    omega
  rw [← hmem]
  constructor
  · intro hall hcolumn
    have hnew := hall column hcolumn
    rw [byteAt_set_self hlen] at hnew
    exact h.2.2.2 (hnew.trans (hsame column hcolumn).symm)
  · intro hnot x hx
    have hne : x ≠ column := fun heq => hnot (by rwa [← heq])
    rw [byteAt_set_of_ne hne]
    exact hsame x hx

end

theorem torture_slip_iff {line1 line2 : List UInt8} (h1 : line1.length = 69)
    (h2 : line2.length = 69) (htest : TortureTest line1 line2) {slip : Slip}
    (hslip : slip.Within line1 line2) :
    TortureTest (slip.line1 line1) (slip.line2 line2) ↔ ¬ slip.Noticed := by
  cases slip with
  | first column digit =>
      have hlen : column < line1.length := h1 ▸ hslip.1.trans (by decide)
      have hlayout := hasLayout_set_iff layout1 [0, 62] (by decide)
        (by decide) hlen hslip htest.layout1
      have hcatalogue := catalogue_set_iff hlen hslip htest.catalogue
      constructor
      · rintro ht (h0 | h62 | hcolumn)
        · exact hlayout.mp ht.layout1 (by simp [h0])
        · exact hlayout.mp ht.layout1 (by simp [h62])
        · exact hcatalogue.mp ht.catalogue hcolumn
      · intro hnot
        simp only [Slip.Noticed, not_or] at hnot
        exact ⟨hlayout.mpr (by simp [hnot.1, hnot.2.1]), htest.layout2, hcatalogue.mpr hnot.2.2,
          fun x hx => isdigit_set hlen hslip (htest.digits1 x hx), htest.digits2⟩
  | second column digit =>
      have hlen : column < line2.length := h2 ▸ hslip.1.trans (by decide)
      have hlayout := hasLayout_set_iff layout2 [0] (by decide)
        (by decide) hlen hslip htest.layout2
      have hcatalogue := catalogue_set_iff hlen hslip fun x hx => (htest.catalogue x hx).symm
      constructor
      · rintro ht (h0 | hcolumn)
        · exact hlayout.mp ht.layout2 (by simp [h0])
        · exact hcatalogue.mp (fun x hx => (ht.catalogue x hx).symm) hcolumn
      · intro hnot
        simp only [Slip.Noticed, not_or] at hnot
        exact ⟨htest.layout1, hlayout.mpr (by simp [hnot.1]),
          fun x hx => (hcatalogue.mpr hnot.2 x hx).symm, htest.digits1,
          fun x hx => isdigit_set hlen hslip (htest.digits2 x hx)⟩

theorem kepCheck_slip_iff {below : UInt8 → UInt8} {line1 line2 : List UInt8}
    (h1 : line1.length = 69) (h2 : line2.length = 69) (hcheck : kepCheck below line1 line2)
    {slip : Slip} (hslip : slip.Within line1 line2) :
    kepCheck below (slip.line1 line1) (slip.line2 line2) ↔ ¬ slip.Noticed := by
  obtain ⟨htest, hsum1, hsum2⟩ := (kepCheck_iff below line1 line2).mp hcheck
  have hkeep1 : tableSum below (slip.line1 line1) = tableSum below line1 := by
    cases slip with
    | first column digit => exact tableSum_set below (h1 ▸ hslip.1.trans (by decide)) hslip
    | second column digit => rfl
  have hkeep2 : tableSum below (slip.line2 line2) = tableSum below line2 := by
    cases slip with
    | first column digit => rfl
    | second column digit => exact tableSum_set below (h2 ▸ hslip.1.trans (by decide)) hslip
  rw [kepCheck_iff, hkeep1, hkeep2, torture_slip_iff h1 h2 htest hslip]
  exact and_iff_left ⟨hsum1, hsum2⟩

theorem accepted_summed_iff (below : UInt8 → UInt8) (line1 line2 : List UInt8) :
    ((setTLE below line1 line2).isSome → Summed line1 ∧ Summed line2) ↔
      ¬ TortureTest line1 line2 ∨ tableSum below line1 % 10 ≠ 0 ∨ tableSum below line2 % 10 ≠ 0 ∨
        Summed line1 ∧ Summed line2 := by
  rw [isSome_setTLE_iff, kepCheck_iff, imp_iff_not_or, not_and_or, not_and_or, or_assoc, or_assoc]

/-- Lines that pass the other tests are accepted whatever their checksums are, at any rate where
they are ASCII, and of the digits that may change only those in a few columns are noticed. -/
theorem setTLE_checksum_iff (below : UInt8 → UInt8) {line1 line2 : List UInt8}
    (h1 : line1.length = 69) (h2 : line2.length = 69) :
    (((setTLE below line1 line2).isSome → Summed line1 ∧ Summed line2) ↔
      ¬ TortureTest line1 line2 ∨ tableSum below line1 % 10 ≠ 0 ∨ tableSum below line2 % 10 ≠ 0 ∨
        Summed line1 ∧ Summed line2) ∧
    ((∀ x < 68, byteAt line1 x < 128 ∧ byteAt line2 x < 128) →
      (((setTLE below line1 line2).isSome → Summed line1 ∧ Summed line2) ↔
        ¬ TortureTest line1 line2 ∨ Summed line1 ∧ Summed line2)) ∧
    ((setTLE below line1 line2).isSome → ∀ slip : Slip, slip.Within line1 line2 →
      (setTLE below (slip.line1 line1) (slip.line2 line2) = none ↔ slip.Noticed)) := by
  refine ⟨accepted_summed_iff below line1 line2, ?_, ?_⟩
  · intro hascii
    have hsum1 := tableSum_of_ascii below fun x hx => (hascii x hx).1
    have hsum2 := tableSum_of_ascii below fun x hx => (hascii x hx).2
    rw [accepted_summed_iff, hsum1, hsum2]
    simp
  · intro haccepted slip hslip
    rw [isSome_setTLE_iff] at haccepted
    rw [← Option.not_isSome_iff_eq_none, isSome_setTLE_iff,
      kepCheck_slip_iff h1 h2 haccepted hslip, not_not]

/-- `1 56309U 23057A   23113.19178240  .00000000  00000-0  00000-0 0  9990` -/
def sampleLine1 : List UInt8 :=
  [49, 32, 53, 54, 51, 48, 57, 85, 32, 50, 51, 48, 53, 55, 65, 32, 32, 32, 50, 51, 49, 49, 51,
   46, 49, 57, 49, 55, 56, 50, 52, 48, 32, 32, 46, 48, 48, 48, 48, 48, 48, 48, 48, 32, 32, 48,
   48, 48, 48, 48, 45, 48, 32, 32, 48, 48, 48, 48, 48, 45, 48, 32, 48, 32, 32, 57, 57, 57, 48]

/-- `2 56309   9.9823 123.0000 0012345  12.3456 234.5678 14.98765432 12345` -/
def sampleLine2 : List UInt8 :=
  [50, 32, 53, 54, 51, 48, 57, 32, 32, 32, 57, 46, 57, 56, 50, 51, 32, 49, 50, 51, 46, 48, 48,
   48, 48, 32, 48, 48, 49, 50, 51, 52, 53, 32, 32, 49, 50, 46, 51, 52, 53, 54, 32, 50, 51, 52,
   46, 53, 54, 55, 56, 32, 49, 52, 46, 57, 56, 55, 54, 53, 52, 51, 50, 32, 49, 50, 51, 52, 53]

theorem setTLE_checksum_sample :
    (¬ ((setTLE (fun _ => 0) sampleLine1 sampleLine2).isSome →
      Summed sampleLine1 ∧ Summed sampleLine2)) ∧
    (setTLE (fun _ => 0) ((Slip.first 18 57).line1 sampleLine1) sampleLine2).isSome := by
  have h1 : sampleLine1.length = 69 := by decide +kernel
  have h2 : sampleLine2.length = 69 := by decide +kernel
  have hchecks := setTLE_checksum_iff (fun _ => 0) h1 h2
  constructor
  · rw [hchecks.2.1 (by decide +kernel), not_or, not_not]
    exact ⟨⟨by decide +kernel, by decide +kernel, by decide +kernel, by decide +kernel,
      by decide +kernel⟩, by decide +kernel⟩
  · have hnoticed := (hchecks.2.2 (by decide +kernel) (.first 18 57)
      ⟨by decide, by decide +kernel, by decide, by decide +kernel⟩).not
    rw [Option.isSome_iff_ne_none]
    exact hnoticed.mpr (by simp [Slip.Noticed])

/-- Both checksums are wrong. -/
theorem setTLE_accepts_unsummed :
    ¬ ∀ (below : UInt8 → UInt8) (line1 line2 : List UInt8), line1.length = 69 →
      line2.length = 69 → (setTLE below line1 line2).isSome → Summed line1 ∧ Summed line2 := by
  intro h
  have hsummed := h (fun _ => 0) sampleLine1 sampleLine2 (by decide +kernel) (by decide +kernel)
    (by decide +kernel)
  exact absurd hsummed (by decide +kernel)

end UhfGs.Station
