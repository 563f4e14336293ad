import Mathlib.Algebra.GroupWithZero.Nat
import Mathlib.Algebra.Ring.Int.Defs
import Mathlib.Data.Int.Basic
import Mathlib.Data.List.TakeWhile

/-! Decimal strings as the C library writes and reads them. Strings are the
characters before the terminating NUL. -/
namespace UhfGs.CString

def sprintfD : Int → List Char
  | .ofNat n => Nat.toDigits 10 n
  | .negSucc n => '-' :: Nat.toDigits 10 (n + 1)

def isspace (c : Char) : Bool := c = ' ' || (9 ≤ c.toNat && c.toNat ≤ 13)

def leadingDigits (s : List Char) : Nat := Nat.ofDigitChars 10 (s.takeWhile Char.isDigit) 0

def atoi (s : List Char) : Int :=
  match s.dropWhile isspace with
  | '-' :: ds => -(leadingDigits ds : Int)
  | '+' :: ds => leadingDigits ds
  | ds => leadingDigits ds

theorem leadingDigits_toDigits (n : Nat) : leadingDigits (Nat.toDigits 10 n) = n := by
  have h : (Nat.toDigits 10 n).takeWhile Char.isDigit = Nat.toDigits 10 n :=
    List.takeWhile_eq_self_iff.mpr fun _ hc =>
      Nat.isDigit_of_mem_toDigits (by decide) (by decide) hc
  rw [leadingDigits, h, Nat.ofDigitChars_toDigits (by decide) (by decide)]

theorem isspace_of_isDigit {c : Char} (h : c.isDigit = true) : isspace c = false := by
  have h0 : 48 ≤ c.toNat := by
    simp only [Char.isDigit, Bool.and_eq_true, decide_eq_true_eq, ge_iff_le] at h
    exact h.1
  have hc : c ≠ ' ' := by
    rintro rfl
    revert h0
    decide
  simp only [isspace, hc, decide_false, Bool.false_or, Bool.and_eq_false_iff,
    decide_eq_false_iff_not]
  omega

theorem atoi_of_digits {s : List Char} (hne : s ≠ []) (h : ∀ c ∈ s, c.isDigit = true) :
    atoi s = leadingDigits s := by
  cases s with
  | nil => exact absurd rfl hne
  | cons c cs =>
    have hc := h c (by simp)
    have hs : (c :: cs).dropWhile isspace = c :: cs := by
      simp [isspace_of_isDigit hc]
    unfold atoi
    rw [hs]
    split
    · rename_i heq
      obtain ⟨rfl, rfl⟩ := List.cons.inj heq
      exact absurd hc (by decide)
    · rename_i heq
      obtain ⟨rfl, rfl⟩ := List.cons.inj heq
      exact absurd hc (by decide)
    · rfl

@[simp] theorem atoi_sprintfD (n : Int) : atoi (sprintfD n) = n := by
  cases n with
  | ofNat n =>
    have hd : ∀ c ∈ Nat.toDigits 10 n, c.isDigit = true := fun _ hc =>
      Nat.isDigit_of_mem_toDigits (by decide) (by decide) hc
    rw [sprintfD, atoi_of_digits (by simp) hd, leadingDigits_toDigits]
    rfl
  | negSucc n =>
    have hs : ('-' :: Nat.toDigits 10 (n + 1)).dropWhile isspace =
        '-' :: Nat.toDigits 10 (n + 1) := by
      simp [isspace]
    rw [sprintfD, atoi, hs]
    simp only [leadingDigits_toDigits]
    omega

/-- `sprintf` with `%0<width>d`. -/
def sprintfZeros (width : Nat) : Int → List Char
  | .ofNat n => (Nat.toDigits 10 n).leftpad width '0'
  | .negSucc n => '-' :: (Nat.toDigits 10 (n + 1)).leftpad (width - 1) '0'

/-- `sprintf` with `%<width>d`. -/
def sprintfBlanks (width : Nat) (n : Int) : List Char := (sprintfD n).leftpad width ' '

theorem length_leftpad_toDigits {width n : Nat} (hw : 0 < width) (h : n < 10 ^ width) (c : Char) :
    ((Nat.toDigits 10 n).leftpad width c).length = width := by
  have hle := (Nat.length_toDigits_le_iff (by decide) hw).mpr h
  rw [List.length_leftpad]
  omega

theorem length_sprintfZeros {width : Nat} (hw : 0 < width) {n : Int} (h0 : 0 ≤ n)
    (h : n < 10 ^ width) : (sprintfZeros width n).length = width := by
  obtain ⟨m, rfl⟩ := Int.eq_ofNat_of_zero_le h0
  exact length_leftpad_toDigits hw (by exact_mod_cast h) '0'

theorem length_sprintfBlanks {width : Nat} (hw : 0 < width) {n : Int} (h0 : 0 ≤ n)
    (h : n < 10 ^ width) : (sprintfBlanks width n).length = width := by
  obtain ⟨m, rfl⟩ := Int.eq_ofNat_of_zero_le h0
  exact length_leftpad_toDigits hw (by exact_mod_cast h) ' '

theorem atoi_sprintfZeros (width : Nat) {n : Int} (h0 : 0 ≤ n) :
    atoi (sprintfZeros width n) = n := by
  obtain ⟨m, rfl⟩ := Int.eq_ofNat_of_zero_le h0
  have hd : ∀ c ∈ (Nat.toDigits 10 m).leftpad width '0', c.isDigit = true := by
    intro c hc
    obtain hc | hc := List.mem_append.mp hc
    · rw [List.eq_of_mem_replicate hc]
      decide
    · exact Nat.isDigit_of_mem_toDigits (by decide) (by decide) hc
  have hne : (Nat.toDigits 10 m).leftpad width '0' ≠ [] := by simp [List.leftpad]
  calc atoi (sprintfZeros width m)
      = leadingDigits ((Nat.toDigits 10 m).leftpad width '0') := atoi_of_digits hne hd
    _ = m := by
        rw [leadingDigits, List.takeWhile_eq_self_iff.mpr hd, List.leftpad, Nat.ofDigitChars_append,
          Nat.ofDigitChars_replicate_zero, Nat.mul_zero,
          Nat.ofDigitChars_toDigits (by decide) (by decide)]

theorem atoi_sprintfBlanks (width : Nat) (n : Int) : atoi (sprintfBlanks width n) = n := by
  have hskip : (sprintfBlanks width n).dropWhile isspace = (sprintfD n).dropWhile isspace := by
    have hb (k : Nat) (cs : List Char) :
        (List.replicate k ' ' ++ cs).dropWhile isspace = cs.dropWhile isspace := by
      rw [List.dropWhile_append_of_pos]
      intro c hc
      rw [List.eq_of_mem_replicate hc]
      decide
    exact hb _ _
  rw [atoi, hskip, ← atoi, atoi_sprintfD]

end UhfGs.CString
