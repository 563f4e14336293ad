import Mathlib.Algebra.Order.Field.Rat
import Mathlib.Data.List.TakeWhile
import Mathlib.Tactic.FieldSimp
import UhfGs.Library.Numerals

/-! Decimal text as exact rational numbers. -/
namespace UhfGs.Numerals
open Bytes

def isDigit (c : UInt8) : Bool := 48 ≤ c ∧ c ≤ 57

def Digits (s : List UInt8) : Prop := ∀ c ∈ s, isDigit c

instance (s : List UInt8) : Decidable (Digits s) := inferInstanceAs (Decidable (∀ c ∈ s, _))

def signed {α : Type*} [Neg α] (value : List UInt8 → α) : List UInt8 → α
  | 45 :: s => -value s
  | 43 :: s => value s
  | s => value s

def fraction : List UInt8 → List UInt8
  | 46 :: s => s.takeWhile isDigit
  | _ => []

def exponent : List UInt8 → ℤ
  | c :: s =>
      if c = 101 ∨ c = 69 then signed (fun s => (numeralValue 10 (s.takeWhile isDigit) : ℤ)) s
      else 0
  | [] => 0

def decimal (s : List UInt8) : ℚ :=
  let whole := s.takeWhile isDigit
  let rest := s.dropWhile isDigit
  let frac := fraction rest
  let rest := if rest.head? = some 46 then rest.drop (frac.length + 1) else rest
  (numeralValue 10 (whole ++ frac) : ℚ) / 10 ^ frac.length * 10 ^ exponent rest

/-- `atof`, without hexadecimal numbers, infinities and NaN. -/
def atof (s : List UInt8) : ℚ := signed decimal (s.dropWhile blank)

theorem Digits.of_cons {c : UInt8} {s : List UInt8} (h : Digits (c :: s)) : isDigit c ∧ Digits s :=
  ⟨h c List.mem_cons_self, fun d hd => h d (List.mem_cons_of_mem c hd)⟩

theorem toNat_of_isDigit {c : UInt8} (h : isDigit c) : 48 ≤ c.toNat ∧ c.toNat ≤ 57 := by
  simp only [isDigit, decide_eq_true_eq, UInt8.le_iff_toNat_le] at h
  exact h

theorem ne_of_isDigit {c d : UInt8} (h : isDigit c) (hd : isDigit d = false) : c ≠ d := by
  rintro rfl
  rw [h] at hd
  cases hd

theorem digitValue_of_isDigit {c : UInt8} (h : isDigit c) : digitValue c = c.toNat - 48 := by
  simp only [isDigit, decide_eq_true_eq] at h
  exact if_pos h

theorem digitValue_eq_zero_iff {c : UInt8} (h : isDigit c) : digitValue c = 0 ↔ c = 48 := by
  have hlow := (toNat_of_isDigit h).1
  have h48 : (48 : UInt8).toNat = 48 := rfl
  rw [digitValue_of_isDigit h, ← UInt8.toNat_inj]
  omega

theorem numeralValue_eq_zero_iff {s : List UInt8} (h : Digits s) :
    numeralValue 10 s = 0 ↔ ∀ c ∈ s, c = 48 := by
  induction s with
  | nil => simp [numeralValue]
  | cons c s ih =>
      obtain ⟨hc, hs⟩ := Digits.of_cons h
      have hfirst :
          numeralValue 10 (c :: s) = digitValue c * 10 ^ s.length + numeralValue 10 s := by
        rw [← List.singleton_append, numeralValue_append]
        simp [numeralValue]
      rw [hfirst, Nat.add_eq_zero_iff, ih hs, List.forall_mem_cons, Nat.mul_eq_zero,
        digitValue_eq_zero_iff hc]
      simp

theorem takeWhile_digits {s : List UInt8} (h : Digits s) (t : List UInt8) :
    (s ++ t).takeWhile isDigit = s ++ t.takeWhile isDigit :=
  List.takeWhile_append_of_pos h

theorem dropWhile_digits {s : List UInt8} (h : Digits s) (t : List UInt8) :
    (s ++ t).dropWhile isDigit = t.dropWhile isDigit :=
  List.dropWhile_append_of_pos h

theorem decimal_point {s t : List UInt8} (hs : Digits s) (ht : Digits t) :
    decimal (s ++ 46 :: t) = (numeralValue 10 (s ++ t) : ℚ) / 10 ^ t.length := by
  have hwhole : (s ++ 46 :: t).takeWhile isDigit = s := by
    rw [takeWhile_digits hs, List.takeWhile_cons_of_neg (by decide), List.append_nil]
  have hrest : (s ++ 46 :: t).dropWhile isDigit = 46 :: t := by
    rw [dropWhile_digits hs, List.dropWhile_cons_of_neg (by decide)]
  have hfrac : fraction (46 :: t) = t := List.takeWhile_eq_self_iff.mpr ht
  have hend : (46 :: t).drop (t.length + 1) = [] := by simp
  rw [decimal, hwhole, hrest, hfrac, List.head?_cons, if_pos rfl, hend, exponent, zpow_zero, mul_one]

theorem decimal_digits {s : List UInt8} (hs : Digits s) : decimal s = numeralValue 10 s := by
  have hwhole : s.takeWhile isDigit = s := List.takeWhile_eq_self_iff.mpr hs
  have hrest : s.dropWhile isDigit = [] := List.dropWhile_eq_nil_iff.mpr hs
  rw [decimal, hwhole, hrest]
  simp [fraction, exponent]

theorem atof_of_head {c : UInt8} {s : List UInt8} (h : isDigit c ∨ c = 46) :
    atof (c :: s) = decimal (c :: s) := by
  have hne (d : UInt8) (hd : isDigit d = false) (hd' : d ≠ 46) : c ≠ d := by
    obtain h | h := h
    · exact ne_of_isDigit h hd
    · rw [h]
      exact hd'.symm
  have hblank : blank c = false := by
    obtain h | rfl := h
    · exact blank_eq_false (Nat.lt_of_lt_of_le (by decide) (toNat_of_isDigit h).1)
    · decide
  rw [atof, List.dropWhile_cons_of_neg (by simp [hblank]), signed]
  · exact fun t heq => hne 45 (by decide) (by decide) (List.cons.inj heq).1
  · exact fun t heq => hne 43 (by decide) (by decide) (List.cons.inj heq).1

theorem atof_minus (s : List UInt8) : atof (45 :: s) = -decimal s := rfl

theorem atof_plus (s : List UInt8) : atof (43 :: s) = decimal s := rfl

end UhfGs.Numerals
