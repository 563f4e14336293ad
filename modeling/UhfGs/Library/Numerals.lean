import Mathlib.Data.Nat.Digits.Lemmas
import Mathlib.Tactic.Ring
import UhfGs.Library.Bytes

/-! Numbers as text in a base of up to 36: one byte a digit, the most significant first. -/
namespace UhfGs.Numerals
open Bytes

def digitByte (d : Nat) : UInt8 := if d < 10 then UInt8.ofNat (48 + d) else UInt8.ofNat (87 + d)

/-- Letters of either case are digits. What is no digit counts 36. -/
def digitValue (c : UInt8) : Nat :=
  if 48 ≤ c ∧ c ≤ 57 then c.toNat - 48
  else if 97 ≤ c ∧ c ≤ 122 then c.toNat - 87
  else if 65 ≤ c ∧ c ≤ 90 then c.toNat - 55
  else 36

def numeral (b n : Nat) : List UInt8 :=
  if n = 0 then [48] else ((Nat.digits b n).map digitByte).reverse

def numeralValue (b : Nat) (s : List UInt8) : Nat := s.foldl (fun v c => b * v + digitValue c) 0

theorem toNat_digitByte {d : Nat} (h : d < 36) :
    (digitByte d).toNat = if d < 10 then 48 + d else 87 + d := by
  unfold digitByte
  split
  · rw [toNat_ofNat]
    omega
  · rw [toNat_ofNat]
    omega

theorem digitValue_digitByte {d : Nat} (h : d < 36) : digitValue (digitByte d) = d := by
  revert d
  decide +kernel

variable {b : Nat}

theorem numeralValue_append (s t : List UInt8) :
    numeralValue b (s ++ t) = numeralValue b s * b ^ t.length + numeralValue b t := by
  have hstart (v : Nat) : t.foldl (fun v c => b * v + digitValue c) v =
      v * b ^ t.length + numeralValue b t := by
    induction t generalizing v with
    | nil => simp [numeralValue]
    | cons c t ih =>
        have hfirst : numeralValue b (c :: t) = digitValue c * b ^ t.length + numeralValue b t := by
          rw [numeralValue, List.foldl_cons, Nat.mul_zero, Nat.zero_add, ih]
        rw [List.foldl_cons, ih, hfirst, List.length_cons, pow_succ]
        ring
  rw [numeralValue, List.foldl_append]
  exact hstart _

theorem numeralValue_zeros (k : Nat) : numeralValue b (List.replicate k 48) = 0 := by
  induction k with
  | zero => rfl
  | succ k ih =>
      have hzero : digitValue 48 = 0 := rfl
      rw [List.replicate_succ', numeralValue_append, ih]
      simp [numeralValue, hzero]

theorem numeralValue_digits {ds : List Nat} (h : ∀ d ∈ ds, d < 36) :
    numeralValue b (ds.map digitByte).reverse = Nat.ofDigits b ds := by
  induction ds with
  | nil => rfl
  | cons d ds ih =>
      have hd : numeralValue b [digitByte d] = d := by
        simp [numeralValue, digitValue_digitByte (h d List.mem_cons_self)]
      rw [List.map_cons, List.reverse_cons, numeralValue_append, hd,
        ih fun x hx => h x (List.mem_cons_of_mem d hx), Nat.ofDigits_cons, List.length_singleton,
        pow_one]
      ring

theorem numeralValue_numeral (hb : 2 ≤ b) (hb' : b ≤ 36) (n : Nat) :
    numeralValue b (numeral b n) = n := by
  unfold numeral
  split
  · rename_i h
    rw [h]
    rfl
  · rw [numeralValue_digits fun d hd => (Nat.digits_lt_base hb hd).trans_le hb',
      Nat.ofDigits_digits]

theorem le_of_mem_numeral (hb : 2 ≤ b) (hb' : b ≤ 36) {n : Nat} {c : UInt8}
    (h : c ∈ numeral b n) : 48 ≤ c.toNat := by
  unfold numeral at h
  split at h
  · obtain rfl := List.mem_singleton.mp h
    decide
  · obtain ⟨d, hd, rfl⟩ := List.mem_map.mp (List.mem_reverse.mp h)
    rw [toNat_digitByte ((Nat.digits_lt_base hb hd).trans_le hb')]
    split <;> omega

theorem length_numeral_le (hb : 2 ≤ b) {n k : Nat} (hk : 0 < k) (h : n < b ^ k) :
    (numeral b n).length ≤ k := by
  unfold numeral
  split
  · exact hk
  · rw [List.length_reverse, List.length_map]
    exact (Nat.digits_length_le_iff hb n).mpr h

theorem digitValue_of_mem_numeral (hb : 2 ≤ b) (hb' : b ≤ 36) {n : Nat} {c : UInt8}
    (h : c ∈ numeral b n) : digitValue c < b := by
  unfold numeral at h
  split at h
  · obtain rfl := List.mem_singleton.mp h
    have hzero : digitValue 48 = 0 := rfl
    omega
  · obtain ⟨d, hd, rfl⟩ := List.mem_map.mp (List.mem_reverse.mp h)
    rw [digitValue_digitByte ((Nat.digits_lt_base hb hd).trans_le hb')]
    exact Nat.digits_lt_base hb hd

def padded (b width n : Nat) : List UInt8 :=
  List.replicate (width - (numeral b n).length) 48 ++ numeral b n

theorem numeralValue_padded (hb : 2 ≤ b) (hb' : b ≤ 36) (width n : Nat) :
    numeralValue b (padded b width n) = n := by
  rw [padded, numeralValue_append, numeralValue_zeros, Nat.zero_mul, Nat.zero_add,
    numeralValue_numeral hb hb']

theorem length_padded (hb : 2 ≤ b) {width n : Nat} (hw : 0 < width) (h : n < b ^ width) :
    (padded b width n).length = width := by
  have hle := length_numeral_le hb hw h
  rw [padded, List.length_append, List.length_replicate]
  omega

theorem mem_padded (hb : 2 ≤ b) (hb' : b ≤ 36) {width n : Nat} {c : UInt8}
    (h : c ∈ padded b width n) : 48 ≤ c.toNat ∧ digitValue c < b := by
  obtain h | h := List.mem_append.mp h
  · obtain rfl := List.eq_of_mem_replicate h
    have hzero : digitValue 48 = 0 := rfl
    exact ⟨by decide, by omega⟩
  · exact ⟨le_of_mem_numeral hb hb' h, digitValue_of_mem_numeral hb hb' h⟩

def upper (c : UInt8) : UInt8 := if 97 ≤ c ∧ c ≤ 122 then c - 32 else c

theorem digitValue_upper (c : UInt8) : digitValue (upper c) = digitValue c :=
  @forall_byte (fun c => digitValue (upper c) = digitValue c) (by decide +kernel) c

theorem numeralValue_map_upper (s : List UInt8) :
    numeralValue b (s.map upper) = numeralValue b s := by
  simp only [numeralValue, List.foldl_map, digitValue_upper]

def blank (c : UInt8) : Bool := c = 32 || (9 ≤ c && c ≤ 13)

theorem blank_eq_false {c : UInt8} (h : 32 < c.toNat) : blank c = false := by
  have h32 : c ≠ 32 := fun heq => absurd (heq ▸ h) (by decide)
  have h13 : ¬ c ≤ 13 := fun hle => by
    have hnat := UInt8.le_iff_toNat_le.mp hle
    have h13' : (13 : UInt8).toNat = 13 := rfl
    omega
  simp [blank, h32, h13]

/-- `strtol` on numbers within its range: blanks, a sign, and the leading digits. -/
def strtol (b : Nat) (s : List UInt8) : Int :=
  let digits (s : List UInt8) : Int := numeralValue b (s.takeWhile (digitValue · < b))
  match s.dropWhile blank with
  | 45 :: s => -digits s
  | 43 :: s => digits s
  | s => digits s

theorem strtol_of_forall_lt (s : List UInt8) (h : ∀ c ∈ s, 45 < c.toNat) :
    strtol b s = numeralValue b (s.takeWhile (digitValue · < b)) := by
  unfold strtol
  cases s with
  | nil => rfl
  | cons c s =>
      have hc := h c List.mem_cons_self
      rw [List.dropWhile_cons_of_neg (by simp [blank_eq_false (show 32 < c.toNat by omega)])]
      split
      · rename_i heq
        exact absurd ((List.cons.inj heq).1 ▸ hc) (by decide)
      · rename_i heq
        exact absurd ((List.cons.inj heq).1 ▸ hc) (by decide)
      · rfl

end UhfGs.Numerals
