import UhfGs.Library.Decimals
import UhfGs.Station.Checksum

/-! The numbers that `InternalUpdate` reads off the columns of an element set. -/
namespace UhfGs.Station
open Bytes CString Numerals

structure ElementValues where
  catnum : ℤ
  year : ℤ
  refepoch : ℚ
  nddot6 : ℚ
  bstar : ℚ
  setnum : ℤ
  incl : ℚ
  raan : ℚ
  eccn : ℚ
  argper : ℚ
  meanan : ℚ
  meanmo : ℚ
  drag : ℚ
  orbitnum : ℤ
  deriving DecidableEq

def digitAt (line : List UInt8) (i : Nat) : ℤ := (byteAt line i).toInt8.toInt - 48

def toLong (q : ℚ) : ℤ := q.num.tdiv q.den

def internalUpdateValues (line1 line2 : List UInt8) : ElementValues where
  catnum := atoi (byteText (subString line1 2 6))
  year := atoi (byteText (subString line1 18 19))
  refepoch := atof (subString line1 20 31)
  nddot6 := 1 / 10 ^ 5 * atof (subString line1 44 49) / 10 ^ digitAt line1 51
  bstar := 1 / 10 ^ 5 * atof (subString line1 53 58) / 10 ^ digitAt line1 60
  setnum := atoi (byteText (subString line1 64 67))
  incl := atof (subString line2 8 15)
  raan := atof (subString line2 17 24)
  eccn := 1 / 10 ^ 7 * atof (subString line2 26 32)
  argper := atof (subString line2 34 41)
  meanan := atof (subString line2 43 50)
  meanmo := atof (subString line2 52 62)
  drag := atof (subString line1 33 42)
  orbitnum := toLong (atof (subString line2 63 67))

def columns (line : List UInt8) (first last : Nat) : List UInt8 :=
  (line.drop first).take (last + 1 - first)

inductive Sign where
  | blank
  | plus
  | minus
  deriving DecidableEq, Repr

namespace Sign

def char : Sign → UInt8
  | blank => 32
  | plus => 43
  | minus => 45

def factor : Sign → ℤ
  | blank => 1
  | plus => 1
  | minus => -1

end Sign

structure WholeField (cols : List UInt8) where
  blanks : Nat
  digits : List UInt8
  cols_eq : cols = List.replicate blanks 32 ++ digits
  digits_ne : digits ≠ []
  isDigits : Digits digits

structure PointField (cols : List UInt8) where
  blanks : Nat
  whole : List UInt8
  frac : List UInt8
  cols_eq : cols = List.replicate blanks 32 ++ (whole ++ 46 :: frac)
  isWhole : Digits whole
  isFrac : Digits frac

structure SignedField (cols : List UInt8) where
  sign : Sign
  frac : List UInt8
  cols_eq : cols = sign.char :: 46 :: frac
  isFrac : Digits frac

/-- Columns of a sign, the digits behind an implied point, and a power of ten. -/
structure PowerField (cols : List UInt8) where
  sign : Sign
  mantissa : List UInt8
  expSign : Sign
  expDigit : UInt8
  cols_eq : cols = sign.char :: (mantissa ++ [expSign.char, expDigit])
  length_eq : mantissa.length = 5
  isMantissa : Digits mantissa
  isExp : isDigit expDigit

namespace WholeField
variable {cols : List UInt8} (f : WholeField cols)

def value : Nat := numeralValue 10 f.digits

end WholeField

namespace PointField
variable {cols : List UInt8} (f : PointField cols)

def value : ℚ := numeralValue 10 f.whole + numeralValue 10 f.frac / 10 ^ f.frac.length

end PointField

namespace SignedField
variable {cols : List UInt8} (f : SignedField cols)

def value : ℚ := f.sign.factor * (numeralValue 10 f.frac / 10 ^ f.frac.length)

end SignedField

namespace PowerField
variable {cols : List UInt8} (f : PowerField cols)

def value : ℚ :=
  f.sign.factor * (numeralValue 10 f.mantissa / 10 ^ 5) *
    10 ^ (f.expSign.factor * Numerals.digitValue f.expDigit)

/-- The power is not positive, or it is one of zero. -/
def Shrinks : Prop := f.expSign = .minus ∨ f.expDigit = 48 ∨ ∀ c ∈ f.mantissa, c = 48

end PowerField

/-- The standard format: what stands in the columns of the two lines. -/
structure NoradFormat (line1 line2 : List UInt8) where
  catnum : WholeField (columns line1 2 6)
  year : WholeField (columns line1 18 19)
  day : PointField (columns line1 20 31)
  ndot : SignedField (columns line1 33 42)
  nddot6 : PowerField (columns line1 44 51)
  bstar : PowerField (columns line1 53 60)
  setnum : WholeField (columns line1 64 67)
  incl : PointField (columns line2 8 15)
  raan : PointField (columns line2 17 24)
  eccn : WholeField (columns line2 26 32)
  argper : PointField (columns line2 34 41)
  meanan : PointField (columns line2 43 50)
  meanmo : PointField (columns line2 52 62)
  orbitnum : WholeField (columns line2 63 67)

/-- The numbers that the columns denote. The eccentricity has an implied point in front. -/
def NoradFormat.values {line1 line2 : List UInt8} (t : NoradFormat line1 line2) :
    ElementValues where
  catnum := t.catnum.value
  year := t.year.value
  refepoch := t.day.value
  nddot6 := t.nddot6.value
  bstar := t.bstar.value
  setnum := t.setnum.value
  incl := t.incl.value
  raan := t.raan.value
  eccn := t.eccn.value / 10 ^ 7
  argper := t.argper.value
  meanan := t.meanan.value
  meanmo := t.meanmo.value
  drag := t.ndot.value
  orbitnum := t.orbitnum.value

theorem columns_take {n last : Nat} (line : List UInt8) (first : Nat) (h : last < n) :
    columns (line.take n) first last = columns line first last := by
  unfold columns
  rw [List.drop_take, List.take_take, min_eq_left (by omega)]

theorem byteAt_take {n i : Nat} (line : List UInt8) (h : i < n) :
    byteAt (line.take n) i = byteAt line i := by
  simp [byteAt, List.getD, h]

theorem byteAt_of_columns {line s t : List UInt8} {first last : Nat} {c : UInt8}
    (h : columns line first last = s ++ c :: t) : byteAt line (first + s.length) = c := by
  have hsome : (columns line first last)[s.length]? = some c := by
    rw [h, List.getElem?_append_right (Nat.le_refl _), Nat.sub_self, List.getElem?_cons_zero]
  obtain ⟨hlt, hget⟩ := List.getElem?_eq_some_iff.mp hsome
  unfold columns at hlt hsome
  rw [List.length_take] at hlt
  rw [List.getElem?_take_of_lt (by omega), List.getElem?_drop] at hsome
  rw [byteAt, List.getD, hsome, Option.getD_some]

theorem filter_blanks (k : Nat) {s : List UInt8} (h : ∀ c ∈ s, c ≠ 32) :
    (List.replicate k 32 ++ s).filter (· ≠ 32) = s := by
  have hblanks : (List.replicate k (32 : UInt8)).filter (· ≠ 32) = [] := by simp
  have hrest : s.filter (· ≠ 32) = s := List.filter_eq_self.mpr (by simpa using h)
  rw [List.filter_append, hblanks, hrest, List.nil_append]

theorem ne_blank {s : List UInt8} (h : Digits s) : ∀ c ∈ s, c ≠ 32 :=
  fun c hc => ne_of_isDigit (h c hc) (by decide)

theorem isDigit_byteText (c : UInt8) : isDigit c → (Char.ofNat c.toNat).isDigit :=
  @forall_byte (fun c => isDigit c → (Char.ofNat c.toNat).isDigit) (by decide +kernel) c

theorem toNat_byteText (c : UInt8) : (Char.ofNat c.toNat).toNat = c.toNat :=
  @forall_byte (fun c => (Char.ofNat c.toNat).toNat = c.toNat) (by decide +kernel) c

theorem toInt8_digit (c : UInt8) : isDigit c → c.toInt8.toInt - 48 = Numerals.digitValue c :=
  @forall_byte (fun c => isDigit c → c.toInt8.toInt - 48 = Numerals.digitValue c)
    (by decide +kernel) c

theorem ofDigitChars_byteText {s : List UInt8} (h : Digits s) (v : Nat) :
    Nat.ofDigitChars 10 (byteText s) v = s.foldl (fun v c => 10 * v + Numerals.digitValue c) v := by
  induction s generalizing v with
  | nil => rfl
  | cons c s ih =>
      obtain ⟨hc, hs⟩ := Digits.of_cons h
      calc Nat.ofDigitChars 10 (byteText (c :: s)) v
          = Nat.ofDigitChars 10 (byteText s) (10 * v + Numerals.digitValue c) := by
              rw [byteText, List.map_cons, Nat.ofDigitChars_cons, toNat_byteText,
                digitValue_of_isDigit hc]
              rfl
        _ = (c :: s).foldl (fun v c => 10 * v + Numerals.digitValue c) v := ih hs _

theorem atoi_byteText {s : List UInt8} (hne : s ≠ []) (h : Digits s) :
    atoi (byteText s) = numeralValue 10 s := by
  have hdigits : ∀ c ∈ byteText s, c.isDigit := by
    intro c hc
    obtain ⟨b, hb, rfl⟩ := List.mem_map.mp hc
    exact isDigit_byteText b (h b hb)
  rw [atoi_of_digits (by simpa [byteText] using hne) hdigits, leadingDigits,
    List.takeWhile_eq_self_iff.mpr hdigits, ofDigitChars_byteText h]
  rfl

theorem atof_digits {s : List UInt8} (hne : s ≠ []) (h : Digits s) :
    atof s = numeralValue 10 s := by
  cases s with
  | nil => exact absurd rfl hne
  | cons c s => rw [atof_of_head (Or.inl (h c List.mem_cons_self)), decimal_digits h]

theorem atof_point {s t : List UInt8} (hs : Digits s) (ht : Digits t) :
    atof (s ++ 46 :: t) = numeralValue 10 s + numeralValue 10 t / 10 ^ t.length := by
  have hhead : atof (s ++ 46 :: t) = decimal (s ++ 46 :: t) := by
    cases s with
    | nil => exact atof_of_head (Or.inr rfl)
    | cons c s => exact atof_of_head (Or.inl (hs c List.mem_cons_self))
  rw [hhead, decimal_point hs ht, numeralValue_append]
  push_cast
  field_simp

theorem atof_sign {s : List UInt8} (sign : Sign) {c : UInt8} (hc : isDigit c ∨ c = 46)
    (h : ∀ d ∈ c :: s, d ≠ 32) :
    atof ((sign.char :: c :: s).filter (· ≠ 32)) = sign.factor * decimal (c :: s) := by
  have hfilter : (c :: s).filter (· ≠ 32) = c :: s := List.filter_eq_self.mpr (by simpa using h)
  cases sign with
  | blank =>
      rw [List.filter_cons_of_neg (by decide), hfilter, atof_of_head hc]
      simp [Sign.factor]
  | plus =>
      rw [List.filter_cons_of_pos (by decide), hfilter, Sign.char, atof_plus]
      simp [Sign.factor]
  | minus =>
      rw [List.filter_cons_of_pos (by decide), hfilter, Sign.char, atof_minus]
      simp [Sign.factor]

/- What `InternalUpdate` reads off each kind of columns. -/
section
variable {line : List UInt8} {first last : Nat}

theorem subString_eq_filter {s : List UInt8} (h : columns line first last = s) :
    subString line first last = s.filter (· ≠ 32) := by
  rw [← h]
  rfl

theorem WholeField.subString_eq (f : WholeField (columns line first last)) :
    subString line first last = f.digits :=
  (subString_eq_filter f.cols_eq).trans (filter_blanks f.blanks (ne_blank f.isDigits))

theorem WholeField.atoi_eq (f : WholeField (columns line first last)) :
    atoi (byteText (subString line first last)) = f.value := by
  rw [f.subString_eq, atoi_byteText f.digits_ne f.isDigits, value]

theorem WholeField.atof_eq (f : WholeField (columns line first last)) :
    atof (subString line first last) = f.value := by
  rw [f.subString_eq, atof_digits f.digits_ne f.isDigits, value]

theorem PointField.atof_eq (f : PointField (columns line first last)) :
    atof (subString line first last) = f.value := by
  have hcols : subString line first last =
      (List.replicate f.blanks 32 ++ (f.whole ++ 46 :: f.frac)).filter (· ≠ 32) :=
    subString_eq_filter f.cols_eq
  have hne : ∀ c ∈ f.whole ++ 46 :: f.frac, c ≠ 32 := by
    intro c hc
    obtain hc | hc := List.mem_append.mp hc
    · exact ne_blank f.isWhole c hc
    · obtain rfl | hc := List.mem_cons.mp hc
      · decide
      · exact ne_blank f.isFrac c hc
  rw [hcols, filter_blanks f.blanks hne, atof_point f.isWhole f.isFrac, value]

theorem SignedField.atof_eq (f : SignedField (columns line first last)) :
    atof (subString line first last) = f.value := by
  have hcols : subString line first last = (f.sign.char :: 46 :: f.frac).filter (· ≠ 32) :=
    subString_eq_filter f.cols_eq
  have hne : ∀ c ∈ 46 :: f.frac, c ≠ 32 := by
    intro c hc
    obtain rfl | hc := List.mem_cons.mp hc
    · decide
    · exact ne_blank f.isFrac c hc
  have hpoint := decimal_point (s := []) (by simp [Digits]) f.isFrac
  rw [List.nil_append, List.nil_append] at hpoint
  rw [hcols, atof_sign f.sign (Or.inr rfl) hne, hpoint, value]

theorem PowerField.atof_eq (f : PowerField (columns line first (first + 7))) :
    atof (subString line first (first + 5)) = f.sign.factor * numeralValue 10 f.mantissa := by
  have hcols : subString line first (first + 5) =
      ((columns line first (first + 7)).take 6).filter (· ≠ 32) := by
    unfold subString columns
    rw [List.take_take, min_eq_left (by omega)]
    congr 2
    omega
  have htake : (columns line first (first + 7)).take 6 = f.sign.char :: f.mantissa :=
    calc (columns line first (first + 7)).take 6
        = (f.sign.char :: (f.mantissa ++ [f.expSign.char, f.expDigit])).take 6 :=
          congrArg (List.take 6) f.cols_eq
      _ = f.sign.char :: f.mantissa := by
          rw [List.take_succ_cons, ← f.length_eq, List.take_left]
  rw [hcols, htake]
  obtain ⟨c, s, hm⟩ := List.exists_cons_of_length_eq_add_one f.length_eq
  have hdigits := f.isMantissa
  rw [hm] at hdigits ⊢
  rw [atof_sign f.sign (Or.inl (hdigits c List.mem_cons_self)) (ne_blank hdigits),
    decimal_digits hdigits]

theorem PowerField.digitAt_eq (f : PowerField (columns line first (first + 7))) :
    digitAt line (first + 7) = Numerals.digitValue f.expDigit := by
  have hcols : columns line first (first + 7) =
      (f.sign.char :: (f.mantissa ++ [f.expSign.char])) ++ [f.expDigit] :=
    f.cols_eq.trans (by simp)
  have hbyte := byteAt_of_columns hcols
  have hlen : (f.sign.char :: (f.mantissa ++ [f.expSign.char])).length = 7 := by
    simp [f.length_eq]
  rw [hlen] at hbyte
  rw [digitAt, hbyte, toInt8_digit f.expDigit f.isExp]

theorem PowerField.value_iff (f : PowerField (columns line first (first + 7))) :
    1 / 10 ^ 5 * atof (subString line first (first + 5)) / 10 ^ digitAt line (first + 7) = f.value ↔
      f.Shrinks := by
  have hread : 1 / 10 ^ 5 * atof (subString line first (first + 5)) =
      f.sign.factor * (numeralValue 10 f.mantissa / 10 ^ 5) := by
    rw [f.atof_eq]
    ring
  have hsign : (f.sign.factor : ℚ) ≠ 0 := by
    cases f.sign <;> simp [Sign.factor]
  have hexp : Numerals.digitValue f.expDigit = 0 ↔ f.expDigit = 48 := digitValue_eq_zero_iff f.isExp
  have hzero : (f.sign.factor : ℚ) * (numeralValue 10 f.mantissa / 10 ^ 5) = 0 ↔
      ∀ c ∈ f.mantissa, c = 48 := by
    rw [mul_eq_zero, or_iff_right hsign, div_eq_zero_iff, or_iff_left (by positivity),
      Nat.cast_eq_zero, numeralValue_eq_zero_iff f.isMantissa]
  rw [hread, f.digitAt_eq, value, div_eq_mul_inv, ← zpow_neg, mul_eq_mul_left_iff, hzero,
    zpow_right_inj₀ (by norm_num) (by norm_num), Shrinks, ← hexp]
  cases f.expSign <;> simp [Sign.factor]

end

theorem subString_take {n last : Nat} (line : List UInt8) (first : Nat) (h : last < n) :
    subString (line.take n) first last = subString line first last :=
  subString_eq_filter (columns_take line first h)

theorem internalUpdateValues_take (line1 line2 : List UInt8) :
    internalUpdateValues (line1.take 69) (line2.take 69) = internalUpdateValues line1 line2 := by
  have hdigit (line : List UInt8) {i : Nat} (hi : i < 69) :
      digitAt (line.take 69) i = digitAt line i := by
    rw [digitAt, byteAt_take line hi, digitAt]
  simp (disch := decide) only [internalUpdateValues, subString_take, hdigit]

theorem setTLE_eq_some {below : UInt8 → UInt8} {line1 line2 : List UInt8} {sat : Sat}
    (h : setTLE below line1 line2 = some sat) :
    sat = internalUpdate (line1.take 69) (line2.take 69) := by
  unfold setTLE at h
  split at h
  · exact (Option.some.inj h).symm
  · cases h

theorem setTLE_catnum {below : UInt8 → UInt8} {line1 line2 : List UInt8} {sat : Sat}
    (h : setTLE below line1 line2 = some sat) :
    sat.catnum = (internalUpdateValues sat.line1 sat.line2).catnum := by
  rw [setTLE_eq_some h]
  rfl

theorem internalUpdateValues_setTLE {below : UInt8 → UInt8} {line1 line2 : List UInt8} {sat : Sat}
    (h : setTLE below line1 line2 = some sat) :
    internalUpdateValues sat.line1 sat.line2 = internalUpdateValues line1 line2 := by
  rw [setTLE_eq_some h]
  exact internalUpdateValues_take line1 line2

theorem internalUpdateValues_eq {line1 line2 : List UInt8} (t : NoradFormat line1 line2) :
    internalUpdateValues line1 line2 =
      { t.values with
        nddot6 := (internalUpdateValues line1 line2).nddot6
        bstar := (internalUpdateValues line1 line2).bstar } := by
  have heccn : 1 / 10 ^ 7 * atof (subString line2 26 32) = (t.eccn.value : ℚ) / 10 ^ 7 := by
    rw [t.eccn.atof_eq]
    ring
  have horbit : toLong (atof (subString line2 63 67)) = t.orbitnum.value := by
    rw [t.orbitnum.atof_eq]
    simp [toLong]
  simp only [internalUpdateValues, NoradFormat.values, t.catnum.atoi_eq, t.year.atoi_eq,
    t.day.atof_eq, t.ndot.atof_eq, t.setnum.atoi_eq, t.incl.atof_eq, t.raan.atof_eq, heccn,
    t.argper.atof_eq, t.meanan.atof_eq, t.meanmo.atof_eq, horbit]

/-- The element set holds the numbers of its columns unless one of the two has a positive
power. -/
theorem setTLE_values_iff (below : UInt8 → UInt8) {line1 line2 : List UInt8} {sat : Sat}
    (h : setTLE below line1 line2 = some sat) (t : NoradFormat line1 line2) :
    internalUpdateValues sat.line1 sat.line2 = t.values ↔ t.nddot6.Shrinks ∧ t.bstar.Shrinks := by
  have hnddot6 : (internalUpdateValues line1 line2).nddot6 = t.values.nddot6 ↔ t.nddot6.Shrinks :=
    t.nddot6.value_iff
  have hbstar : (internalUpdateValues line1 line2).bstar = t.values.bstar ↔ t.bstar.Shrinks :=
    t.bstar.value_iff
  rw [internalUpdateValues_setTLE h, ← hnddot6, ← hbstar]
  constructor
  · intro heq
    exact ⟨congrArg ElementValues.nddot6 heq, congrArg ElementValues.bstar heq⟩
  · rintro ⟨hn, hb⟩
    rw [internalUpdateValues_eq t, hn, hb]

/-- The first sample line with a drag term of ` 12345`, a sign and `3`. -/
def dragLine1 (sign : Sign) : List UInt8 :=
  sampleLine1.take 53 ++ 32 :: 49 :: 50 :: 51 :: 52 :: 53 :: sign.char :: 51 :: sampleLine1.drop 61

def dragFormat (sign : Sign) : NoradFormat (dragLine1 sign) sampleLine2 where
  catnum := ⟨0, [53, 54, 51, 48, 57], by cases sign <;> decide +kernel, List.cons_ne_nil _ _,
    by decide +kernel⟩
  year := ⟨0, [50, 51], by cases sign <;> decide +kernel, List.cons_ne_nil _ _, by decide +kernel⟩
  day := ⟨0, [49, 49, 51], [49, 57, 49, 55, 56, 50, 52, 48], by cases sign <;> decide +kernel,
    by decide +kernel, by decide +kernel⟩
  ndot := ⟨.blank, List.replicate 8 48, by cases sign <;> decide +kernel, by decide +kernel⟩
  nddot6 := ⟨.blank, List.replicate 5 48, .minus, 48, by cases sign <;> decide +kernel, rfl,
    by decide +kernel, by decide⟩
  bstar := ⟨.blank, [49, 50, 51, 52, 53], sign, 51, by cases sign <;> decide +kernel, rfl,
    by decide +kernel, by decide⟩
  setnum := ⟨1, [57, 57, 57], by cases sign <;> decide +kernel, List.cons_ne_nil _ _,
    by decide +kernel⟩
  incl := ⟨2, [57], [57, 56, 50, 51], by decide +kernel, by decide +kernel, by decide +kernel⟩
  raan := ⟨0, [49, 50, 51], [48, 48, 48, 48], by decide +kernel, by decide +kernel,
    by decide +kernel⟩
  eccn := ⟨0, [48, 48, 49, 50, 51, 52, 53], by decide +kernel, List.cons_ne_nil _ _,
    by decide +kernel⟩
  argper := ⟨1, [49, 50], [51, 52, 53, 54], by decide +kernel, by decide +kernel,
    by decide +kernel⟩
  meanan := ⟨0, [50, 51, 52], [53, 54, 55, 56], by decide +kernel, by decide +kernel,
    by decide +kernel⟩
  meanmo := ⟨0, [49, 52], [57, 56, 55, 54, 53, 52, 51, 50], by decide +kernel, by decide +kernel,
    by decide +kernel⟩
  orbitnum := ⟨1, [49, 50, 51, 52], by decide +kernel, List.cons_ne_nil _ _, by decide +kernel⟩

theorem setTLE_values_sample :
    (setTLE (fun _ => 0) (dragLine1 .minus) sampleLine2).map
      (fun sat => internalUpdateValues sat.line1 sat.line2) = some (dragFormat .minus).values := by
  have hsome : (setTLE (fun _ => 0) (dragLine1 .minus) sampleLine2).isSome := by decide +kernel
  obtain ⟨sat, hsat⟩ := Option.isSome_iff_exists.mp hsome
  have hvalues := (setTLE_values_iff (fun _ => 0) hsat (dragFormat .minus)).mpr
    ⟨Or.inl rfl, Or.inl rfl⟩
  rw [hsat, Option.map_some, hvalues]

/-- A drag term of 123.45 is stored as 0.00012345. -/
theorem setTLE_positive_power :
    ¬ ∀ (below : UInt8 → UInt8) (line1 line2 : List UInt8) (sat : Sat),
      setTLE below line1 line2 = some sat → ∀ t : NoradFormat line1 line2,
        internalUpdateValues sat.line1 sat.line2 = t.values := by
  intro h
  have hsome : (setTLE (fun _ => 0) (dragLine1 .plus) sampleLine2).isSome := by decide +kernel
  obtain ⟨sat, hsat⟩ := Option.isSome_iff_exists.mp hsome
  have hvalues := h _ _ _ sat hsat (dragFormat .plus)
  rw [internalUpdateValues_setTLE hsat] at hvalues
  have hshrinks : (dragFormat .plus).bstar.Shrinks :=
    (dragFormat .plus).bstar.value_iff.mp (congrArg ElementValues.bstar hvalues)
  obtain hsign | hdigit | hmantissa := hshrinks
  · cases hsign
  · exact absurd hdigit (by decide)
  · exact absurd (hmantissa 49 List.mem_cons_self) (by decide)

end UhfGs.Station
