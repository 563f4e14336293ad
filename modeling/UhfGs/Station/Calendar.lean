import Mathlib.Algebra.BigOperators.Ring.Finset
import Mathlib.Tactic.IntervalCases
import UhfGs.Library.Calendar
import UhfGs.Station.Timestamp

/-! When the text of a time is its date in the calendar. -/
namespace UhfGs.Station
open CString CountOff Calendar

def twoDigits (n : Nat) : List Char := [Nat.digitChar (n / 10), Nat.digitChar (n % 10)]

def momentText (t : Moment 1970) : List Char :=
  twoDigits t.day ++ '-' :: (twoDigits t.mon ++ '-' ::
    (twoDigits (t.year / 100) ++ (twoDigits (t.year % 100) ++ ' ' ::
      (twoDigits t.hour ++ ':' :: (twoDigits t.min ++ ':' :: twoDigits t.sec)))))

def momentFields (t : Moment 1970) : Fields := ⟨t.day, t.mon, t.year, t.hour, t.min, t.sec⟩

/-- The text of `get_format_timestamp` is the date that lies so many seconds after 1970. -/
def ShowsDate (s : Nat) (text : List Char) : Prop :=
  ∃ t : Moment 1970, t.seconds = s ∧ text = momentText t

def StartsMonth (s : Nat) : Prop := ∃ t : Moment 1970, t.seconds = s ∧ t.StartsMonth

theorem isLeapYear_iff (year : Nat) : isLeapYear year ↔ IsLeap year := by
  simp only [isLeapYear, decide_eq_true_eq, IsLeap]
  omega

theorem yearSeconds_eq (year : Nat) : yearSeconds year = yearLength year * 86400 := by
  by_cases h : IsLeap year
  · simp [yearSeconds, yearLength, (isLeapYear_iff year).mpr h, h]
  · have hnot : isLeapYear year = false := by
      rw [Bool.eq_false_iff]
      exact fun hleap => h ((isLeapYear_iff year).mp hleap)
    simp [yearSeconds, yearLength, hnot, h]

theorem monthSeconds_eq {mon : Nat} (year : Nat) (h : 1 ≤ mon) (h' : mon ≤ 12) :
    monthSeconds year mon = monthLength year mon * 86400 := by
  have hleap := isLeapYear_iff year
  unfold monthSeconds monthLength
  by_cases hyear : IsLeap year
  · rw [if_pos (hleap.mpr hyear), if_pos hyear]
    interval_cases mon <;> rfl
  · rw [if_neg (hleap.not.mpr hyear), if_neg hyear]
    interval_cases mon <;> rfl

theorem sum_yearSeconds (a b : Nat) : ∑ year ∈ Finset.Ico a b, yearSeconds year =
    (∑ year ∈ Finset.Ico a b, yearLength year : Nat) * 86400 := by
  rw [Nat.cast_sum, Finset.sum_mul]
  exact Finset.sum_congr rfl fun year _ => yearSeconds_eq year

theorem sum_monthSeconds_eq (year : Nat) {mon : Nat} (h : mon ≤ 13) :
    ∑ m ∈ Finset.Ico 1 mon, monthSeconds year m =
      (∑ m ∈ Finset.Ico 1 mon, monthLength year m : Nat) * 86400 := by
  rw [Nat.cast_sum, Finset.sum_mul]
  refine Finset.sum_congr rfl fun m hm => ?_
  rw [Finset.mem_Ico] at hm
  exact monthSeconds_eq year hm.1 (by omega)

theorem sprintfZeros_two {n : Nat} (h : n < 100) : sprintfZeros 2 n = twoDigits n := by
  revert n
  decide +kernel

theorem sprintfBlanks_year {year : Nat} (h : 1970 ≤ year) (h' : year ≤ 2038) :
    sprintfBlanks 4 year = twoDigits (year / 100) ++ twoDigits (year % 100) := by
  obtain ⟨k, rfl⟩ := Nat.exists_eq_add_of_le h
  have hall : ∀ k < 69, sprintfBlanks 4 (1970 + k : Nat) =
      twoDigits ((1970 + k) / 100) ++ twoDigits ((1970 + k) % 100) := by decide +kernel
  exact hall k (by omega)

theorem fieldsOf_mon (s : Int) : 1 ≤ (fieldsOf s).mon ∧ (fieldsOf s).mon ≤ 12 :=
  ⟨le_countOff _ 1 _, mon_le (countOff_le yearSeconds_pos 1970 s)⟩

theorem fieldsOf_sum (s : Int) :
    (∑ year ∈ Finset.Ico 1970 (fieldsOf s).year, yearLength year : Nat) * 86400 +
      (∑ mon ∈ Finset.Ico 1 (fieldsOf s).mon, monthLength (fieldsOf s).year mon : Nat) * 86400 +
      ((fieldsOf s).day - 1) * 86400 + (fieldsOf s).hour * 3600 + (fieldsOf s).min * 60 +
      (fieldsOf s).sec = s := by
  have hmon := fieldsOf_mon s
  have hrest := fieldsOf_rest s
  have hyears := countOff_add yearSeconds_pos 1970 s
  have hmonths := countOff_add (monthSeconds_pos (fieldsOf s).year) 1
    (countOff yearSeconds_pos 1970 s).2
  rw [← hrest] at hmonths
  simp only at hmonths
  rw [sum_monthSeconds_eq _ (by omega)] at hmonths
  have hyear : (countOff yearSeconds_pos 1970 s).1 = (fieldsOf s).year := rfl
  rw [hyear, sum_yearSeconds] at hyears
  omega

section
variable {s : Int} (h0 : 0 ≤ s)
include h0

theorem fieldsOf_day : (fieldsOf s).day ≤ monthLength (fieldsOf s).year (fieldsOf s).mon ∨
    ((fieldsOf s).day = monthLength (fieldsOf s).year (fieldsOf s).mon + 1 ∧
      (fieldsOf s).hour = 0 ∧ (fieldsOf s).min = 0 ∧ (fieldsOf s).sec = 0) := by
  have hmon := fieldsOf_mon s
  have hclock := fieldsOf_clock h0
  have hle := countOff_le (monthSeconds_pos (fieldsOf s).year) 1
    (countOff yearSeconds_pos 1970 s).2
  rw [← fieldsOf_rest s] at hle
  simp only [monthSeconds_eq _ hmon.1 hmon.2] at hle
  omega

theorem exists_moment (hday : (fieldsOf s).day ≤ monthLength (fieldsOf s).year (fieldsOf s).mon) :
    ∃ t : Moment 1970, t.seconds = s ∧ fieldsOf s = momentFields t := by
  have hclock := fieldsOf_clock h0
  have hsum := fieldsOf_sum s
  refine ⟨{ year := (fieldsOf s).year, mon := (fieldsOf s).mon, day := (fieldsOf s).day.toNat
            hour := (fieldsOf s).hour.toNat, min := (fieldsOf s).min.toNat
            sec := (fieldsOf s).sec.toNat, year_ge := le_countOff _ 1970 s
            mon_mem := fieldsOf_mon s, day_mem := by omega, hour_lt := by omega
            min_lt := by omega, sec_lt := by omega }, ?_, ?_⟩
  · simp only [Moment.seconds, Date.days, Date.dayOfYear]
    omega
  · simp only [momentFields]
    rw [Int.toNat_of_nonneg (by omega), Int.toNat_of_nonneg (by omega),
      Int.toNat_of_nonneg (by omega), Int.toNat_of_nonneg (by omega)]

end

section
variable {t : Moment 1970} {s : Nat}

theorem moment_year_le (h : t.seconds < 2 ^ 31) : t.year ≤ 2038 := by
  have hge : (Finset.Ico 1970 t.year).card • 365 ≤
      ∑ year ∈ Finset.Ico 1970 t.year, yearLength year := by
    refine Finset.card_nsmul_le_sum _ _ _ fun year _ => ?_
    unfold yearLength
    split <;> decide
  norm_num at hge
  simp only [Moment.seconds, Date.days] at h
  omega

theorem momentFields_fits (hyear : t.year ≤ 2038) : (momentFields t).Fits := by
  have hge := t.year_ge
  have hmon := t.mon_mem
  have hday := t.day_mem
  have hle := (monthLength_mem t.year t.mon).2
  have hhour := t.hour_lt
  have hmin := t.min_lt
  have hsec := t.sec_lt
  refine ⟨?_, ?_, ?_, ?_, ?_, ?_⟩ <;> simp only [momentFields] <;> omega

theorem momentText_eq (hyear : t.year ≤ 2038) : momentText t = (momentFields t).print := by
  have hmon := t.mon_mem
  have hday := t.day_mem
  have hle := (monthLength_mem t.year t.mon).2
  have hhour := t.hour_lt
  have hmin := t.min_lt
  have hsec := t.sec_lt
  simp only [momentText, momentFields, Fields.print]
  rw [sprintfZeros_two (by omega), sprintfZeros_two (by omega), sprintfBlanks_year t.year_ge hyear,
    sprintfZeros_two (by omega), sprintfZeros_two (by omega), sprintfZeros_two (by omega),
    List.append_assoc]

theorem showsDate_iff_day (h : s < 2 ^ 31) : ShowsDate s (fieldsOf s).print ↔
    (fieldsOf s).day ≤ monthLength (fieldsOf s).year (fieldsOf s).mon := by
  have h0 : (0 : Int) ≤ s := Int.natCast_nonneg s
  constructor
  · rintro ⟨t, rfl, htext⟩
    have hyear := moment_year_le h
    rw [momentText_eq hyear] at htext
    have hfields := (fieldsOf_fits h0 (by omega)).print_inj (momentFields_fits hyear) htext
    rw [hfields]
    simp only [momentFields]
    exact_mod_cast t.day_mem.2
  · intro hday
    obtain ⟨t, hsum, hfields⟩ := exists_moment h0 hday
    have hyear : t.year ≤ 2038 := moment_year_le (by omega)
    exact ⟨t, by exact_mod_cast hsum, by rw [hfields, momentText_eq hyear]⟩

theorem day_le_iff : (fieldsOf s).day ≤ monthLength (fieldsOf s).year (fieldsOf s).mon ↔
    s = 0 ∨ ¬ StartsMonth s := by
  have h0 : (0 : Int) ≤ s := Int.natCast_nonneg s
  have hsum := fieldsOf_sum s
  constructor
  · intro hday
    by_contra hstart
    rw [not_or, not_not] at hstart
    obtain ⟨hne, t, ht, hone, hhour, hmin, hsec⟩ := hstart
    obtain ⟨u, hu, hfields⟩ := exists_moment h0 hday
    obtain rfl : u = t := Moment.seconds_inj (by omega)
    -- nothing is left behind the month, so that nothing was counted off
    have hrest := congrArg Prod.snd (fieldsOf_rest (s : Int))
    rw [hfields] at hrest
    simp only [momentFields, hone, hhour, hmin, hsec] at hrest
    have hyear := eq_zero_of_countOff _ (countOff_nonneg yearSeconds_pos 1970 h0) hrest.symm
    have hzero := eq_zero_of_countOff yearSeconds_pos h0 hyear
    omega
  · intro hcase
    refine (fieldsOf_day h0).resolve_right ?_
    rintro ⟨hday, hhour, hmin, hsec⟩
    have hlen := (monthLength_mem (fieldsOf s).year (fieldsOf s).mon).1
    obtain rfl | hstart := hcase
    · omega
    · apply hstart
      have hmon := fieldsOf_mon s
      obtain ⟨t, hstarts, ht⟩ := exists_startsMonth (le_countOff yearSeconds_pos 1970 (s : Int))
        hmon.1 hmon.2
      refine ⟨t, ?_, hstarts⟩
      have hyear : (countOff yearSeconds_pos 1970 (s : Int)).1 = (fieldsOf s).year := rfl
      rw [hyear] at ht
      omega

theorem showsDate_iff (h : s < 2 ^ 31) :
    ShowsDate s (getFormatTimestamp s) ↔ s = 0 ∨ ¬ StartsMonth s := by
  rw [getFormatTimestamp, toInt32_of_lt h, showsDate_iff_day h, day_le_iff]

end

/-- The date is right, except in the first second of a month. -/
theorem getFormatTimestamp_calendar_iff {s : Nat} (h : s < 2 ^ 31) {t : Timestamp}
    (ht : t.InRange) :
    (ShowsDate s (getFormatTimestamp s) ↔ s = 0 ∨ ¬ StartsMonth s) ∧
      (ShowsDate (t.tvSec.toNat + 28800) (getTime t) ↔ ¬ StartsMonth (t.tvSec.toNat + 28800)) := by
  refine ⟨showsDate_iff h, ?_⟩
  have hlt : t.tvSec.toNat + 28800 < 2 ^ 31 := Nat.add_lt_of_lt_sub ht
  have htime : getTime t = getFormatTimestamp (t.tvSec.toNat + 28800) := by
    rw [getTime, getFormatTimestamp, getFormatTimestamp, ht.toInt32_eq, toInt32_of_lt hlt,
      Nat.cast_add, Nat.cast_ofNat]
  have hne : t.tvSec.toNat + 28800 ≠ 0 := by omega
  rw [htime, showsDate_iff hlt, or_iff_right hne]

theorem startsMonth_february : StartsMonth 2678400 := by
  obtain ⟨t, hstarts, ht⟩ := @exists_startsMonth 1970 1970 1 le_rfl le_rfl (by decide)
  rw [Finset.Ico_self, Finset.sum_empty, Finset.Ico_self, Finset.sum_empty] at ht
  exact ⟨t, ht, hstarts⟩

theorem getFormatTimestamp_calendar_february :
    ¬ ShowsDate 2678400 (getFormatTimestamp 2678400) ∧
      ¬ ShowsDate 2678400 (getTime ⟨2649600, 0, by decide⟩) := by
  have hiff := @getFormatTimestamp_calendar_iff 2678400 (by decide) ⟨2649600, 0, by decide⟩
    (by unfold Timestamp.InRange; decide)
  exact ⟨fun hdate => (hiff.1.mp hdate).resolve_left (by decide) startsMonth_february,
    fun hdate => hiff.2.mp hdate startsMonth_february⟩

/-- The first of February 1970 is given as the 32nd of January. -/
theorem getFormatTimestamp_no_date :
    ¬ ∀ s < 2 ^ 31, ShowsDate s (getFormatTimestamp s) := by
  intro h
  have hdate := (showsDate_iff (s := 2678400) (by decide)).mp (h 2678400 (by decide))
  exact hdate.resolve_left (by decide) startsMonth_february

end UhfGs.Station
