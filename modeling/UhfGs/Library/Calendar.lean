import UhfGs.Library.CountOff

/-! The proleptic Gregorian calendar: dates and times of day, counted from the first of January of
a year. -/
namespace UhfGs.Calendar
open CountOff

/-- Every fourth year, but of the centuries only every fourth. -/
def IsLeap (year : Nat) : Prop := 4 ∣ year ∧ (100 ∣ year → 400 ∣ year)

instance (year : Nat) : Decidable (IsLeap year) := inferInstanceAs (Decidable (_ ∧ _))

def yearLength (year : Nat) : Nat := if IsLeap year then 366 else 365

def monthLength (year mon : Nat) : Nat :=
  if mon = 2 then if IsLeap year then 29 else 28 else if mon ∈ [4, 6, 9, 11] then 30 else 31

variable {epoch : Nat}

@[ext] structure Date (epoch : Nat) where
  (year mon day : Nat)
  year_ge : epoch ≤ year
  mon_mem : 1 ≤ mon ∧ mon ≤ 12
  day_mem : 1 ≤ day ∧ day ≤ monthLength year mon

@[ext] structure Moment (epoch : Nat) extends Date epoch where
  (hour min sec : Nat)
  hour_lt : hour < 24
  min_lt : min < 60
  sec_lt : sec < 60

def Date.dayOfYear (d : Date epoch) : Nat :=
  ∑ mon ∈ Finset.Ico 1 d.mon, monthLength d.year mon + (d.day - 1)

def Date.days (d : Date epoch) : Nat :=
  ∑ year ∈ Finset.Ico epoch d.year, yearLength year + d.dayOfYear

def Moment.seconds (t : Moment epoch) : Nat := ((t.days * 24 + t.hour) * 60 + t.min) * 60 + t.sec

def Moment.StartsMonth (t : Moment epoch) : Prop :=
  t.day = 1 ∧ t.hour = 0 ∧ t.min = 0 ∧ t.sec = 0

theorem sum_monthLength (year : Nat) :
    ∑ mon ∈ Finset.Ico 1 13, monthLength year mon = yearLength year := by
  unfold monthLength yearLength
  split
  · decide
  · decide

theorem monthLength_mem (year mon : Nat) : 28 ≤ monthLength year mon ∧ monthLength year mon ≤ 31 := by
  unfold monthLength
  split_ifs <;> decide

theorem Date.dayOfYear_lt (d : Date epoch) : d.dayOfYear < yearLength d.year := by
  have hmon := d.mon_mem
  have hday := d.day_mem
  have hsplit := Finset.sum_Ico_succ_top hmon.1 (monthLength d.year)
  have hle : ∑ mon ∈ Finset.Ico 1 (d.mon + 1), monthLength d.year mon ≤ yearLength d.year := by
    rw [← sum_monthLength]
    exact Finset.sum_le_sum_of_subset (Finset.Ico_subset_Ico le_rfl (by omega))
  unfold dayOfYear
  omega

theorem Date.days_inj {d d' : Date epoch} (h : d.days = d'.days) : d = d' := by
  obtain ⟨hyear, hrest⟩ := sum_Ico_add_inj d.year_ge d'.year_ge d.dayOfYear_lt d'.dayOfYear_lt h
  have hday := d.day_mem
  have hday' := d'.day_mem
  unfold dayOfYear at hrest
  rw [← hyear] at hrest hday'
  obtain ⟨hmon, hdays⟩ := sum_Ico_add_inj d.mon_mem.1 d'.mon_mem.1 (by omega) (by omega) hrest
  exact Date.ext hyear hmon (by omega)

theorem Moment.seconds_inj {t t' : Moment epoch} (h : t.seconds = t'.seconds) : t = t' := by
  have hhour := t.hour_lt
  have hhour' := t'.hour_lt
  have hmin := t.min_lt
  have hmin' := t'.min_lt
  have hsec := t.sec_lt
  have hsec' := t'.sec_lt
  unfold seconds at h
  have hdate : t.toDate = t'.toDate := Date.days_inj (by omega)
  rw [hdate] at h
  exact Moment.ext (congrArg Date.year hdate) (congrArg Date.mon hdate) (congrArg Date.day hdate)
    (by omega) (by omega) (by omega)

theorem exists_startsMonth {year mon : Nat} (hyear : epoch ≤ year) (hmon : 1 ≤ mon)
    (hmon' : mon ≤ 12) : ∃ t : Moment epoch, t.StartsMonth ∧
      t.seconds = (∑ y ∈ Finset.Ico epoch year, yearLength y +
        (∑ m ∈ Finset.Ico 1 mon, monthLength year m + monthLength year mon)) * 86400 := by
  rw [← Finset.sum_Ico_succ_top hmon]
  obtain hlt | rfl := Nat.lt_or_eq_of_le hmon'
  · have hday := (monthLength_mem year (mon + 1)).1
    refine ⟨⟨⟨year, mon + 1, 1, hyear, by omega, by omega⟩, 0, 0, 0, by decide, by decide,
      by decide⟩, ⟨rfl, rfl, rfl, rfl⟩, ?_⟩
    simp only [Moment.seconds, Date.days, Date.dayOfYear]
    omega
  · have hday := (monthLength_mem (year + 1) 1).1
    refine ⟨⟨⟨year + 1, 1, 1, by omega, by decide, by omega⟩, 0, 0, 0, by decide, by decide,
      by decide⟩, ⟨rfl, rfl, rfl, rfl⟩, ?_⟩
    have hsplit := Finset.sum_Ico_succ_top hyear yearLength
    have hmonths : ∑ m ∈ Finset.Ico 1 (12 + 1), monthLength year m = yearLength year :=
      sum_monthLength year
    simp only [Moment.seconds, Date.days, Date.dayOfYear, Finset.Ico_self, Finset.sum_empty]
    omega

end UhfGs.Calendar
