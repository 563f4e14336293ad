import UhfGs.Library.CountOff
import UhfGs.Station.SendPacket

/-! The clock of the station as text: `get_time` and `get_format_timestamp`. -/
namespace UhfGs.Station
open CString CountOff

structure Timestamp where
  tvSec : UInt32
  tvNsec : UInt32
  nsec_lt : tvNsec < 1000000000

def isLeapYear (x : Nat) : Bool := x % 4 = 0 ∧ (x % 100 ≠ 0 ∨ x % 400 = 0)

def days : List Nat := [31, 28, 31, 30, 31, 30, 31, 31, 30, 31, 30, 31]
def daysl : List Nat := [31, 29, 31, 30, 31, 30, 31, 31, 30, 31, 30, 31]

def yearSeconds (year : Nat) : Int := (if isLeapYear year then 366 else 365) * 24 * 60 * 60

/-- The tables end with December. -/
def monthSeconds (year mon : Nat) : Int :=
  ((if isLeapYear year then daysl else days).getD (mon - 1) 31 : Nat) * 24 * 60 * 60

theorem yearSeconds_pos (year : Nat) : 0 < yearSeconds year := by
  unfold yearSeconds
  split <;> decide

theorem monthDays (year mon : Nat) :
    28 ≤ (if isLeapYear year then daysl else days).getD (mon - 1) 31 ∧
      (if isLeapYear year then daysl else days).getD (mon - 1) 31 ≤ 31 := by
  have hall : ∀ d ∈ days ++ daysl, 28 ≤ d ∧ d ≤ 31 := by decide
  rw [List.getD_eq_getElem?_getD]
  cases h : (if isLeapYear year then daysl else days)[mon - 1]? with
  | none => decide
  | some d =>
      have hd : d ∈ (if isLeapYear year then daysl else days) := List.mem_of_getElem? h
      refine hall d (List.mem_append.mpr ?_)
      split at hd
      · exact Or.inr hd
      · exact Or.inl hd

theorem monthSeconds_pos (year mon : Nat) : 0 < monthSeconds year mon := by
  have hdays := (monthDays year mon).1
  unfold monthSeconds
  omega

structure Fields where
  day : Int
  mon : Nat
  year : Nat
  hour : Int
  min : Int
  sec : Int

/-- The two loops over years and months, and the divisions behind them. -/
def fieldsOf (s : Int) : Fields :=
  let (year, s) := countOff yearSeconds_pos 1970 s
  let (mon, s) := countOff (monthSeconds_pos year) 1 s
  let day := s.tdiv (24 * 60 * 60)
  let s := s - day * 24 * 60 * 60
  let day := day + 1
  let hour := s.tdiv (60 * 60)
  let s := s - hour * 60 * 60
  let min := s.tdiv 60
  let s := s - min * 60
  ⟨day, mon, year, hour, min, s⟩

/-- `sprintf(str, "%02d-%02d-%4d %02d:%02d:%02d", day, mon, year, hour, min, s)`. -/
def Fields.print (f : Fields) : List Char :=
  sprintfZeros 2 f.day ++ '-' :: (sprintfZeros 2 f.mon ++ '-' :: (sprintfBlanks 4 f.year ++ ' ' ::
    (sprintfZeros 2 f.hour ++ ':' :: (sprintfZeros 2 f.min ++ ':' :: sprintfZeros 2 f.sec))))

/-- `get_format_timestamp` with the year base 1970. The time is cut down to an `int`. -/
def getFormatTimestamp (utime : Nat) : List Char := (fieldsOf (toInt32 utime)).print

def clockFields (year mon : Nat) (s : Int) : Fields :=
  let day := s.tdiv (24 * 60 * 60)
  let s := s - day * 24 * 60 * 60
  let day := day + 1
  let hour := s.tdiv (60 * 60)
  let s := s - hour * 60 * 60
  let min := s.tdiv 60
  let s := s - min * 60
  ⟨day, mon, year, hour, min, s⟩

/-- The loop over the months on its table: the values of `mon` with which the table is read, and
month and rest, where no read lies outside. -/
def monthLoop (daysp : List Nat) (mon : Nat) (s sec : Int) : List Nat × Option (Nat × Int) :=
  if sec < s then
    let next := mon + 1
    match _ : daysp[next - 1]? with
    | none => ([next], none)
    | some d =>
        let (reads, rest) := monthLoop daysp next (s - sec) (d * 24 * 60 * 60)
        (next :: reads, rest)
  else ([], some (mon, s))
termination_by daysp.length - mon
decreasing_by
  have hlt := (List.getElem?_eq_some_iff.mp ‹_›).1
  omega

/-- The loops and divisions of `get_format_timestamp`, with the reads of the tables. -/
def fieldsRun (s : Int) : List Nat × Option Fields :=
  let (year, s) := countOff yearSeconds_pos 1970 s
  let daysp := if isLeapYear year then daysl else days
  let (reads, rest) := monthLoop daysp 1 s (31 * 24 * 60 * 60)
  (reads, rest.map fun (mon, s) => clockFields year mon s)

def formatRun (utime : Nat) : List Nat × Option Fields := fieldsRun (toInt32 utime)

/-- The two words of the time are read as one number: the host is little-endian, so that the
seconds are the low half. -/
def getTime (newTime : Timestamp) : List Char :=
  let convertedTime := newTime.tvSec.toNat + newTime.tvNsec.toNat * 2 ^ 32
  getFormatTimestamp (convertedTime + 28800)

/-- The seconds for which the shifted time is still an `int`. -/
def Timestamp.InRange (t : Timestamp) : Prop := t.tvSec.toNat < 2 ^ 31 - 28800

structure Fields.Fits (f : Fields) : Prop where
  day : 0 ≤ f.day ∧ f.day < 100
  mon : f.mon < 100
  year : 1000 ≤ f.year ∧ f.year < 10000
  hour : 0 ≤ f.hour ∧ f.hour < 100
  min : 0 ≤ f.min ∧ f.min < 100
  sec : 0 ≤ f.sec ∧ f.sec < 100

section
variable {f g : Fields}

theorem length_two {n : Int} (h : 0 ≤ n ∧ n < 100) : (sprintfZeros 2 n).length = 2 :=
  length_sprintfZeros (by decide) h.1 (by simpa using h.2)

theorem two_inj {m n : Int} (hm : 0 ≤ m) (hn : 0 ≤ n) (h : sprintfZeros 2 m = sprintfZeros 2 n) :
    m = n := by
  rw [← atoi_sprintfZeros 2 hm, h, atoi_sprintfZeros 2 hn]

theorem Fields.Fits.length_mon (h : f.Fits) : (sprintfZeros 2 (f.mon : Int)).length = 2 := by
  have hmon := h.mon
  exact length_two (by omega)

theorem Fields.Fits.length_year (h : f.Fits) : (sprintfBlanks 4 (f.year : Int)).length = 4 := by
  have hyear := h.year.2
  exact length_sprintfBlanks (by decide) (by omega) (by norm_num; omega)

theorem Fields.Fits.length_print (h : f.Fits) : f.print.length = 19 := by
  simp only [Fields.print, List.length_append, List.length_cons, length_two h.day, h.length_mon,
    h.length_year, length_two h.hour, length_two h.min, length_two h.sec]

theorem append_sep_inj {s t s' t' : List Char} {c : Char} (hl : s.length = t.length)
    (h : s ++ c :: s' = t ++ c :: t') : s = t ∧ s' = t' := by
  obtain ⟨hst, hrest⟩ := List.append_inj h hl
  exact ⟨hst, (List.cons.inj hrest).2⟩

theorem Fields.Fits.print_inj (hf : f.Fits) (hg : g.Fits) (h : f.print = g.print) : f = g := by
  obtain ⟨hday, h⟩ := append_sep_inj ((length_two hf.day).trans (length_two hg.day).symm) h
  obtain ⟨hmon, h⟩ := append_sep_inj (hf.length_mon.trans hg.length_mon.symm) h
  obtain ⟨hyear, h⟩ := append_sep_inj (hf.length_year.trans hg.length_year.symm) h
  obtain ⟨hhour, h⟩ := append_sep_inj ((length_two hf.hour).trans (length_two hg.hour).symm) h
  obtain ⟨hmin, hsec⟩ := append_sep_inj ((length_two hf.min).trans (length_two hg.min).symm) h
  have hmon' : (f.mon : Int) = g.mon := two_inj (by omega) (by omega) hmon
  have hyear' : (f.year : Int) = g.year := by
    rw [← atoi_sprintfBlanks 4 f.year, hyear, atoi_sprintfBlanks]
  obtain ⟨day, mon, year, hour, min, sec⟩ := f
  simp only at hmon' hyear'
  rw [Int.natCast_inj] at hmon' hyear'
  subst hmon' hyear'
  rw [Fields.mk.injEq]
  exact ⟨two_inj hf.day.1 hg.day.1 hday, rfl, rfl, two_inj hf.hour.1 hg.hour.1 hhour,
    two_inj hf.min.1 hg.min.1 hmin, two_inj hf.sec.1 hg.sec.1 hsec⟩

end

theorem monthSeconds_le (year mon : Nat) : monthSeconds year mon ≤ 31 * 24 * 60 * 60 := by
  have hdays := (monthDays year mon).2
  unfold monthSeconds
  omega

theorem sum_monthSeconds (year : Nat) :
    ∑ mon ∈ Finset.Ico 1 13, monthSeconds year mon = yearSeconds year := by
  unfold monthSeconds yearSeconds
  split
  · decide
  · decide

theorem yearSeconds_ge (year : Nat) : 31536000 ≤ yearSeconds year := by
  unfold yearSeconds
  split <;> decide

theorem fieldsOf_rest (s : Int) :
    ((fieldsOf s).mon, ((fieldsOf s).day - 1) * 24 * 60 * 60 + (fieldsOf s).hour * 60 * 60 +
      (fieldsOf s).min * 60 + (fieldsOf s).sec) =
      countOff (monthSeconds_pos (fieldsOf s).year) 1 (countOff yearSeconds_pos 1970 s).2 := by
  refine Prod.ext rfl ?_
  simp only [fieldsOf]
  ring

theorem fieldsOf_inj {s t : Int} (h : fieldsOf s = fieldsOf t) : s = t := by
  have hmonth : countOff (monthSeconds_pos (fieldsOf t).year) 1 (countOff yearSeconds_pos 1970 s).2 =
      countOff (monthSeconds_pos (fieldsOf t).year) 1 (countOff yearSeconds_pos 1970 t).2 := by
    rw [← fieldsOf_rest t, ← h, fieldsOf_rest s]
  have hyear : (countOff yearSeconds_pos 1970 s).1 = (countOff yearSeconds_pos 1970 t).1 :=
    congrArg Fields.year h
  exact countOff_inj yearSeconds_pos (Prod.ext hyear (countOff_inj _ hmonth))

theorem fieldsOf_clock {s : Int} (h0 : 0 ≤ s) :
    1 ≤ (fieldsOf s).day ∧ (0 ≤ (fieldsOf s).hour ∧ (fieldsOf s).hour < 24) ∧
      (0 ≤ (fieldsOf s).min ∧ (fieldsOf s).min < 60) ∧
      0 ≤ (fieldsOf s).sec ∧ (fieldsOf s).sec < 60 := by
  have hs := countOff_nonneg yearSeconds_pos 1970 h0
  have hs' := countOff_nonneg (monthSeconds_pos (countOff yearSeconds_pos 1970 s).1) 1 hs
  simp only [fieldsOf]
  generalize (countOff (monthSeconds_pos (countOff yearSeconds_pos 1970 s).1) 1
    (countOff yearSeconds_pos 1970 s).2).2 = r at *
  have hday : r.tdiv (24 * 60 * 60) = r / 86400 := Int.tdiv_eq_ediv_of_nonneg hs'
  rw [hday]
  have hr : 0 ≤ r - r / 86400 * 24 * 60 * 60 ∧ r - r / 86400 * 24 * 60 * 60 < 86400 := by omega
  have hpos : 0 ≤ r / 86400 := by omega
  generalize r - r / 86400 * 24 * 60 * 60 = q at hr ⊢
  have hhour : q.tdiv (60 * 60) = q / 3600 := Int.tdiv_eq_ediv_of_nonneg hr.1
  rw [hhour]
  have hq : 0 ≤ q - q / 3600 * 60 * 60 ∧ q - q / 3600 * 60 * 60 < 3600 := by omega
  have hbound : 0 ≤ q / 3600 ∧ q / 3600 < 24 := by omega
  generalize q - q / 3600 * 60 * 60 = p at hq ⊢
  have hmin : p.tdiv 60 = p / 60 := Int.tdiv_eq_ediv_of_nonneg hq.1
  rw [hmin]
  omega

section
variable {s : Int} (h0 : 0 ≤ s) (h : s < 2 ^ 31)
include h0 h

theorem year_le : (countOff yearSeconds_pos 1970 s).1 ≤ 2038 := by
  by_contra hlong
  have hsum := sum_lt_of_countOff yearSeconds_pos (k := 1970) (m := 2039) (s := s) (by decide)
    (by omega)
  have hge : (Finset.Ico 1970 2039).card • (31536000 : Int) ≤
      ∑ year ∈ Finset.Ico 1970 2039, yearSeconds year :=
    Finset.card_nsmul_le_sum _ _ _ fun year _ => yearSeconds_ge year
  norm_num at hge
  omega

omit h0 h in
theorem mon_le {year : Nat} (hs : s ≤ yearSeconds year) :
    (countOff (monthSeconds_pos year) 1 s).1 ≤ 12 := by
  by_contra hlong
  have hsum := sum_lt_of_countOff (monthSeconds_pos year) (k := 1) (m := 13) (s := s) (by decide)
    (by omega)
  rw [sum_monthSeconds] at hsum
  omega

theorem fieldsOf_fits : (fieldsOf s).Fits := by
  have hyear := year_le h0 h
  have hyear' := le_countOff yearSeconds_pos 1970 s
  have hs := countOff_nonneg yearSeconds_pos 1970 h0
  have hmon := mon_le (countOff_le yearSeconds_pos 1970 s)
  have hs' := countOff_nonneg (monthSeconds_pos (countOff yearSeconds_pos 1970 s).1) 1 hs
  have hle := (countOff_le (monthSeconds_pos (countOff yearSeconds_pos 1970 s).1) 1
    (countOff yearSeconds_pos 1970 s).2).trans (monthSeconds_le _ _)
  simp only [fieldsOf]
  generalize countOff yearSeconds_pos 1970 s = y at *
  obtain ⟨year, s1⟩ := y
  generalize countOff (monthSeconds_pos year) 1 s1 = m at *
  obtain ⟨mon, s2⟩ := m
  simp only at hyear hyear' hs hmon hs' hle ⊢
  have hday : s2.tdiv (24 * 60 * 60) = s2 / 86400 := Int.tdiv_eq_ediv_of_nonneg hs'
  rw [hday]
  have hr : 0 ≤ s2 - s2 / 86400 * 24 * 60 * 60 := by omega
  have hhour : (s2 - s2 / 86400 * 24 * 60 * 60).tdiv (60 * 60) =
      (s2 - s2 / 86400 * 24 * 60 * 60) / 3600 := Int.tdiv_eq_ediv_of_nonneg hr
  rw [hhour]
  have hlt : s2 - s2 / 86400 * 24 * 60 * 60 < 86400 := by omega
  generalize s2 - s2 / 86400 * 24 * 60 * 60 = s3 at hr hlt ⊢
  have hr' : 0 ≤ s3 - s3 / 3600 * 60 * 60 := by omega
  have hmin : (s3 - s3 / 3600 * 60 * 60).tdiv 60 = (s3 - s3 / 3600 * 60 * 60) / 60 :=
    Int.tdiv_eq_ediv_of_nonneg hr'
  rw [hmin]
  refine ⟨?_, ?_, ?_, ?_, ?_, ?_⟩ <;> simp only <;> omega

end

theorem toInt32_add_mul (n k : Nat) : toInt32 (n + 2 ^ 32 * k) = toInt32 n := by
  unfold toInt32
  rw [Nat.cast_add, Nat.cast_mul, Nat.cast_pow, Nat.cast_ofNat]
  exact Int.add_mul_bmod_self_left _ _ _

theorem toInt32_shifted {sec shift : Nat} (h : sec + shift < 2 ^ 31) (nsec : Nat) :
    toInt32 (sec + nsec * 2 ^ 32 + shift) = sec + shift := by
  have hsplit : sec + nsec * 2 ^ 32 + shift = sec + shift + 2 ^ 32 * nsec := by ring
  calc toInt32 (sec + nsec * 2 ^ 32 + shift)
      = toInt32 (sec + shift + 2 ^ 32 * nsec) := congrArg toInt32 hsplit
    _ = toInt32 (sec + shift) := toInt32_add_mul _ _
    _ = (sec + shift : Nat) := toInt32_of_lt h
    _ = sec + shift := Nat.cast_add _ _

section
variable {t u : Timestamp}

theorem Timestamp.InRange.toInt32_eq (h : t.InRange) :
    toInt32 (t.tvSec.toNat + t.tvNsec.toNat * 2 ^ 32 + 28800) = t.tvSec.toNat + 28800 := by
  have hlt : t.tvSec.toNat + 28800 < 2 ^ 31 := Nat.add_lt_of_lt_sub h
  have hshift := toInt32_shifted hlt t.tvNsec.toNat
  rw [Nat.cast_ofNat] at hshift
  exact hshift

theorem Timestamp.InRange.getTime_length (h : t.InRange) : (getTime t).length = 19 := by
  have hlt : t.tvSec.toNat + 28800 < 2 ^ 31 := Nat.add_lt_of_lt_sub h
  rw [getTime, getFormatTimestamp, h.toInt32_eq]
  exact (fieldsOf_fits (by omega) (by omega)).length_print

theorem getTime_inj (ht : t.InRange) (hu : u.InRange) (h : getTime t = getTime u) :
    t.tvSec = u.tvSec := by
  have hlt : t.tvSec.toNat + 28800 < 2 ^ 31 := Nat.add_lt_of_lt_sub ht
  have hlu : u.tvSec.toNat + 28800 < 2 ^ 31 := Nat.add_lt_of_lt_sub hu
  rw [getTime, getFormatTimestamp, ht.toInt32_eq, getTime, getFormatTimestamp, hu.toInt32_eq] at h
  have hs := fieldsOf_inj ((fieldsOf_fits (by omega) (by omega)).print_inj
    (fieldsOf_fits (by omega) (by omega)) h)
  rw [← UInt32.toNat_inj]
  omega

def Timestamp.string (t : Timestamp) (h : t.InRange) : TimeString := ⟨getTime t, h.getTime_length⟩

end
theorem monthLoop_eq (year : Nat) {mon : Nat} {s : Int} (h1 : 1 ≤ mon)
    (h12 : (countOff (monthSeconds_pos year) mon s).1 ≤ 12) :
    let run := monthLoop (if isLeapYear year then daysl else days) mon s (monthSeconds year mon)
    (∀ m ∈ run.1, mon < m ∧ m ≤ 12) ∧ run.2 = some (countOff (monthSeconds_pos year) mon s) := by
  induction mon, s using countOff.induct (monthSeconds_pos year) with
  | case1 mon s hlt ih =>
      rw [countOff, if_pos hlt] at h12
      have hle := le_countOff (monthSeconds_pos year) (mon + 1) (s - monthSeconds year mon)
      obtain ⟨hreads, hrest⟩ := ih (by omega) h12
      have hread : (if isLeapYear year then daysl else days)[mon + 1 - 1]? =
          some ((if isLeapYear year then daysl else days).getD (mon + 1 - 1) 31) := by
        have hlen : (if isLeapYear year then daysl else days).length = 12 := by
          split <;> rfl
        rw [List.getD_eq_getElem?_getD, List.getElem?_eq_getElem (by omega), Option.getD_some]
      have hrun : monthLoop (if isLeapYear year then daysl else days) mon s
          (monthSeconds year mon) =
          ((mon + 1) :: (monthLoop (if isLeapYear year then daysl else days) (mon + 1)
            (s - monthSeconds year mon) (monthSeconds year (mon + 1))).1,
          (monthLoop (if isLeapYear year then daysl else days) (mon + 1)
            (s - monthSeconds year mon) (monthSeconds year (mon + 1))).2) := by
        rw [monthLoop, if_pos hlt]
        dsimp only
        split
        · rename_i hnone
          rw [hnone] at hread
          cases hread
        · rename_i d hd
          rw [hd] at hread
          rw [Option.some.inj hread]
          rfl
      rw [hrun, countOff, if_pos hlt]
      refine ⟨List.forall_mem_cons.mpr ⟨by omega, fun m hm => ?_⟩, hrest⟩
      have hm' := hreads m hm
      omega
  | case2 mon s hge =>
      rw [monthLoop, if_neg hge, countOff, if_neg hge]
      exact ⟨List.forall_mem_nil _, rfl⟩

theorem monthSeconds_one (year : Nat) : monthSeconds year 1 = 31 * 24 * 60 * 60 := by
  unfold monthSeconds
  split
  · norm_num [daysl]
  · norm_num [days]

theorem fieldsRun_eq (s : Int) : (∀ mon ∈ (fieldsRun s).1, 1 ≤ mon ∧ mon ≤ 12) ∧
    (fieldsRun s).2 = some (fieldsOf s) := by
  have hmon := mon_le (countOff_le yearSeconds_pos 1970 s)
  obtain ⟨hreads, hrest⟩ := monthLoop_eq (countOff yearSeconds_pos 1970 s).1 le_rfl hmon
  rw [monthSeconds_one] at hreads hrest
  constructor
  · intro mon hm
    have hm' := hreads mon hm
    omega
  · exact congrArg (Option.map fun months => clockFields _ months.1 months.2) hrest

theorem getFormatTimestamp_inj {s t : Nat} (hs : s < 2 ^ 31) (ht : t < 2 ^ 31)
    (h : getFormatTimestamp t = getFormatTimestamp s) : t = s := by
  rw [getFormatTimestamp, getFormatTimestamp, toInt32_of_lt hs, toInt32_of_lt ht] at h
  have hfields := (fieldsOf_fits (by omega) (by omega)).print_inj
    (fieldsOf_fits (by omega) (by omega)) h
  exact_mod_cast fieldsOf_inj hfields

/-- A call ends without a read outside the tables, prints the fields of a clock in 19 characters,
and no other time in the same ones. -/
theorem getFormatTimestamp_run {s : Nat} (h : s < 2 ^ 31) :
    (∀ mon ∈ (formatRun s).1, 1 ≤ mon ∧ mon ≤ 12) ∧
      (∃ f, (formatRun s).2 = some f ∧ (0 ≤ f.hour ∧ f.hour < 24) ∧ (0 ≤ f.min ∧ f.min < 60) ∧
        (0 ≤ f.sec ∧ f.sec < 60) ∧ getFormatTimestamp s = f.print) ∧
      (getFormatTimestamp s).length = 19 ∧
      ∀ t < 2 ^ 31, getFormatTimestamp t = getFormatTimestamp s → t = s := by
  obtain ⟨hreads, hrun⟩ := fieldsRun_eq (toInt32 s)
  have hclock := fieldsOf_clock (s := toInt32 s) (by rw [toInt32_of_lt h]; omega)
  refine ⟨hreads, ⟨_, hrun, hclock.2.1, hclock.2.2.1, hclock.2.2.2, rfl⟩, ?_,
    fun t ht htext => getFormatTimestamp_inj h ht htext⟩
  rw [getFormatTimestamp, toInt32_of_lt h]
  exact (fieldsOf_fits (by omega) (by omega)).length_print

/-- The first of March 1970, for which the table is read twice. -/
theorem getFormatTimestamp_run_march : (formatRun 5097601).1 = [2, 3] ∧
    ∀ mon ∈ (formatRun 5097601).1, 1 ≤ mon ∧ mon ≤ 12 :=
  ⟨by decide +kernel, (getFormatTimestamp_run (by decide)).1⟩

end UhfGs.Station
