import UhfGs.Library.TextLines
import UhfGs.Station.McsFile

/-! The element set that predict tracks, and `tleupdate`, which looks for that of a satellite in
tle.txt. -/
namespace UhfGs.Station
open CString TextLines

/-- The element set of predict. The fields besides `catnum` are those of the two lines. -/
structure Sat where
  line1 : List UInt8
  line2 : List UInt8
  catnum : Int
  deriving DecidableEq

structure Elements where
  tle1 : List UInt8
  tle2 : List UInt8
  sat : Sat

def tleLineSize : Nat := 120

/-- Nothing fills the table `val`. A `char` from 128 on is negative and reads what stands before
the table. -/
def val (below : UInt8 → UInt8) (c : UInt8) : UInt8 := if c < 128 then 0 else below c

def isdigit (c : UInt8) : Bool := 48 ≤ c ∧ c ≤ 57

def textBytes (s : List Char) : List UInt8 := s.map fun c => UInt8.ofNat c.toNat

def byteText (s : List UInt8) : List Char := s.map fun b => Char.ofNat b.toNat

/-- The characters that `KepCheck` wants in the first line, with their columns. -/
def layout1 : List (Nat × Char) :=
  [(0, '1'), (1, ' '), (7, 'U'), (8, ' '), (17, ' '), (23, '.'), (32, ' '), (34, '.'), (43, ' '),
    (52, ' '), (61, ' '), (62, '0'), (63, ' ')]

def layout2 : List (Nat × Char) :=
  [(0, '2'), (1, ' '), (7, ' '), (11, '.'), (16, ' '), (20, '.'), (25, ' '), (33, ' '), (37, '.'),
    (42, ' '), (46, '.'), (51, ' '), (54, '.')]

def HasLayout (line : List UInt8) (layout : List (Nat × Char)) : Bool :=
  layout.all fun place => byteAt line place.1 = UInt8.ofNat place.2.toNat

def checksumOk (below : UInt8 → UInt8) (line : List UInt8) : Bool :=
  let sum := ((List.range 68).map fun x => (val below (byteAt line x)).toNat).sum
  (val below (byteAt line 68)).toNat = sum % 10

def kepCheck (below : UInt8 → UInt8) (line1 line2 : List UInt8) : Bool :=
  checksumOk below line1 ∧ checksumOk below line2 ∧
    HasLayout line1 layout1 ∧ HasLayout line2 layout2 ∧
    ([2, 3, 4, 5, 6].all fun x => byteAt line1 x = byteAt line2 x) ∧
    isdigit (byteAt line1 68) ∧ isdigit (byteAt line2 68) ∧
    isdigit (byteAt line1 18) ∧ isdigit (byteAt line1 19) ∧
    isdigit (byteAt line2 31) ∧ isdigit (byteAt line2 32)

/-- The columns from `first` to `last` without blanks. -/
def subString (line : List UInt8) (first last : Nat) : List UInt8 :=
  ((line.drop first).take (last + 1 - first)).filter (· ≠ 32)

def internalUpdate (line1 line2 : List UInt8) : Sat :=
  ⟨line1, line2, atoi (byteText (subString line1 2 6))⟩

def setTLE (below : UInt8 → UInt8) (line1 line2 : List UInt8) : Option Sat :=
  if kepCheck below line1 line2 then some (internalUpdate (line1.take 69) (line2.take 69)) else none

example : (setTLE (fun _ => 0)
    (textBytes
      "1 56309U 23057A   23113.19178240  .00000000  00000-0  00000-0 0  9990".toList)
    (textBytes
      "2 56309   9.9823 123.0000 0012345  12.3456 234.5678 14.98765432 12345".toList)).map
    Sat.catnum = some 56309 := by decide +kernel

def match0 (elementid : UInt32) : List UInt8 := textBytes (sprintfD elementid.toNat ++ "U ".toList)

def match1 (elementid : UInt32) : List UInt8 := textBytes (sprintfD elementid.toNat ++ " ".toList)

/-- A line of tle.txt as the code looks at it, cut at the first carriage return or newline. -/
def lineText (line : List UInt8) : List UInt8 := strtok (fun c => c = 13 ∨ c = 10) (cString line)

def IsLine1 (elementid : UInt32) (line : List UInt8) : Bool := match0 elementid <:+: lineText line

def IsLine2 (elementid : UInt32) (line : List UInt8) : Bool := match1 elementid <:+: lineText line

/-- The loop over the lines. `strncpy` writes as many bytes as the buffer of `getline` has, which
are too many for the static lines once that has grown. -/
def scanTle (elementid : UInt32) :
    Nat → List (List UInt8) → List UInt8 → List UInt8 → Option (List UInt8 × List UInt8)
  | _, [], tle1, tle2 => some (tle1, tle2)
  | len, line :: rest, tle1, tle2 =>
      let len := grow len line
      if (IsLine1 elementid line ∨ IsLine2 elementid line) ∧ tleLineSize < len then none
      else
        scanTle elementid len rest
          (if IsLine1 elementid line then lineText line else tle1)
          (if IsLine2 elementid line then lineText line else tle2)

/-- What a call of `tleupdate` finds: whether tle.txt opens, whether curl gets the file, what is in
it then, and what stands before `val`. -/
structure TleEnv where
  opens : Bool
  retrieved : Bool
  content : List UInt8
  below : UInt8 → UInt8

/-- How a call ends: it returns, it uses the null stream of tle.txt, or it writes past a static
line. -/
inductive TleRun where
  | done (elements : Elements)
  | dies
  | overruns

def TleRun.elements : TleRun → Option Elements
  | .done elements => some elements
  | .dies => none
  | .overruns => none

def getlineSize : Nat := 120

def tleupdate (env : TleEnv) (elementid : UInt32) (e : Elements) : TleRun :=
  if ¬ env.opens then .dies
  else if ¬ env.retrieved then .done e
  else if elementid = 0 then .done e
  else
    match scanTle elementid getlineSize (fileLines env.content) e.tle1 e.tle2 with
    | none => .overruns
    | some (tle1, tle2) =>
        if tle1 = [] then .done { e with tle1 := tle1, tle2 := tle2 }
        else
          .done
            { tle1 := tle1
              tle2 := tle2
              sat := (setTLE env.below tle1 tle2).getD e.sat }

/-- A line with the number of the satellite stands in the file where that or an earlier line has
120 bytes or more. -/
def Overruns (elementid : UInt32) (lines : List (List UInt8)) : Prop :=
  ∃ before line after, lines = before ++ line :: after ∧
    (IsLine1 elementid line ∨ IsLine2 elementid line) ∧
    ∃ l ∈ before ++ [line], tleLineSize ≤ l.length

/-- The element set that a download gives: that of the latest lines with the number, where there
is a first line and the two pass the check. Lines that the file does not have are those of an
earlier download. -/
def TleEnv.found (env : TleEnv) (elementid : UInt32) (e : Elements) : Option Sat :=
  if env.retrieved then
    let lines := (fileLines env.content)
    let tle1 := latest (fun l => match0 elementid <:+: l) e.tle1 (lines.map lineText)
    let tle2 := latest (fun l => match1 elementid <:+: l) e.tle2 (lines.map lineText)
    if tle1 = [] then none else setTLE env.below tle1 tle2
  else none

section
variable {elementid : UInt32} {lines : List (List UInt8)} {tle1 tle2 : List UInt8} {len : Nat}

theorem scanTle_eq_none_iff (hlen : tleLineSize ≤ len) :
    scanTle elementid len lines tle1 tle2 = none ↔
      ∃ before line after, lines = before ++ line :: after ∧
        (IsLine1 elementid line ∨ IsLine2 elementid line) ∧
        (tleLineSize < len ∨ ∃ l ∈ before ++ [line], tleLineSize ≤ l.length) := by
  induction lines generalizing len tle1 tle2 with
  | nil => simp [scanTle]
  | cons line rest ih =>
      rw [exists_split_cons (P := fun before line =>
        (IsLine1 elementid line ∨ IsLine2 elementid line) ∧
          (tleLineSize < len ∨ ∃ l ∈ before ++ [line], tleLineSize ≤ l.length))]
      by_cases hover : (IsLine1 elementid line ∨ IsLine2 elementid line) ∧
          tleLineSize < grow len line
      · have hnone : scanTle elementid len (line :: rest) tle1 tle2 = none := if_pos hover
        rw [hnone]
        refine iff_of_true rfl (Or.inl ⟨hover.1, ?_⟩)
        simpa using (lt_grow_iff hlen line).mp hover.2
      · have hstep : scanTle elementid len (line :: rest) tle1 tle2 =
            scanTle elementid (grow len line) rest
              (if IsLine1 elementid line then lineText line else tle1)
              (if IsLine2 elementid line then lineText line else tle2) := if_neg hover
        rw [hstep, ih (hlen.trans (le_grow len line)), lt_grow_iff hlen]
        rw [lt_grow_iff hlen] at hover
        simp only [List.cons_append, List.mem_cons, exists_eq_or_imp, or_assoc, List.nil_append,
          List.not_mem_nil, or_false, exists_eq_left]
        exact ⟨Or.inr, fun h => h.resolve_left hover⟩

/-- Where nothing is overrun the lines are the latest ones with the number. -/
theorem scanTle_eq_some {tle : List UInt8 × List UInt8}
    (h : scanTle elementid len lines tle1 tle2 = some tle) :
    tle.1 = latest (fun l => match0 elementid <:+: l) tle1 (lines.map lineText) ∧
      tle.2 = latest (fun l => match1 elementid <:+: l) tle2 (lines.map lineText) := by
  induction lines generalizing len tle1 tle2 with
  | nil =>
      obtain rfl := Option.some.inj h
      exact ⟨rfl, rfl⟩
  | cons line rest ih =>
      simp only [scanTle] at h
      split at h
      · cases h
      · simp only [List.map_cons, latest_cons]
        exact ih h

end

theorem overruns_iff (elementid : UInt32) (lines : List (List UInt8)) (tle1 tle2 : List UInt8) :
    scanTle elementid getlineSize lines tle1 tle2 = none ↔ Overruns elementid lines := by
  rw [scanTle_eq_none_iff (show tleLineSize ≤ getlineSize from Nat.le_refl _)]
  simp only [getlineSize, tleLineSize, Nat.lt_irrefl, false_or, Overruns]

theorem tleupdate_cases (env : TleEnv) {elementid : UInt32} (hid : elementid ≠ 0) (e : Elements)
    (ho : env.opens = true) :
    (env.retrieved = true ∧ Overruns elementid (fileLines env.content) ∧
        tleupdate env elementid e = .overruns) ∨
    (¬ (env.retrieved = true ∧ Overruns elementid (fileLines env.content)) ∧
      ∃ tle1 tle2, tleupdate env elementid e =
        .done ⟨tle1, tle2, (env.found elementid e).getD e.sat⟩) := by
  unfold tleupdate TleEnv.found
  rw [if_neg (not_not.mpr ho)]
  by_cases hr : env.retrieved = true
  · simp only [hr, not_true_eq_false, if_false, hid, true_and, if_true]
    cases hscan : scanTle elementid getlineSize (fileLines env.content) e.tle1 e.tle2 with
    | none => exact Or.inl ⟨(overruns_iff _ _ _ _).mp hscan, rfl⟩
    | some tle =>
        obtain ⟨h1, h2⟩ := scanTle_eq_some hscan
        refine Or.inr ⟨fun hover => ?_, tle.1, tle.2, ?_⟩
        · rw [(overruns_iff _ _ _ _).mpr hover] at hscan
          cases hscan
        · rw [← h1, ← h2]
          by_cases hempty : tle.1 = []
          · simp only [hempty, if_true, Option.getD_none]
          · simp only [hempty, if_false]
  · simp only [hr]
    exact Or.inr ⟨fun h => absurd h.1 (by decide), e.tle1, e.tle2, rfl⟩

end UhfGs.Station
