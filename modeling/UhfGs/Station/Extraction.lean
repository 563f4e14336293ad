import UhfGs.Station.Elements

/-! Which lines `tleupdate` takes from a file of three-line element sets. -/
namespace UhfGs.Station
open CString TextLines

/-- An element set in a file: a name and two lines, which have their layout and the catalogue
number. Each line ends with a newline, and carriage returns before it. -/
structure TleSet where
  (name line1 line2 : List UInt8)
  (nameReturns returns1 returns2 : Nat)
  catnum : Nat
  pad : Char
  name_ne : name ≠ []
  plain : ∀ c ∈ name ++ line1 ++ line2, c ≠ 0 ∧ c ≠ 10 ∧ c ≠ 13
  length1 : line1.length = 69
  length2 : line2.length = 69
  layout1 : HasLayout line1 layout1
  layout2 : HasLayout line2 layout2
  catnum1 : (line1.drop 2).take 5 = textBytes ((Nat.toDigits 10 catnum).leftpad 5 pad)
  catnum2 : (line2.drop 2).take 5 = textBytes ((Nat.toDigits 10 catnum).leftpad 5 pad)

namespace TleSet

def lines (s : TleSet) : List (List UInt8) := [s.name, s.line1, s.line2]

def rawLines (s : TleSet) : List (List UInt8) :=
  [s.name ++ lineEnd s.nameReturns, s.line1 ++ lineEnd s.returns1, s.line2 ++ lineEnd s.returns2]

end TleSet

def fileText (file : List TleSet) : List UInt8 := (file.flatMap TleSet.rawLines).flatten

inductive TleError where
  | opening
  | retrieving
  | notFound
  | invalid
  deriving DecidableEq, Repr

def tleupdateErrors (env : TleEnv) (elementid : UInt32) (e : Elements) : List TleError :=
  if ¬ env.opens then [.opening]
  else if ¬ env.retrieved then [.retrieving]
  else if elementid = 0 then []
  else
    match scanTle elementid getlineSize (fileLines env.content) e.tle1 e.tle2 with
    | none => []
    | some (tle1, tle2) =>
        if tle1 = [] then [.notFound]
        else if (setTLE env.below tle1 tle2).isSome then [] else [.invalid]

def TleEnv.downloaded (file : List TleSet) (below : UInt8 → UInt8) : TleEnv :=
  ⟨true, true, fileText file, below⟩

/-- `TLE1` and `TLE2` are left with the lines of the set. -/
def Extracts (run : TleRun) (s : TleSet) : Prop :=
  ∃ e, run = .done e ∧ e.tle1 = s.line1 ∧ e.tle2 = s.line2

/-- The last of the lines that have the pattern, if one does, reads like this line. -/
def LastLike (pattern line : List UInt8) (later : List (List UInt8)) : Prop :=
  latest (fun l => pattern <:+: l) line later = line

instance (pattern line : List UInt8) (later : List (List UInt8)) :
    Decidable (LastLike pattern line later) :=
  inferInstanceAs (Decidable (_ = _))

theorem lineText_lineEnd {line : List UInt8} (hne : line ≠ [])
    (hplain : ∀ c ∈ line, c ≠ 0 ∧ c ≠ 10 ∧ c ≠ 13) (returns : Nat) :
    lineText (line ++ lineEnd returns) = line := by
  have hend : ∀ c ∈ lineEnd returns, c = 13 ∨ c = 10 := by
    intro c hc
    obtain hc | hc := List.mem_append.mp hc
    · exact .inl (List.eq_of_mem_replicate hc)
    · exact .inr (List.mem_singleton.mp hc)
  have hstring : cString (line ++ lineEnd returns) = line ++ lineEnd returns := by
    rw [cString, List.takeWhile_eq_self_iff]
    intro c hc
    obtain hc | hc := List.mem_append.mp hc
    · exact decide_eq_true (hplain c hc).1
    · obtain rfl | rfl := hend c hc <;> decide
  rw [lineText, hstring]
  refine strtok_append hne (fun c hc => ?_) fun c hc => decide_eq_true (hend c hc)
  obtain ⟨-, h10, h13⟩ := hplain c hc
  exact decide_eq_false (not_or.mpr ⟨h13, h10⟩)

namespace TleSet
variable (s : TleSet)

theorem line1_ne : s.line1 ≠ [] := List.ne_nil_of_length_pos (s.length1 ▸ by decide)

theorem line2_ne : s.line2 ≠ [] := List.ne_nil_of_length_pos (s.length2 ▸ by decide)

theorem plain_of_mem {l : List UInt8} (h : l ∈ s.lines) : ∀ c ∈ l, c ≠ 0 ∧ c ≠ 10 ∧ c ≠ 13 := by
  intro c hc
  apply s.plain c
  simp only [lines, List.mem_cons, List.not_mem_nil, or_false] at h
  simp only [List.mem_append]
  obtain rfl | rfl | rfl := h
  · exact .inl (.inl hc)
  · exact .inl (.inr hc)
  · exact .inr hc

theorem map_lineText_rawLines : s.rawLines.map lineText = s.lines := by
  have hname := lineText_lineEnd s.name_ne (s.plain_of_mem (by simp [lines])) s.nameReturns
  have h1 := lineText_lineEnd s.line1_ne (s.plain_of_mem (by simp [lines])) s.returns1
  have h2 := lineText_lineEnd s.line2_ne (s.plain_of_mem (by simp [lines])) s.returns2
  simp only [rawLines, List.map_cons, List.map_nil, hname, h1, h2, lines]

theorem fileLines_append (rest : List UInt8) :
    fileLines (s.rawLines.flatten ++ rest) = s.rawLines ++ fileLines rest := by
  have hnot (l : List UInt8) (h : l ∈ s.lines) : 10 ∉ l := fun hc => (s.plain_of_mem h 10 hc).2.1 rfl
  simp only [rawLines, List.flatten_cons, List.flatten_nil, List.append_nil, List.append_assoc]
  rw [← List.append_assoc, fileLines_lineEnd (hnot s.name (by simp [lines])), ← List.append_assoc,
    fileLines_lineEnd (hnot s.line1 (by simp [lines])), ← List.append_assoc,
    fileLines_lineEnd (hnot s.line2 (by simp [lines]))]
  rfl

end TleSet

theorem fileLines_fileText (file : List TleSet) :
    fileLines (fileText file) = file.flatMap TleSet.rawLines := by
  induction file with
  | nil => rfl
  | cons s file ih =>
      rw [fileText, List.flatMap_cons, List.flatten_append, s.fileLines_append, ← fileText, ih]

theorem map_lineText_fileText (file : List TleSet) :
    (fileLines (fileText file)).map lineText = file.flatMap TleSet.lines := by
  rw [fileLines_fileText, List.map_flatMap]
  congr 1
  funext s
  exact s.map_lineText_rawLines

theorem digits_infix {line tail rest : List UInt8} {n : Nat} {pad : Char}
    (hcolumns : (line.drop 2).take 5 = textBytes ((Nat.toDigits 10 n).leftpad 5 pad))
    (htail : line.drop 7 = tail ++ rest) : textBytes (Nat.toDigits 10 n) ++ tail <:+: line := by
  have hline : line = line.take 2 ++ ((line.drop 2).take 5 ++ line.drop 7) := by
    have hdrop : (line.drop 2).drop 5 = line.drop 7 := List.drop_drop
    rw [← hdrop, List.take_append_drop, List.take_append_drop]
  rw [hcolumns, htail, List.leftpad, textBytes, List.map_append] at hline
  rw [hline]
  exact ⟨line.take 2 ++ textBytes (List.replicate (5 - (Nat.toDigits 10 n).length) pad), rest,
    by simp [textBytes]⟩

theorem drop_eq_byteAt_cons {line : List UInt8} {i : Nat} (h : i < line.length) :
    line.drop i = byteAt line i :: line.drop (i + 1) := by
  rw [List.drop_eq_getElem_cons h, byteAt, List.getD_eq_getElem _ _ h]

theorem byteAt_of_hasLayout {line : List UInt8} {layout : List (Nat × Char)} (place : Nat × Char)
    (h : HasLayout line layout) (hplace : place ∈ layout) :
    byteAt line place.1 = UInt8.ofNat place.2.toNat :=
  of_decide_eq_true (List.all_eq_true.mp h place hplace)

theorem TleSet.match0_infix (s : TleSet) {elementid : UInt32} (h : s.catnum = elementid.toNat) :
    match0 elementid <:+: s.line1 := by
  have hu : byteAt s.line1 7 = 85 := byteAt_of_hasLayout (7, 'U') s.layout1 (by decide)
  have hblank : byteAt s.line1 8 = 32 :=
    byteAt_of_hasLayout (8, ' ') s.layout1 (by decide)
  have htail : s.line1.drop 7 = [85, 32] ++ s.line1.drop 9 := by
    rw [drop_eq_byteAt_cons (by rw [s.length1]; decide), hu,
      drop_eq_byteAt_cons (by rw [s.length1]; decide), hblank]
    rfl
  have hpattern : match0 elementid = textBytes (Nat.toDigits 10 s.catnum) ++ [85, 32] := by
    rw [h, match0, textBytes, List.map_append]
    rfl
  rw [hpattern]
  exact digits_infix s.catnum1 htail

theorem TleSet.match1_infix (s : TleSet) {elementid : UInt32} (h : s.catnum = elementid.toNat) :
    match1 elementid <:+: s.line2 := by
  have hblank : byteAt s.line2 7 = 32 :=
    byteAt_of_hasLayout (7, ' ') s.layout2 (by decide)
  have htail : s.line2.drop 7 = [32] ++ s.line2.drop 8 := by
    rw [drop_eq_byteAt_cons (by rw [s.length2]; decide), hblank]
    rfl
  have hpattern : match1 elementid = textBytes (Nat.toDigits 10 s.catnum) ++ [32] := by
    rw [h, match1, textBytes, List.map_append]
    rfl
  rw [hpattern]
  exact digits_infix s.catnum2 htail

theorem ne_nil_of_match0 {elementid : UInt32} {line : List UInt8}
    (h : match0 elementid <:+: line) : line ≠ [] := by
  rintro rfl
  have hnil : match0 elementid = [] := List.infix_nil.mp h
  rw [match0, textBytes, List.map_append] at hnil
  exact absurd hnil (by simp)

section
variable (file : List TleSet) (below : UInt8 → UInt8) {elementid : UInt32} (e : Elements)

theorem tleupdate_lines (hid : elementid ≠ 0) :
    (Overruns elementid (file.flatMap TleSet.rawLines) ∧
      tleupdate (.downloaded file below) elementid e = .overruns) ∨
    (¬ Overruns elementid (file.flatMap TleSet.rawLines) ∧ ∃ tle1 tle2 sat,
      tleupdate (.downloaded file below) elementid e = .done ⟨tle1, tle2, sat⟩ ∧
      tle1 = latest (fun l => match0 elementid <:+: l) e.tle1 (file.flatMap TleSet.lines) ∧
      tle2 = latest (fun l => match1 elementid <:+: l) e.tle2 (file.flatMap TleSet.lines) ∧
      (tle1 = [] → sat = e.sat) ∧
      (.notFound ∈ tleupdateErrors (.downloaded file below) elementid e ↔ tle1 = [])) := by
  have hover := overruns_iff elementid (fileLines (fileText file)) e.tle1 e.tle2
  rw [← fileLines_fileText]
  simp only [tleupdate, tleupdateErrors, TleEnv.downloaded, not_true_eq_false, if_false, hid]
  cases hscan : scanTle elementid getlineSize (fileLines (fileText file)) e.tle1 e.tle2 with
  | none => exact .inl ⟨hover.mp hscan, rfl⟩
  | some tle =>
      obtain ⟨tle1, tle2⟩ := tle
      obtain ⟨h1, h2⟩ := scanTle_eq_some hscan
      rw [map_lineText_fileText] at h1 h2
      have hnot : ¬ Overruns elementid (fileLines (fileText file)) := by
        intro h
        rw [hover.mpr h] at hscan
        cases hscan
      refine .inr ⟨hnot, tle1, tle2, ?_⟩
      by_cases hempty : tle1 = []
      · refine ⟨e.sat, ?_, h1, h2, fun _ => rfl, ?_⟩
        · simp [hempty]
        · simp [hempty]
      · refine ⟨(setTLE below tle1 tle2).getD e.sat, ?_, h1, h2, fun h => absurd h hempty, ?_⟩
        · simp [hempty]
        · by_cases hset : (setTLE below tle1 tle2).isSome
          · simp [hempty, hset]
          · simp [hempty, hset]

/-- `TLE1` and `TLE2` are left with the lines of a set exactly if no later line with one of the
patterns displaces them. -/
theorem extracts_iff {before after : List TleSet} {s : TleSet} (hid : elementid ≠ 0)
    (hs : s.catnum = elementid.toNat) :
    Extracts (tleupdate (.downloaded (before ++ s :: after) below) elementid e) s ↔
      ¬ Overruns elementid ((before ++ s :: after).flatMap TleSet.rawLines) ∧
        LastLike (match0 elementid) s.line1 (s.line2 :: after.flatMap TleSet.lines) ∧
        LastLike (match1 elementid) s.line2 (after.flatMap TleSet.lines) := by
  have hlines1 : (before ++ s :: after).flatMap TleSet.lines =
      (before.flatMap TleSet.lines ++ [s.name]) ++
        s.line1 :: s.line2 :: after.flatMap TleSet.lines := by
    simp [TleSet.lines]
  have hlines2 : (before ++ s :: after).flatMap TleSet.lines =
      (before.flatMap TleSet.lines ++ [s.name, s.line1]) ++
        s.line2 :: after.flatMap TleSet.lines := by
    simp [TleSet.lines]
  obtain ⟨hover, hrun⟩ | ⟨hover, tle1, tle2, sat, hrun, h1, h2, -⟩ :=
    tleupdate_lines (before ++ s :: after) below e hid
  · rw [hrun]
    refine iff_of_false ?_ fun h => h.1 hover
    rintro ⟨e', he, -⟩
    cases he
  · rw [hlines1, latest_append_cons (p := fun l => match0 elementid <:+: l)
      (decide_eq_true (s.match0_infix hs))] at h1
    rw [hlines2, latest_append_cons (p := fun l => match1 elementid <:+: l)
      (decide_eq_true (s.match1_infix hs))] at h2
    rw [hrun, LastLike, LastLike, ← h1, ← h2, and_iff_right hover]
    constructor
    · rintro ⟨e', he, h1', h2'⟩
      cases he
      exact ⟨h1', h2'⟩
    · rintro ⟨h1', h2'⟩
      exact ⟨_, rfl, h1', h2'⟩

/-- A call that leaves the element set as it is and reports that the satellite was not found. -/
def ReportsMissing (elementid : UInt32) : Prop :=
  (∃ e', tleupdate (.downloaded file below) elementid e = .done e' ∧ e'.sat = e.sat) ∧
    .notFound ∈ tleupdateErrors (.downloaded file below) elementid e

theorem reportsMissing_iff (hid : elementid ≠ 0) :
    ReportsMissing file below e elementid ↔
      ¬ Overruns elementid (file.flatMap TleSet.rawLines) ∧ e.tle1 = [] ∧
        ∀ l ∈ file.flatMap TleSet.lines, ¬ match0 elementid <:+: l := by
  have hnil := latest_eq_iff_of_ne e.tle1 (file.flatMap TleSet.lines)
    (p := fun l => match0 elementid <:+: l) fun l hl => ne_nil_of_match0 (of_decide_eq_true hl)
  simp only [decide_eq_true_eq] at hnil
  obtain ⟨hover, hrun⟩ | ⟨hover, tle1, tle2, sat, hrun, h1, -, hsat, herrors⟩ :=
    tleupdate_lines file below e hid
  · rw [ReportsMissing, hrun]
    refine iff_of_false ?_ fun h => h.1 hover
    rintro ⟨⟨e', he, -⟩, -⟩
    cases he
  · rw [ReportsMissing, hrun, herrors, and_iff_right hover, ← hnil, ← h1]
    exact and_iff_right_of_imp fun hempty => ⟨_, rfl, hsat hempty⟩

/-- Of a file with one set of the wanted number, and of a file without. -/
theorem tleupdate_extraction_iff (hid : elementid ≠ 0) :
    (∀ before s after, file = before ++ s :: after → s.catnum = elementid.toNat →
      (∀ t ∈ before ++ after, t.catnum ≠ elementid.toNat) →
        (Extracts (tleupdate (.downloaded file below) elementid e) s ↔
          ¬ Overruns elementid (file.flatMap TleSet.rawLines) ∧
            LastLike (match0 elementid) s.line1 (s.line2 :: after.flatMap TleSet.lines) ∧
            LastLike (match1 elementid) s.line2 (after.flatMap TleSet.lines))) ∧
    ((∀ t ∈ file, t.catnum ≠ elementid.toNat) →
      (ReportsMissing file below e elementid ↔
        ¬ Overruns elementid (file.flatMap TleSet.rawLines) ∧ e.tle1 = [] ∧
          ∀ l ∈ file.flatMap TleSet.lines, ¬ match0 elementid <:+: l)) := by
  refine ⟨?_, fun _ => reportsMissing_iff file below e hid⟩
  rintro before s after rfl hs -
  exact extracts_iff below e hid hs

end

/-- The set with the lines
`1 56309U 23057A   23113.19178240  .00000000  00000-0  00000-0 0  9992` and
`2 56309  97.3823 123.0000 0012345  12.3456 234.5678 15.18765432 12346`. -/
def set56309 : TleSet where
  name := [79, 78, 69]
  line1 :=
    [49, 32, 53, 54, 51, 48, 57, 85, 32, 50, 51, 48, 53, 55, 65, 32, 32, 32, 50, 51, 49, 49, 51,
     46, 49, 57, 49, 55, 56, 50, 52, 48, 32, 32, 46, 48, 48, 48, 48, 48, 48, 48, 48, 32, 32, 48,
     48, 48, 48, 48, 45, 48, 32, 32, 48, 48, 48, 48, 48, 45, 48, 32, 48, 32, 32, 57, 57, 57, 50]
  line2 :=
    [50, 32, 53, 54, 51, 48, 57, 32, 32, 57, 55, 46, 51, 56, 50, 51, 32, 49, 50, 51, 46, 48, 48,
     48, 48, 32, 48, 48, 49, 50, 51, 52, 53, 32, 32, 49, 50, 46, 51, 52, 53, 54, 32, 50, 51, 52,
     46, 53, 54, 55, 56, 32, 49, 53, 46, 49, 56, 55, 54, 53, 52, 51, 50, 32, 49, 50, 51, 52, 54]
  nameReturns := 1
  returns1 := 1
  returns2 := 1
  catnum := 56309
  pad := '0'
  name_ne := by decide +kernel
  plain := by decide +kernel
  length1 := by decide +kernel
  length2 := by decide +kernel
  layout1 := by decide +kernel
  layout2 := by decide +kernel
  catnum1 := by decide +kernel
  catnum2 := by decide +kernel

/-- The set with the lines
`1 56310U 23057B   23113.19178240  .00000000  00000-0  00000-0 0  9994` and
`2 56310  97.3823 123.0000 0156309  12.3456 234.5678 15.18765432 12347`. -/
def set56310 : TleSet where
  name := [84, 87, 79]
  line1 :=
    [49, 32, 53, 54, 51, 49, 48, 85, 32, 50, 51, 48, 53, 55, 66, 32, 32, 32, 50, 51, 49, 49, 51,
     46, 49, 57, 49, 55, 56, 50, 52, 48, 32, 32, 46, 48, 48, 48, 48, 48, 48, 48, 48, 32, 32, 48,
     48, 48, 48, 48, 45, 48, 32, 32, 48, 48, 48, 48, 48, 45, 48, 32, 48, 32, 32, 57, 57, 57, 52]
  line2 :=
    [50, 32, 53, 54, 51, 49, 48, 32, 32, 57, 55, 46, 51, 56, 50, 51, 32, 49, 50, 51, 46, 48, 48,
     48, 48, 32, 48, 49, 53, 54, 51, 48, 57, 32, 32, 49, 50, 46, 51, 52, 53, 54, 32, 50, 51, 52,
     46, 53, 54, 55, 56, 32, 49, 53, 46, 49, 56, 55, 54, 53, 52, 51, 50, 32, 49, 50, 51, 52, 55]
  nameReturns := 1
  returns1 := 1
  returns2 := 1
  catnum := 56310
  pad := '0'
  name_ne := by decide +kernel
  plain := by decide +kernel
  length1 := by decide +kernel
  length2 := by decide +kernel
  layout1 := by decide +kernel
  layout2 := by decide +kernel
  catnum1 := by decide +kernel
  catnum2 := by decide +kernel

theorem tleupdate_extracts_set56309 :
    Extracts (tleupdate (.downloaded [set56309] fun _ => 0) 56309 ⟨[], [], ⟨[], [], 0⟩⟩)
        set56309 ∧
      ReportsMissing [set56309] (fun _ => 0) ⟨[], [], ⟨[], [], 0⟩⟩ 41168 := by
  constructor
  · have hiff := (tleupdate_extraction_iff [set56309] (fun _ => 0) ⟨[], [], ⟨[], [], 0⟩⟩
      (show (56309 : UInt32) ≠ 0 by decide)).1 [] set56309 [] rfl rfl (by simp)
    refine hiff.mpr ⟨?_, by decide +kernel, by decide +kernel⟩
    rw [← overruns_iff 56309 _ [] []]
    decide +kernel
  · have hiff := (tleupdate_extraction_iff [set56309] (fun _ => 0) ⟨[], [], ⟨[], [], 0⟩⟩
      (show (41168 : UInt32) ≠ 0 by decide)).2 (by decide +kernel)
    refine hiff.mpr ⟨?_, rfl, by decide +kernel⟩
    rw [← overruns_iff 41168 _ [] []]
    decide +kernel

theorem tleupdate_not_extracts_set56309 :
    ¬ ∀ (file : List TleSet) (below : UInt8 → UInt8) (elementid : UInt32) (e : Elements),
      elementid ≠ 0 → ∀ before s after, file = before ++ s :: after →
        s.catnum = elementid.toNat → (∀ t ∈ before ++ after, t.catnum ≠ elementid.toNat) →
          Extracts (tleupdate (.downloaded file below) elementid e) s := by
  intro h
  have hset : Extracts (tleupdate (.downloaded ([] ++ set56309 :: [set56310]) fun _ => 0) 56309
      ⟨[], [], ⟨[], [], 0⟩⟩) set56309 :=
    h _ _ 56309 _ (by decide) [] set56309 [set56310] rfl rfl (by decide +kernel)
  have hcatnum : set56309.catnum = (56309 : UInt32).toNat := rfl
  rw [extracts_iff _ _ (by decide) hcatnum] at hset
  exact absurd hset.2.2 (by decide +kernel)

end UhfGs.Station
