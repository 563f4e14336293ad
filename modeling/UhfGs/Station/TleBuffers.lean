import UhfGs.Library.Bytes
import UhfGs.Station.Checksum

/-! The static lines of `tleupdate` as memory, into which `strncpy` writes as many bytes as the
buffer of `getline` has. -/
namespace UhfGs.Station
open Bytes CString TextLines

structure TleBuffer where
  bytes : List UInt8
  length_eq : bytes.length = tleLineSize

def TleBuffer.zeroed : TleBuffer := ⟨List.replicate tleLineSize 0, List.length_replicate⟩

def TleBuffer.text (b : TleBuffer) : List UInt8 := cString b.bytes

/-- The string and zeros behind it, `n` bytes altogether. There is no result where they do not fit
the buffer. -/
def strncpy (dest : TleBuffer) (src : List UInt8) (n : Nat) : Option TleBuffer :=
  if h : n ≤ tleLineSize then
    some
      { bytes := (src.take n).rightpad n 0 ++ dest.bytes.drop n
        length_eq := by
          rw [List.length_append, List.length_rightpad, List.length_take, List.length_drop,
            dest.length_eq]
          omega }
  else none

structure ReadLine where
  line : List UInt8
  len : Nat
  fits : line.length + 1 ≤ len

def copyLine (wanted : List UInt8 → Bool) (read : ReadLine) (tle : TleBuffer) :
    Option TleBuffer :=
  if wanted read.line then strncpy tle (lineText read.line) read.len else some tle

def scanBuffers (elementid : UInt32) :
    List ReadLine → TleBuffer → TleBuffer → Option (TleBuffer × TleBuffer)
  | [], tle1, tle2 => some (tle1, tle2)
  | read :: rest, tle1, tle2 => do
      let tle1 ← copyLine (IsLine1 elementid) read tle1
      let tle2 ← copyLine (IsLine2 elementid) read tle2
      scanBuffers elementid rest tle1 tle2

/-- A call of `tleupdate`: whether tle.txt opens, whether curl gets the file, and what `getline`
gives of it. -/
structure TleCall where
  elementid : UInt32
  opens : Bool
  retrieved : Bool
  content : List UInt8
  reads : List ReadLine
  reads_eq : reads.map ReadLine.line = fileLines content

/-- How a call ends: it returns, and `checked` are the lines that it hands to `setTLE`, it uses the
null stream of tle.txt, or it writes past a static line. -/
inductive BufferRun where
  | done (tle1 tle2 : TleBuffer) (checked : Option (TleBuffer × TleBuffer))
  | dies
  | overruns

def TleCall.run (c : TleCall) (tle1 tle2 : TleBuffer) : BufferRun :=
  if ¬ c.opens then .dies
  else if ¬ c.retrieved then .done tle1 tle2 none
  else if c.elementid = 0 then .done tle1 tle2 none
  else
    match scanBuffers c.elementid c.reads tle1 tle2 with
    | none => .overruns
    | some (tle1, tle2) =>
        .done tle1 tle2 (if strlen tle1.bytes = 0 then none else some (tle1, tle2))

theorem zero_notMem_lineText (line : List UInt8) : (0 : UInt8) ∉ lineText line := by
  intro h
  have hmem : (0 : UInt8) ∈ cString line := by
    unfold lineText strtok at h
    obtain h | h := List.mem_append.mp h
    · exact (List.takeWhile_prefix _).subset h
    · exact (List.dropWhile_suffix _).subset ((List.takeWhile_prefix _).subset h)
  exact absurd (List.mem_takeWhile_imp hmem) (by decide)

theorem length_lineText_le (line : List UInt8) : (lineText line).length ≤ line.length := by
  have hstring : (cString line).length ≤ line.length := (List.takeWhile_prefix _).length_le
  have hsplit := congrArg List.length (List.takeWhile_append_dropWhile (p := fun c : UInt8 =>
    decide (c = 13 ∨ c = 10)) (l := cString line))
  have hrest := (List.takeWhile_prefix (fun c : UInt8 => !decide (c = 13 ∨ c = 10))
    (l := (cString line).dropWhile fun c => decide (c = 13 ∨ c = 10))).length_le
  rw [List.length_append] at hsplit
  rw [lineText, strtok, List.length_append]
  omega

theorem strncpy_eq_none_iff (dest : TleBuffer) (src : List UInt8) (n : Nat) :
    strncpy dest src n = none ↔ tleLineSize < n := by
  unfold strncpy
  split
  · rename_i h
    simp [h]
  · rename_i h
    simp [Nat.lt_of_not_le h]

theorem bytes_of_strncpy {dest b : TleBuffer} {src : List UInt8} {n : Nat} (hlen : src.length < n)
    (h : strncpy dest src n = some b) :
    ∃ rest, b.bytes = src ++ (List.replicate (n - src.length) 0 ++ rest) := by
  unfold strncpy at h
  split at h
  · obtain rfl := Option.some.inj h
    refine ⟨dest.bytes.drop n, ?_⟩
    change (src.take n).rightpad n 0 ++ dest.bytes.drop n = _
    rw [List.take_of_length_le hlen.le, List.rightpad, List.append_assoc]
  · cases h

theorem text_of_strncpy {dest b : TleBuffer} {src : List UInt8} {n : Nat} (hzero : 0 ∉ src)
    (hlen : src.length < n) (h : strncpy dest src n = some b) : b.text = src := by
  obtain ⟨rest, hb⟩ := bytes_of_strncpy hlen h
  obtain ⟨k, hk⟩ := Nat.exists_eq_add_of_lt hlen
  have hpad : n - src.length = k + 1 := by omega
  rw [TleBuffer.text, hb, cString, hpad, List.replicate_succ,
    List.takeWhile_append_of_pos fun c hc => by simpa using ne_of_mem_of_not_mem hc hzero]
  simp

namespace TleBuffer

/-- A string of at least the 69 characters that `KepCheck` reads. -/
def Holds (b : TleBuffer) : Prop := 0 ∈ b.bytes ∧ 69 ≤ strlen b.bytes

/-- A string that is long enough, or no digit for the checksum. -/
def Good (b : TleBuffer) : Prop :=
  0 ∈ b.bytes ∧ (69 ≤ strlen b.bytes ∨ isdigit (byteAt b.bytes 68) = false)

theorem good_zeroed : zeroed.Good := by
  refine ⟨List.mem_replicate.mpr ⟨by decide, rfl⟩, Or.inr ?_⟩
  rw [zeroed, byteAt, List.getD_replicate _ (by decide)]
  decide

theorem good_strncpy {dest b : TleBuffer} {src : List UInt8} {n : Nat} (hzero : 0 ∉ src)
    (hlen : src.length < n) (hn : 69 ≤ n) (h : strncpy dest src n = some b) : b.Good := by
  obtain ⟨rest, hb⟩ := bytes_of_strncpy hlen h
  have htext : strlen b.bytes = src.length := congrArg List.length (text_of_strncpy hzero hlen h)
  constructor
  · rw [hb]
    exact List.mem_append_right _ (List.mem_append_left _
      (List.mem_replicate.mpr ⟨by omega, rfl⟩))
  · by_cases hlong : 69 ≤ src.length
    · exact Or.inl (htext ▸ hlong)
    · right
      rw [hb, byteAt, List.getD_append_right _ _ _ _ (by omega),
        List.getD_append _ _ _ _ (by rw [List.length_replicate]; omega),
        List.getD_replicate _ (by omega)]
      decide

end TleBuffer

theorem holds_or_rejected {tle1 tle2 : TleBuffer} (h1 : tle1.Good) (h2 : tle2.Good)
    (below : UInt8 → UInt8) :
    (tle1.Holds ∧ tle2.Holds) ∨ setTLE below tle1.bytes tle2.bytes = none := by
  by_cases haccept : kepCheck below tle1.bytes tle2.bytes = true
  · obtain ⟨htest, -, -⟩ := (kepCheck_iff below tle1.bytes tle2.bytes).mp haccept
    have hdigit1 := htest.digits1 68 (by decide)
    have hdigit2 := htest.digits2 68 (by decide)
    refine Or.inl ⟨⟨h1.1, h1.2.resolve_right ?_⟩, h2.1, h2.2.resolve_right ?_⟩
    · rw [hdigit1]
      decide
    · rw [hdigit2]
      decide
  · exact Or.inr (if_neg haccept)

/-- What happens to one of the two buffers: the lines that are wanted are copied to it. -/
def copyLines (wanted : List UInt8 → Bool) : List ReadLine → TleBuffer → Option TleBuffer
  | [], tle => some tle
  | read :: rest, tle => do
      let tle ← copyLine wanted read tle
      copyLines wanted rest tle

theorem scanBuffers_eq (elementid : UInt32) (reads : List ReadLine) (tle1 tle2 : TleBuffer) :
    scanBuffers elementid reads tle1 tle2 = do
      let tle1 ← copyLines (IsLine1 elementid) reads tle1
      let tle2 ← copyLines (IsLine2 elementid) reads tle2
      return (tle1, tle2) := by
  induction reads generalizing tle1 tle2 with
  | nil => rfl
  | cons read rest ih =>
      simp only [scanBuffers, copyLines, Option.bind_eq_bind]
      cases copyLine (IsLine1 elementid) read tle1 with
      | none => rfl
      | some b1 =>
          cases copyLine (IsLine2 elementid) read tle2 with
          | none => simp
          | some b2 => simp [ih]

section
variable {wanted : List UInt8 → Bool} {reads : List ReadLine}

theorem copyLines_eq_none_iff (tle : TleBuffer) :
    copyLines wanted reads tle = none ↔ ∃ read ∈ reads, wanted read.line ∧ tleLineSize < read.len := by
  induction reads generalizing tle with
  | nil => simp [copyLines]
  | cons read rest ih =>
      rw [copyLines, Option.bind_eq_bind, List.exists_mem_cons_iff, copyLine]
      by_cases hw : wanted read.line
      · rw [if_pos hw, ← strncpy_eq_none_iff tle (lineText read.line)]
        cases hcopy : strncpy tle (lineText read.line) read.len with
        | none => simp [hw]
        | some b => simp [ih]
      · simp [hw, ih]

/-- The last of the wanted lines is read into a buffer that covers the columns of an element
set. -/
def LastCovered (wanted : List UInt8 → Bool) (reads : List ReadLine) : Prop :=
  ∀ pre read post, reads = pre ++ read :: post → wanted read.line →
    (∀ r ∈ post, ¬ wanted r.line) → 69 ≤ read.len

theorem LastCovered.rest {read : ReadLine} (h : LastCovered wanted (read :: reads)) :
    LastCovered wanted reads :=
  fun pre r post heq => h (read :: pre) r post (by rw [heq, List.cons_append])

theorem good_copyLines (h : LastCovered wanted reads) {tle b : TleBuffer}
    (htle : tle.Good ∨ ∃ read ∈ reads, wanted read.line) (hb : copyLines wanted reads tle = some b) :
    b.Good := by
  induction reads generalizing tle with
  | nil =>
      obtain rfl := Option.some.inj hb
      exact htle.resolve_right (by simp)
  | cons read rest ih =>
      obtain ⟨b', hcopy, hrest⟩ := Option.bind_eq_some_iff.mp hb
      rw [copyLine] at hcopy
      refine ih h.rest ?_ hrest
      by_cases hlater : ∃ r ∈ rest, wanted r.line
      · exact Or.inr hlater
      · left
        by_cases hw : wanted read.line
        · rw [if_pos hw] at hcopy
          have hlen := Nat.lt_of_le_of_lt (length_lineText_le read.line) read.fits
          have hlast : ∀ r ∈ rest, ¬ wanted r.line := fun r hr hwanted => hlater ⟨r, hr, hwanted⟩
          exact TleBuffer.good_strncpy (zero_notMem_lineText read.line) hlen
            (h [] read rest rfl hw hlast) hcopy
        · rw [if_neg hw] at hcopy
          obtain rfl := Option.some.inj hcopy
          refine htle.resolve_right ?_
          rintro ⟨r, hr, hwanted⟩
          obtain rfl | hr := List.mem_cons.mp hr
          · exact hw hwanted
          · exact hlater ⟨r, hr, hwanted⟩

end

namespace TleCall

def Scans (c : TleCall) : Prop := c.opens ∧ c.retrieved ∧ c.elementid ≠ 0

/-- Each line with the number is read into a buffer no larger than a static line. -/
def Bounded (c : TleCall) : Prop :=
  c.Scans → ∀ read ∈ c.reads,
    IsLine1 c.elementid read.line ∨ IsLine2 c.elementid read.line → read.len ≤ tleLineSize

/-- The last line of either kind is read into a buffer of 69 bytes or more. -/
def Covered (c : TleCall) : Prop :=
  c.Scans → LastCovered (IsLine1 c.elementid) c.reads ∧ LastCovered (IsLine2 c.elementid) c.reads

def next (tles : TleBuffer × TleBuffer) (c : TleCall) : TleBuffer × TleBuffer :=
  match c.run tles.1 tles.2 with
  | .done tle1 tle2 _ => (tle1, tle2)
  | .dies => tles
  | .overruns => tles

/-- What a call owes the static lines: it writes to nothing else, and what it hands to `setTLE` is
complete or rejected. -/
def Safe (below : UInt8 → UInt8) (tles : TleBuffer × TleBuffer) (c : TleCall) : Prop :=
  match c.run tles.1 tles.2 with
  | .done _ _ checked => ∀ p ∈ checked,
      (p.1.Holds ∧ p.2.Holds) ∨ setTLE below p.1.bytes p.2.bytes = none
  | .dies => True
  | .overruns => False

theorem run_of_not_scans {c : TleCall} (h : ¬ c.Scans) (tle1 tle2 : TleBuffer) :
    c.run tle1 tle2 = .dies ∨ c.run tle1 tle2 = .done tle1 tle2 none := by
  unfold run
  by_cases ho : c.opens
  · by_cases hr : c.retrieved
    · have hid : c.elementid = 0 := by
        by_contra hid
        exact h ⟨ho, hr, hid⟩
      exact Or.inr (by simp [ho, hr, hid])
    · exact Or.inr (by simp [ho, hr])
  · exact Or.inl (if_pos ho)

theorem run_of_scans {c : TleCall} (h : c.Scans) (tle1 tle2 : TleBuffer) :
    c.run tle1 tle2 = match scanBuffers c.elementid c.reads tle1 tle2 with
      | none => .overruns
      | some (tle1, tle2) =>
          .done tle1 tle2 (if strlen tle1.bytes = 0 then none else some (tle1, tle2)) := by
  obtain ⟨ho, hr, hid⟩ := h
  rw [run, if_neg (not_not.mpr ho), if_neg (not_not.mpr hr), if_neg hid]

theorem run_ne_overruns_iff (c : TleCall) (tle1 tle2 : TleBuffer) :
    c.run tle1 tle2 ≠ .overruns ↔ c.Bounded := by
  by_cases h : c.Scans
  · have hscan : c.run tle1 tle2 ≠ .overruns ↔ scanBuffers c.elementid c.reads tle1 tle2 ≠ none := by
      rw [run_of_scans h]
      cases scanBuffers c.elementid c.reads tle1 tle2 with
      | none => simp
      | some p => simp
    have hnone : scanBuffers c.elementid c.reads tle1 tle2 = none ↔
        copyLines (IsLine1 c.elementid) c.reads tle1 = none ∨
          copyLines (IsLine2 c.elementid) c.reads tle2 = none := by
      rw [scanBuffers_eq]
      cases copyLines (IsLine1 c.elementid) c.reads tle1 with
      | none => simp
      | some b1 =>
          cases copyLines (IsLine2 c.elementid) c.reads tle2 with
          | none => simp
          | some b2 => simp
    rw [hscan, ne_eq, hnone, copyLines_eq_none_iff, copyLines_eq_none_iff, Bounded, imp_iff_right h]
    constructor
    · intro hnot read hread hw
      by_contra hlen
      obtain hw | hw := hw
      · exact hnot (Or.inl ⟨read, hread, hw, Nat.lt_of_not_le hlen⟩)
      · exact hnot (Or.inr ⟨read, hread, hw, Nat.lt_of_not_le hlen⟩)
    · rintro hall (⟨read, hread, hw, hlen⟩ | ⟨read, hread, hw, hlen⟩)
      · exact absurd (hall read hread (Or.inl hw)) (Nat.not_le_of_lt hlen)
      · exact absurd (hall read hread (Or.inr hw)) (Nat.not_le_of_lt hlen)
  · refine iff_of_true (fun hover => ?_) fun hs => absurd hs h
    obtain heq | heq := run_of_not_scans h tle1 tle2
    · rw [heq] at hover
      cases hover
    · rw [heq] at hover
      cases hover

theorem safe_step {c : TleCall} (hb : c.Bounded) (hc : c.Covered) {tles : TleBuffer × TleBuffer}
    (h : tles.1.Good ∧ tles.2.Good) (below : UInt8 → UInt8) :
    ((c.next tles).1.Good ∧ (c.next tles).2.Good) ∧ c.Safe below tles := by
  unfold next Safe
  by_cases hs : c.Scans
  · obtain ⟨hc1, hc2⟩ := hc hs
    have hover := (run_ne_overruns_iff c tles.1 tles.2).mpr hb
    rw [run_of_scans hs] at hover ⊢
    cases hscan : scanBuffers c.elementid c.reads tles.1 tles.2 with
    | none => exact absurd (by rw [hscan]) hover
    | some p =>
        rw [scanBuffers_eq] at hscan
        obtain ⟨b1, h1, hrest⟩ := Option.bind_eq_some_iff.mp hscan
        obtain ⟨b2, h2, hp⟩ := Option.bind_eq_some_iff.mp hrest
        obtain rfl := Option.some.inj hp
        have hgood1 : b1.Good := good_copyLines hc1 (Or.inl h.1) h1
        have hgood2 : b2.Good := good_copyLines hc2 (Or.inl h.2) h2
        refine ⟨⟨hgood1, hgood2⟩, fun q hq => ?_⟩
        split at hq
        · cases hq
        · obtain rfl := Option.some.inj hq
          exact holds_or_rejected hgood1 hgood2 below
  · obtain heq | heq := run_of_not_scans hs tles.1 tles.2
    · rw [heq]
      exact ⟨h, trivial⟩
    · rw [heq]
      exact ⟨h, fun q hq => by cases hq⟩

theorem good_run {calls : List TleCall} (h : ∀ c ∈ calls, c.Bounded ∧ c.Covered)
    {tles : TleBuffer × TleBuffer} (htles : tles.1.Good ∧ tles.2.Good) :
    (calls.foldl next tles).1.Good ∧ (calls.foldl next tles).2.Good := by
  induction calls generalizing tles with
  | nil => exact htles
  | cons c calls ih =>
      obtain ⟨hb, hc⟩ := h c List.mem_cons_self
      exact ih (fun c' hc' => h c' (List.mem_cons_of_mem c hc'))
        (safe_step hb hc htles fun _ => 0).1

end TleCall

/-- Nothing but the static lines is written exactly if no line with the number comes in a larger
buffer. From the start on, calls that keep to this, and read the last line of either kind into 69
bytes or more, hand only complete lines to `setTLE`, or lines that it rejects. -/
theorem tleBuffers_safe (below : UInt8 → UInt8) :
    (∀ (c : TleCall) (tle1 tle2 : TleBuffer), c.run tle1 tle2 ≠ .overruns ↔ c.Bounded) ∧
      ∀ calls : List TleCall, (∀ c ∈ calls, c.Bounded ∧ c.Covered) →
        ∀ pre c post, calls = pre ++ c :: post →
          c.Safe below (pre.foldl TleCall.next (.zeroed, .zeroed)) := by
  refine ⟨TleCall.run_ne_overruns_iff, fun calls h pre c post hsplit => ?_⟩
  have hpre : ∀ c' ∈ pre, c'.Bounded ∧ c'.Covered := fun c' hc' =>
    h c' (hsplit ▸ List.mem_append_left _ hc')
  obtain ⟨hb, hc⟩ := h c (hsplit ▸ List.mem_append_right _ List.mem_cons_self)
  exact (TleCall.safe_step hb hc (TleCall.good_run hpre ⟨TleBuffer.good_zeroed,
    TleBuffer.good_zeroed⟩) below).2

/-- The sizes of the buffer of `getline` where it grows as glibc lets it. -/
def glibcReads (len : Nat) : List (List UInt8) → List ReadLine
  | [] => []
  | line :: rest =>
      ⟨line, grow len line, length_lt_grow len line⟩ :: glibcReads (grow len line) rest

theorem map_line_glibcReads (len : Nat) (lines : List (List UInt8)) :
    (glibcReads len lines).map ReadLine.line = lines := by
  induction lines generalizing len with
  | nil => rfl
  | cons line rest ih => rw [glibcReads, List.map_cons, ih]

def TleCall.glibc (elementid : UInt32) (content : List UInt8) : TleCall where
  elementid := elementid
  opens := true
  retrieved := true
  content := content
  reads := glibcReads getlineSize (fileLines content)
  reads_eq := map_line_glibcReads getlineSize (fileLines content)

theorem copyLine_eq_none_iff (wanted : List UInt8 → Bool) (read : ReadLine) (tle : TleBuffer) :
    copyLine wanted read tle = none ↔ wanted read.line ∧ tleLineSize < read.len := by
  rw [copyLine]
  split
  · rename_i hw
    rw [strncpy_eq_none_iff, and_iff_right hw]
  · rename_i hw
    simp [hw]

theorem text_copyLine {wanted : List UInt8 → Bool} {read : ReadLine} {tle b : TleBuffer}
    (h : copyLine wanted read tle = some b) :
    b.text = if wanted read.line then lineText read.line else tle.text := by
  rw [copyLine] at h
  split at h
  · rename_i hw
    rw [if_pos hw, text_of_strncpy (zero_notMem_lineText _)
      (Nat.lt_of_le_of_lt (length_lineText_le read.line) read.fits) h]
  · rename_i hw
    rw [if_neg hw, Option.some.inj h]

theorem scanBuffers_glibc (elementid : UInt32) (len : Nat) (lines : List (List UInt8))
    (tle1 tle2 : TleBuffer) :
    (scanBuffers elementid (glibcReads len lines) tle1 tle2).map (fun p => (p.1.text, p.2.text)) =
      scanTle elementid len lines tle1.text tle2.text := by
  induction lines generalizing len tle1 tle2 with
  | nil => rfl
  | cons line rest ih =>
      rw [glibcReads, scanBuffers, Option.bind_eq_bind, scanTle]
      set read : ReadLine := ⟨line, grow len line, length_lt_grow len line⟩ with hread
      have hnone1 := copyLine_eq_none_iff (IsLine1 elementid) read tle1
      have hnone2 := copyLine_eq_none_iff (IsLine2 elementid) read tle2
      cases h1 : copyLine (IsLine1 elementid) read tle1 with
      | none =>
          obtain ⟨hw, hlen⟩ := hnone1.mp h1
          rw [if_pos ⟨Or.inl hw, hlen⟩]
          rfl
      | some b1 =>
          cases h2 : copyLine (IsLine2 elementid) read tle2 with
          | none =>
              obtain ⟨hw, hlen⟩ := hnone2.mp h2
              rw [if_pos ⟨Or.inr hw, hlen⟩]
              rfl
          | some b2 =>
              have hfit : ¬ ((IsLine1 elementid line ∨ IsLine2 elementid line) ∧
                  tleLineSize < grow len line) := by
                rintro ⟨hw | hw, hlen⟩
                · rw [hnone1.mpr ⟨hw, hlen⟩] at h1
                  cases h1
                · rw [hnone2.mpr ⟨hw, hlen⟩] at h2
                  cases h2
              have htext1 := text_copyLine h1
              have htext2 := text_copyLine h2
              rw [if_neg hfit, ← htext1, ← htext2]
              exact ih (grow len line) b1 b2

theorem len_of_glibcReads {lines : List (List UInt8)} {size : Nat}
    (h : ∀ l ∈ lines, l.length < size) : ∀ read ∈ glibcReads size lines, read.len = size := by
  induction lines with
  | nil => exact List.forall_mem_nil _
  | cons line rest ih =>
      obtain ⟨hline, hrest⟩ := List.forall_mem_cons.mp h
      have hgrow : grow size line = size := if_pos hline
      refine List.forall_mem_cons.mpr ⟨hgrow, ?_⟩
      rw [hgrow]
      exact ih hrest

theorem TleCall.bounded_glibc {content : List UInt8}
    (h : ∀ l ∈ fileLines content, l.length < getlineSize) (elementid : UInt32) :
    (glibc elementid content).Bounded ∧ (glibc elementid content).Covered := by
  have hlen := len_of_glibcReads h
  have hcovered (wanted : List UInt8 → Bool) :
      LastCovered wanted (glibcReads getlineSize (fileLines content)) := by
    intro pre read post heq hw hpost
    rw [hlen read (heq ▸ List.mem_append_right pre List.mem_cons_self)]
    decide
  exact ⟨fun _ read hread _ => le_of_eq (hlen read hread), fun _ => ⟨hcovered _, hcovered _⟩⟩

set_option maxRecDepth 4000 in
theorem tleBuffers_safe_sample :
    (TleCall.glibc 56309 (sampleLine1 ++ [10] ++ sampleLine2 ++ [10])).Safe (fun _ => 0)
      (.zeroed, .zeroed) := by
  have hfirst (content : List UInt8) (h : ∀ l ∈ fileLines content, l.length < getlineSize) :
      (TleCall.glibc 56309 content).Safe (fun _ => 0) (.zeroed, .zeroed) :=
    (tleBuffers_safe fun _ => 0).2 [_]
      (List.forall_mem_singleton.mpr (TleCall.bounded_glibc h 56309)) [] _ [] rfl
  exact hfirst _ (by decide +kernel)

/-- `56309U `, zeros, and the newline: 120 bytes, for which `getline` doubles its buffer. -/
def longLine : List UInt8 := [53, 54, 51, 48, 57, 85, 32] ++ (List.replicate 112 48 ++ [10])

theorem TleCall.not_bounded_glibc {elementid : UInt32} (hid : elementid ≠ 0) {line : List UInt8}
    (hlines : fileLines line = [line]) (hw : IsLine1 elementid line = true)
    (hlong : tleLineSize < grow getlineSize line) : ¬ (glibc elementid line).Bounded := by
  intro h
  have hreads : (glibc elementid line).reads = glibcReads getlineSize [line] :=
    congrArg (glibcReads getlineSize) hlines
  have hall := h ⟨rfl, rfl, hid⟩
  rw [hreads] at hall
  exact absurd (hall _ List.mem_cons_self (Or.inl hw)) (Nat.not_le_of_lt hlong)

theorem tleBuffers_overrun : ¬ ∀ (below : UInt8 → UInt8) (calls pre : List TleCall) (c : TleCall)
    (post : List TleCall), calls = pre ++ c :: post →
      c.Safe below (pre.foldl TleCall.next (.zeroed, .zeroed)) := by
  intro h
  have hbounded (c : TleCall) : c.Bounded := by
    have hsafe := h (fun _ => 0) [c] [] c [] rfl
    rw [← TleCall.run_ne_overruns_iff c .zeroed .zeroed]
    intro hover
    rw [List.foldl_nil, TleCall.Safe, hover] at hsafe
    exact hsafe
  have hlen : longLine.length = 120 := by decide +kernel
  have hlong : tleLineSize < grow getlineSize longLine := by
    rw [grow, hlen]
    decide
  exact TleCall.not_bounded_glibc (by decide) (by decide +kernel) (by decide +kernel) hlong
    (hbounded (.glibc 56309 longLine))

end UhfGs.Station
