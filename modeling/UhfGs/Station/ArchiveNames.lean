import UhfGs.Library.Ordered
import UhfGs.Station.ReceivePacket
import UhfGs.Station.Survival
import UhfGs.Station.Timestamp

/-! The names under which `receive_packet` archives downlinks. -/
namespace UhfGs.Station
open CString Ordered

/-- What one call prints into the suffix buffer and into the name buffer. -/
structure Naming where
  suffixText : List Char
  name : List Char
  deriving DecidableEq

/-- The statements from `strcpy` on, at the given `count`. -/
def nameArchive (count : UInt32) (t : Timestamp) : Naming where
  suffixText := suffix count.toNat
  name := backupDir ++ getTime t ++ suffix count.toNat ++ ".bin".toList

/-- Successive calls, with the counter that each leaves to the next. -/
def nameArchives : UInt32 → List Timestamp → List Naming
  | _, [] => []
  | count, t :: ts => nameArchive count t :: nameArchives (count + 1) ts

theorem receivePacket_name {env : ReceiveEnv} {t : Timestamp} {count : UInt32} (h : t.InRange)
    (hnow : env.now = t.string h) (hcount : env.count = count.toNat) (headerValues : Nat → UInt8)
    (length : UInt16) (data : List UInt8) :
    ∀ file ∈ (receivePacket env headerValues length data).archive,
      file.1 = (nameArchive count t).name := by
  intro file hfile
  have hname : backupDir ++ env.now.chars ++ suffix env.count ++ ".bin".toList =
      (nameArchive count t).name := by
    rw [hnow, hcount]
    rfl
  rw [← hname]
  simp only [receivePacket] at hfile
  split at hfile
  · cases hfile
  · split at hfile <;> (cases hfile; rfl)

theorem nameArchives_eq (count : UInt32) (calls : List Timestamp) :
    nameArchives count calls = calls.mapIdx fun i t => nameArchive (count + UInt32.ofNat i) t := by
  induction calls generalizing count with
  | nil => rfl
  | cons t ts ih =>
      have hstep (i : Nat) : count + 1 + UInt32.ofNat i = count + UInt32.ofNat (i + 1) := by
        rw [UInt32.add_assoc, UInt32.add_comm 1, UInt32.ofNat_add]
        rfl
      have hzero : count + UInt32.ofNat 0 = count := UInt32.add_zero count
      rw [nameArchives, ih, List.mapIdx_cons, hzero]
      simp only [hstep]

theorem suffix_eq (count : Nat) : suffix count = '_' :: sprintfZeros 2 (count % 100 : Nat) := by
  have hall : ∀ n < 100, ['_', Nat.digitChar (n / 10), Nat.digitChar (n % 10)] =
      '_' :: sprintfZeros 2 (n : Nat) := by decide
  have h := hall (count % 100) (Nat.mod_lt _ (by decide))
  rw [← h, suffix, Nat.mod_mod_of_dvd _ (by decide)]

theorem length_suffix (count : Nat) : (suffix count).length = 3 := by
  rw [suffix_eq, List.length_cons, length_two (by omega)]

theorem suffix_inj {m n : Nat} (h : suffix m = suffix n) : m % 100 = n % 100 := by
  rw [suffix_eq, suffix_eq] at h
  have hcast := two_inj (by omega) (by omega) (List.cons.inj h).2
  omega

theorem underscore_not_mem_sprintf (width : Nat) (n : Int) :
    '_' ∉ sprintfZeros width n ∧ '_' ∉ sprintfBlanks width n := by
  have hpad {c : Char} (hc : '_' ≠ c) {s : List Char} (hs : '_' ∉ s) (k : Nat) :
      '_' ∉ s.leftpad k c := by
    rw [List.leftpad, List.mem_append, not_or]
    exact ⟨fun h => hc (List.eq_of_mem_replicate h), hs⟩
  have hsign {s : List Char} (hs : '_' ∉ s) : '_' ∉ '-' :: s := by
    rw [List.mem_cons, not_or]
    exact ⟨by decide, hs⟩
  cases n with
  | ofNat n =>
      exact ⟨hpad (by decide) Nat.underscore_not_in_toDigits _,
        hpad (by decide) Nat.underscore_not_in_toDigits _⟩
  | negSucc n =>
      exact ⟨hsign (hpad (by decide) Nat.underscore_not_in_toDigits _),
        hpad (by decide) (hsign Nat.underscore_not_in_toDigits) _⟩

theorem underscore_not_mem_getTime (t : Timestamp) : '_' ∉ getTime t := by
  have hz (w : Nat) (n : Int) := (underscore_not_mem_sprintf w n).1
  have hb (w : Nat) (n : Int) := (underscore_not_mem_sprintf w n).2
  have hsep : '_' ≠ '-' ∧ '_' ≠ ' ' ∧ '_' ≠ ':' := by decide
  simp only [getTime, getFormatTimestamp, Fields.print, List.mem_append, List.mem_cons, hz, hb,
    hsep.1, hsep.2.1, hsep.2.2, or_self, not_false_eq_true]

theorem nameArchive_ne_backupName (count : UInt32) (t u : Timestamp) :
    (nameArchive count t).name ≠ backupName (getTime u) := by
  intro h
  simp only [nameArchive, backupName, List.append_assoc, List.append_cancel_left_eq] at h
  rw [← List.append_assoc] at h
  have hu := List.append_cancel_right h
  refine underscore_not_mem_getTime u (hu ▸ List.mem_append_right _ ?_)
  rw [suffix_eq]
  exact List.mem_cons_self

section
variable {t u : Timestamp} (ht : t.InRange)
include ht

theorem length_nameArchive (count : UInt32) : (nameArchive count t).name.length = 73 := by
  have hd : backupDir.length = 47 := by decide
  have hb : ".bin".toList.length = 4 := by decide
  simp only [nameArchive, List.length_append, hd, hb, ht.getTime_length, length_suffix]

theorem nameArchive_inj (hu : u.InRange) {m n : UInt32}
    (h : (nameArchive m t).name = (nameArchive n u).name) :
    t.tvSec = u.tvSec ∧ m.toNat % 100 = n.toNat % 100 := by
  obtain ⟨hfront, hsuffix⟩ := List.append_inj' (List.append_cancel_right h)
    (by rw [length_suffix, length_suffix])
  exact ⟨getTime_inj ht hu (List.append_cancel_left hfront), suffix_inj hsuffix⟩

end

def Timestamp.second (t : Timestamp) : Nat := t.tvSec.toNat

/-- The runs that the counter can tell apart: the clock does not go back, and no second has more
than 100 calls. -/
structure Orderly (calls : List Timestamp) : Prop where
  short : calls.length < 2 ^ 32
  inRange : ∀ t ∈ calls, t.InRange
  ordered : (calls.map Timestamp.second).Pairwise (· ≤ ·)
  sparse : ∀ second, (calls.map Timestamp.second).count second ≤ 100

theorem Orderly.nodup {calls : List Timestamp} (h : Orderly calls) :
    ((nameArchives 0 calls).map Naming.name).Nodup := by
  rw [nameArchives_eq, List.Nodup, List.pairwise_iff_getElem]
  intro i j hi hj hij heq
  simp only [List.length_map, List.length_mapIdx] at hi hj
  simp only [List.getElem_map, List.getElem_mapIdx, UInt32.zero_add] at heq
  have hshort := h.short
  obtain ⟨hsec, hmod⟩ := nameArchive_inj (h.inRange _ (List.getElem_mem hi))
    (h.inRange _ (List.getElem_mem hj)) heq
  have hi32 : i % 2 ^ 32 = i := Nat.mod_eq_of_lt (by omega)
  have hj32 : j % 2 ^ 32 = j := Nat.mod_eq_of_lt (by omega)
  rw [UInt32.toNat_ofNat', UInt32.toNat_ofNat', hi32, hj32] at hmod
  -- a second that spans both calls has more than 100
  have hj' : j < (calls.map Timestamp.second).length := by rwa [List.length_map]
  have hsame : (calls.map Timestamp.second)[i] = (calls.map Timestamp.second)[j] := by
    rw [List.getElem_map, List.getElem_map, Timestamp.second, hsec, Timestamp.second]
  have hfar := lt_count_of_eq h.ordered (Nat.le_of_lt hij) hj' hsame
  have hmany := h.sparse (calls.map Timestamp.second)[i]
  omega

/-- The archive names of an orderly run are pairwise different, fit their buffers, and differ from
those of all backups. -/
theorem archive_names {calls : List Timestamp} (h : Orderly calls) :
    ((nameArchives 0 calls).map Naming.name).Nodup ∧
      ∀ n ∈ nameArchives 0 calls, n.name.length + 1 ≤ 200 ∧ n.suffixText.length + 1 ≤ 4 ∧
        ∀ u, n.name ≠ backupName (getTime u) := by
  refine ⟨h.nodup, fun n hn => ?_⟩
  rw [nameArchives_eq] at hn
  obtain ⟨i, hi, rfl⟩ := List.mem_mapIdx.mp hn
  refine ⟨?_, ?_, fun u => nameArchive_ne_backupName _ _ u⟩
  · rw [length_nameArchive (h.inRange _ (List.getElem_mem hi))]
    decide
  · rw [nameArchive, length_suffix]

/-- Two packets within the first second of the clock and one in the next. -/
theorem archive_names_three :
    ((nameArchives 0 [⟨0, 1, by decide⟩, ⟨0, 2, by decide⟩, ⟨1, 0, by decide⟩]).map
        Naming.name).Nodup ∧
      ∀ n ∈ nameArchives 0 [⟨0, 1, by decide⟩, ⟨0, 2, by decide⟩, ⟨1, 0, by decide⟩],
        n.name.length + 1 ≤ 200 ∧ n.suffixText.length + 1 ≤ 4 ∧
          ∀ u, n.name ≠ backupName (getTime u) := by
  refine archive_names ⟨by decide, ?_, by decide, fun second => ?_⟩
  · intro t ht
    simp only [List.mem_cons, List.not_mem_nil, or_false] at ht
    obtain rfl | rfl | rfl := ht <;> (unfold Timestamp.InRange; decide)
  · exact (List.count_le_length).trans (by decide)

end UhfGs.Station
