import Mathlib.Data.List.GetD
import UhfGs.Library.Bytes

/-! Stores into memory, at offsets from a pointer that may be negative. -/
namespace UhfGs.Bytes

structure Store where
  off : Int
  bytes : List UInt8

namespace Store

def apply (m : Int → UInt8) (s : Store) : Int → UInt8 :=
  fun i => if s.off ≤ i then s.bytes.getD (i - s.off).toNat (m i) else m i

def Inside (lo hi : Int) (s : Store) : Prop := lo ≤ s.off ∧ s.off + s.bytes.length ≤ hi

theorem inside_iff (lo hi off : Int) (bytes : List UInt8) :
    Inside lo hi ⟨off, bytes⟩ ↔ lo ≤ off ∧ off + bytes.length ≤ hi :=
  Iff.rfl

theorem apply_of_outside {lo hi : Int} {s : Store} (h : s.Inside lo hi) (m : Int → UInt8) {i : Int}
    (hi : i < lo ∨ hi ≤ i) : s.apply m i = m i := by
  obtain ⟨hlo, hhi⟩ := h
  unfold apply
  split
  · have hout : s.bytes[(i - s.off).toNat]? = none := List.getElem?_eq_none (by omega)
    rw [List.getD_eq_getElem?_getD, hout, Option.getD_none]
  · rfl

theorem foldl_apply_of_outside {stores : List Store} {lo hi : Int}
    (h : ∀ s ∈ stores, s.Inside lo hi) (m : Int → UInt8) {i : Int} (hi : i < lo ∨ hi ≤ i) :
    stores.foldl apply m i = m i := by
  induction stores generalizing m with
  | nil => rfl
  | cons s stores ih =>
      rw [List.foldl_cons, ih (fun t ht => h t (List.mem_cons_of_mem s ht)),
        apply_of_outside (h s List.mem_cons_self) m hi]

theorem apply_natCast {s : Store} {off : Nat} (h : s.off = off) (m : Int → UInt8) (i : Nat) :
    s.apply m i = writeMem off s.bytes (fun j => m j) i := by
  unfold apply writeMem
  rw [h]
  by_cases hle : off ≤ i
  · have hsub : ((i : Int) - off).toNat = i - off := by omega
    rw [if_pos (by omega), if_pos hle, hsub]
  · rw [if_neg (by omega), if_neg hle]

def Touches (stores : List Store) (i : Int) : Prop :=
  ∃ s ∈ stores, s.off ≤ i ∧ i < s.off + s.bytes.length

theorem Touches.inside {stores : List Store} {lo hi i : Int} (h : ∀ s ∈ stores, s.Inside lo hi)
    (hi' : Touches stores i) : lo ≤ i ∧ i < hi := by
  obtain ⟨s, hs, hlo, hhi⟩ := hi'
  obtain ⟨h1, h2⟩ := h s hs
  omega

end Store

def bytesAt (m : Int → UInt8) (off n : Nat) : List UInt8 :=
  (List.range n).map fun i => m (off + i : Nat)

/-- A statement that replaces the bytes of a place by what it makes of them. -/
structure Update where
  off : Nat
  width : Nat
  value : List UInt8 → List UInt8
  length_value : ∀ bs, (value bs).length = width

namespace Update

def store (u : Update) (m : Int → UInt8) : Store := ⟨u.off, u.value (bytesAt m u.off u.width)⟩

def stores : List Update → (Int → UInt8) → List Store
  | [], _ => []
  | u :: us, m => u.store m :: stores us ((u.store m).apply m)

def Disjoint (u v : Update) : Prop := u.off + u.width ≤ v.off ∨ v.off + v.width ≤ u.off

theorem Disjoint.symm {u v : Update} (h : u.Disjoint v) : v.Disjoint u := Or.symm h

theorem inside_store (u : Update) (m : Int → UInt8) :
    (u.store m).Inside u.off (u.off + u.width : Nat) := by
  rw [store, Store.inside_iff, u.length_value]
  exact ⟨le_rfl, le_rfl⟩

theorem forall_mem_stores {p : Store → Prop} {us : List Update} (h : ∀ u ∈ us, ∀ m, p (u.store m))
    (m : Int → UInt8) : ∀ s ∈ stores us m, p s := by
  induction us generalizing m with
  | nil => exact List.forall_mem_nil _
  | cons u us ih =>
      exact List.forall_mem_cons.mpr
        ⟨h u List.mem_cons_self m, ih (fun v hv => h v (List.mem_cons_of_mem u hv)) _⟩

end Update

@[simp] theorem length_bytesAt (m : Int → UInt8) (off n : Nat) : (bytesAt m off n).length = n := by
  simp [bytesAt]

theorem bytesAt_congr {m m' : Int → UInt8} {off n : Nat}
    (h : ∀ i : Nat, off ≤ i → i < off + n → m i = m' i) : bytesAt m off n = bytesAt m' off n :=
  List.map_congr_left fun i hi =>
    h (off + i) (Nat.le_add_right off i) (Nat.add_lt_add_left (List.mem_range.mp hi) off)

theorem bytesAt_apply (m : Int → UInt8) (off : Nat) (bs : List UInt8) :
    bytesAt (Store.apply m ⟨off, bs⟩) off bs.length = bs := by
  refine List.ext_getElem (length_bytesAt _ _ _) fun i hi hi' => ?_
  have hsub : (((off + i : Nat) : Int) - off).toNat = i := by omega
  have hle : (off : Int) ≤ (off + i : Nat) := by omega
  simp only [bytesAt, List.getElem_map, List.getElem_range, Store.apply, hsub, hle, if_true]
  rw [List.getD_eq_getElem?_getD, List.getElem?_eq_getElem hi', Option.getD_some]

theorem apply_bytesAt (m : Int → UInt8) (n : Nat) : Store.apply m ⟨0, bytesAt m 0 n⟩ = m := by
  funext i
  unfold Store.apply
  split
  · rename_i hi
    obtain ⟨k, rfl⟩ := Int.eq_ofNat_of_zero_le hi
    rw [Int.sub_zero, Int.toNat_natCast]
    by_cases hk : k < n
    · simp [bytesAt, List.getD_eq_getElem?_getD, hk]
    · exact List.getD_eq_default _ _ (by rw [length_bytesAt]; omega)
  · rfl

theorem bytesAt_apply_front (m : Int → UInt8) {bs : List UInt8} {off n : Nat} (h : off + n ≤ bs.length) :
    bytesAt (Store.apply m ⟨0, bs⟩) off n = (bs.drop off).take n := by
  refine List.ext_getElem (by simp; omega) fun i hi hi' => ?_
  rw [length_bytesAt] at hi
  have hlt : off + i < bs.length := by omega
  simp only [bytesAt, List.getElem_map, List.getElem_range, Store.apply, Int.natCast_nonneg,
    if_true, Int.sub_zero, Int.toNat_natCast, List.getElem_take, List.getElem_drop]
  rw [List.getD_eq_getElem _ _ hlt]

theorem eq_bytesAt {m : Int → UInt8} {bs : List UInt8}
    (h : ∀ i : Nat, i < bs.length → Store.apply m ⟨0, bs⟩ i = m i) : bs = bytesAt m 0 bs.length := by
  apply List.ext_getElem
  · rw [length_bytesAt]
  · intro i hi hi'
    have hbyte := h i hi
    simp only [Store.apply, Int.natCast_nonneg, if_true, Int.sub_zero, Int.toNat_natCast,
      List.getD_eq_getElem _ _ hi] at hbyte
    simpa [bytesAt] using hbyte

namespace Update

theorem bytesAt_store_self (u : Update) (m : Int → UInt8) :
    bytesAt ((u.store m).apply m) u.off u.width = u.value (bytesAt m u.off u.width) := by
  have h := bytesAt_apply m u.off (u.value (bytesAt m u.off u.width))
  rwa [u.length_value] at h

theorem bytesAt_store_of_disjoint {u v : Update} (h : u.Disjoint v) (m : Int → UInt8) :
    bytesAt ((u.store m).apply m) v.off v.width = bytesAt m v.off v.width := by
  refine bytesAt_congr fun i hlo hhi => ?_
  refine Store.apply_of_outside (u.inside_store m) m ?_
  obtain h | h := h
  · exact .inr (by omega)
  · exact .inl (by omega)

theorem bytesAt_stores_of_disjoint {us : List Update} {v : Update} (h : ∀ u ∈ us, u.Disjoint v)
    (m : Int → UInt8) :
    bytesAt ((stores us m).foldl Store.apply m) v.off v.width = bytesAt m v.off v.width := by
  induction us generalizing m with
  | nil => rfl
  | cons u us ih =>
      rw [stores, List.foldl_cons, ih (fun w hw => h w (List.mem_cons_of_mem u hw)),
        bytesAt_store_of_disjoint (h u List.mem_cons_self)]

theorem bytesAt_stores {us : List Update} (h : us.Pairwise Disjoint) {v : Update} (hv : v ∈ us)
    (m : Int → UInt8) : bytesAt ((stores us m).foldl Store.apply m) v.off v.width =
      v.value (bytesAt m v.off v.width) := by
  induction us generalizing m with
  | nil => exact absurd hv List.not_mem_nil
  | cons u us ih =>
      obtain ⟨hu, hus⟩ := List.pairwise_cons.mp h
      rw [stores, List.foldl_cons]
      obtain rfl | hv := List.mem_cons.mp hv
      · rw [bytesAt_stores_of_disjoint fun w hw => (hu w hw).symm, bytesAt_store_self]
      · rw [ih hus hv, bytesAt_store_of_disjoint (hu v hv)]

end Update
end UhfGs.Bytes
