import Mathlib.Data.List.OfFn
import Mathlib.Algebra.GroupWithZero.Nat
import UhfGs.Library.Bytes

/-! Packed records in memory: fields one behind the other, words in the byte order of the host. -/
namespace UhfGs.Bytes

def leBytes : Nat → Nat → List UInt8
  | 0, _ => []
  | k + 1, w => UInt8.ofNat w :: leBytes k (w / 256)

def leWord : List UInt8 → Nat
  | [] => 0
  | b :: bs => b.toNat + 256 * leWord bs

@[simp] theorem length_leBytes (k w : Nat) : (leBytes k w).length = k := by
  induction k generalizing w with
  | zero => rfl
  | succ k ih => rw [leBytes, List.length_cons, ih]

theorem leWord_leBytes (k w : Nat) : leWord (leBytes k w) = w % 256 ^ k := by
  induction k generalizing w with
  | zero => rw [leBytes, leWord, pow_zero, Nat.mod_one]
  | succ k ih => rw [leBytes, leWord, toNat_ofNat, ih, pow_succ', Nat.mod_mul]

theorem leBytes_leWord (bs : List UInt8) : leBytes bs.length (leWord bs) = bs := by
  induction bs with
  | nil => rfl
  | cons b bs ih =>
      have hb : b.toNat < 256 := b.toNat_lt
      have hdiv : (b.toNat + 256 * leWord bs) / 256 = leWord bs := by omega
      have hlow : UInt8.ofNat (b.toNat + 256 * leWord bs) = b := by
        rw [← UInt8.toNat_inj, toNat_ofNat]
        omega
      rw [List.length_cons, leBytes, leWord, hdiv, ih, hlow]

theorem leWord_lt (bs : List UInt8) : leWord bs < 256 ^ bs.length := by
  have h := leWord_leBytes bs.length (leWord bs)
  rw [leBytes_leWord] at h
  rw [h]
  exact Nat.mod_lt _ (Nat.pow_pos (by decide))

def Endian.store : Endian → Nat → Nat → List UInt8
  | .little, k, w => leBytes k w
  | .big, k, w => (leBytes k w).reverse

def Endian.load : Endian → Nat → List UInt8 → Nat
  | .little, k, bs => leWord (bs.take k)
  | .big, k, bs => leWord (bs.take k).reverse

@[simp] theorem Endian.length_store (e : Endian) (k w : Nat) : (e.store k w).length = k := by
  cases e <;> simp [Endian.store]

theorem Endian.load_store (e : Endian) {k w : Nat} (h : w < 256 ^ k) (rest : List UInt8) :
    e.load k (e.store k w ++ rest) = w := by
  have htake : (e.store k w ++ rest).take k = e.store k w :=
    List.take_left' (e.length_store k w)
  cases e with
  | little =>
      rw [load, htake, store, leWord_leBytes, Nat.mod_eq_of_lt h]
  | big =>
      rw [load, htake, store, List.reverse_reverse, leWord_leBytes, Nat.mod_eq_of_lt h]

theorem Endian.load_take (e : Endian) {k n : Nat} (h : k ≤ n) (bs : List UInt8) :
    e.load k (bs.take n) = e.load k bs := by
  cases e with
  | little => rw [load, List.take_take, Nat.min_eq_left h, load]
  | big => rw [load, List.take_take, Nat.min_eq_left h, load]

theorem Endian.store_load (e : Endian) {k : Nat} {bs : List UInt8} (h : bs.length = k) :
    e.store k (e.load k bs) = bs := by
  subst h
  cases e with
  | little => rw [load, store, List.take_length, leBytes_leWord]
  | big =>
      have h := leBytes_leWord bs.reverse
      rw [List.length_reverse] at h
      rw [load, store, List.take_length, h, List.reverse_reverse]

/-- A word of `k` bytes from the order of the host to that of the network, and back. -/
def Endian.network : Endian → Nat → Nat → Nat
  | .big, _, w => w
  | .little, k, w => leWord (leBytes k w).reverse

theorem Endian.store_network (e : Endian) (k w : Nat) :
    e.store k (e.network k w) = Endian.big.store k w := by
  cases e with
  | big => rfl
  | little =>
      have h := leBytes_leWord (leBytes k w).reverse
      rw [List.length_reverse, length_leBytes] at h
      exact h

theorem Endian.network_lt (e : Endian) {k w : Nat} (h : w < 256 ^ k) : e.network k w < 256 ^ k := by
  cases e with
  | big => exact h
  | little =>
      have hlt := leWord_lt (leBytes k w).reverse
      rw [List.length_reverse, length_leBytes] at hlt
      exact hlt

theorem Endian.network_network (e : Endian) {k w : Nat} (h : w < 256 ^ k) :
    e.network k (e.network k w) = w := by
  cases e with
  | big => rfl
  | little =>
      have hs := Endian.little.store_network k w
      simp only [store] at hs
      rw [network, hs, List.reverse_reverse, leWord_leBytes, Nat.mod_eq_of_lt h]

theorem Endian.load_lt (e : Endian) {k : Nat} {bs : List UInt8} (h : k ≤ bs.length) :
    e.load k bs < 256 ^ k := by
  have htake : (bs.take k).length = k := by
    rw [List.length_take]
    exact Nat.min_eq_left h
  cases e with
  | little =>
      have hw := leWord_lt (bs.take k)
      rwa [htake] at hw
  | big =>
      have hw := leWord_lt (bs.take k).reverse
      rwa [List.length_reverse, htake] at hw

theorem Endian.network_load (e : Endian) {k : Nat} {bs : List UInt8} (h : k ≤ bs.length) :
    e.network k (e.load k bs) = Endian.big.load k bs := by
  cases e with
  | big => rfl
  | little =>
      have hb := leBytes_leWord (bs.take k)
      rw [List.length_take, Nat.min_eq_left h] at hb
      rw [load, network, hb, load]

/-- How values of a type lie in memory: `size` bytes without padding. -/
structure Packed (α : Type*) where
  size : Nat
  store : Endian → α → List UInt8
  load : Endian → List UInt8 → α
  length_store : ∀ e a, (store e a).length = size
  load_store : ∀ e a rest, load e (store e a ++ rest) = a

attribute [simp] Packed.length_store Packed.load_store

namespace Packed
variable {α β : Type*}

theorem load_store_self (p : Packed α) (e : Endian) (a : α) : p.load e (p.store e a) = a := by
  simpa using p.load_store e a []

theorem store_inj (p : Packed α) {e : Endian} {a b : α} : p.store e a = p.store e b ↔ a = b := by
  constructor
  · intro h
    rw [← p.load_store_self e a, h, p.load_store_self]
  · intro h
    rw [h]

def word (k : Nat) (toNat : α → Nat) (ofNat : Nat → α) (lt : ∀ a, toNat a < 256 ^ k)
    (ofNat_toNat : ∀ a, ofNat (toNat a) = a) : Packed α where
  size := k
  store e a := e.store k (toNat a)
  load e bs := ofNat (e.load k bs)
  length_store e a := e.length_store k (toNat a)
  load_store e a rest := by rw [e.load_store (lt a), ofNat_toNat]

def u8 : Packed UInt8 :=
  word 1 UInt8.toNat UInt8.ofNat (fun a => a.toNat_lt) (fun _ => UInt8.ofNat_toNat)

def u16 : Packed UInt16 :=
  word 2 UInt16.toNat UInt16.ofNat (fun a => a.toNat_lt) (fun _ => UInt16.ofNat_toNat)

def u32 : Packed UInt32 :=
  word 4 UInt32.toNat UInt32.ofNat (fun a => a.toNat_lt) (fun _ => UInt32.ofNat_toNat)

/-- A type whose values are those of another under a different name. -/
def map (p : Packed α) (f : α → β) (g : β → α) (h : ∀ b, f (g b) = b) : Packed β where
  size := p.size
  store e b := p.store e (g b)
  load e bs := f (p.load e bs)
  length_store e b := p.length_store e (g b)
  load_store e b rest := by rw [p.load_store, h]

def i8 : Packed Int8 := u8.map UInt8.toInt8 Int8.toUInt8 fun a => a.toInt8_toUInt8

def i16 : Packed Int16 := u16.map UInt16.toInt16 Int16.toUInt16 fun a => a.toInt16_toUInt16

def i32 : Packed Int32 := u32.map UInt32.toInt32 Int32.toUInt32 fun a => a.toInt32_toUInt32

theorem length_flatMap_store (p : Packed α) (e : Endian) (l : List α) :
    (l.flatMap (p.store e)).length = l.length * p.size := by
  induction l with
  | nil => simp
  | cons a l ih =>
      rw [List.flatMap_cons, List.length_append, p.length_store, ih, List.length_cons]
      ring

theorem drop_flatMap_store (p : Packed α) (e : Endian) (l : List α) (i : Nat) :
    (l.flatMap (p.store e)).drop (i * p.size) = (l.drop i).flatMap (p.store e) := by
  induction i generalizing l with
  | zero => simp
  | succ i ih =>
      cases l with
      | nil => simp
      | cons a l =>
          have hsize : (i + 1) * p.size = p.size + i * p.size := by ring
          rw [hsize, List.flatMap_cons, ← List.drop_drop, List.drop_left' (p.length_store e a), ih,
            List.drop_succ_cons]

def array (p : Packed α) (n : Nat) : Packed (Vector α n) where
  size := n * p.size
  store e v := v.toList.flatMap (p.store e)
  load e bs := Vector.ofFn fun i => p.load e (bs.drop (i * p.size))
  length_store e v := by rw [length_flatMap_store, Vector.length_toList]
  load_store e v rest := by
    apply Vector.ext
    intro i hi
    have hlen : i < v.toList.length := by simpa using hi
    have hle : i * p.size ≤ (v.toList.flatMap (p.store e)).length := by
      rw [length_flatMap_store, Vector.length_toList]
      exact Nat.mul_le_mul_right _ hi.le
    rw [Vector.getElem_ofFn, List.drop_append_of_le_length hle, drop_flatMap_store,
      List.drop_eq_getElem_cons hlen, List.flatMap_cons, List.append_assoc, p.load_store,
      Vector.getElem_toList]

theorem array_store_map (p : Packed α) {n : Nat} {e e' : Endian} {f : α → α}
    (h : ∀ a, p.store e (f a) = p.store e' a) (v : Vector α n) :
    (p.array n).store e (v.map f) = (p.array n).store e' v := by
  simp [array, Vector.toList_map, List.flatMap_map, h]

theorem array_load_map (p : Packed α) {n : Nat} {e e' : Endian} {f : α → α} {bs : List UInt8}
    (h : ∀ i < n, f (p.load e (bs.drop (i * p.size))) = p.load e' (bs.drop (i * p.size))) :
    ((p.array n).load e bs).map f = (p.array n).load e' bs := by
  apply Vector.ext
  intro i hi
  simpa [array] using h i hi

/-- Reading a value looks at its own bytes only. -/
def Local (p : Packed α) : Prop := ∀ e bs n, p.size ≤ n → p.load e (bs.take n) = p.load e bs

theorem word_local (k : Nat) (toNat : α → Nat) (ofNat : Nat → α) (lt : ∀ a, toNat a < 256 ^ k)
    (h : ∀ a, ofNat (toNat a) = a) : (word k toNat ofNat lt h).Local := by
  intro e bs n hn
  exact congrArg ofNat (e.load_take hn bs)

theorem Local.map {p : Packed α} (hp : p.Local) (f : α → β) (g : β → α) (h : ∀ b, f (g b) = b) :
    (p.map f g h).Local := by
  intro e bs n hn
  exact congrArg f (hp e bs n hn)

theorem Local.array {p : Packed α} (hp : p.Local) (k : Nat) : (p.array k).Local := by
  intro e bs n hn
  apply Vector.ext
  intro i hi
  have hsize : (i + 1) * p.size ≤ k * p.size := Nat.mul_le_mul_right _ hi
  have hroom : p.size ≤ n - i * p.size := by
    have hn' : k * p.size ≤ n := hn
    rw [Nat.add_mul, Nat.one_mul] at hsize
    omega
  simp only [Packed.array, Vector.getElem_ofFn, List.drop_take]
  exact hp e _ _ hroom

theorem u8_local : u8.Local := word_local _ _ _ _ _

theorem u16_local : u16.Local := word_local _ _ _ _ _

theorem u32_local : u32.Local := word_local _ _ _ _ _

theorem i16_local : i16.Local := u16_local.map _ _ _

theorem map_eq_self_iff {n : Nat} {f : α → α} (v : Vector α n) : v.map f = v ↔ ∀ a ∈ v, f a = a := by
  constructor
  · intro h a ha
    obtain ⟨i, hi, rfl⟩ := Vector.mem_iff_getElem.mp ha
    have hget := congrArg (fun u => u[i]) h
    simpa using hget
  · intro h
    apply Vector.ext
    intro i hi
    rw [Vector.getElem_map]
    exact h _ (Vector.getElem_mem hi)

end Packed

/-- The fields of a record `ρ` up to some point: how they lie in memory, and what becomes of its
constructor when it is given those read from there. -/
structure Fields (ρ α : Type*) where
  size : Nat
  store : Endian → ρ → List UInt8
  load : Endian → List UInt8 → α
  value : ρ → α
  length_store : ∀ e r, (store e r).length = size
  load_store : ∀ e r rest, load e (store e r ++ rest) = value r

namespace Fields
variable {ρ α β : Type*}

def start (mk : α) : Fields ρ α where
  size := 0
  store _ _ := []
  load _ _ := mk
  value _ := mk
  length_store _ _ := rfl
  load_store _ _ _ := rfl

def field (l : Fields ρ (β → α)) (p : Packed β) (get : ρ → β) : Fields ρ α where
  size := l.size + p.size
  store e r := l.store e r ++ p.store e (get r)
  load e bs := l.load e bs (p.load e (bs.drop l.size))
  value r := l.value r (get r)
  length_store e r := by rw [List.length_append, l.length_store, p.length_store]
  load_store e r rest := by
    rw [List.append_assoc, List.drop_left' (l.length_store e r), p.load_store, l.load_store]

theorem drop_store_field (l : Fields ρ (β → α)) (p : Packed β) (get : ρ → β) (e : Endian) (r : ρ)
    {n : Nat} (h : l.size = n) : ((l.field p get).store e r).drop n = p.store e (get r) :=
  List.drop_left' ((l.length_store e r).trans h)

def Local (l : Fields ρ α) : Prop := ∀ e bs n, l.size ≤ n → l.load e (bs.take n) = l.load e bs

theorem start_local (mk : α) : (start mk : Fields ρ α).Local := fun _ _ _ _ => rfl

theorem Local.field {l : Fields ρ (β → α)} (hl : l.Local) {p : Packed β} (hp : p.Local)
    (get : ρ → β) : (l.field p get).Local := by
  intro e bs n hn
  have hsize : l.size + p.size ≤ n := hn
  simp only [Fields.field, List.drop_take]
  rw [hl e bs n (by omega), hp e _ _ (by omega)]

def packed (l : Fields ρ ρ) (h : ∀ r, l.value r = r) : Packed ρ where
  size := l.size
  store := l.store
  load := l.load
  length_store := l.length_store
  load_store e r rest := by rw [l.load_store, h]

theorem Local.packed {l : Fields ρ ρ} (hl : l.Local) (h : ∀ r, l.value r = r) :
    (l.packed h).Local := hl

end Fields

end UhfGs.Bytes
