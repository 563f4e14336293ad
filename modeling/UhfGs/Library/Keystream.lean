import Mathlib.Data.List.Zip

/-! A stream cipher: the blocks of a text are combined with those of a key stream, the last one with
as much as it needs. -/
namespace UhfGs.Keystream
variable {α : Type*} {n : Nat} {op : α → α → α} {key : Nat → List α}

def cipher (n : Nat) (op : α → α → α) (key : Nat → List α) (i : Nat) (xs : List α) : List α :=
  if _ : 0 < n ∧ xs ≠ [] then
    List.zipWith op (xs.take n) (key i) ++ cipher n op key (i + 1) (xs.drop n)
  else []
termination_by xs.length
decreasing_by
  have hpos : 0 < xs.length := List.length_pos_of_ne_nil (by tauto)
  rw [List.length_drop]
  omega

theorem cipher_nil (i : Nat) : cipher n op key i [] = [] := by
  rw [cipher, dif_neg]
  exact fun h => h.2 rfl

theorem cipher_of_ne_nil (hn : 0 < n) {xs : List α} (h : xs ≠ []) (i : Nat) :
    cipher n op key i xs =
      List.zipWith op (xs.take n) (key i) ++ cipher n op key (i + 1) (xs.drop n) := by
  rw [cipher, dif_pos ⟨hn, h⟩]

def blocks (key : Nat → List α) : Nat → Nat → List α
  | _, 0 => []
  | i, m + 1 => key i ++ blocks key (i + 1) m

theorem length_blocks (hkey : ∀ i, (key i).length = n) (i m : Nat) :
    (blocks key i m).length = m * n := by
  induction m generalizing i with
  | zero => simp [blocks]
  | succ m ih => rw [blocks, List.length_append, hkey, ih, Nat.succ_mul, Nat.add_comm]

theorem zipWith_append_right (xs ks ls : List α) : List.zipWith op xs (ks ++ ls) =
    List.zipWith op (xs.take ks.length) ks ++ List.zipWith op (xs.drop ks.length) ls := by
  induction ks generalizing xs with
  | nil => simp
  | cons k ks ih =>
      cases xs with
      | nil => simp
      | cons x xs => simp [ih]

theorem cipher_eq_zipWith (hn : 0 < n) (hkey : ∀ i, (key i).length = n) {m : Nat} {xs : List α}
    (h : xs.length ≤ m * n) (i : Nat) :
    cipher n op key i xs = List.zipWith op xs (blocks key i m) := by
  induction m generalizing i xs with
  | zero =>
      have hnil : xs = [] := by
        rw [← List.length_eq_zero_iff]
        omega
      rw [hnil, cipher_nil, List.zipWith_nil_left]
  | succ m ih =>
      by_cases hne : xs = []
      · rw [hne, cipher_nil, List.zipWith_nil_left]
      · have hrest : (xs.drop n).length ≤ m * n := by
          rw [List.length_drop]
          rw [Nat.succ_mul] at h
          omega
        rw [cipher_of_ne_nil hn hne, ih hrest, blocks, zipWith_append_right, hkey]

section
variable (hn : 0 < n) (hkey : ∀ i, (key i).length = n)
include hn hkey

theorem cipher_eq_zipWith_length (f : α → α → α) (i : Nat) (xs : List α) :
    cipher n f key i xs = List.zipWith f xs (blocks key i xs.length) ∧
      xs.length ≤ (blocks key i xs.length).length := by
  have hlen : xs.length ≤ xs.length * n := Nat.le_mul_of_pos_right _ hn
  refine ⟨cipher_eq_zipWith hn hkey hlen i, ?_⟩
  rwa [length_blocks hkey]

theorem length_cipher (i : Nat) (xs : List α) : (cipher n op key i xs).length = xs.length := by
  obtain ⟨heq, hlen⟩ := cipher_eq_zipWith_length hn hkey op i xs
  rw [heq, List.length_zipWith, Nat.min_eq_left hlen]

end

theorem zipWith_zipWith (hop : ∀ x k, op (op x k) k = x) (xs ks : List α)
    (h : xs.length ≤ ks.length) : List.zipWith op (List.zipWith op xs ks) ks = xs := by
  induction xs generalizing ks with
  | nil => rw [List.zipWith_nil_left, List.zipWith_nil_left]
  | cons x xs ih =>
      cases ks with
      | nil => exact absurd h (Nat.not_succ_le_zero _)
      | cons k ks =>
          rw [List.zipWith_cons_cons, List.zipWith_cons_cons, hop,
            ih ks (Nat.le_of_succ_le_succ h)]

theorem cipher_cipher (hn : 0 < n) (hkey : ∀ i, (key i).length = n)
    (hop : ∀ x k, op (op x k) k = x) (i : Nat) (xs : List α) :
    cipher n op key i (cipher n op key i xs) = xs := by
  obtain ⟨heq, hlen⟩ := cipher_eq_zipWith_length hn hkey op i xs
  have htwice := (cipher_eq_zipWith_length hn hkey op i (cipher n op key i xs)).1
  rw [length_cipher hn hkey] at htwice
  rw [htwice, heq, zipWith_zipWith hop _ _ hlen]

theorem zipWith_append_left (xs ys ks : List α) : List.zipWith op (xs ++ ys) ks =
    List.zipWith op xs ks ++ List.zipWith op ys (ks.drop xs.length) := by
  induction xs generalizing ks with
  | nil => simp
  | cons x xs ih =>
      cases ks with
      | nil => simp
      | cons k ks => simp [ih]

theorem cipher_window (hn : 0 < n) (hkey : ∀ i, (key i).length = n)
    (hop : ∀ x k, op (op x k) k = x) (i : Nat) (pre post : List α) {u v : List α}
    (hlen : u.length = v.length) (hne : u ≠ v) :
    ∃ pre' u' v' post', u'.length = u.length ∧ v'.length = u.length ∧
      post'.length = post.length ∧ u' ≠ v' ∧
      cipher n op key i (pre ++ u ++ post) = pre' ++ u' ++ post' ∧
      cipher n op key i (pre ++ v ++ post) = pre' ++ v' ++ post' := by
  obtain ⟨hu, hlong⟩ := cipher_eq_zipWith_length hn hkey op i (pre ++ u ++ post)
  obtain ⟨hv, -⟩ := cipher_eq_zipWith_length hn hkey op i (pre ++ v ++ post)
  have hsame : (pre ++ v ++ post).length = (pre ++ u ++ post).length := by simp [hlen]
  rw [hsame] at hv
  generalize blocks key i (pre ++ u ++ post).length = ks at hu hv hlong
  have hfit : u.length ≤ (ks.drop pre.length).length := by
    rw [List.length_drop]
    simp only [List.length_append] at hlong
    omega
  refine ⟨List.zipWith op pre ks, List.zipWith op u (ks.drop pre.length),
    List.zipWith op v (ks.drop pre.length),
    List.zipWith op post (ks.drop (pre ++ u).length), ?_, ?_, ?_, ?_, ?_, ?_⟩
  · rw [List.length_zipWith, Nat.min_eq_left hfit]
  · rw [List.length_zipWith, ← hlen, Nat.min_eq_left hfit]
  · rw [List.length_zipWith, List.length_drop]
    simp only [List.length_append] at hlong ⊢
    omega
  · intro heq
    have hback := congrArg (fun xs => List.zipWith op xs (ks.drop pre.length)) heq
    rw [zipWith_zipWith hop _ _ hfit, zipWith_zipWith hop _ _ (hlen ▸ hfit)] at hback
    exact hne hback
  · rw [hu, zipWith_append_left, zipWith_append_left]
  · rw [hv, zipWith_append_left, zipWith_append_left]
    simp [hlen]

theorem zipWith_cancel (hop : ∀ x y k, op (op x k) (op y k) = op x y) {xs ys ks : List α}
    (hx : xs.length ≤ ks.length) (hy : ys.length ≤ ks.length) :
    List.zipWith op (List.zipWith op xs ks) (List.zipWith op ys ks) = List.zipWith op xs ys := by
  induction ks generalizing xs ys with
  | nil => simp [List.length_eq_zero_iff.mp (Nat.le_zero.mp hx)]
  | cons k ks ih =>
      cases xs with
      | nil => simp
      | cons x xs =>
          cases ys with
          | nil => simp
          | cons y ys =>
              simp only [List.zipWith_cons_cons, hop, List.cons.injEq, true_and]
              exact ih (Nat.le_of_succ_le_succ hx) (Nat.le_of_succ_le_succ hy)

/-- Where a block of the key stream comes twice, what the two blocks of the text have to do with
each other can be read off what they become. -/
theorem cipher_repeat (hn : 0 < n) (hkey : ∀ i, (key i).length = n)
    (hop : ∀ x y k, op (op x k) (op y k) = op x y) {i : Nat} (hrep : key (i + 1) = key i)
    (xs : List α) :
    List.zipWith op ((cipher n op key i xs).take n) (((cipher n op key i xs).drop n).take n) =
      List.zipWith op (xs.take n) ((xs.drop n).take n) := by
  have hlong : xs.length ≤ (xs.length + 2) * n := by
    calc xs.length ≤ xs.length + 2 := Nat.le_add_right _ _
      _ ≤ (xs.length + 2) * n := Nat.le_mul_of_pos_right _ hn
  rw [cipher_eq_zipWith hn hkey hlong, blocks, blocks, hrep]
  have hfirst : (key i ++ (key i ++ blocks key (i + 1 + 1) xs.length)).take n = key i :=
    List.take_left' (hkey i)
  have hrest : (key i ++ (key i ++ blocks key (i + 1 + 1) xs.length)).drop n =
      key i ++ blocks key (i + 1 + 1) xs.length :=
    List.drop_left' (hkey i)
  rw [List.take_zipWith, List.drop_zipWith, List.take_zipWith, hfirst, hrest,
    List.take_left' (hkey i)]
  refine zipWith_cancel hop ?_ ?_
  · rw [hkey, List.length_take]
    omega
  · rw [hkey, List.length_take]
    omega

end UhfGs.Keystream
