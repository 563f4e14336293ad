import Mathlib.Data.List.Infix

/-! The lines of a text file, as `getline` and `strtok` of the C library give them. -/
namespace UhfGs.TextLines

/-- What `getline` reads one after the other: each line with its newline. -/
def fileLines : List UInt8 → List (List UInt8)
  | [] => []
  | c :: cs =>
      if c = 10 then [c] :: fileLines cs
      else
        match fileLines cs with
        | [] => [[c]]
        | line :: rest => (c :: line) :: rest

/-- The size of the buffer of `getline` after a line: where the line and its NUL do not fit, the
buffer at least doubles. -/
def grow (size : Nat) (line : List UInt8) : Nat :=
  if line.length + 1 ≤ size then size else max (2 * size) (line.length + 1)

def cString (buf : List UInt8) : List UInt8 := buf.takeWhile (· ≠ 0)

/-- What the first call of `strtok` with the delimiters leaves of a string. -/
def strtok (delim : UInt8 → Bool) (s : List UInt8) : List UInt8 :=
  s.takeWhile delim ++ (s.dropWhile delim).takeWhile (fun c => !delim c)

def latest {α : Type*} (p : α → Bool) (old : α) (xs : List α) : α :=
  (xs.filter p).getLast?.getD old

theorem lt_grow_iff {size limit : Nat} (h : limit ≤ size) (line : List UInt8) :
    limit < grow size line ↔ limit < size ∨ limit ≤ line.length := by
  unfold grow
  split
  · omega
  · omega

theorem length_lt_grow (size : Nat) (line : List UInt8) : line.length + 1 ≤ grow size line := by
  unfold grow
  split <;> omega

theorem le_grow (size : Nat) (line : List UInt8) : size ≤ grow size line := by
  unfold grow
  split
  · exact le_rfl
  · omega

theorem latest_cons {α : Type*} (p : α → Bool) (old x : α) (xs : List α) :
    latest p old (x :: xs) = latest p (if p x then x else old) xs := by
  unfold latest
  cases hp : p x with
  | false => simp [hp]
  | true => simp [hp, List.getLast?_cons]

theorem latest_append {α : Type*} (p : α → Bool) (old : α) (xs ys : List α) :
    latest p old (xs ++ ys) = latest p (latest p old xs) ys := by
  induction xs generalizing old with
  | nil => rfl
  | cons x xs ih => rw [List.cons_append, latest_cons, ih, ← latest_cons]

theorem latest_append_cons {α : Type*} {p : α → Bool} {x : α} (hx : p x) (old : α)
    (xs ys : List α) : latest p old (xs ++ x :: ys) = latest p x ys := by
  rw [latest_append, latest_cons, if_pos hx]

theorem latest_eq_iff_of_ne {α : Type*} {p : α → Bool} {blank : α} (old : α) (xs : List α)
    (h : ∀ x, p x → x ≠ blank) :
    latest p old xs = blank ↔ old = blank ∧ ∀ x ∈ xs, ¬ p x := by
  induction xs generalizing old with
  | nil => simp [latest]
  | cons x xs ih =>
      rw [latest_cons, ih, List.forall_mem_cons]
      by_cases hx : p x
      · rw [if_pos hx]
        exact iff_of_false (fun hall => h x hx hall.1) fun hall => hall.2.1 hx
      · rw [if_neg hx]
        exact and_congr_right fun _ => (and_iff_right hx).symm

theorem fileLines_newline {line : List UInt8} (h : 10 ∉ line) (rest : List UInt8) :
    fileLines (line ++ 10 :: rest) = (line ++ [10]) :: fileLines rest := by
  induction line with
  | nil => rfl
  | cons c line ih =>
      rw [List.mem_cons, not_or] at h
      rw [List.cons_append, fileLines, if_neg (Ne.symm h.1), ih h.2]
      rfl

def lineEnd (returns : Nat) : List UInt8 := List.replicate returns 13 ++ [10]

theorem fileLines_lineEnd {line : List UInt8} (h : 10 ∉ line) (returns : Nat)
    (rest : List UInt8) :
    fileLines (line ++ lineEnd returns ++ rest) = (line ++ lineEnd returns) :: fileLines rest := by
  have hnot : 10 ∉ line ++ List.replicate returns 13 := by
    rw [List.mem_append, not_or]
    exact ⟨h, fun hmem => absurd (List.eq_of_mem_replicate hmem) (by decide)⟩
  have heq := fileLines_newline hnot rest
  simpa [lineEnd] using heq

theorem strtok_append {delim : UInt8 → Bool} {s t : List UInt8} (hne : s ≠ [])
    (hs : ∀ c ∈ s, delim c = false) (ht : ∀ c ∈ t, delim c = true) :
    strtok delim (s ++ t) = s := by
  have hstop : t.takeWhile (fun c => !delim c) = [] := by
    cases t with
    | nil => rfl
    | cons c t => simp [ht c List.mem_cons_self]
  have hgo : (s ++ t).takeWhile (fun c => !delim c) = s := by
    rw [List.takeWhile_append_of_pos fun c hc => by rw [hs c hc]; rfl, hstop, List.append_nil]
  cases s with
  | nil => exact absurd rfl hne
  | cons c s =>
      have hc : delim c = false := hs c List.mem_cons_self
      rw [strtok, List.cons_append, List.takeWhile_cons_of_neg (by simp [hc]),
        List.dropWhile_cons_of_neg (by simp [hc])]
      exact hgo

theorem exists_split_cons {α : Type*} {P : List α → α → Prop} {x : α} {xs : List α} :
    (∃ pre y post, x :: xs = pre ++ y :: post ∧ P pre y) ↔
      P [] x ∨ ∃ pre y post, xs = pre ++ y :: post ∧ P (x :: pre) y := by
  constructor
  · rintro ⟨pre, y, post, heq, hp⟩
    cases pre with
    | nil =>
        obtain ⟨rfl, rfl⟩ := List.cons.inj heq
        exact Or.inl hp
    | cons z pre =>
        obtain ⟨rfl, hrest⟩ := List.cons.inj heq
        exact Or.inr ⟨pre, y, post, hrest, hp⟩
  · rintro (hp | ⟨pre, y, post, rfl, hp⟩)
    · exact ⟨[], x, xs, rfl, hp⟩
    · exact ⟨x :: pre, y, post, rfl, hp⟩

end UhfGs.TextLines
