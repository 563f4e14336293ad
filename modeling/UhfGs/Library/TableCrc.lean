import Mathlib.Logic.Function.Iterate

/-! Checksum registers that take one byte at a time through a table of words. If the table tells
its words apart by their high bytes, no burst that fits into the register goes unnoticed. -/
namespace UhfGs.TableCrc
variable {n : Nat} {tab : BitVec 8 → BitVec (n + 8)}

/-- The low byte chooses a word of the table, the rest of the register moves down. -/
def shift (tab : BitVec 8 → BitVec (n + 8)) (c : BitVec (n + 8)) : BitVec (n + 8) :=
  tab (c.setWidth 8) ^^^ (c >>> 8)

def step (tab : BitVec 8 → BitVec (n + 8)) (c : BitVec (n + 8)) (b : BitVec 8) : BitVec (n + 8) :=
  shift tab (c ^^^ b.setWidth (n + 8))

def run (tab : BitVec 8 → BitVec (n + 8)) (c : BitVec (n + 8)) (bs : List (BitVec 8)) :
    BitVec (n + 8) :=
  bs.foldl (step tab) c

def word : List (BitVec 8) → BitVec (n + 8)
  | [] => 0
  | b :: bs => b.setWidth (n + 8) ^^^ (word bs <<< 8)

@[simp] theorem run_cons (c : BitVec (n + 8)) (b : BitVec 8) (bs : List (BitVec 8)) :
    run tab c (b :: bs) = run tab (step tab c b) bs := rfl

theorem run_append (c : BitVec (n + 8)) (bs cs : List (BitVec 8)) :
    run tab c (bs ++ cs) = run tab (run tab c bs) cs := List.foldl_append

theorem xor_right_inj (x y z : BitVec (n + 8)) (h : x ^^^ z = y ^^^ z) : x = y := by
  have h' := congrArg (· ^^^ z) h
  simpa only [BitVec.xor_assoc, BitVec.xor_self, BitVec.xor_zero] using h'

theorem eq_of_low_of_rest {c d : BitVec (n + 8)} (hlow : c.setWidth 8 = d.setWidth 8)
    (hrest : c >>> 8 = d >>> 8) : c = d := by
  apply BitVec.eq_of_getLsbD_eq
  intro i hi
  by_cases h8 : i < 8
  · have hbit := congrArg (·.getLsbD i) hlow
    simpa only [BitVec.getLsbD_setWidth, h8, decide_true, Bool.true_and] using hbit
  · have hbit := congrArg (·.getLsbD (i - 8)) hrest
    have hi8 : 8 + (i - 8) = i := by omega
    simpa only [BitVec.getLsbD_ushiftRight, hi8] using hbit

theorem shift_injective (h : Function.Injective fun i => tab i >>> n) :
    Function.Injective (shift tab) := by
  intro c d hcd
  have hhigh (x : BitVec (n + 8)) : shift tab x >>> n = tab (x.setWidth 8) >>> n := by
    have hzero : (x >>> 8) >>> n = 0#(n + 8) := by
      apply BitVec.eq_of_getLsbD_eq
      intro i _
      simp only [BitVec.getLsbD_ushiftRight, BitVec.getLsbD_zero]
      exact BitVec.getLsbD_of_ge x _ (by omega)
    rw [shift, BitVec.ushiftRight_xor_distrib, hzero, BitVec.xor_zero]
  have hlow : c.setWidth 8 = d.setWidth 8 := h (by
    have hcd' := congrArg (fun x : BitVec (n + 8) => x >>> n) hcd
    simpa only [hhigh] using hcd')
  refine eq_of_low_of_rest hlow ?_
  unfold shift at hcd
  rw [hlow, BitVec.xor_comm, BitVec.xor_comm (tab _)] at hcd
  exact xor_right_inj _ _ _ hcd

theorem run_injective (h : Function.Injective fun i => tab i >>> n) (bs : List (BitVec 8)) :
    Function.Injective fun c => run tab c bs := by
  induction bs with
  | nil => exact fun _ _ hcd => hcd
  | cons b bs ih =>
      intro c d hcd
      exact xor_right_inj _ _ _ (shift_injective h (ih hcd))

theorem shift_xor_shiftLeft (x y : BitVec (n + 8)) (hy : ∀ i, n ≤ i → y.getLsbD i = false) :
    shift tab (x ^^^ (y <<< 8)) = shift tab x ^^^ y := by
  have hlow : (x ^^^ (y <<< 8)).setWidth 8 = x.setWidth 8 := by
    apply BitVec.eq_of_getLsbD_eq
    intro i hi
    simp [hi]
  have hback : (y <<< 8) >>> 8 = y := by
    apply BitVec.eq_of_getLsbD_eq
    intro i hi
    simp only [BitVec.getLsbD_ushiftRight, BitVec.getLsbD_shiftLeft]
    by_cases hin : n ≤ i
    · simp [hy i hin]
    · have h8 : 8 + i < n + 8 := by omega
      simp [h8]
  rw [shift, hlow, BitVec.ushiftRight_xor_distrib, hback, shift, BitVec.xor_assoc]

theorem word_getLsbD (bs : List (BitVec 8)) (i : Nat) (hi : 8 * bs.length ≤ i) :
    (word bs : BitVec (n + 8)).getLsbD i = false := by
  induction bs generalizing i with
  | nil => simp [word]
  | cons b bs ih =>
      rw [List.length_cons] at hi
      have hb : b.getLsbD i = false := BitVec.getLsbD_of_ge b i (by omega)
      have hbs := ih (i - 8) (by omega)
      simp [word, BitVec.getLsbD_setWidth, BitVec.getLsbD_shiftLeft, hb, hbs]

theorem word_cons_getLsbD (b : BitVec 8) (bs : List (BitVec 8)) {i : Nat} (hi : i < n) :
    (word (b :: bs) : BitVec (n + 8)).getLsbD (i + 8) = (word bs : BitVec (n + 8)).getLsbD i := by
  have hb : b.getLsbD (i + 8) = false := BitVec.getLsbD_of_ge b _ (by omega)
  have hwide : i + 8 < n + 8 := by omega
  have hup : ¬ i + 8 < 8 := by omega
  simp only [word, BitVec.getLsbD_xor, BitVec.getLsbD_setWidth, BitVec.getLsbD_shiftLeft, hb, hwide,
    hup, decide_true, decide_false, Bool.and_false, Bool.false_xor, Bool.not_false, Bool.true_and,
    Nat.add_sub_cancel]

/-- A few bytes act like their word at the start and as many empty steps. -/
theorem run_eq_iterate (c : BitVec (n + 8)) (bs : List (BitVec 8)) (h : 8 * bs.length ≤ n + 8) :
    run tab c bs = (shift tab)^[bs.length] (c ^^^ word bs) := by
  induction bs generalizing c with
  | nil => simp [run, word]
  | cons b bs ih =>
      rw [List.length_cons] at h
      have hup : ∀ i, n ≤ i → (word bs : BitVec (n + 8)).getLsbD i = false :=
        fun i hi => word_getLsbD bs i (by omega)
      rw [run_cons, ih _ (by omega), step, ← shift_xor_shiftLeft _ _ hup, List.length_cons,
        Function.iterate_succ_apply, word, BitVec.xor_assoc]

theorem word_inj {bs cs : List (BitVec 8)} (hlen : bs.length = cs.length)
    (h : 8 * bs.length ≤ n + 8) (hword : (word bs : BitVec (n + 8)) = word cs) : bs = cs := by
  induction bs generalizing cs with
  | nil => exact (List.length_eq_zero_iff.mp hlen.symm).symm
  | cons b bs ih =>
      cases cs with
      | nil => cases hlen
      | cons c cs =>
          rw [List.length_cons] at h
          have hlen' : bs.length = cs.length := Nat.succ.inj hlen
          have hbyte : b = c := by
            apply BitVec.eq_of_getLsbD_eq
            intro i hi
            have hbit := congrArg (·.getLsbD i) hword
            have hin : i < n + 8 := by omega
            simpa [word, BitVec.getLsbD_setWidth, BitVec.getLsbD_shiftLeft, hi, hin] using hbit
          have hrest : (word bs : BitVec (n + 8)) = word cs := by
            apply BitVec.eq_of_getLsbD_eq
            intro i hi
            by_cases hin : i < n
            · have hbit := congrArg (·.getLsbD (i + 8)) hword
              simpa only [word_cons_getLsbD _ _ hin] using hbit
            · rw [word_getLsbD bs i (by omega), word_getLsbD cs i (by omega)]
          rw [hbyte, ih hlen' (by omega) hrest]

/-- Two byte strings that differ only within one stretch that fits into the register lead to
different registers. -/
theorem run_burst_ne (h : Function.Injective fun i => tab i >>> n) (c : BitVec (n + 8))
    (pre post : List (BitVec 8)) {u v : List (BitVec 8)} (hlen : u.length = v.length)
    (hfit : 8 * u.length ≤ n + 8) (hne : u ≠ v) :
    run tab c (pre ++ u ++ post) ≠ run tab c (pre ++ v ++ post) := by
  intro heq
  rw [run_append, run_append c, run_append, run_append] at heq
  have hmid := run_injective h post heq
  rw [run_eq_iterate _ u hfit, run_eq_iterate _ v (hlen ▸ hfit), hlen] at hmid
  have hword := (shift_injective h).iterate v.length hmid
  rw [BitVec.xor_comm, BitVec.xor_comm _ (word v)] at hword
  exact hne (word_inj hlen hfit (xor_right_inj _ _ _ hword))

end UhfGs.TableCrc
