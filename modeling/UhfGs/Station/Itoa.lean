import UhfGs.Library.Numerals

/-! `itoa`: the text of a number in a base, and the reversal of a string in place. -/
namespace UhfGs.Station
open Bytes Numerals

structure Base where
  val : Nat
  two_le : 2 ≤ val
  le : val ≤ 36

def remByte (rem : Int) : UInt8 := UInt8.ofInt (if rem > 9 then rem - 10 + 97 else rem + 48)

theorem natAbs_tdiv_lt (base : Base) {num : Int} (h : num ≠ 0) :
    (num.tdiv base.val).natAbs < num.natAbs := by
  rw [Int.natAbs_tdiv, Int.natAbs_natCast]
  exact Nat.div_lt_self (Int.natAbs_pos.mpr h) base.two_le

/-- The loop over the digits, the last one first. Division and remainder truncate. -/
def itoaLoop (base : Base) (str : Nat → UInt8) (i : Nat) (num : Int) : (Nat → UInt8) × Nat :=
  if h : num = 0 then (str, i)
  else
    itoaLoop base (Function.update str i (remByte (num.tmod base.val))) (i + 1)
      (num.tdiv base.val)
termination_by num.natAbs
decreasing_by exact natAbs_tdiv_lt base h

def swapBytes (str : Nat → UInt8) (i j : Nat) : Nat → UInt8 :=
  Function.update (Function.update str i (str j)) j (str i)

/-- `reverse_String`. Called with `i` behind the middle it does not return. -/
def reverseString (str : Nat → UInt8) (i len : Nat) : Option (Nat → UInt8) :=
  let str := swapBytes str i (len - i)
  if i = len / 2 then some str
  else if len / 2 < i then none
  else reverseString str (i + 1) len
termination_by len / 2 - i

/-- The memory at `str` after a call. The negation of the smallest `int` wraps around. -/
def itoa (num : Int32) (str : Nat → UInt8) (base : Base) : Option (Nat → UInt8) :=
  if num = 0 then some (Function.update (Function.update str 0 48) 1 0)
  else
    let isNegative := num < 0 ∧ base.val = 10
    let num := if isNegative then -num else num
    let (str, i) := itoaLoop base str 0 num.toInt
    let (str, i) := if isNegative then (Function.update str i 45, i + 1) else (str, i)
    let str := Function.update str i 0
    let len := strlen (readMem (i + 1) str)
    reverseString str 0 (len - 1)

def Stored (m : Nat → UInt8) (s : List UInt8) : Prop := 0 ∉ s ∧ readMem (s.length + 1) m = s ++ [0]

def digitBytes (base : Base) (num : Int) : List UInt8 :=
  if _ : num = 0 then [] else remByte (num.tmod base.val) :: digitBytes base (num.tdiv base.val)
termination_by num.natAbs
decreasing_by exact natAbs_tdiv_lt base ‹_›

def itoaText (num : Int32) (base : Base) : List UInt8 :=
  if num = 0 then [48]
  else if num < 0 ∧ base.val = 10 then 45 :: (digitBytes base (-num).toInt).reverse
  else (digitBytes base num.toInt).reverse

/-- The numeral that the comments of `itoa` promise: with a sign in base 10, of the unsigned number
in the others. -/
def canonical (num : Int32) (base : Base) : List UInt8 :=
  if num < 0 then
    if base.val = 10 then 45 :: numeral 10 num.toInt.natAbs
    else numeral base.val num.toUInt32.toNat
  else numeral base.val num.toInt.toNat

/-- The `int` that a numeral with or without a sign is converted back to. -/
def convertBack (base : Base) : List UInt8 → Int32
  | 45 :: s => -Int32.ofNat (numeralValue base.val s)
  | s => Int32.ofNat (numeralValue base.val s)

theorem update_writeMem (bs : List UInt8) (str : Nat → UInt8) (c : UInt8) :
    Function.update (writeMem 0 bs str) bs.length c = writeMem 0 (bs ++ [c]) str := by
  funext j
  by_cases hj : j = bs.length
  · subst hj
    simp [writeMem]
  · rw [Function.update_of_ne hj]
    obtain hlt | hlt := Nat.lt_or_gt_of_ne hj
    · simp [writeMem, List.getElem?_append_left hlt]
    · have hout : bs[j]? = none := List.getElem?_eq_none (by omega)
      have hout' : (bs ++ [c])[j]? = none := List.getElem?_eq_none (by simp; omega)
      simp [writeMem, hout, hout']

theorem writeMem_nil (str : Nat → UInt8) : writeMem 0 [] str = str := by
  funext j
  simp [writeMem]

theorem itoaLoop_eq (base : Base) (str : Nat → UInt8) (bs : List UInt8) (num : Int) :
    itoaLoop base (writeMem 0 bs str) bs.length num =
      (writeMem 0 (bs ++ digitBytes base num) str, (bs ++ digitBytes base num).length) := by
  induction num using digitBytes.induct base generalizing bs with
  | case1 => simp [itoaLoop, digitBytes]
  | case2 num h ih =>
      have hnext := ih (bs ++ [remByte (num.tmod base.val)])
      rw [List.length_append, List.length_singleton, List.append_assoc] at hnext
      rw [itoaLoop, dif_neg h, update_writeMem, hnext, digitBytes.eq_1 base num, dif_neg h]
      rfl

theorem swapBytes_mirror {i len : Nat} (h : i ≤ len / 2) (str : Nat → UInt8) (j : Nat) :
    swapBytes str i (len - i) j = if j = i ∨ j = len - i then str (len - j) else str j := by
  unfold swapBytes
  by_cases hend : j = len - i
  · have hback : len - j = i := by omega
    rw [if_pos (Or.inr hend), hback, hend, Function.update_self]
  · rw [Function.update_of_ne hend]
    by_cases hstart : j = i
    · rw [if_pos (Or.inl hstart), hstart, Function.update_self]
    · rw [if_neg (not_or.mpr ⟨hstart, hend⟩), Function.update_of_ne hstart]

/-- Between `i` and its counterpart the string is reversed, outside it stays. -/
theorem reverseString_between {i len : Nat} (h : i ≤ len / 2) (str : Nat → UInt8) :
    reverseString str i len =
      some fun j => if i ≤ j ∧ j ≤ len - i then str (len - j) else str j := by
  induction hk : len / 2 - i generalizing i str with
  | zero =>
      rw [reverseString, if_pos (by omega)]
      congr 1
      funext j
      rw [swapBytes_mirror h]
      exact if_congr (by omega) rfl rfl
  | succ k ih =>
      rw [reverseString, if_neg (by omega), if_neg (by omega), ih (by omega) _ (by omega)]
      congr 1
      funext j
      rw [swapBytes_mirror h, swapBytes_mirror h]
      by_cases hin : i + 1 ≤ j ∧ j ≤ len - (i + 1)
      · rw [if_pos hin, if_neg (by omega), if_pos (by omega)]
      · rw [if_neg hin]
        exact if_congr (by omega) rfl rfl

theorem reverseString_writeMem {s : List UInt8} (hs : s ≠ []) (t : List UInt8)
    (str : Nat → UInt8) :
    reverseString (writeMem 0 (s ++ t) str) 0 (s.length - 1) =
      some (writeMem 0 (s.reverse ++ t) str) := by
  have hpos := List.length_pos_iff.mpr hs
  rw [reverseString_between (Nat.zero_le _)]
  congr 1
  funext j
  by_cases hj : j < s.length
  · have hj' : s.length - 1 - j < s.length := by omega
    rw [if_pos ⟨Nat.zero_le _, by omega⟩]
    simp [writeMem, List.getElem?_append_left, hj, hj']
  · have hout : s.length ≤ j := by omega
    rw [if_neg (by omega)]
    simp [writeMem, List.getElem?_append_right, hout]

theorem digitBytes_of_ne {base : Base} {num : Int} (h : num ≠ 0) :
    digitBytes base num =
      remByte (num.tmod base.val) :: digitBytes base (num.tdiv base.val) := by
  rw [digitBytes.eq_1 base num, dif_neg h]

theorem digitBytes_ne_nil {base : Base} {num : Int} (h : num ≠ 0) : digitBytes base num ≠ [] := by
  rw [digitBytes_of_ne h]
  exact List.cons_ne_nil _ _

theorem abs_tmod_lt (base : Base) (num : Int) :
    -(base.val : Int) < num.tmod base.val ∧ num.tmod base.val < base.val := by
  have hpos : (0 : Int) < base.val := by
    have := base.two_le
    omega
  exact ⟨Int.lt_tmod_of_pos num hpos, Int.tmod_lt_of_pos num hpos⟩

theorem tdiv_nonpos (base : Base) {num : Int} (h : num ≤ 0) : num.tdiv base.val ≤ 0 := by
  have hpos : 0 ≤ (-num).tdiv base.val := Int.tdiv_nonneg (by omega) (Int.natCast_nonneg _)
  rw [Int.neg_tdiv] at hpos
  omega

theorem toNat_remByte {rem : Int} (hlow : -36 < rem) (hhigh : rem < 36) :
    ((remByte rem).toNat : Int) = if rem > 9 then rem + 87 else rem + 48 := by
  unfold remByte
  split
  · have hn : rem - 10 + 97 = ((rem + 87).toNat : Int) := by omega
    rw [hn, toNat_ofInt_natCast]
    omega
  · have hn : rem + 48 = ((rem + 48).toNat : Int) := by omega
    rw [hn, toNat_ofInt_natCast]
    omega

theorem zero_notMem_digitBytes (base : Base) (num : Int) : (0 : UInt8) ∉ digitBytes base num := by
  induction num using digitBytes.induct base with
  | case1 => simp [digitBytes]
  | case2 num h ih =>
      have hrem := abs_tmod_lt base num
      have hle := base.le
      have hbyte := @toNat_remByte (num.tmod base.val) (by omega) (by omega)
      rw [digitBytes_of_ne h, List.mem_cons, not_or]
      refine ⟨fun hzero => ?_, ih⟩
      rw [← hzero, UInt8.toNat_zero] at hbyte
      split at hbyte <;> omega

theorem remByte_natCast {d : Nat} (h : d < 36) : remByte d = digitByte d := by
  apply UInt8.toNat.inj
  have hbyte := @toNat_remByte (d : Int) (by omega) (by omega)
  rw [toNat_digitByte h]
  split at hbyte <;> split <;> omega

theorem digitBytes_natCast (base : Base) (n : Nat) :
    digitBytes base n = (Nat.digits base.val n).map digitByte := by
  induction n using Nat.strong_induction_on with
  | _ n ih =>
      obtain rfl | hpos := Nat.eq_zero_or_pos n
      · simp [digitBytes]
      · have hlt := Nat.mod_lt n (Nat.lt_of_lt_of_le Nat.two_pos base.two_le)
        have hmod : remByte ((n : Int).tmod base.val) = digitByte (n % base.val) := by
          rw [← Int.ofNat_tmod, remByte_natCast (hlt.trans_le base.le)]
        have hdiv : (n : Int).tdiv base.val = (n / base.val : Nat) :=
          (Int.ofNat_tdiv n base.val).symm
        rw [digitBytes_of_ne (by exact_mod_cast hpos.ne'), hmod, hdiv,
          ih (n / base.val) (Nat.div_lt_self hpos base.two_le),
          Nat.digits_def' base.two_le hpos, List.map_cons]

theorem exists_lt_of_mem_digitBytes (base : Base) {num : Int} (h : num < 0) :
    ∃ c ∈ digitBytes base num, c.toNat < 48 := by
  induction num using digitBytes.induct base with
  | case1 => exact absurd h (lt_irrefl 0)
  | case2 num hne ih =>
      rw [digitBytes_of_ne hne]
      by_cases hlast : num.tdiv base.val = 0
      · have hrem := abs_tmod_lt base num
        have hsplit := Int.tdiv_mul_add_tmod num base.val
        rw [hlast, Int.zero_mul, Int.zero_add] at hsplit
        have hle := base.le
        have hbyte := @toNat_remByte (num.tmod base.val) (by omega) (by omega)
        rw [if_neg (by omega)] at hbyte
        exact ⟨_, List.mem_cons_self, by omega⟩
      · have hneg : num.tdiv base.val < 0 := lt_of_le_of_ne (tdiv_nonpos base h.le) hlast
        obtain ⟨c, hc, hlt⟩ := ih hneg
        exact ⟨c, List.mem_cons_of_mem _ hc, hlt⟩

theorem stored_writeMem {s : List UInt8} (h : 0 ∉ s) (str : Nat → UInt8) :
    Stored (writeMem 0 (s ++ [0]) str) s := by
  refine ⟨h, ?_⟩
  rw [readMem_writeMem_zero, List.take_of_length_le (by simp), List.drop_of_length_le (by simp),
    List.append_nil]

theorem takeWhile_of_stored {m : Nat → UInt8} {s : List UInt8} (h : Stored m s) (n : Nat) :
    (readMem (s.length + 1 + n) m).takeWhile (· ≠ 0) = s := by
  have hsplit : readMem (s.length + 1 + n) m =
      readMem (s.length + 1) m ++ (List.range n).map fun i => m (s.length + 1 + i) := by
    simp [readMem, List.range_add]
  rw [hsplit, h.2, List.append_assoc,
    List.takeWhile_append_of_pos fun c hc => by simpa using ne_of_mem_of_not_mem hc h.1]
  simp

theorem eq_of_stored {m : Nat → UInt8} {s t : List UInt8} (hs : Stored m s) (ht : Stored m t) :
    s = t := by
  have hlen : s.length + 1 + t.length = t.length + 1 + s.length := by omega
  rw [← takeWhile_of_stored hs t.length, hlen, takeWhile_of_stored ht]

theorem strlen_of_stored {m : Nat → UInt8} {s : List UInt8} (h : Stored m s) :
    strlen (readMem (s.length + 1) m) = s.length :=
  congrArg List.length (takeWhile_of_stored h 0)

theorem reverseString_terminated {s : List UInt8} (hs : s ≠ []) (h : 0 ∉ s)
    (str : Nat → UInt8) :
    reverseString (Function.update (writeMem 0 s str) s.length 0) 0
        (strlen (readMem (s.length + 1) (Function.update (writeMem 0 s str) s.length 0)) - 1) =
      some (writeMem 0 (s.reverse ++ [0]) str) := by
  rw [update_writeMem, strlen_of_stored (stored_writeMem h str), reverseString_writeMem hs]

/-- What a call leaves in memory. It always returns. -/
theorem itoa_eq (num : Int32) (base : Base) (str : Nat → UInt8) :
    itoa num str base = some (writeMem 0 (itoaText num base ++ [0]) str) := by
  have hloop (n : Int) : itoaLoop base str 0 n =
      (writeMem 0 (digitBytes base n) str, (digitBytes base n).length) := by
    have hempty := itoaLoop_eq base str [] n
    rwa [writeMem_nil, List.nil_append, List.length_nil] at hempty
  have hne {n : Int32} (hn : n ≠ 0) : digitBytes base n.toInt ≠ [] :=
    digitBytes_ne_nil fun h => hn (Int32.toInt.inj h)
  unfold itoa itoaText
  by_cases hzero : num = 0
  · have hfirst := update_writeMem [] str 48
    have hsecond := update_writeMem [48] str 0
    rw [writeMem_nil, List.length_nil, List.nil_append] at hfirst
    rw [if_pos hzero, if_pos hzero, hfirst]
    exact congrArg some hsecond
  · rw [if_neg hzero, if_neg hzero]
    by_cases hneg : num < 0 ∧ base.val = 10
    · have hnum : -num ≠ 0 := by simpa using hzero
      have hmem : (0 : UInt8) ∉ digitBytes base (-num).toInt ++ [45] := by
        simpa using zero_notMem_digitBytes base (-num).toInt
      simp only [hneg, and_self, if_true, hloop, update_writeMem]
      have hlen : (digitBytes base (-num).toInt).length + 1 =
          (digitBytes base (-num).toInt ++ [45]).length := by simp
      rw [hlen, reverseString_terminated (by simp) hmem, List.reverse_append]
      rfl
    · simp only [hneg, if_false, hloop]
      rw [reverseString_terminated (hne hzero) (zero_notMem_digitBytes _ _)]

theorem convertBack_numeral (base : Base) (n : Nat) :
    convertBack base (numeral base.val n) = Int32.ofNat n := by
  have hval := numeralValue_numeral base.two_le base.le n
  have hdigit {c : UInt8} (h : c ∈ numeral base.val n) := le_of_mem_numeral base.two_le base.le h
  unfold convertBack
  split
  · rename_i s heq
    exact absurd (hdigit (heq ▸ List.mem_cons_self)) (by decide)
  · rw [hval]

theorem convertBack_canonical (num : Int32) (base : Base) :
    convertBack base (canonical num base) = num := by
  unfold canonical
  split
  · rename_i hneg
    rw [Int32.lt_iff_toInt_lt, Int32.toInt_zero] at hneg
    split
    · rename_i hten
      have habs : (num.toInt.natAbs : Int) = -num.toInt := by omega
      rw [convertBack, hten, numeralValue_numeral (by decide) (by decide), ← Int32.ofInt_eq_ofNat,
        ← Int32.ofInt_neg, habs, Int.neg_neg, Int32.ofInt_toInt]
    · rw [convertBack_numeral]
      exact Int32.ofNat_bitVecToNat num.toBitVec
  · rename_i hneg
    rw [Int32.lt_iff_toInt_lt, Int32.toInt_zero] at hneg
    have habs : (num.toInt.toNat : Int) = num.toInt := by omega
    rw [convertBack_numeral, ← Int32.ofInt_eq_ofNat, habs, Int32.ofInt_toInt]

theorem digitBytes_reverse {n : Nat} (h : n ≠ 0) (base : Base) :
    (digitBytes base n).reverse = numeral base.val n := by
  rw [digitBytes_natCast, numeral, if_neg h]

theorem itoaText_of_nonneg {num : Int32} (h : 0 ≤ num) (base : Base) :
    itoaText num base = canonical num base := by
  have hneg : ¬ num < 0 := Int32.not_lt.mpr h
  rw [Int32.le_iff_toInt_le, Int32.toInt_zero] at h
  obtain ⟨n, hn⟩ := Int.eq_ofNat_of_zero_le h
  unfold itoaText canonical
  rw [if_neg hneg, hn, Int.toNat_natCast]
  by_cases hzero : num = 0
  · have hn0 : n = 0 := by
      rw [hzero, Int32.toInt_zero] at hn
      omega
    rw [if_pos hzero, hn0]
    rfl
  · have hn0 : n ≠ 0 := by
      rintro rfl
      exact hzero (Int32.toInt.inj hn)
    rw [if_neg hzero, if_neg fun hboth => hneg hboth.1, digitBytes_reverse hn0]

theorem itoaText_of_neg {num : Int32} {base : Base} (hten : base.val = 10) (hneg : num < 0)
    (hmin : num ≠ Int32.minValue) : itoaText num base = canonical num base := by
  have hzero : num ≠ 0 := fun h => Int32.lt_irrefl (h ▸ hneg)
  unfold itoaText canonical
  rw [if_neg hzero, if_pos ⟨hneg, hten⟩, if_pos hneg, if_pos hten]
  rw [Int32.lt_iff_toInt_lt, Int32.toInt_zero] at hneg
  have hlow := num.le_toInt
  have hmin' : num.toInt ≠ -2 ^ 31 := fun h => hmin (Int32.toInt.inj h)
  have hnum : (-num).toInt = (num.toInt.natAbs : Int) := by
    rw [Int32.toInt_neg, Int.bmod_eq_of_le (by omega) (by omega)]
    omega
  rw [hnum, digitBytes_reverse (by omega), hten]

theorem itoaText_ne_canonical {num : Int32} {base : Base} (hneg : num < 0)
    (h : base.val = 10 → num = Int32.minValue) : itoaText num base ≠ canonical num base := by
  have hzero : num ≠ 0 := fun h => Int32.lt_irrefl (h ▸ hneg)
  have hnum := hneg
  rw [Int32.lt_iff_toInt_lt, Int32.toInt_zero] at hnum
  intro heq
  unfold itoaText canonical at heq
  rw [if_neg hzero, if_pos hneg] at heq
  by_cases hten : base.val = 10
  · obtain rfl := h hten
    obtain ⟨c, hc, hlt⟩ := @exists_lt_of_mem_digitBytes base (-Int32.minValue).toInt (by decide)
    rw [if_pos ⟨hneg, hten⟩, if_pos hten, List.cons.injEq] at heq
    have hdigit := le_of_mem_numeral (by decide) (by decide)
      (heq.2 ▸ List.mem_reverse.mpr hc)
    omega
  · obtain ⟨c, hc, hlt⟩ := exists_lt_of_mem_digitBytes base hnum
    rw [if_neg fun hboth => hten hboth.2, if_neg hten] at heq
    have hdigit := le_of_mem_numeral base.two_le base.le (heq ▸ List.mem_reverse.mpr hc)
    omega

theorem zero_notMem_itoaText (num : Int32) (base : Base) : (0 : UInt8) ∉ itoaText num base := by
  unfold itoaText
  split
  · decide
  · split
    · simpa using zero_notMem_digitBytes base (-num).toInt
    · simpa using zero_notMem_digitBytes base num.toInt

theorem itoaText_eq_canonical_iff (num : Int32) (base : Base) :
    itoaText num base = canonical num base ↔ 0 ≤ num ∨ base.val = 10 ∧ num ≠ Int32.minValue := by
  by_cases hneg : num < 0
  · have hnonneg : ¬ 0 ≤ num := Int32.not_le.mpr hneg
    rw [or_iff_right hnonneg]
    constructor
    · intro h
      by_contra hcond
      exact itoaText_ne_canonical hneg (fun hten => not_not.mp fun hmin => hcond ⟨hten, hmin⟩) h
    · rintro ⟨hten, hmin⟩
      exact itoaText_of_neg hten hneg hmin
  · have hnonneg : 0 ≤ num := Int32.not_lt.mp hneg
    exact iff_of_true (itoaText_of_nonneg hnonneg base) (Or.inl hnonneg)

/-- What a call is for: it returns, and leaves the numeral, from which the number comes back. -/
def Converts (num : Int32) (base : Base) (str : Nat → UInt8) : Prop :=
  ∃ m, itoa num str base = some m ∧ Stored m (canonical num base) ∧
    convertBack base (canonical num base) = num

theorem converts_iff (num : Int32) (base : Base) (str : Nat → UInt8) :
    Converts num base str ↔ 0 ≤ num ∨ base.val = 10 ∧ num ≠ Int32.minValue := by
  have hstored := stored_writeMem (zero_notMem_itoaText num base) str
  rw [← itoaText_eq_canonical_iff]
  constructor
  · rintro ⟨m, hm, hcanonical, -⟩
    rw [itoa_eq, Option.some.injEq] at hm
    exact eq_of_stored hstored (hm ▸ hcanonical)
  · intro h
    exact ⟨_, itoa_eq num base str, h ▸ hstored, convertBack_canonical num base⟩

/-- Only the negative numbers go wrong: all of them in the bases other than 10, where nothing makes
them unsigned, and the smallest in base 10. Strings of every length are reversed in place. -/
theorem itoa_converts_iff (num : Int32) (base : Base) :
    ((∀ str, Converts num base str) ↔ 0 ≤ num ∨ base.val = 10 ∧ num ≠ Int32.minValue) ∧
      ∀ (c : UInt8) (s : List UInt8) (str : Nat → UInt8),
        reverseString (writeMem 0 (c :: s) str) 0 s.length =
          some (writeMem 0 (c :: s).reverse str) := by
  constructor
  · constructor
    · intro h
      exact (converts_iff num base fun _ => 0).mp (h _)
    · intro h str
      exact (converts_iff num base str).mpr h
  · intro c s str
    have hreverse := reverseString_writeMem (List.cons_ne_nil c s) [] str
    rwa [List.append_nil, List.append_nil] at hreverse

/-- In base 2 the number -1 leaves a slash. -/
theorem itoa_minus_one : ¬ ∀ (num : Int32) (base : Base) (str : Nat → UInt8),
    Converts num base str := by
  intro h
  have hbinary := (converts_iff (-1) ⟨2, by decide, by decide⟩ fun _ => 0).mp (h _ _ _)
  exact absurd hbinary (by decide)

end UhfGs.Station
