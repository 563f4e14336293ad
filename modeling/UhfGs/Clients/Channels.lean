import UhfGs.Library.Decimals

/-! Channel numbers of the power interface as the operator types them. -/
namespace UhfGs.Clients
open Bytes Numerals

/-- The ends of a `long`, which `strtol` does not pass. -/
def longRange (n : Int) : Int := max (-2 ^ 63) (min n (2 ^ 63 - 1))

def atoi (s : List UInt8) : Int32 := Int32.ofInt (longRange (strtol 10 s))

/-- The result and `*ch_no`, the characters of `ch_name` before its NUL. -/
def powerIfGetChIdx (chName : List UInt8) (chNo chNoMax : UInt8) : UInt8 × UInt8 :=
  let len := UInt8.ofNat chName.length
  if (chName.take len.toNat).all isDigit then
    let chNo := UInt8.ofInt (atoi chName).toInt
    if chNoMax ≤ chNo then (0, chNo) else (1, chNo)
  else (0, chNo)

/-- Accepted are the numbers below the limit, each as itself. -/
def ChannelNumber (s : List UInt8) (n m : UInt8) : Prop :=
  let valid := s ≠ [] ∧ Digits s ∧ numeralValue 10 s < m.toNat
  let (result, chNo) := powerIfGetChIdx s n m
  (result = 1 ↔ valid) ∧ (valid → chNo.toNat = numeralValue 10 s) ∧ (¬ valid → result = 0)

theorem strtol_digits {s : List UInt8} (h : Digits s) : strtol 10 s = numeralValue 10 s := by
  have hlow (c : UInt8) (hc : c ∈ s) : 45 < c.toNat :=
    Nat.lt_of_lt_of_le (by decide) (toNat_of_isDigit (h c hc)).1
  have hall (c : UInt8) (hc : c ∈ s) : decide (digitValue c < 10) = true := by
    have hrange := toNat_of_isDigit (h c hc)
    rw [digitValue_of_isDigit (h c hc), decide_eq_true_eq]
    omega
  rw [strtol_of_forall_lt s hlow, List.takeWhile_eq_self_iff.mpr hall]

theorem toNat_channel (s : List UInt8) :
    ((UInt8.ofInt (atoi s).toInt).toNat : Int) = longRange (strtol 10 s) % 256 := by
  have hint : (atoi s).toInt % 256 = longRange (strtol 10 s) % 256 := by
    rw [atoi, Int32.toInt_ofInt, Int32.size, Int.bmod_def]
    omega
  have hbyte (z : Int) : ((UInt8.ofInt z).toNat : Int) = z % 256 := by
    rw [UInt8.ofInt, toNat_ofNat]
    omega
  rw [hbyte, hint]

theorem longRange_eq {n : Int} (h0 : 0 ≤ n) (h : n < 256) : longRange n = n := by
  unfold longRange
  omega

section
variable {s : List UInt8} {n m : UInt8}

theorem powerIfGetChIdx_rejected (h : ∃ c ∈ s.take (s.length % 256), ¬ isDigit c) :
    powerIfGetChIdx s n m = (0, n) := by
  have hlen : (UInt8.ofNat s.length).toNat = s.length % 256 := toNat_ofNat _
  have hall : (s.take (s.length % 256)).all isDigit = false := by
    obtain ⟨c, hc, hd⟩ := h
    exact List.all_eq_false.mpr ⟨c, hc, hd⟩
  simp only [powerIfGetChIdx, hlen, hall]
  rfl

theorem powerIfGetChIdx_read (h : ∀ c ∈ s.take (s.length % 256), isDigit c) :
    powerIfGetChIdx s n m = if m ≤ UInt8.ofInt (atoi s).toInt then (0, UInt8.ofInt (atoi s).toInt)
      else (1, UInt8.ofInt (atoi s).toInt) := by
  have hlen : (UInt8.ofNat s.length).toNat = s.length % 256 := toNat_ofNat _
  have hall : (s.take (s.length % 256)).all isDigit = true := List.all_eq_true.mpr h
  simp only [powerIfGetChIdx, hlen, hall, if_pos]

end

/-- Wrong numbers are turned away if a character that is looked at is no digit, or if their low byte
reaches the limit. -/
theorem channelNumber_iff (s : List UInt8) (n m : UInt8) :
    ChannelNumber s n m ↔ (s ≠ [] ∧ Digits s ∧ numeralValue 10 s < m.toNat) ∨
      (∃ c ∈ s.take (s.length % 256), ¬ isDigit c) ∨
      (m.toNat : Int) ≤ longRange (strtol 10 s) % 256 := by
  have hbyte := toNat_channel s
  have hle : m ≤ UInt8.ofInt (atoi s).toInt ↔ (m.toNat : Int) ≤ longRange (strtol 10 s) % 256 := by
    rw [UInt8.le_iff_toNat_le, ← hbyte, Int.ofNat_le]
  unfold ChannelNumber
  by_cases hvalid : s ≠ [] ∧ Digits s ∧ numeralValue 10 s < m.toNat
  · obtain ⟨-, hdigits, hm⟩ := id hvalid
    have hm' := m.toNat_lt
    have hread := @powerIfGetChIdx_read s n m fun c hc => hdigits c (List.mem_of_mem_take hc)
    rw [strtol_digits hdigits, longRange_eq (by omega) (by omega)] at hbyte hle
    have hnot : ¬ m ≤ UInt8.ofInt (atoi s).toInt := by
      rw [hle]
      omega
    rw [hread, if_neg hnot]
    refine iff_of_true ?_ (.inl hvalid)
    exact ⟨iff_of_true rfl hvalid, fun _ => by omega, fun h => absurd hvalid h⟩
  · by_cases hlook : ∃ c ∈ s.take (s.length % 256), ¬ isDigit c
    · rw [powerIfGetChIdx_rejected hlook]
      refine iff_of_true ?_ (.inr (.inl hlook))
      exact ⟨iff_of_false (by decide) hvalid, fun h => absurd h hvalid, fun _ => rfl⟩
    · have hall : ∀ c ∈ s.take (s.length % 256), isDigit c := by
        simpa using hlook
      rw [powerIfGetChIdx_read hall]
      by_cases hm : m ≤ UInt8.ofInt (atoi s).toInt
      · rw [if_pos hm]
        refine iff_of_true ?_ (.inr (.inr (hle.mp hm)))
        exact ⟨iff_of_false (by decide) hvalid, fun h => absurd h hvalid, fun _ => rfl⟩
      · rw [if_neg hm]
        refine iff_of_false (fun h => hvalid (h.1.mp rfl)) ?_
        rintro (h | h | h)
        · exact hvalid h
        · exact hlook h
        · exact hm (hle.mpr h)

/-- 256 passes for channel 0. -/
theorem channelNumber_256 : ¬ ∀ (s : List UInt8) (n m : UInt8), ChannelNumber s n m := by
  intro h
  have hread : powerIfGetChIdx [50, 53, 54] 0 8 = (1, 0) := by decide +kernel
  have h256 := h [50, 53, 54] 0 8
  rw [ChannelNumber, hread] at h256
  exact absurd (h256.1.mp rfl).2.2 (by decide)

end UhfGs.Clients
