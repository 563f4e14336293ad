import Mathlib.Tactic.Common

/-! A sender that runs ahead of its receiver by no more messages than fit into a window. Messages
are counted, not numbered, and what the sender knows of the receiver may be late. -/
namespace UhfGs.SlidingWindow

/-- How many messages the sender took and the receiver passed on, and how many of these the sender
knows of. -/
structure Window where
  sent : Nat
  passed : Nat
  acked : Nat

/-- An acknowledgement arrives before more than `late` further messages were passed on. -/
inductive Step (late size : Nat) (w : Window) : Window → Prop where
  | send (h : w.sent < w.acked + size) : Step late size w { w with sent := w.sent + 1 }
  | pass (h : w.passed < w.sent) : Step late size w { w with passed := w.passed + 1 }
  | ack {a : Nat} (h : a ≤ w.passed) (hlate : w.passed ≤ a + late) :
      Step late size w { w with acked := a }

structure Inv (late size : Nat) (w : Window) : Prop where
  acked : w.acked ≤ w.passed
  passed : w.passed ≤ w.sent
  ahead : w.sent ≤ w.passed + size
  behind : w.sent ≤ w.acked + late + size

namespace Inv
variable {late size : Nat} {w w' : Window}

theorem zero : Inv late size ⟨0, 0, 0⟩ :=
  ⟨Nat.le_refl 0, Nat.le_refl 0, Nat.zero_le _, Nat.zero_le _⟩

theorem step (h : Inv late size w) (hs : Step late size w w') : Inv late size w' := by
  obtain ⟨hacked, hpassed, hahead, hbehind⟩ := h
  cases hs with
  | send h => exact ⟨hacked, by dsimp only; omega, by dsimp only; omega, by dsimp only; omega⟩
  | pass h => exact ⟨by dsimp only; omega, h, by dsimp only; omega, hbehind⟩
  | ack ha hlate => exact ⟨ha, hpassed, hahead, by dsimp only; omega⟩

theorem sent_le (h : Inv late size w) {i : Nat} (hi : w.acked ≤ i) : w.sent ≤ i + late + size := by
  have hbehind := h.behind
  omega

theorem acked_le (h : Inv late size w) {i a : Nat} (hi : w.acked ≤ i) (ha : a ≤ w.passed) :
    a ≤ i + late + size := by
  have hpassed := h.passed
  have hbehind := h.behind
  omega

end Inv
end UhfGs.SlidingWindow
