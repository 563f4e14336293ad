import Mathlib.Data.Fintype.Pigeonhole
import UhfGs.Csp.Conn

/-! `csp_connect` without options: the search for an ephemeral source port, and when a
connection comes out of it. -/
namespace UhfGs.Csp
open Bytes
namespace ConnTable
variable {π : Type}

/- The two identifiers of a connection to `dest`, port `dport`. -/
def incomingId (prio : Fin 4) (me dest : Fin 32) (dport : Fin 64) (sport : Nat) : CspId where
  pri := prio
  src := dest
  dst := me
  dport := Fin.ofNat 64 sport
  sport := dport
  flags := 0

def outgoingId (prio : Fin 4) (me dest : Fin 32) (dport : Fin 64) (sport : Nat) : CspId where
  pri := prio
  src := me
  dst := dest
  dport := dport
  sport := Fin.ofNat 64 sport
  flags := 0

def portInUse (t : ConnTable π) (sport : Nat) : Bool :=
  (t.cspConnFind ((incomingId 0 0 0 0 sport).ext .little) dportMask).isSome

def sportLoop (t : ConnTable π) (start : Nat) : Nat → Nat → Nat
  | 0, sport => sport
  | fuel + 1, sport =>
      if sport + 1 = start then sport + 1
      else
        let sport := if sport + 1 > 63 then 32 else sport + 1
        if t.portInUse sport then sportLoop t start fuel sport else sport

/-- `csp_connect`; it returns the connection and the new value of `sport`. -/
def cspConnect (sportLock connLock : Bool) (t : ConnTable π) (sport : Nat) (prio : Fin 4)
    (me dest : Fin 32) (dport : Fin 64) : Option (Slot × ConnTable π) × Nat :=
  if ¬ sportLock then (none, sport)
  else
    let next := t.sportLoop sport 32 sport
    if next = sport then (none, next)
    else
      (t.cspConnNew connLock (incomingId prio me dest dport next)
        (outgoingId prio me dest dport next), next)

def candidate (start m : Nat) : Nat := 32 + (start - 32 + m) % 32

theorem portInUse_dport {t : ConnTable π} {sport : Nat} (h : t.portInUse sport) :
    ∃ k, (t.conn k).idin.dport = Fin.ofNat 64 sport := by
  obtain ⟨k, hk⟩ := Option.isSome_iff_exists.mp h
  obtain ⟨-, -, hmask⟩ := cspConnFind_some hk
  exact ⟨k, (ext_dportMask_eq_iff .little _ _).mp hmask⟩

theorem exists_free (t : ConnTable π) (start : Nat) :
    ∃ m, 1 ≤ m ∧ m ≤ 11 ∧ t.portInUse (candidate start m) = false := by
  by_contra hnone
  have huse (m : Fin 11) : ∃ k, (t.conn k).idin.dport =
      Fin.ofNat 64 (candidate start (m + 1)) := by
    apply portInUse_dport
    by_contra hfree
    exact hnone ⟨m + 1, by omega, by omega, Bool.eq_false_iff.mpr hfree⟩
  choose slot hslot using huse
  obtain ⟨a, b, hab, hsame⟩ := Fintype.exists_ne_map_eq_of_card_lt slot (by simp)
  have hport : Fin.ofNat 64 (candidate start (a + 1)) =
      Fin.ofNat 64 (candidate start (b + 1)) := by
    rw [← hslot a, ← hslot b, hsame]
  have hval := congrArg Fin.val hport
  simp only [Fin.val_ofNat, candidate] at hval
  have ha := a.isLt
  have hb := b.isLt
  exact hab (Fin.ext (by omega))

theorem sportLoop_step {t : ConnTable π} {start m : Nat} (fuel : Nat) (hs : 32 ≤ start)
    (hs' : start ≤ 63) (hm : m < 31) :
    t.sportLoop start (fuel + 1) (candidate start m) =
      if t.portInUse (candidate start (m + 1)) then
        t.sportLoop start fuel (candidate start (m + 1)) else candidate start (m + 1) := by
  have hne : ¬ candidate start m + 1 = start := by
    unfold candidate
    omega
  have hnext : (if candidate start m + 1 > 63 then 32 else candidate start m + 1) =
      candidate start (m + 1) := by
    unfold candidate
    split <;> omega
  rw [sportLoop, if_neg hne]
  simp only [hnext]

theorem sportLoop_free {t : ConnTable π} {start : Nat} (hs : 32 ≤ start) (hs' : start ≤ 63)
    (n m fuel : Nat) (hn : n < fuel) (hmn : m + n < 31)
    (hfree : t.portInUse (candidate start (m + n + 1)) = false) :
    ∃ j, m < j ∧ j ≤ m + n + 1 ∧ t.sportLoop start fuel (candidate start m) = candidate start j := by
  induction n generalizing m fuel with
  | zero =>
      obtain ⟨fuel, rfl⟩ := Nat.exists_eq_add_of_lt hn
      refine ⟨m + 1, by omega, by omega, ?_⟩
      rw [sportLoop_step _ hs hs' (by omega)]
      simp only [Nat.add_zero] at hfree
      simp [hfree]
  | succ n ih =>
      obtain ⟨fuel, rfl⟩ := Nat.exists_eq_add_of_lt (Nat.lt_of_le_of_lt (Nat.zero_le _) hn)
      rw [sportLoop_step _ hs hs' (by omega)]
      cases hu : t.portInUse (candidate start (m + 1)) with
      | false => exact ⟨m + 1, by omega, by omega, by simp⟩
      | true =>
          have hfree' : t.portInUse (candidate start (m + 1 + n + 1)) = false := by
            rw [show m + 1 + n + 1 = m + (n + 1) + 1 by omega]
            exact hfree
          obtain ⟨j, hj, hj', heq⟩ := ih (m + 1) (0 + fuel) (by omega) (by omega) hfree'
          exact ⟨j, by omega, by omega, by simpa using heq⟩

theorem sportLoop_ne {t : ConnTable π} {sport : Nat} (hs : 32 ≤ sport) (hs' : sport ≤ 63) :
    t.sportLoop sport 32 sport ≠ sport ∧ 32 ≤ t.sportLoop sport 32 sport ∧
      t.sportLoop sport 32 sport ≤ 63 := by
  obtain ⟨m, hm, hm', hfree⟩ := exists_free t sport
  obtain ⟨n, rfl⟩ := Nat.exists_eq_add_of_le hm
  have hstart : candidate sport 0 = sport := by
    unfold candidate
    omega
  obtain ⟨j, hj, hj', heq⟩ := sportLoop_free (t := t) hs hs' n 0 32 (by omega) (by omega)
    (by rw [show 0 + n + 1 = 1 + n by omega]; exact hfree)
  rw [hstart] at heq
  rw [heq]
  unfold candidate
  omega

variable (t : ConnTable π) (sportLock connLock : Bool) {sport : Nat} (prio : Fin 4)
  (me dest : Fin 32) (dport : Fin 64)

theorem cspConnect_sport (hs : 32 ≤ sport) (hs' : sport ≤ 63) :
    32 ≤ (t.cspConnect sportLock connLock sport prio me dest dport).2 ∧
      (t.cspConnect sportLock connLock sport prio me dest dport).2 ≤ 63 := by
  obtain ⟨hne, hnext⟩ := sportLoop_ne (t := t) hs hs'
  cases sportLock with
  | false => exact ⟨hs, hs'⟩
  | true => simpa [cspConnect, hne] using hnext

theorem cspConnect_fst (hs : 32 ≤ sport) (hs' : sport ≤ 63) :
    ∃ idin idout, (t.cspConnect sportLock connLock sport prio me dest dport).1 =
      t.cspConnNew (sportLock && connLock) idin idout := by
  obtain ⟨hne, -⟩ := sportLoop_ne (t := t) hs hs'
  cases sportLock with
  | false => exact ⟨.zero, .zero, by simp [cspConnect, cspConnNew, cspConnAllocate]⟩
  | true => exact ⟨_, _, by simp only [cspConnect, hne]; rfl⟩

end ConnTable
end UhfGs.Csp
