import UhfGs.Library.Queues
import UhfGs.Station.Frames

/-! Where a packet is: nowhere at first, and never in two places. -/
namespace UhfGs.Station
open Bytes Csp Csp.ConnTable Queues Runs UhfGs.Station.System

def RouterPc.hand : RouterPc → Option QueuedPacket
  | .find p | .create p | .fill p _ | .clear p _ _ | .attach p _ | .deliver p _ => some p
  | .rdp p _ => p
  | _ => none

def ServerPc.hand : ServerPc → Option QueuedPacket
  | .handle _ p => some p
  | _ => none

def receipts (p : QueuedPacket) : List Obs → Nat
  | [] => 0
  | .received _ q _ _ :: past => receipts p past + if q = p then 1 else 0
  | _ :: past => receipts p past

def flushes (p : QueuedPacket) : List Obs → Nat
  | [] => 0
  | .flushed _ q :: past => flushes p past + if q = p then 1 else 0
  | _ :: past => flushes p past

def copies (c : Conn QueuedPacket) (p : QueuedPacket) : Nat :=
  countAll c.rxQueue (some p) + c.rdpRx.count p

/-- How often the packet is in a queue, or has left one for good. -/
def settled (s : System) (p : QueuedPacket) : Nat :=
  ∑ k, copies (s.table.conn k) p + receipts p s.history + flushes p s.history

/-- How often the packet is anywhere. -/
def tally (s : System) (p : QueuedPacket) : Nat :=
  settled s p + (if s.router.hand = some p then 1 else 0) +
    if s.server.hand = some p then 1 else 0

theorem copies_push (c : Conn QueuedPacket) (prio : Fin 4) (x : Option QueuedPacket)
    (p : QueuedPacket) :
    copies { c with rxQueue := Function.update c.rxQueue prio (c.rxQueue prio ++ [x]) } p =
      copies c p + if x = some p then 1 else 0 := by
  have h := countAll_push c.rxQueue prio (some p) x
  simp only [copies]
  omega

theorem copies_tail {c : Conn QueuedPacket} {prio : Fin 4} {x : Option QueuedPacket}
    {rest : List (Option QueuedPacket)} (hq : c.rxQueue prio = x :: rest) (p : QueuedPacket) :
    copies { c with rxQueue := Function.update c.rxQueue prio rest } p +
      (if x = some p then 1 else 0) = copies c p := by
  have h := countAll_tail (some p) hq
  simp only [copies]
  omega

section
variable {me : Fin 32} {s s' : System} {k : Slot}

theorem settled_update {c : Conn QueuedPacket} (p : QueuedPacket)
    (ht : s'.table.conn = Function.update s.table.conn k c) :
    settled s' p + copies (s.table.conn k) p + receipts p s.history + flushes p s.history =
      settled s p + copies c p + receipts p s'.history + flushes p s'.history := by
  have h := sum_update_add s.table.conn (copies · p) k c
  simp only [settled, ht]
  omega

theorem settled_copies {c : Conn QueuedPacket} {p : QueuedPacket}
    (ht : s'.table.conn = Function.update s.table.conn k c)
    (hr : receipts p s'.history = receipts p s.history)
    (hf : flushes p s'.history = flushes p s.history)
    (hc : copies c p ≤ copies (s.table.conn k) p) : settled s' p ≤ settled s p := by
  have h := settled_update p ht
  omega

theorem settled_tail {prio : Fin 4} {x : Option QueuedPacket} {rest : List (Option QueuedPacket)}
    (hq : (s.table.conn k).rxQueue prio = x :: rest) (p : QueuedPacket) :
    settled (s.update k fun c => { c with rxQueue := Function.update c.rxQueue prio rest }) p +
      (if x = some p then 1 else 0) = settled s p := by
  have htail := copies_tail hq p
  have h : settled (s.update k fun c => { c with rxQueue := Function.update c.rxQueue prio rest }) p +
      copies (s.table.conn k) p + receipts p s.history + flushes p s.history = settled s p +
        copies { s.table.conn k with rxQueue := Function.update (s.table.conn k).rxQueue prio rest }
          p + receipts p s.history + flushes p s.history := settled_update p rfl
  dsimp only at h
  omega

theorem System.Flushes.settled {stage : Nat} {next : Option Nat} (h : Flushes s k stage s' next)
    (p : QueuedPacket) : settled s' p ≤ settled s p := by
  cases h with
  | skip hlt hq => exact Nat.le_refl _
  | done hle he => exact Nat.le_refl _
  | event hle => exact settled_copies rfl rfl rfl (Nat.le_refl _)
  | null hlt rest hq => exact Nat.le.intro (settled_tail hq p)
  | drop hlt q rest hq =>
      have htail := settled_tail hq p
      simp only [Option.some.injEq] at htail
      simp only [Station.settled, observe_table, observe_history, receipts, flushes] at htail ⊢
      omega

theorem System.Closes.settled {free : Bool} {stage : CloseStage} {next : Option CloseStage}
    (h : Closes s k free stage s' next) (p : QueuedPacket) : settled s' p ≤ settled s p := by
  cases h with
  | timedOut => exact Nat.le_refl _
  | locked hfree => exact Nat.le_refl _
  | flush stage s' stage' hf => exact hf.settled p
  | check st next hn => exact settled_copies rfl rfl rfl (Nat.le_refl _)
  | set => exact settled_copies rfl rfl rfl (Nat.le_refl _)
  | flushed stage hle he =>
      refine settled_copies rfl rfl rfl (Nat.add_le_add_left ?_ _)
      dsimp only
      split
      · exact Nat.zero_le _
      · exact Nat.le_refl _

theorem tally_route {p : QueuedPacket} (hset : settled s' p ≤ settled s p)
    (hv : s'.server = s.server) (hh : s'.router.hand = none ∨ s'.router.hand = s.router.hand) :
    tally s' p ≤ tally s p := by
  unfold tally
  rw [hv]
  obtain hh | hh := hh
  · rw [hh, if_neg nofun]
    omega
  · rw [hh]
    omega

theorem tally_put {c : Conn QueuedPacket} {p q : QueuedPacket}
    (ht : s'.table.conn = Function.update s.table.conn k c) (hist : s'.history = s.history)
    (hv : s'.server = s.server)
    (hc : copies c p = copies (s.table.conn k) p + if some q = some p then 1 else 0)
    (hq : s.router.hand = some q) (hh : s'.router.hand = none) : tally s' p ≤ tally s p := by
  have h := settled_update p ht
  unfold tally
  rw [hv, hh, if_neg nofun, hq]
  rw [hist, hc] at h
  omega

theorem tally_new {p q : QueuedPacket} (hset : settled s' p = settled s p)
    (hv : s'.server = s.server) (hh : s.router.hand = none) (hq : s'.router.hand = some q) :
    tally s' p ≤ tally s p + if q = p then 1 else 0 := by
  unfold tally
  rw [hset, hv, hh, hq]
  simp only [Option.some.injEq]
  omega

theorem System.RouterStep.tally_le (h : RouterStep me s s') (p : QueuedPacket) :
    tally s' p ≤ tally s p + if p.serial = s.arrivals then s'.arrivals - s.arrivals else 0 := by
  have hkeep {k : Slot} {c : Conn QueuedPacket}
      (ht : s'.table.conn = Function.update s.table.conn k c)
      (hr : receipts p s'.history = receipts p s.history)
      (hf : flushes p s'.history = flushes p s.history)
      (hc : copies c p ≤ copies (s.table.conn k) p) (hv : s'.server = s.server)
      (hh : s'.router.hand = none ∨ s'.router.hand = s.router.hand) : tally s' p ≤ tally s p :=
    tally_route (settled_copies ht hr hf hc) hv hh
  cases h with
  | arrive id length hr =>
      have hnone : s.router.hand = none := by rw [hr]; rfl
      have hnew (q : QueuedPacket) :
          tally { s with router := .find q, arrivals := s.arrivals + 1 } p ≤
            tally s p + if q = p then 1 else 0 := tally_new rfl rfl hnone rfl
      refine (hnew _).trans (Nat.add_le_add_left ?_ _)
      by_cases hp : (⟨s.arrivals, id, length⟩ : QueuedPacket) = p
      · subst hp
        simp
      · simp [hp]
  | push q k hr hq =>
      exact Nat.le_add_right_of_le
        (tally_put rfl rfl rfl (copies_push _ _ (some q) p) (by rw [hr]; rfl) rfl)
  | rdpEnqueue q k hr =>
      exact Nat.le_add_right_of_le
        (tally_put rfl rfl rfl (copies_push _ _ (some q) p) (by rw [hr]; rfl) rfl)
  | rdpStore q k hr =>
      refine Nat.le_add_right_of_le (tally_put rfl rfl rfl ?_ (by rw [hr]; rfl) rfl)
      simp [copies, List.count_singleton, Nat.add_assoc]
  | rdpStored q k r hr hq =>
      -- the packet moves from the RDP queue to a receive queue
      have hpush := copies_push { s.table.conn k with rdpRx := (s.table.conn k).rdpRx.erase r }
        r.id.pri (some r) p
      have herase : copies { s.table.conn k with rdpRx := (s.table.conn k).rdpRx.erase r } p +
          (if some r = some p then 1 else 0) = copies (s.table.conn k) p := by
        simp only [copies, List.count_erase, Option.some.injEq, beq_iff_eq]
        by_cases hrp : r = p
        · subst hrp
          have hpos := List.count_pos_iff.mpr hq
          simp
          omega
        · simp [hrp]
      exact Nat.le_add_right_of_le
        (hkeep rfl rfl rfl (hpush.trans herase).le rfl (.inr rfl))
  | clear q k stage stage' s' hr hf =>
      exact Nat.le_add_right_of_le
        (tally_route (hf.settled p) hf.drains.server (.inr (by rw [hr]; rfl)))
  | close k stage s' next hr hc =>
      have hnone : (next.elim RouterPc.idle fun stage => .close k stage).hand = none := by
        cases next <;> rfl
      exact Nat.le_add_right_of_le (tally_route (hc.settled p) hc.drains.server (.inl hnone))
  | fill q k hr =>
      exact Nat.le_add_right_of_le
        (hkeep rfl rfl rfl (Nat.le_refl _) rfl (.inr (by rw [hr]; rfl)))
  | attach q k hr =>
      exact Nat.le_add_right_of_le
        (hkeep rfl rfl rfl (Nat.le_refl _) rfl (.inr (by rw [hr]; rfl)))
  | event q k hr => exact Nat.le_add_right_of_le (hkeep rfl rfl rfl (Nat.le_refl _) rfl (.inl rfl))
  | detach k hr => exact Nat.le_add_right_of_le (hkeep rfl rfl rfl (Nat.le_refl _) rfl (.inl rfl))
  | rdpState q k st hr =>
      exact Nat.le_add_right_of_le (hkeep rfl rfl rfl (Nat.le_refl _) rfl (.inr rfl))
  | rdpEvent q k hr =>
      exact Nat.le_add_right_of_le (hkeep rfl rfl rfl (Nat.le_refl _) rfl (.inr rfl))
  | rdpDetach q k hr =>
      exact Nat.le_add_right_of_le (hkeep rfl rfl rfl (Nat.le_refl _) rfl (.inr rfl))
  | rdpNull q k hr =>
      exact Nat.le_add_right_of_le
        (hkeep rfl rfl rfl (copies_push _ 3 none p).le rfl (.inr rfl))
  | allocate q k table hr hlock hk =>
      obtain ⟨-, hconn⟩ := allocate_conn hk
      exact Nat.le_add_right_of_le
        (hkeep hconn rfl rfl (Nat.le_refl _) rfl (.inr (by rw [hr]; rfl)))
  | giveUp hr => exact Nat.le_add_right_of_le (tally_route (Nat.le_refl _) rfl (.inl rfl))
  | timeout k hr hopen hrdp =>
      exact Nat.le_add_right_of_le (tally_route (Nat.le_refl _) rfl (.inl rfl))
  | _ =>
      refine Nat.le_add_right_of_le (tally_route (Nat.le_refl _) rfl ?_)
      simp_all [RouterPc.hand]

theorem System.ServerStep.tally_le (h : ServerStep me s s') (p : QueuedPacket) :
    tally s' p ≤ tally s p := by
  have hkeep (hset : settled s' p ≤ settled s p) (hr : s'.router = s.router)
      (hh : s'.server.hand = none) : tally s' p ≤ tally s p := by
    simp only [tally, hr, hh, reduceCtorEq, if_false]
    omega
  have hgrab {q : QueuedPacket}
      (hset : settled s' p + (if some q = some p then 1 else 0) ≤ settled s p)
      (hr : s'.router = s.router) (hh : s'.server.hand = some q) : tally s' p ≤ tally s p := by
    simp only [tally, hr, hh]
    omega
  have hgive {q : QueuedPacket}
      (hset : settled s' p ≤ settled s p + if some q = some p then 1 else 0)
      (hr : s'.router = s.router) (hq : s.server.hand = some q) (hh : s'.server.hand = none) :
      tally s' p ≤ tally s p := by
    simp only [tally, hr, hq, hh, reduceCtorEq, if_false]
    omega
  cases h with
  | take k q prio rest hr hq => exact hgrab (settled_tail hq p).le rfl rfl
  | receive k q hr hport =>
      refine hgive (Nat.le_of_eq ?_) rfl (by rw [hr]; rfl) rfl
      simp only [settled, observe_table, observe_history, receipts, flushes, Option.some.injEq]
      omega
  | toTake k hr => exact hkeep (settled_copies rfl rfl rfl (Nat.le_refl _)) rfl rfl
  | takeNull k prio rest hr hq =>
      exact hkeep (Nat.le.intro (settled_tail hq p)) rfl rfl
  | allocate k j table hr hlock hj =>
      obtain ⟨-, hconn⟩ := allocate_conn hj
      exact hkeep (settled_copies hconn rfl rfl (Nat.le_refl _)) rfl rfl
  | replyFill k j sport hr hs => exact hkeep (settled_copies rfl rfl rfl (Nat.le_refl _)) rfl rfl
  | replyClear k j stage stage' s' hr hf => exact hkeep (hf.settled p) hf.drains.router rfl
  | close k inLoop stage s' next hr hc =>
      have hnone : (next.elim (if inLoop then .read k else .accept) fun stage =>
          ServerPc.close k inLoop stage).hand = none := by
        cases next with
        | none => cases inLoop <;> rfl
        | some stage => rfl
      have hset (o : Obs) (ho : settled (s'.observe o) p = settled s' p) {c : Prop} [Decidable c] :
          settled (if c then s'.observe o else s') p ≤ settled s p := by
        split
        · exact ho ▸ hc.settled p
        · exact hc.settled p
      have hrouter (o : Obs) {c : Prop} [Decidable c] :
          (if c then s'.observe o else s').router = s.router := by
        split <;> exact hc.drains.router
      exact hkeep (hset _ rfl) (hrouter _) hnone
  | _ => exact hkeep (Nat.le_refl _) rfl rfl

theorem System.Flushes.arrivals {stage : Nat} {next : Option Nat} (h : Flushes s k stage s' next) :
    s'.arrivals = s.arrivals := by
  cases h <;> rfl

theorem System.Closes.arrivals {free : Bool} {stage : CloseStage} {next : Option CloseStage}
    (h : Closes s k free stage s' next) : s'.arrivals = s.arrivals := by
  cases h with
  | flush stage s' stage' hf => exact hf.arrivals
  | _ => rfl

theorem System.RouterStep.arrivals (h : RouterStep me s s') :
    s'.arrivals = s.arrivals ∨ s'.arrivals = s.arrivals + 1 := by
  cases h with
  | arrive id length hr => exact .inr rfl
  | forward hr => exact .inr rfl
  | clear p k stage stage' s' hr hf => exact .inl hf.arrivals
  | close k stage s' next hr hc => exact .inl hc.arrivals
  | _ => exact .inl rfl

theorem System.ServerStep.arrivals (h : ServerStep me s s') : s'.arrivals = s.arrivals := by
  cases h with
  | replyClear k j stage stage' s' hr hf => exact hf.arrivals
  | close k inLoop stage s' next hr hc =>
      have ha := hc.arrivals
      split <;> exact ha
  | _ => rfl

end

/-- Packets that have not come yet are nowhere, and no packet is in two places. -/
structure Tallied (s : System) : Prop where
  once : ∀ p, tally s p ≤ 1
  fresh : ∀ p, s.arrivals ≤ p.serial → tally s p = 0

theorem Tallied.route {me : Fin 32} {s s' : System} (h : Tallied s) (hstep : RouterStep me s s') :
    Tallied s' := by
  have harrivals := hstep.arrivals
  constructor
  · intro p
    have htally := hstep.tally_le p
    split at htally
    · rename_i hp
      -- the number of the packet that comes in was not in use
      have hzero := h.fresh p hp.ge
      omega
    · exact htally.trans (h.once p)
  · intro p hp
    have htally := hstep.tally_le p
    have hzero := h.fresh p (by omega)
    split at htally
    · omega
    · omega

theorem Tallied.serve {me : Fin 32} {s s' : System} (h : Tallied s) (hstep : ServerStep me s s') :
    Tallied s' := by
  constructor
  · intro p
    exact (hstep.tally_le p).trans (h.once p)
  · intro p hp
    rw [hstep.arrivals] at hp
    exact Nat.le_zero.mp ((hstep.tally_le p).trans (h.fresh p hp).le)

theorem tallied_start : Tallied start := by
  have hzero (p : QueuedPacket) : tally start p = 0 := by
    have hcopies (k : Slot) : copies (start.table.conn k) p = 0 := by
      simp [copies, countAll, start_empty k]
    have hsum : ∑ k, copies (start.table.conn k) p = 0 :=
      Finset.sum_eq_zero fun k _ => hcopies k
    unfold tally settled
    rw [hsum]
    rfl
  exact ⟨fun p => (hzero p).le.trans (Nat.zero_le 1), fun p _ => hzero p⟩

end UhfGs.Station
