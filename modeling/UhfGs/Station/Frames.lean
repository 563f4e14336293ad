import UhfGs.Station.Steps

/-! What a step of the router or of `task_server` leaves alone. -/
namespace UhfGs.Station
open Bytes Csp Csp.ConnTable UhfGs.Station.System

def Holds (c : Conn QueuedPacket) (p : QueuedPacket) : Prop :=
  (∃ prio, some p ∈ c.rxQueue prio) ∨ p ∈ c.rdpRx

/-- The receive queues before the given stage of a flush are empty. -/
def Cleared (c : Conn QueuedPacket) (stage : Nat) : Prop :=
  ∀ prio : Fin 4, prio < stage → c.rxQueue prio = []

theorem holds_update {c : Conn QueuedPacket} {prio : Fin 4} {q : List (Option QueuedPacket)}
    {p : QueuedPacket} (h : Holds { c with rxQueue := Function.update c.rxQueue prio q } p) :
    Holds c p ∨ some p ∈ q := by
  obtain ⟨prio', hp⟩ | hp := h
  · by_cases he : prio' = prio
    · subst he
      exact .inr (by simpa using hp)
    · exact .inl (.inl ⟨prio', by simpa [Function.update_of_ne he] using hp⟩)
  · exact .inl (.inr hp)

theorem holds_tail {c : Conn QueuedPacket} {prio : Fin 4} {x : Option QueuedPacket}
    {rest : List (Option QueuedPacket)} {p : QueuedPacket} (hq : c.rxQueue prio = x :: rest)
    (h : Holds { c with rxQueue := Function.update c.rxQueue prio rest } p) : Holds c p := by
  obtain h | h := holds_update h
  · exact h
  · exact .inl ⟨prio, hq ▸ List.mem_cons_of_mem x h⟩

theorem holds_push {c : Conn QueuedPacket} {prio : Fin 4} {x : Option QueuedPacket}
    {p : QueuedPacket}
    (h : Holds { c with rxQueue := Function.update c.rxQueue prio (c.rxQueue prio ++ [x]) } p) :
    Holds c p ∨ some p = x := by
  obtain h | h := holds_update h
  · exact .inl h
  · obtain h | h := List.mem_append.mp h
    · exact .inl (.inl ⟨prio, h⟩)
    · exact .inr (List.mem_singleton.mp h)

/-- A step that changes one connection, and there takes packets out at most. -/
structure Drains (s s' : System) (k : Slot) : Prop where
  frame : ∀ j, j ≠ k → s'.table.conn j = s.table.conn j
  idin : (s'.table.conn k).idin = (s.table.conn k).idin
  holds : ∀ p, Holds (s'.table.conn k) p → Holds (s.table.conn k) p
  history : s'.history = s.history ∨ ∃ p, s'.history = .flushed k p :: s.history
  router : s'.router = s.router
  server : s'.server = s.server
  backlog : s'.backlog = s.backlog

section
variable {s s' : System} {k : Slot}

theorem Drains.same (s : System) (k : Slot) : Drains s s k :=
  ⟨fun _ _ => rfl, rfl, fun _ h => h, .inl rfl, rfl, rfl, rfl⟩

theorem Drains.update {c : Conn QueuedPacket}
    (ht : s'.table.conn = Function.update s.table.conn k c)
    (hidin : c.idin = (s.table.conn k).idin)
    (hh : ∀ p, Holds c p → Holds (s.table.conn k) p)
    (hist : s'.history = s.history ∨ ∃ p, s'.history = .flushed k p :: s.history)
    (hr : s'.router = s.router) (hs : s'.server = s.server) (hb : s'.backlog = s.backlog) :
    Drains s s' k := by
  have hk : s'.table.conn k = c := by rw [ht, Function.update_self]
  exact ⟨fun j hj => by rw [ht, Function.update_of_ne hj], hk ▸ hidin, hk ▸ hh, hist, hr, hs, hb⟩

theorem System.Flushes.drains {stage : Nat} {next : Option Nat} (h : Flushes s k stage s' next) :
    Drains s s' k := by
  cases h with
  | skip hlt hq => exact .same s k
  | done hle he => exact .same s k
  | null hlt rest hq => exact .update rfl rfl (fun p => holds_tail hq) (.inl rfl) rfl rfl rfl
  | drop hlt q rest hq => exact .update rfl rfl (fun p => holds_tail hq) (.inr ⟨q, rfl⟩) rfl rfl rfl
  | event hle => exact .update rfl rfl (fun p h => h) (.inl rfl) rfl rfl rfl

theorem System.Closes.drains {free : Bool} {stage : CloseStage} {next : Option CloseStage}
    (h : Closes s k free stage s' next) : Drains s s' k := by
  cases h with
  | timedOut => exact .same s k
  | locked hfree => exact .same s k
  | flush stage s' stage' hf => exact hf.drains
  | check st next hn => exact .update rfl rfl (fun p h => h) (.inl rfl) rfl rfl rfl
  | set => exact .update rfl rfl (fun p h => h) (.inl rfl) rfl rfl rfl
  | flushed stage hle he =>
      refine .update rfl rfl (fun p h => ?_) (.inl rfl) rfl rfl rfl
      obtain h | h := h
      · exact .inl h
      · refine .inr ?_
        by_cases hf : (s.table.conn k).idin.flags &&& frdp ≠ 0
        · simp [hf] at h
        · simpa [hf] using h

theorem System.Flushes.cleared {stage stage' : Nat} (h : Flushes s k stage s' (some stage'))
    (hc : Cleared (s.table.conn k) stage) : Cleared (s'.table.conn k) stage' := by
  cases h with
  | skip hlt hq =>
      intro prio hprio
      obtain hlt' | heq := Nat.lt_succ_iff_lt_or_eq.mp hprio
      · exact hc prio hlt'
      · have hp : prio = ⟨stage, hlt⟩ := Fin.ext heq
        rw [hp, hq]
  | null hlt rest hq =>
      intro prio hprio
      have hne : prio ≠ ⟨stage, hlt⟩ := fun he => absurd hprio (by simp [he])
      simpa [Function.update_of_ne hne] using hc prio hprio
  | drop hlt q rest hq =>
      intro prio hprio
      have hne : prio ≠ ⟨stage, hlt⟩ := fun he => absurd hprio (by simp [he])
      simpa [Function.update_of_ne hne] using hc prio hprio
  | event hle =>
      intro prio hprio
      simpa using hc prio hprio

theorem Cleared.all {c : Conn QueuedPacket} {stage : Nat} (h : Cleared c stage) (hle : 4 ≤ stage)
    (prio : Fin 4) : c.rxQueue prio = [] := h prio (Nat.lt_of_lt_of_le prio.isLt hle)

end

theorem start_empty (k : Slot) :
    (∀ prio, (start.table.conn k).rxQueue prio = []) ∧ (start.table.conn k).rdpRx = [] := by
  revert k
  decide

def allocated (c : Conn QueuedPacket) : Conn QueuedPacket :=
  { c with state := .opened, socket := false, type := .client }

theorem allocate_conn {t t' : ConnTable QueuedPacket} {k : Slot}
    (h : t.allocate .client = some (k, t')) :
    (t.conn k).state = .closed ∧ t'.conn = Function.update t.conn k (allocated (t.conn k)) := by
  obtain ⟨hc, rfl⟩ := allocate_some h
  exact ⟨hc, rfl⟩

/-- A connection that a step does not touch, except perhaps for its allocation. -/
def Untouched (c c' : Conn QueuedPacket) : Prop :=
  c' = c ∨ c.state = .closed ∧ c' = allocated c

theorem Untouched.idin {c c' : Conn QueuedPacket} (h : Untouched c c') : c'.idin = c.idin := by
  obtain rfl | ⟨-, rfl⟩ := h <;> rfl

theorem Untouched.rxQueue {c c' : Conn QueuedPacket} (h : Untouched c c') :
    c'.rxQueue = c.rxQueue := by
  obtain rfl | ⟨-, rfl⟩ := h <;> rfl

theorem Untouched.eq_of_opened {c c' : Conn QueuedPacket} (h : Untouched c c')
    (ho : c.state = .opened) : c' = c := by
  obtain rfl | ⟨hclosed, -⟩ := h
  · rfl
  · rw [ho] at hclosed
    cases hclosed

theorem Untouched.holds {c c' : Conn QueuedPacket} (h : Untouched c c') {p : QueuedPacket}
    (hp : Holds c' p) : Holds c p := by
  obtain rfl | ⟨-, rfl⟩ := h <;> exact hp

section
variable {me : Fin 32} {s s' : System}

theorem untouched_update {k j : Slot} {c : Conn QueuedPacket} {o : Option Slot} (ho : o = some k)
    (ht : s'.table.conn = Function.update s.table.conn k c) (hj : o ≠ some j) :
    Untouched (s.table.conn j) (s'.table.conn j) := by
  have hne : j ≠ k := fun he => hj (he ▸ ho)
  exact .inl (by rw [ht, Function.update_of_ne hne])

theorem untouched_drains {k j : Slot} {o : Option Slot} (ho : o = some k) (h : Drains s s' k)
    (hj : o ≠ some j) : Untouched (s.table.conn j) (s'.table.conn j) :=
  .inl (h.frame j fun he => hj (he ▸ ho))

theorem untouched_allocate {t table : ConnTable QueuedPacket} {k : Slot}
    (h : t.allocate .client = some (k, table)) (j : Slot) :
    Untouched (t.conn j) (table.conn j) := by
  obtain ⟨hc, hconn⟩ := allocate_conn h
  rw [hconn]
  by_cases hj : j = k
  · subst j
    exact .inr ⟨hc, by rw [Function.update_self]⟩
  · exact .inl (by rw [Function.update_of_ne hj])

theorem System.RouterStep.frame (h : RouterStep me s s') {j : Slot} (hp : s.router.pointer ≠ some j)
    (hs : s.router.setup ≠ some j) : Untouched (s.table.conn j) (s'.table.conn j) := by
  cases h with
  | allocate p k table hr hlock hk => exact untouched_allocate hk j
  | fill p k hr => exact untouched_update (by rw [hr]; rfl) rfl hs
  | clear p k stage stage' s' hr hf =>
      have hu := untouched_drains (by rw [hr]; rfl) hf.drains hs
      exact hu
  | close k stage s' next hr hc =>
      have hu := untouched_drains (by rw [hr]; rfl) hc.drains hp
      exact hu
  | attach p k hr => exact untouched_update (by rw [hr]; rfl) rfl hp
  | push p k hr hov => exact untouched_update (by rw [hr]; rfl) rfl hp
  | event p k hr => exact untouched_update (by rw [hr]; rfl) rfl hp
  | detach k hr => exact untouched_update (by rw [hr]; rfl) rfl hp
  | rdpState p k st hr => exact untouched_update (by rw [hr]; rfl) rfl hp
  | rdpStore p k hr => exact untouched_update (by rw [hr]; rfl) rfl hp
  | rdpNull p k hr => exact untouched_update (by rw [hr]; rfl) rfl hp
  | rdpEnqueue p k hr => exact untouched_update (by rw [hr]; rfl) rfl hp
  | rdpStored p k q hr hq => exact untouched_update (by rw [hr]; rfl) rfl hp
  | rdpEvent p k hr => exact untouched_update (by rw [hr]; rfl) rfl hp
  | rdpDetach p k hr => exact untouched_update (by rw [hr]; rfl) rfl hp
  | _ => exact .inl rfl

theorem System.ServerStep.frame (h : ServerStep me s s') {j : Slot} (hp : s.server.pointer ≠ some j)
    (hs : s.server.setup ≠ some j) : Untouched (s.table.conn j) (s'.table.conn j) := by
  cases h with
  | allocate k i table hr hlock hk => exact untouched_allocate hk j
  | toTake k hr => exact untouched_update (by rw [hr]; rfl) rfl hp
  | takeNull k prio rest hr hq => exact untouched_update (by rw [hr]; rfl) rfl hp
  | take k p prio rest hr hq => exact untouched_update (by rw [hr]; rfl) rfl hp
  | replyFill k i sport hr hsp => exact untouched_update (by rw [hr]; rfl) rfl hs
  | replyClear k i stage stage' s' hr hf =>
      have hu := untouched_drains (by rw [hr]; rfl) hf.drains hs
      exact hu
  | close k inLoop stage s' next hr hc =>
      have hu := untouched_drains (by rw [hr]; rfl) hc.drains hp
      split <;> exact hu
  | _ => exact .inl rfl

theorem System.RouterStep.observes (h : RouterStep me s s') :
    s'.history = s.history ∨ (∃ k id, s'.history = .created k id :: s.history) ∨
      (∃ k p, s'.history = .flushed k p :: s.history) ∨
        ∃ p k, s.router = .post p k ∧ s'.history = .delivered k p :: s.history := by
  cases h with
  | fill p k hr => exact .inr (.inl ⟨k, p.id, rfl⟩)
  | clear p k stage stage' s' hr hf =>
      exact hf.drains.history.imp_right fun ⟨q, hq⟩ => .inr (.inl ⟨k, q, hq⟩)
  | close k stage s' next hr hc =>
      exact hc.drains.history.imp_right fun ⟨q, hq⟩ => .inr (.inl ⟨k, q, hq⟩)
  | posted p k hr hsock => exact .inr (.inr (.inr ⟨p, k, hr, rfl⟩))
  | post p k hr hroom => exact .inr (.inr (.inr ⟨p, k, hr, rfl⟩))
  | _ => exact .inl rfl

theorem System.RouterStep.backlog (h : RouterStep me s s') :
    s'.backlog = s.backlog ∨ ∃ k, s'.backlog = s.backlog ++ [k] := by
  cases h with
  | clear p k stage stage' s' hr hf => exact .inl hf.drains.backlog
  | close k stage s' next hr hc => exact .inl hc.drains.backlog
  | post p k hr hroom => exact .inr ⟨k, rfl⟩
  | rdpPost p k hr hroom => exact .inr ⟨k, rfl⟩
  | _ => exact .inl rfl

/-- How the router comes to a connection: it takes a closed one, finds one, or there is a timeout. -/
theorem System.RouterStep.comes_to (h : RouterStep me s s') {k : Slot}
    (hk : s'.router.setup = some k ∨ s'.router.pointer = some k) :
    (s.router.setup = some k ∨ s.router.pointer = some k) ∨ (s.table.conn k).state = .closed ∨
      (∃ p, s'.router = .deliver p k ∧
        s.table.cspConnFind (p.id.ext .little) connMask = some k) ∨
        (s.router = .idle ∧ (s.table.conn k).idin.flags &&& frdp ≠ 0) := by
  cases h with
  | allocate p j table hr hlock hj =>
      obtain rfl : j = k := by simpa [RouterPc.setup, RouterPc.pointer] using hk
      exact .inr (.inl (allocate_conn hj).1)
  | find p j hr hj =>
      obtain rfl : j = k := by simpa [RouterPc.setup, RouterPc.pointer] using hk
      exact .inr (.inr (.inl ⟨p, rfl, hj⟩))
  | timeout j hr hopen hrdp =>
      obtain rfl : j = k := by simpa [RouterPc.setup, RouterPc.pointer] using hk
      exact .inr (.inr (.inr ⟨hr, hrdp⟩))
  | close j stage s' next hr hc =>
      cases next with
      | none => simp [RouterPc.setup, RouterPc.pointer] at hk
      | some stage => exact .inl (by simpa [hr, RouterPc.setup, RouterPc.pointer] using hk)
  | rdpState p j st hr => exact .inl hk
  | rdpNull p j hr => exact .inl hk
  | rdpStored p j q hr hq => exact .inl hk
  | rdpEvent p j hr => exact .inl hk
  | rdpPost p j hr hroom => exact .inl hk
  | rdpDetach p j hr => exact .inl hk
  | forward hr => exact .inl hk
  | _ => exact .inl (by simp_all [RouterPc.setup, RouterPc.pointer])

theorem System.ServerStep.observes (h : ServerStep me s s') :
    s'.history = s.history ∨
      ∃ o, (∀ k p, o ≠ .delivered k p) ∧ s'.history = o :: s.history := by
  have hdrains {j : Slot} {t : System} (hd : Drains s t j) : t.history = s.history ∨
      ∃ o, (∀ k p, o ≠ .delivered k p) ∧ t.history = o :: s.history :=
    hd.history.imp_right fun ⟨q, hq⟩ => ⟨.flushed j q, by simp, hq⟩
  cases h with
  | accept j backlog hr hb => exact .inr ⟨_, by simp, rfl⟩
  | take j q prio rest hr hq => exact .inr ⟨_, by simp, rfl⟩
  | receive j q hr hport => exact .inr ⟨_, by simp, rfl⟩
  | replyFill i j sport hr hsp => exact .inr ⟨_, by simp, rfl⟩
  | replyClear i j stage stage' s' hr hf =>
      have hd := hdrains hf.drains
      exact hd
  | close j inLoop stage s' next hr hc =>
      split
      · rename_i hset
        obtain rfl := hset.1
        cases hc with
        | set => exact .inr ⟨_, by simp, rfl⟩
      · have hd := hdrains hc.drains
        exact hd
  | _ => exact .inl rfl

theorem System.ServerStep.sets_up (h : ServerStep me s s') {k : Slot}
    (hk : s'.server.setup = some k) :
    s.server.setup = some k ∨ (s.table.conn k).state = .closed := by
  cases h with
  | allocate i j table hr hlock hj =>
      obtain rfl : j = k := Option.some.inj hk
      exact .inr (allocate_conn hj).1
  | close j inLoop stage s' next hr hc =>
      cases next with
      | none => cases inLoop <;> cases hk
      | some stage => cases hk
  | replyFill i j sport hr hsp =>
      rw [hr]
      exact .inl hk
  | replyClear i j stage stage' s' hr hf =>
      rw [hr]
      exact .inl hk
  | _ => cases hk

end
end UhfGs.Station
