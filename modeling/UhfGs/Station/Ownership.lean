import UhfGs.Station.Frames

/-! Whose packets `task_server` reads, and whose connections it closes. -/
namespace UhfGs.Station
open Bytes Csp Csp.ConnTable Runs UhfGs.Station.System

/-- The latest return of `csp_accept`, with the identifier that the connection had. -/
def lastAccepted : List Obs → Option (Slot × CspId)
  | [] => none
  | .accepted k id :: _ => some (k, id)
  | _ :: past => lastAccepted past

theorem Drains.lastAccepted {s s' : System} {k : Slot} (h : Drains s s' k) :
    Station.lastAccepted s'.history = Station.lastAccepted s.history := by
  obtain heq | ⟨p, heq⟩ := h.history
  · rw [heq]
  · rw [heq]
    rfl

/-- A packet that `csp_read` returns, and a connection that `csp_close` takes from open to closed,
belong to the flow of the latest accepted connection. -/
def Owned (o : Obs) (past : List Obs) : Prop :=
  match o with
  | .taken k p => ∃ id, lastAccepted past = some (k, id) ∧ p.id.flow = id.flow
  | .closed k idin => ∃ id, lastAccepted past = some (k, id) ∧ idin.flow = id.flow
  | _ => True

/-- `csp_conn_new` does not set up a slot that `task_server` or the router still points to, and
finds the RDP queue of the slot empty. -/
def NoReuse (s : System) : Prop :=
  (∀ k, s.router.setup = some k →
    s.server.pointer ≠ some k ∧ s.server.setup ≠ some k ∧ (s.table.conn k).rdpRx = []) ∧
  ∀ k, s.server.setup = some k →
    s.server.pointer ≠ some k ∧ s.router.pointer ≠ some k ∧ (s.table.conn k).rdpRx = []

instance : DecidablePred NoReuse := fun _ => inferInstanceAs (Decidable (_ ∧ _))

/-- The packet in the router's hands, and the connection it has found or made for it. -/
def RouterPc.carries : RouterPc → Option (QueuedPacket × Slot)
  | .clear p k _ | .attach p k | .deliver p k | .event p k | .post p k | .rdp (some p) k =>
      some (p, k)
  | _ => none

/-- Packets and pointers belong to the flow of the connection they are at. -/
structure Owning (s : System) : Prop where
  queues : ∀ k, s.router.setup ≠ some k → s.server.setup ≠ some k →
    ∀ p, Holds (s.table.conn k) p → p.id.flow = (s.table.conn k).idin.flow
  routerClear : ∀ p k n, s.router = .clear p k n → Cleared (s.table.conn k) n
  serverClear : ∀ k j n, s.server = .replyClear k j n → Cleared (s.table.conn j) n
  carried : ∀ p k, s.router.carries = some (p, k) → p.id.flow = (s.table.conn k).idin.flow
  accepted : ∀ k, s.server.pointer = some k →
    ∃ id, lastAccepted s.history = some (k, id) ∧ id.flow = (s.table.conn k).idin.flow
  history : Throughout Owned s.history

theorem setup_of_pointer {r : RouterPc} {k j : Slot} (h : r.pointer = some k) :
    r.setup ≠ some j := by
  cases r <;> simp_all [RouterPc.pointer, RouterPc.setup]

theorem carries_at {r : RouterPc} {p : QueuedPacket} {k : Slot} (h : r.carries = some (p, k)) :
    r.setup = some k ∨ r.pointer = some k := by
  have hk {q : QueuedPacket} {j : Slot} (heq : some (q, j) = some (p, k)) : some j = some k := by
    rw [(Prod.mk.inj (Option.some.inj heq)).2]
  cases r with
  | clear q j stage => exact .inl (hk h)
  | attach q j => exact .inr (hk h)
  | deliver q j => exact .inr (hk h)
  | event q j => exact .inr (hk h)
  | post q j => exact .inr (hk h)
  | rdp q j =>
      cases q with
      | none => cases h
      | some q => exact .inr (hk h)
  | _ => cases h

section router
variable {me : Fin 32} {s s' : System}

theorem System.RouterStep.server_eq (h : RouterStep me s s') : s'.server = s.server := by
  cases h with
  | clear p k stage stage' s' hr hf => exact hf.drains.server
  | close k stage s' next hr hc => exact hc.drains.server
  | _ => rfl

theorem System.RouterStep.history (h : RouterStep me s s') (ho : Throughout Owned s.history) :
    lastAccepted s'.history = lastAccepted s.history ∧ Throughout Owned s'.history := by
  obtain heq | ⟨k, id, heq⟩ | ⟨k, p, heq⟩ | ⟨p, k, -, heq⟩ := h.observes
  · rw [heq]
    exact ⟨rfl, ho⟩
  all_goals
    rw [heq]
    exact ⟨rfl, trivial, ho⟩

theorem System.RouterStep.pointer_spec (h : RouterStep me s s') {k : Slot}
    (hp : s.router.pointer = some k) :
    (s'.table.conn k).idin = (s.table.conn k).idin ∧
      ∀ p, Holds (s'.table.conn k) p → Holds (s.table.conn k) p ∨ s.router.carries = some (p, k) := by
  have hupdate {j : Slot} {c : Conn QueuedPacket}
      (ht : s'.table.conn = Function.update s.table.conn j c) (hj : s.router.pointer = some j)
      (hidin : c.idin = (s.table.conn j).idin)
      (hh : ∀ p, Holds c p → Holds (s.table.conn j) p ∨ s.router.carries = some (p, j)) :
      (s'.table.conn k).idin = (s.table.conn k).idin ∧
        ∀ p, Holds (s'.table.conn k) p →
          Holds (s.table.conn k) p ∨ s.router.carries = some (p, k) := by
    obtain rfl : j = k := Option.some.inj (hj.symm.trans hp)
    rw [ht, Function.update_self]
    exact ⟨hidin, hh⟩
  cases h with
  | allocate p j table hr hlock hk =>
      rw [hr] at hp
      cases hp
  | fill p j hr =>
      rw [hr] at hp
      cases hp
  | clear p j stage stage' s' hr hf =>
      rw [hr] at hp
      cases hp
  | close j stage s' next hr hc =>
      rw [hr] at hp
      obtain rfl : j = k := Option.some.inj hp
      exact ⟨hc.drains.idin, fun p h => .inl (hc.drains.holds p h)⟩
  | attach p j hr => exact hupdate rfl (by rw [hr]; rfl) rfl fun p h => .inl h
  | event p j hr => exact hupdate rfl (by rw [hr]; rfl) rfl fun p h => .inl h
  | detach j hr => exact hupdate rfl (by rw [hr]; rfl) rfl fun p h => .inl h
  | rdpState p j st hr => exact hupdate rfl (by rw [hr]; rfl) rfl fun p h => .inl h
  | rdpEvent p j hr => exact hupdate rfl (by rw [hr]; rfl) rfl fun p h => .inl h
  | rdpDetach p j hr => exact hupdate rfl (by rw [hr]; rfl) rfl fun p h => .inl h
  | push q j hr hov =>
      refine hupdate rfl (by rw [hr]; rfl) rfl fun p h => (holds_push h).imp_right fun heq => ?_
      rw [hr, Option.some.inj heq]
      rfl
  | rdpEnqueue q j hr =>
      refine hupdate rfl (by rw [hr]; rfl) rfl fun p h => (holds_push h).imp_right fun heq => ?_
      rw [hr, Option.some.inj heq]
      rfl
  | rdpNull q j hr =>
      refine hupdate rfl (by rw [hr]; rfl) rfl fun p h => (holds_push h).imp_right fun heq => ?_
      cases heq
  | rdpStore q j hr =>
      refine hupdate rfl (by rw [hr]; rfl) rfl fun p h => ?_
      obtain h | h := h
      · exact .inl (.inl h)
      · obtain h | h := List.mem_append.mp h
        · exact .inl (.inr h)
        · rw [List.mem_singleton.mp h, hr]
          exact .inr rfl
  | rdpStored q j r hr hq =>
      refine hupdate rfl (by rw [hr]; rfl) rfl fun p h => .inl ?_
      obtain h | heq :=
        holds_push (c := { s.table.conn j with rdpRx := (s.table.conn j).rdpRx.erase r }) h
      · exact h.imp_right List.mem_of_mem_erase
      · rw [Option.some.inj heq]
        exact .inr hq
  | _ => exact ⟨rfl, fun p h => .inl h⟩

theorem System.RouterStep.idin_clear (h : RouterStep me s s') {p : QueuedPacket} {k : Slot}
    {n : Nat} (hr : s.router = .clear p k n) :
    (s'.table.conn k).idin = (s.table.conn k).idin := by
  cases h with
  | clear q j stage stage' s' hr' hf =>
      cases hr'.symm.trans hr
      exact hf.drains.idin
  | close j stage s' next hr' hc => cases hr'.symm.trans hr
  | _ => first | rfl | simp_all

theorem System.RouterStep.idin (h : RouterStep me s s') {j : Slot}
    (hs : s.router.setup ≠ some j) : (s'.table.conn j).idin = (s.table.conn j).idin := by
  by_cases hp : s.router.pointer = some j
  · exact (h.pointer_spec hp).1
  · exact (h.frame hp hs).idin

theorem System.RouterStep.setup_spec (h : RouterStep me s s') {k : Slot}
    (hs : s.router.setup = some k) :
    s'.router.setup = some k ∨
      ∃ p stage, s.router = .clear p k stage ∧ 4 ≤ stage ∧ s'.table = s.table := by
  cases h with
  | fill p j hr =>
      rw [hr] at hs
      exact .inl hs
  | clear p j stage stage' s' hr hf =>
      rw [hr] at hs
      exact .inl hs
  | cleared p j stage hr hle he =>
      rw [hr] at hs
      obtain rfl : j = k := Option.some.inj hs
      exact .inr ⟨p, stage, hr, hle, rfl⟩
  | close j stage s' next hr hc =>
      rw [hr] at hs
      cases hs
  | _ => simp_all [RouterPc.setup]

/-- Where the router gets with a packet: it had the packet there, or has found its connection, or
has just written its identifier. -/
theorem System.RouterStep.carries_spec (h : RouterStep me s s') {p : QueuedPacket} {k : Slot}
    (hc : s'.router.carries = some (p, k)) :
    s.router.carries = some (p, k) ∨
      (s.table.cspConnFind (p.id.ext .little) connMask = some k ∧ s'.table = s.table) ∨
      (s'.table.conn k).idin = p.id := by
  cases h with
  | find q j hr hk =>
      obtain ⟨rfl, rfl⟩ := Prod.mk.inj (Option.some.inj hc)
      exact .inr (.inl ⟨hk, rfl⟩)
  | fill q j hr =>
      obtain ⟨rfl, rfl⟩ := Prod.mk.inj (Option.some.inj hc)
      exact .inr (.inr (by simp))
  | clear q j stage stage' s' hr hf =>
      rw [hr]
      exact .inl hc
  | close j stage s' next hr hcl =>
      cases next with
      | none => cases hc
      | some stage => cases hc
  | cleared q j stage hr hle he =>
      rw [hr]
      exact .inl hc
  | attach q j hr =>
      rw [hr]
      exact .inl hc
  | toRdp q j hr hov =>
      rw [hr]
      exact .inl hc
  | push q j hr hov =>
      rw [hr]
      exact .inl hc
  | event q j hr =>
      rw [hr]
      exact .inl hc
  | rdpState q j st hr => exact .inl hc
  | rdpNull q j hr => exact .inl hc
  | rdpStored q j r hr hq => exact .inl hc
  | rdpEvent q j hr => exact .inl hc
  | rdpPost q j hr hroom => exact .inl hc
  | rdpDetach q j hr => exact .inl hc
  | forward hr => exact .inl hc
  | _ => cases hc

theorem System.RouterStep.keeps_cleared (h : RouterStep me s s')
    (hclear : ∀ p k n, s.router = .clear p k n → Cleared (s.table.conn k) n) {p : QueuedPacket}
    {k : Slot} {n : Nat} (hr' : s'.router = .clear p k n) : Cleared (s'.table.conn k) n := by
  cases h with
  | fill q j hr =>
      cases hr'
      exact fun prio hprio => absurd hprio (Nat.not_lt_zero _)
  | clear q j stage stage' s' hr hf =>
      cases hr'
      exact hf.cleared (hclear _ _ stage hr)
  | close j stage s' next hr hcl =>
      cases next with
      | none => cases hr'
      | some stage => cases hr'
  | forward hr => exact hclear p k n hr'
  | rdpState q j st hr => cases hr.symm.trans hr'
  | rdpNull q j hr => cases hr.symm.trans hr'
  | rdpStored q j r hr hq => cases hr.symm.trans hr'
  | rdpEvent q j hr => cases hr.symm.trans hr'
  | rdpPost q j hr hroom => cases hr.symm.trans hr'
  | rdpDetach q j hr => cases hr.symm.trans hr'
  | _ => cases hr'

theorem Owning.route (h : Owning s) (hno : NoReuse s) (hstep : RouterStep me s s') : Owning s' := by
  obtain ⟨hrouter, hserver⟩ := hno
  have hsetup {j : Slot} (hj : s.server.setup = some j) :
      s.router.pointer ≠ some j ∧ s.router.setup ≠ some j :=
    ⟨(hserver j hj).2.1, fun hr => (hrouter j hr).2.1 hj⟩
  have hpointer {j : Slot} (hj : s.server.pointer = some j) : s.router.setup ≠ some j :=
    fun hr => (hrouter j hr).1 hj
  obtain ⟨hlast, hhist⟩ := hstep.history h.history
  constructor
  · intro k hr hs p hp
    rw [hstep.server_eq] at hs
    by_cases hptr : s.router.pointer = some k
    · obtain ⟨hidin, hin⟩ := hstep.pointer_spec hptr
      rw [hidin]
      obtain hold | hcar := hin p hp
      · exact h.queues k (setup_of_pointer hptr) hs p hold
      · exact h.carried p k hcar
    · by_cases hset : s.router.setup = some k
      · obtain hset' | ⟨q, stage, hq, hle, htable⟩ := hstep.setup_spec hset
        · exact absurd hset' hr
        · rw [htable] at hp
          obtain ⟨prio, hp⟩ | hp := hp
          · rw [(h.routerClear q k stage hq).all hle prio] at hp
            cases hp
          · rw [(hrouter k hset).2.2] at hp
            cases hp
      · have hframe := hstep.frame hptr hset
        rw [hframe.idin]
        exact h.queues k hset hs p (hframe.holds hp)
  · intro p k n hr'
    exact hstep.keeps_cleared h.routerClear hr'
  · intro k j n hs'
    rw [hstep.server_eq] at hs'
    have hj : s.server.setup = some j := by rw [hs']; rfl
    have hframe := hstep.frame (hsetup hj).1 (hsetup hj).2
    intro prio hprio
    rw [hframe.rxQueue]
    exact h.serverClear k j n hs' prio hprio
  · intro p k hc
    obtain hold | ⟨hfind, htable⟩ | hidin := hstep.carries_spec hc
    · have hidin : (s'.table.conn k).idin = (s.table.conn k).idin := by
        cases hr : s.router with
        | clear q j n =>
            obtain rfl : j = k := (Prod.mk.inj (Option.some.inj (hr ▸ hold))).2
            exact hstep.idin_clear hr
        | fill q j =>
            rw [hr] at hold
            cases hold
        | _ => exact hstep.idin (by rw [hr]; nofun)
      rw [hidin]
      exact h.carried p k hold
    · rw [htable]
      exact ((ext_connMask_eq_iff .little _ _).mp (cspConnFind_some hfind).2.2).symm
    · rw [hidin]
  · intro k hk
    rw [hstep.server_eq] at hk
    rw [hlast, hstep.idin (hpointer hk)]
    exact h.accepted k hk
  · exact hhist

end router

section server
variable {me : Fin 32} {s s' : System}

theorem System.ServerStep.router_eq (h : ServerStep me s s') : s'.router = s.router := by
  cases h with
  | replyClear k j stage stage' s' hr hf => exact hf.drains.router
  | close k inLoop stage s' next hr hc =>
      have hd := hc.drains.router
      split <;> exact hd
  | _ => rfl

theorem System.ServerStep.pointer_spec (h : ServerStep me s s') {k : Slot}
    (hp : s.server.pointer = some k) (hs : s.server.setup ≠ some k) :
    (s'.table.conn k).idin = (s.table.conn k).idin ∧
      ∀ p, Holds (s'.table.conn k) p → Holds (s.table.conn k) p := by
  have hupdate {j : Slot} {c : Conn QueuedPacket}
      (ht : s'.table.conn = Function.update s.table.conn j c) (hj : s.server.pointer = some j)
      (hidin : c.idin = (s.table.conn j).idin)
      (hh : ∀ p, Holds c p → Holds (s.table.conn j) p) :
      (s'.table.conn k).idin = (s.table.conn k).idin ∧
        ∀ p, Holds (s'.table.conn k) p → Holds (s.table.conn k) p := by
    obtain rfl : j = k := Option.some.inj (hj.symm.trans hp)
    rw [ht, Function.update_self]
    exact ⟨hidin, hh⟩
  cases h with
  | toTake j hr => exact hupdate rfl (by rw [hr]; rfl) rfl fun p h => h
  | takeNull j prio rest hr hq =>
      exact hupdate rfl (by rw [hr]; rfl) rfl fun p h => holds_tail hq h
  | take j q prio rest hr hq =>
      exact hupdate rfl (by rw [hr]; rfl) rfl fun p h => holds_tail hq h
  | allocate i j table hr hlock hj =>
      have hu : Untouched (s.table.conn k) (table.conn k) :=
        untouched_allocate hj k
      exact ⟨hu.idin, fun p hp => hu.holds hp⟩
  | replyFill i j sport hr hsp =>
      have hne : k ≠ j := fun he => hs (by rw [hr, he]; rfl)
      have hsame := update_conn_of_ne s.table hne fun c => { c with
        idin := incomingId 2 me 23 15 sport, idout := outgoingId 2 me 23 15 sport }
      simp only [observe_table, update_table, hsame]
      exact ⟨trivial, fun p h => h⟩
  | replyClear i j stage stage' s' hr hf =>
      have hne : k ≠ j := fun he => hs (by rw [hr, he]; rfl)
      have hsame := hf.drains.frame k hne
      simp only [hsame]
      exact ⟨trivial, fun p h => h⟩
  | close j inLoop stage s' next hr hc =>
      rw [hr] at hp
      obtain rfl : j = k := Option.some.inj hp
      have hd := hc.drains
      split <;> exact ⟨hd.idin, hd.holds⟩
  | _ => exact ⟨rfl, fun p h => h⟩

theorem System.ServerStep.idin (h : ServerStep me s s') {j : Slot}
    (hs : s.server.setup ≠ some j) : (s'.table.conn j).idin = (s.table.conn j).idin := by
  by_cases hp : s.server.pointer = some j
  · exact (h.pointer_spec hp hs).1
  · exact (h.frame hp hs).idin

theorem System.ServerStep.setup_spec (h : ServerStep me s s') {j : Slot}
    (hs : s.server.setup = some j) :
    s'.server.setup = some j ∨
      ∃ k stage, s.server = .replyClear k j stage ∧ 4 ≤ stage ∧ s'.table = s.table := by
  cases h with
  | replyFill k i sport hr hsp =>
      rw [hr] at hs
      exact .inl hs
  | replyClear k i stage stage' s' hr hf =>
      rw [hr] at hs
      exact .inl hs
  | replyCleared k i stage hr hle he =>
      rw [hr] at hs
      obtain rfl : i = j := Option.some.inj hs
      exact .inr ⟨k, stage, hr, hle, rfl⟩
  | close k inLoop stage s' next hr hc =>
      rw [hr] at hs
      cases hs
  | _ => simp_all [ServerPc.setup]

theorem System.ServerStep.keeps_cleared (h : ServerStep me s s')
    (hclear : ∀ k j n, s.server = .replyClear k j n → Cleared (s.table.conn j) n) {k j : Slot}
    {n : Nat} (hr' : s'.server = .replyClear k j n) : Cleared (s'.table.conn j) n := by
  cases h with
  | replyFill i l sport hr hsp =>
      cases hr'
      exact fun prio hprio => absurd hprio (Nat.not_lt_zero _)
  | replyClear i l stage stage' s' hr hf =>
      cases hr'
      exact hf.cleared (hclear _ _ stage hr)
  | close i inLoop stage s' next hr hc =>
      cases next with
      | none => cases inLoop <;> cases hr'
      | some stage => cases hr'
  | _ => cases hr'

theorem System.ServerStep.pointer_from (h : ServerStep me s s') {k : Slot}
    (hp : s'.server.pointer = some k) :
    (s.server.pointer = some k ∧ lastAccepted s'.history = lastAccepted s.history) ∨
      (lastAccepted s'.history = some (k, (s.table.conn k).idin) ∧ s'.table = s.table) := by
  cases h with
  | accept j backlog hr hb =>
      obtain rfl : j = k := Option.some.inj hp
      exact .inr ⟨rfl, rfl⟩
  | ftp j hr hport => cases hp
  | close j inLoop stage s' next hr hc =>
      have hptr : s.server.pointer = some j := by rw [hr]; rfl
      have hjk : j = k := by
        cases next with
        | none =>
            cases inLoop with
            | false => cases hp
            | true => exact Option.some.inj hp
        | some stage => exact Option.some.inj hp
      have hlast := hc.drains.lastAccepted
      refine .inl ⟨hjk ▸ hptr, ?_⟩
      split <;> exact hlast
  | replyClear i j stage stage' s' hr hf =>
      have hlast := hf.drains.lastAccepted
      refine .inl ⟨?_, hlast⟩
      rw [hr]
      exact hp
  | _ => simp_all [ServerPc.pointer, lastAccepted]

theorem Owning.owned (h : Owning s) (hno : NoReuse s) (hstep : ServerStep me s s') :
    Throughout Owned s'.history := by
  have hdrains {k : Slot} {t : System} (hd : Drains s t k) : Throughout Owned t.history := by
    obtain heq | ⟨p, heq⟩ := hd.history
    · rw [heq]
      exact h.history
    · rw [heq]
      exact ⟨trivial, h.history⟩
  cases hstep with
  | accept k backlog hr hb => exact ⟨trivial, h.history⟩
  | receive k p hr hp => exact ⟨trivial, h.history⟩
  | replyFill k j sport hr hs => exact ⟨trivial, h.history⟩
  | replyClear k j stage stage' s' hr hf =>
      have hd := hdrains hf.drains
      exact hd
  | take k p prio rest hr hq =>
      have hptr : s.server.pointer = some k := by rw [hr]; rfl
      obtain ⟨id, hlast, hflow⟩ := h.accepted k hptr
      have hin : Holds (s.table.conn k) p := .inl ⟨prio, by rw [hq]; exact List.mem_cons_self⟩
      have hown := h.queues k (fun hset => (hno.1 k hset).1 hptr) (by rw [hr]; nofun) p hin
      exact ⟨⟨id, hlast, hown.trans hflow.symm⟩, h.history⟩
  | close k inLoop stage s' next hr hc =>
      have hptr : s.server.pointer = some k := by rw [hr]; rfl
      have hd := hdrains hc.drains
      split
      · rename_i hset
        obtain ⟨id, hlast, hflow⟩ := h.accepted k hptr
        obtain rfl := hset.1
        cases hc with
        | set => exact ⟨⟨id, hlast, hflow.symm⟩, hd⟩
      · exact hd
  | _ => exact h.history

theorem Owning.serve (h : Owning s) (hno : NoReuse s) (hstep : ServerStep me s s') :
    Owning s' := by
  have hown := h.owned hno hstep
  obtain ⟨hrouter, hserver⟩ := hno
  have hsetup {j : Slot} (hj : s.router.setup = some j) :
      s.server.pointer ≠ some j ∧ s.server.setup ≠ some j :=
    ⟨(hrouter j hj).1, (hrouter j hj).2.1⟩
  constructor
  · intro k hr hs p hp
    rw [hstep.router_eq] at hr
    by_cases hset : s.server.setup = some k
    · obtain hset' | ⟨i, stage, hq, hle, htable⟩ := hstep.setup_spec hset
      · exact absurd hset' hs
      · rw [htable] at hp
        obtain ⟨prio, hp⟩ | hp := hp
        · rw [(h.serverClear i k stage hq).all hle prio] at hp
          cases hp
        · rw [(hserver k hset).2.2] at hp
          cases hp
    · rw [hstep.idin hset]
      by_cases hptr : s.server.pointer = some k
      · exact h.queues k hr hset p ((hstep.pointer_spec hptr hset).2 p hp)
      · exact h.queues k hr hset p ((hstep.frame hptr hset).holds hp)
  · intro p k n hr
    rw [hstep.router_eq] at hr
    have hk : s.router.setup = some k := by rw [hr]; rfl
    have hframe := hstep.frame (hsetup hk).1 (hsetup hk).2
    intro prio hprio
    rw [hframe.rxQueue]
    exact h.routerClear p k n hr prio hprio
  · intro k j n hs'
    exact hstep.keeps_cleared h.serverClear hs'
  · intro p k hc
    rw [hstep.router_eq] at hc
    have hset : s.server.setup ≠ some k := by
      intro hset
      by_cases hk : s.router.setup = some k
      · exact (hsetup hk).2 hset
      · refine (hserver k hset).2.1 ?_
        exact (carries_at hc).resolve_left hk
    rw [hstep.idin hset]
    exact h.carried p k hc
  · intro k hk
    obtain ⟨hptr, hlast⟩ | ⟨hlast, htable⟩ := hstep.pointer_from hk
    · rw [hlast, hstep.idin fun hset => (hserver k hset).1 hptr]
      exact h.accepted k hptr
    · rw [hlast, htable]
      exact ⟨_, rfl, rfl⟩
  · exact hown

end server

theorem owning_start : Owning start where
  queues k _ _ p hp := by
    obtain ⟨prio, hp⟩ | hp := hp
    · rw [(start_empty k).1 prio] at hp
      cases hp
    · rw [(start_empty k).2] at hp
      cases hp
  routerClear p k n h := by cases h
  serverClear k j n h := by cases h
  carried p k h := by cases h
  accepted k h := by cases h
  history := trivial

/-- In every run in which no slot is given out again under a pointer, `task_server` reads and closes
only what belongs to the flow it accepted last. -/
theorem server_owns {me : Fin 32} {s : System} (h : Reaches (step me) NoReuse .start s)
    {o : Obs} {past : List Obs} (hobs : o :: past <:+ s.history) : Owned o past := by
  have hinv : Owning s := h.invariant owning_start fun s _ s' hs hno hstep => by
    obtain hr | hv := step_cases hstep
    · exact hs.route hno hr
    · exact hs.serve hno hv
  exact hinv.history.at hobs

def oneFlow : System :=
  (exec (step 10) NoReuse start (arrival (downlinkId 1) 13 ++ serving 9)).get (by decide +kernel)

theorem oneFlow_history : oneFlow.history =
    .closed 2 (downlinkId 1) :: oneFlow.history.tail := by
  decide +kernel

theorem reaches_oneFlow : Reaches (step 10) NoReuse .start oneFlow :=
  reaches_of_exec .start (Option.some_get _).symm

theorem server_owns_oneFlow : Owned (.closed 2 (downlinkId 1)) oneFlow.history.tail :=
  server_owns reaches_oneFlow (by rw [← oneFlow_history])

/-- Nine flows take every slot. The tenth gets slot 2 after `csp_close` and before the `csp_read` that
ends the loop. -/
def tenFlows : System :=
  (exec (step 10) (fun _ => True) start
    ([1, 2, 3, 4, 5, 6, 7, 8, 9].flatMap (fun src => arrival (downlinkId src) 13) ++ serving 14 ++
      arrival (downlinkId 11) 13 ++ serving 3)).get (by decide +kernel)

theorem tenFlows_history : tenFlows.history =
    .taken 2 ⟨9, downlinkId 11, 4⟩ :: tenFlows.history.tail := by
  decide +kernel

theorem not_server_owns : ¬ ∀ (me : Fin 32) (s : System),
    Reaches (step me) (fun _ => True) .start s → ∀ o past, o :: past <:+ s.history →
      Owned o past := by
  intro h
  have hreach : Reaches (step 10) (fun _ => True) .start tenFlows :=
    reaches_of_exec .start (Option.some_get _).symm
  obtain ⟨id, hlast, hflow⟩ := h 10 tenFlows hreach (.taken 2 ⟨9, downlinkId 11, 4⟩) _
    (by rw [← tenFlows_history])
  have hfirst : lastAccepted tenFlows.history.tail = some (2, downlinkId 1) := by decide +kernel
  rw [hfirst] at hlast
  cases hlast
  exact absurd hflow (by decide)

end UhfGs.Station
