import UhfGs.Station.Ownership
import UhfGs.Station.Tally

/-! Whether the packets for `receive_packet` get there. -/
namespace UhfGs.Station
open Bytes Csp Csp.ConnTable Queues Runs UhfGs.Station.System

/-- A packet to port 15 that does not go through RDP. -/
def Due (p : QueuedPacket) : Prop := p.overRdp = false ∧ p.id.dport = myPort

instance : DecidablePred Due := fun _ => inferInstanceAs (Decidable (_ ∧ _))

/-- The packet that the router is about to enqueue, and the connection. -/
def RouterPc.delivery : RouterPc → Option (QueuedPacket × Slot)
  | .deliver p k => some (p, k)
  | _ => none

/-- The packet, and the connection that the router has made or found for it. -/
def RouterPc.target : RouterPc → Option (QueuedPacket × Slot)
  | .fill p k | .clear p k _ | .attach p k | .deliver p k | .event p k | .post p k => some (p, k)
  | _ => none

/-- As `csp_conn_new` leaves a connection: not posted yet, with nothing in its queues. -/
def AsNew (c : Conn QueuedPacket) : Prop := c.socket = true ∧ ∀ prio, c.rxQueue prio = []

instance : DecidablePred AsNew := fun _ => inferInstanceAs (Decidable (_ ∧ _))

/-- What is delivered on a connection to port 15 is its first packet, unless both are over RDP, and
`task_server` has no pointer to a slot in which the router sets up a connection to port 15 or
delivers to it. -/
def Undisturbed (s : System) : Prop :=
  (∀ t ∈ s.router.delivery, (s.table.conn t.2).idin.dport = myPort →
    if t.1.overRdp then (s.table.conn t.2).idin.flags &&& frdp ≠ 0
    else (s.table.conn t.2).idin.flags &&& frdp = 0 ∧ AsNew (s.table.conn t.2)) ∧
  ∀ t ∈ s.router.target, Due t.1 → s.server.pointer ≠ some t.2 ∧ s.server.setup ≠ some t.2

instance : DecidablePred Undisturbed := fun _ => inferInstanceAs (Decidable (_ ∧ _))

def acceptsSince (p : QueuedPacket) : List Obs → Nat
  | [] => 0
  | .delivered _ q :: past => if q = p then 0 else acceptsSince p past
  | .accepted _ _ :: past => acceptsSince p past + 1
  | _ :: past => acceptsSince p past

def Alone (c : Conn QueuedPacket) (p : QueuedPacket) : Prop :=
  c.rxQueue = Function.update (fun _ => []) p.id.pri [some p]

def Opened (c : Conn QueuedPacket) : Prop := c.state = .opened ∧ c.idin.dport = myPort

def First (c : Conn QueuedPacket) (p : QueuedPacket) : Prop :=
  Opened c ∧ c.idin.flags &&& frdp = 0 ∧ c.socket = true ∧ Alone c p

/-- How far the connection for a packet to port 15 is. -/
def Staged (conn : Slot → Conn QueuedPacket) : RouterPc → Prop
  | .fill p k => Due p → (conn k).state = .opened
  | .clear p k _ | .attach p k | .deliver p k => Due p → Opened (conn k)
  | .event p k => p.overRdp = false ∧ (Due p → First (conn k) p)
  | .post p k => p.overRdp = false ∧ (Due p → First (conn k) p ∧ 0 < (conn k).rxEvent)
  | _ => True

/-- Where a delivered packet is, `n` returns of `csp_accept` after its delivery. -/
inductive Turn (s : System) (p : QueuedPacket) (k : Slot) (n : Nat) : Prop where
  | queued (i : Nat) (hq : Alone (s.table.conn k) p) (he : 0 < (s.table.conn k).rxEvent)
      (hptr : s.server.pointer ≠ some k) (hb : s.backlog[i]? = some k) (hn : n + i ≤ 9)
  | reading (hq : Alone (s.table.conn k) p) (he : 0 < (s.table.conn k).rxEvent)
      (hs : s.server = .accepted k ∨ s.server = .read k ∨ s.server = .wait k) (hn : n ≤ 10)
  | taking (hq : Alone (s.table.conn k) p) (hs : s.server = .take k) (hn : n ≤ 10)
  | handling (hs : s.server = .handle k p) (hn : n ≤ 10)

/-- The packet is in slot `k`, which nothing but `task_server` will touch. -/
structure Awaiting (s : System) (p : QueuedPacket) (k : Slot) : Prop where
  opened : (s.table.conn k).state = .opened
  port : (s.table.conn k).idin.dport = myPort
  plain : (s.table.conn k).idin.flags &&& frdp = 0
  pointer : s.router.pointer = some k →
    s.router = .detach k ∨ ∃ q, s.router = .deliver q k ∧ q.id.dport = myPort
  routerSetup : s.router.setup ≠ some k
  serverSetup : s.server.setup ≠ some k
  turn : Turn s p k (acceptsSince p s.history)

theorem Turn.keep {s s' : System} {p : QueuedPacket} {k : Slot} {n n' : Nat} (h : Turn s p k n)
    (hq : (s'.table.conn k).rxQueue = (s.table.conn k).rxQueue)
    (he : (s'.table.conn k).rxEvent = (s.table.conn k).rxEvent) (hs : s'.server = s.server)
    (hb : ∀ i : Nat, s.backlog[i]? = some k → s'.backlog[i]? = some k) (hn : n' ≤ n) :
    Turn s' p k n' := by
  have halone (ha : Alone (s.table.conn k) p) : Alone (s'.table.conn k) p := hq.trans ha
  cases h with
  | queued i ha hev hptr hi hle =>
      exact .queued i (halone ha) (he ▸ hev) (hs ▸ hptr) (hb i hi) (by omega)
  | reading ha hev hpc hle => exact .reading (halone ha) (he ▸ hev) (hs ▸ hpc) (hn.trans hle)
  | taking ha hpc hle => exact .taking (halone ha) (hs ▸ hpc) (hn.trans hle)
  | handling hpc hle => exact .handling (hs ▸ hpc) (hn.trans hle)

section router
variable {me : Fin 32} {s s' : System} {p : QueuedPacket} {k : Slot}

theorem System.RouterStep.detach_spec (h : RouterStep me s s') (hr : s.router = .detach k) :
    s'.router = .idle ∧ (s'.table.conn k = s.table.conn k ∨
      s'.table.conn k = { s.table.conn k with socket := false }) := by
  cases h with
  | giveUp hr' => exact ⟨rfl, .inl rfl⟩
  | detach j hr' =>
      cases hr.symm.trans hr'
      exact ⟨rfl, .inr (by simp)⟩
  | _ => simp_all

/-- Nothing more is delivered on a connection that waits for `task_server`. -/
theorem Awaiting.detaching (h : Awaiting s p k) (hu : Undisturbed s)
    (hptr : s.router.pointer = some k) : s.router = .detach k := by
  refine (h.pointer hptr).resolve_right ?_
  rintro ⟨q, hq, hport⟩
  have hnew := hu.1 (q, k) (by rw [hq]; rfl) h.port
  cases hrdp : q.overRdp with
  | true => exact (if_pos hrdp ▸ hnew) h.plain
  | false =>
      rw [hrdp] at hnew
      obtain ⟨-, -, hempty⟩ := hnew
      have haway := (hu.2 (q, k) (by rw [hq]; rfl) ⟨hrdp, hport⟩).1
      have hfilled (ha : Alone (s.table.conn k) p) : False := by
        have hprio := hempty p.id.pri
        rw [ha, Function.update_self] at hprio
        cases hprio
      cases h.turn with
      | queued i ha he hb hi hn => exact hfilled ha
      | reading ha he hs hn => exact hfilled ha
      | taking ha hs hn => exact hfilled ha
      | handling hs hn => exact haway (by rw [hs]; rfl)

/-- The router comes to a connection that waits for `task_server` only by finding it. -/
theorem Awaiting.away (h : Awaiting s p k) (hu : Undisturbed s) (hstep : RouterStep me s s')
    (hk : s'.router.setup = some k ∨ s'.router.pointer = some k) :
    ∃ q, s'.router = .deliver q k ∧ q.id.dport = myPort := by
  obtain (hset | hptr) | hclosed | ⟨q, hq, hfind⟩ | ⟨-, hrdp⟩ := hstep.comes_to hk
  · exact absurd hset h.routerSetup
  · obtain ⟨hidle, -⟩ := hstep.detach_spec (h.detaching hu hptr)
    simp [hidle, RouterPc.setup, RouterPc.pointer] at hk
  · rw [h.opened] at hclosed
    cases hclosed
  · have hflow := (ext_connMask_eq_iff .little _ _).mp (cspConnFind_some hfind).2.2
    exact ⟨q, hq, (congrArg Csp.Flow.dport hflow).symm.trans h.port⟩
  · exact absurd h.plain hrdp

theorem Awaiting.route (h : Awaiting s p k) (hu : Undisturbed s) (hstep : RouterStep me s s') :
    Awaiting s' p k := by
  have hconn : s'.table.conn k = s.table.conn k ∨
      s'.table.conn k = { s.table.conn k with socket := false } := by
    by_cases hptr : s.router.pointer = some k
    · exact (hstep.detach_spec (h.detaching hu hptr)).2
    · exact .inl ((hstep.frame hptr h.routerSetup).eq_of_opened h.opened)
  have haway := h.away hu hstep
  have hserver := hstep.server_eq
  have hbacklog (i : Nat) (hi : s.backlog[i]? = some k) : s'.backlog[i]? = some k := by
    obtain heq | ⟨j, heq⟩ := hstep.backlog
    · rw [heq]
      exact hi
    · rw [heq, List.getElem?_append_left (List.getElem?_eq_some_iff.mp hi).1]
      exact hi
  have hsince : acceptsSince p s'.history ≤ acceptsSince p s.history := by
    obtain heq | ⟨j, id, heq⟩ | ⟨j, q, heq⟩ | ⟨q, j, -, heq⟩ := hstep.observes
    · rw [heq]
    · rw [heq]
      exact Nat.le_refl _
    · rw [heq]
      exact Nat.le_refl _
    · rw [heq, acceptsSince]
      split
      · exact Nat.zero_le _
      · exact Nat.le_refl _
  have hkept : (s'.table.conn k).state = (s.table.conn k).state ∧
      (s'.table.conn k).idin = (s.table.conn k).idin ∧
      (s'.table.conn k).rxQueue = (s.table.conn k).rxQueue ∧
      (s'.table.conn k).rxEvent = (s.table.conn k).rxEvent := by
    obtain heq | heq := hconn
    · rw [heq]
      exact ⟨rfl, rfl, rfl, rfl⟩
    · rw [heq]
      exact ⟨rfl, rfl, rfl, rfl⟩
  obtain ⟨hstate, hidin, hq, he⟩ := hkept
  exact {
    opened := hstate.trans h.opened
    port := hidin ▸ h.port
    plain := hidin ▸ h.plain
    pointer := fun hptr => .inr (haway (.inr hptr))
    routerSetup := fun hset => by
      obtain ⟨q, hq, -⟩ := haway (.inl hset)
      rw [hq] at hset
      cases hset
    serverSetup := hserver ▸ h.serverSetup
    turn := h.turn.keep hq he hserver hbacklog hsince }

end router

section server
variable {me : Fin 32} {s s' : System} {p : QueuedPacket} {k : Slot}

theorem System.ServerStep.accepts (h : ServerStep me s s') :
    (∃ j backlog, s.server = .accept ∧ s.backlog = j :: backlog ∧
      s' = { s.observe (.accepted j (s.table.conn j).idin) with
        backlog := backlog, server := .accepted j }) ∨
      (s'.backlog = s.backlog ∧ (∀ k, s'.server.pointer = some k → s.server.pointer = some k) ∧
        ∀ p, acceptsSince p s'.history = acceptsSince p s.history) := by
  have hdrains {j : Slot} {t : System} (hd : Drains s t j) (p : QueuedPacket) :
      acceptsSince p t.history = acceptsSince p s.history := by
    obtain heq | ⟨q, heq⟩ := hd.history
    · rw [heq]
    · rw [heq]
      rfl
  cases h with
  | accept j backlog hr hb => exact .inl ⟨j, backlog, hr, hb, rfl⟩
  | replyClear i j stage stage' s' hr hf =>
      have hsince := hdrains hf.drains
      refine .inr ⟨hf.drains.backlog, fun k hk => ?_, hsince⟩
      rw [hr]
      exact hk
  | close j inLoop stage s' next hr hc =>
      have hsince := hdrains hc.drains
      have hbacklog := hc.drains.backlog
      refine .inr ⟨?_, fun k hk => ?_, fun p => ?_⟩
      · split <;> exact hbacklog
      · cases next with
        | none =>
            cases inLoop with
            | false => cases hk
            | true =>
                rw [hr]
                exact hk
        | some stage =>
            rw [hr]
            exact hk
      · split <;> exact hsince p
  | ftp j hr hport => exact .inr ⟨rfl, nofun, fun p => rfl⟩
  | _ => exact .inr ⟨rfl, by simp_all [ServerPc.pointer], fun p => rfl⟩

theorem receipts_le (o : Obs) {past : List Obs} : receipts p past ≤ receipts p (o :: past) := by
  cases o with
  | received k q idin header => exact Nat.le_add_right _ _
  | _ => exact Nat.le_refl _

theorem Awaiting.next (h : Awaiting s p k) (hstep : ServerStep me s s')
    (hstate : (s'.table.conn k).state = (s.table.conn k).state)
    (hturn : Turn s' p k (acceptsSince p s'.history)) : Awaiting s' p k where
  opened := hstate.trans h.opened
  port := hstep.idin h.serverSetup ▸ h.port
  plain := hstep.idin h.serverSetup ▸ h.plain
  pointer := hstep.router_eq ▸ h.pointer
  routerSetup := hstep.router_eq ▸ h.routerSetup
  serverSetup hset := by
    obtain hset | hclosed := hstep.sets_up hset
    · exact h.serverSetup hset
    · rw [h.opened] at hclosed
      cases hclosed
  turn := hturn

theorem Awaiting.queued (h : Awaiting s p k) (hstep : ServerStep me s s') {i : Nat}
    (ha : Alone (s.table.conn k) p) (he : 0 < (s.table.conn k).rxEvent)
    (hptr : s.server.pointer ≠ some k) (hi : s.backlog[i]? = some k)
    (hn : acceptsSince p s.history + i ≤ 9) : Awaiting s' p k := by
  have hnext := h.next hstep
  obtain ⟨j, backlog, hs, hb, rfl⟩ | ⟨hb, hptr', hsince⟩ := hstep.accepts
  · refine hnext rfl ?_
    by_cases hj : j = k
    · subst j
      refine .reading ha he (.inl rfl) ?_
      simp only [observe_history, acceptsSince]
      omega
    · rw [hb] at hi
      cases i with
      | zero => exact absurd (Option.some.inj hi) hj
      | succ i =>
          refine .queued i ha he (fun hk => hj (Option.some.inj hk)) hi ?_
          simp only [observe_history, acceptsSince]
          omega
  · have hsame := (hstep.frame hptr h.serverSetup).eq_of_opened h.opened
    refine hnext (by rw [hsame]) (.queued i ?_ ?_ (fun hk => hptr (hptr' k hk)) (hb ▸ hi) ?_)
    · rw [hsame]
      exact ha
    · rw [hsame]
      exact he
    · rw [hsince]
      exact hn

theorem Awaiting.reading (h : Awaiting s p k) (hstep : ServerStep me s s')
    (ha : Alone (s.table.conn k) p) (he : 0 < (s.table.conn k).rxEvent)
    (hs : s.server = .accepted k ∨ s.server = .read k ∨ s.server = .wait k)
    (hn : acceptsSince p s.history ≤ 10) : Awaiting s' p k := by
  have hopened := h.opened
  have hport := h.port
  have hnext := h.next hstep
  obtain hs | hs | hs := hs
  · cases hstep with
    | toRead j hr hp =>
        cases hs.symm.trans hr
        exact hnext rfl (.reading ha he (.inr (.inl rfl)) hn)
    | ftp j hr hp =>
        cases hs.symm.trans hr
        -- only FTP connections go to another thread
        rw [hport] at hp
        cases hp
    | _ => cases hs.symm.trans ‹s.server = _›
  · cases hstep with
    | toWait j hr =>
        cases hs.symm.trans hr
        exact hnext rfl (.reading ha he (.inr (.inr rfl)) hn)
    | readClosed j hr hc =>
        cases hs.symm.trans hr
        exact absurd hopened hc
    | _ => cases hs.symm.trans ‹s.server = _›
  · cases hstep with
    | toTake j hr =>
        cases hs.symm.trans hr
        exact hnext (by simp) (.taking (by simpa [Alone] using ha) rfl hn)
    | timedOut j hr hzero =>
        cases hs.symm.trans hr
        omega
    | _ => cases hs.symm.trans ‹s.server = _›

theorem Alone.head {c : Conn QueuedPacket} (h : Alone c p) {prio : Fin 4}
    {x : Option QueuedPacket} {rest : List (Option QueuedPacket)} (hq : c.rxQueue prio = x :: rest) :
    x = some p := by
  rw [h] at hq
  by_cases hp : prio = p.id.pri
  · subst hp
    rw [Function.update_self] at hq
    exact (List.cons.inj hq).1.symm
  · rw [Function.update_of_ne hp] at hq
    cases hq

theorem Awaiting.taking (h : Awaiting s p k) (hstep : ServerStep me s s')
    (ha : Alone (s.table.conn k) p) (hs : s.server = .take k)
    (hn : acceptsSince p s.history ≤ 10) : Awaiting s' p k := by
  have hnext := h.next hstep
  cases hstep with
  | take j q prio rest hr hq =>
      cases hs.symm.trans hr
      cases ha.head hq
      exact hnext (by simp) (.handling rfl hn)
  | takeEmpty j hr hq =>
      cases hs.symm.trans hr
      have hempty := hq p.id.pri
      rw [ha, Function.update_self] at hempty
      cases hempty
  | takeNull j prio rest hr hq =>
      cases hs.symm.trans hr
      cases ha.head hq
  | _ => cases hs.symm.trans ‹s.server = _›

theorem Awaiting.handling (h : Awaiting s p k) (hstep : ServerStep me s s')
    (hs : s.server = .handle k p) : 0 < receipts p s'.history := by
  have hport := h.port
  cases hstep with
  | receive j q hr hp =>
      cases hs.symm.trans hr
      simp [receipts]
  | reply j q hr hp =>
      cases hs.symm.trans hr
      exact absurd hport hp
  | handled j q hr hp =>
      cases hs.symm.trans hr
      exact absurd hport hp
  | _ => cases hs.symm.trans ‹s.server = _›

theorem Awaiting.serve (h : Awaiting s p k) (hstep : ServerStep me s s') :
    0 < receipts p s'.history ∨ Awaiting s' p k := by
  cases h.turn with
  | queued i ha he hptr hi hn => exact .inr (h.queued hstep ha he hptr hi hn)
  | reading ha he hs hn => exact .inr (h.reading hstep ha he hs hn)
  | taking ha hs hn => exact .inr (h.taking hstep ha hs hn)
  | handling hs hn => exact .inl (h.handling hstep hs)

end server

section staged
variable {me : Fin 32} {s s' : System} {p : QueuedPacket} {k : Slot}

theorem Staged.congr {conn conn' : Slot → Conn QueuedPacket} {r : RouterPc} (h : Staged conn r)
    (hsame : ∀ p k, r.target = some (p, k) → Due p → (conn k).state = .opened →
      conn' k = conn k) : Staged conn' r := by
  cases r with
  | fill p k =>
      intro hd
      rw [hsame p k rfl hd (h hd)]
      exact h hd
  | clear p k stage =>
      intro hd
      rw [hsame p k rfl hd (h hd).1]
      exact h hd
  | attach p k =>
      intro hd
      rw [hsame p k rfl hd (h hd).1]
      exact h hd
  | deliver p k =>
      intro hd
      rw [hsame p k rfl hd (h hd).1]
      exact h hd
  | event p k =>
      refine ⟨h.1, fun hd => ?_⟩
      rw [hsame p k rfl hd (h.2 hd).1.1]
      exact h.2 hd
  | post p k =>
      refine ⟨h.1, fun hd => ?_⟩
      rw [hsame p k rfl hd (h.2 hd).1.1.1]
      exact h.2 hd
  | _ => trivial

theorem Staged.serve (h : Staged s.table.conn s.router) (hu : Undisturbed s)
    (hstep : ServerStep me s s') : Staged s'.table.conn s'.router := by
  rw [hstep.router_eq]
  refine h.congr fun p k ht hd hopened => ?_
  obtain ⟨hptr, hset⟩ := hu.2 (p, k) ht hd
  exact (hstep.frame hptr hset).eq_of_opened hopened

theorem System.Flushes.state {stage : Nat} {next : Option Nat} (h : Flushes s k stage s' next) :
    (s'.table.conn k).state = (s.table.conn k).state := by
  cases h <;> simp

theorem alone_push {c : Conn QueuedPacket} (h : ∀ prio, c.rxQueue prio = []) (p : QueuedPacket) :
    Alone { c with
      rxQueue := Function.update c.rxQueue p.id.pri (c.rxQueue p.id.pri ++ [some p]) } p := by
  have hempty : c.rxQueue = fun _ => [] := funext h
  simp [Alone, hempty]

theorem Staged.route (h : Staged s.table.conn s.router) (hu : Undisturbed s)
    (hstep : RouterStep me s s') : Staged s'.table.conn s'.router := by
  have hidle (hr : s.router = .idle) {conn : Slot → Conn QueuedPacket} :
      Staged conn s.router := by
    rw [hr]
    trivial
  have hrdp {q : Option QueuedPacket} {j : Slot} (hr : s.router = .rdp q j)
      {conn : Slot → Conn QueuedPacket} : Staged conn s.router := by
    rw [hr]
    trivial
  cases hstep with
  | find p k hr hk =>
      intro hd
      obtain ⟨hopened, -, hext⟩ := cspConnFind_some hk
      have hflow := (ext_connMask_eq_iff .little _ _).mp hext
      exact ⟨hopened, (congrArg Csp.Flow.dport hflow).trans hd.2⟩
  | allocate p k table hr hlock hk =>
      intro hd
      obtain ⟨-, hconn⟩ := allocate_conn hk
      simp [hconn, allocated]
  | fill p k hr =>
      rw [hr] at h
      intro hd
      refine ⟨?_, ?_⟩
      · simpa using h hd
      · simpa using hd.2
  | clear p k stage stage' s' hr hf =>
      rw [hr] at h
      intro hd
      obtain ⟨hopened, hport⟩ := h hd
      exact ⟨hf.state.trans hopened, hf.drains.idin ▸ hport⟩
  | cleared p k stage hr h4 he =>
      rw [hr] at h
      exact h
  | attach p k hr =>
      rw [hr] at h
      intro hd
      simpa [Opened] using h hd
  | push p k hr hp =>
      rw [hr] at h
      refine ⟨hp, fun hd => ?_⟩
      have hopen := h hd
      have hnew := hu.1 (p, k) (by rw [hr]; rfl) hopen.2
      rw [hp] at hnew
      obtain ⟨hplain, hsock, hempty⟩ := hnew
      simp only [push, update_table, update_conn_self]
      exact ⟨hopen, hplain, hsock, alone_push hempty p⟩
  | event p k hr =>
      rw [hr] at h
      refine ⟨h.1, fun hd => ?_⟩
      have hfirst := h.2 hd
      simp only [update_table, update_conn_self]
      exact ⟨hfirst, Nat.succ_pos _⟩
  | close k stage s' next hr hc => cases next <;> trivial
  | forward hr => exact hidle hr
  | rdpState p k st hr => exact hrdp hr
  | rdpNull p k hr => exact hrdp hr
  | rdpStored p k q hr hq => exact hrdp hr
  | rdpEvent p k hr => exact hrdp hr
  | rdpPost p k hr hroom => exact hrdp hr
  | rdpDetach p k hr => exact hrdp hr
  | _ => trivial

theorem Staged.delivered (h : Staged s.table.conn s.router) (hu : Undisturbed s)
    (hstep : RouterStep me s s') (hr : s.router = .post p k)
    (hist : s'.history = .delivered k p :: s.history) (hport : p.id.dport = myPort) :
    Awaiting s' p k := by
  rw [hr] at h
  obtain ⟨hrdp, hstaged⟩ := h
  obtain ⟨⟨⟨hopened, hdport⟩, hplain, hsock, halone⟩, hevent⟩ := hstaged ⟨hrdp, hport⟩
  obtain ⟨hptr, hset⟩ := hu.2 (p, k) (by rw [hr]; rfl) ⟨hrdp, hport⟩
  cases hstep with
  | posted q j hr' hsock' =>
      cases hr.symm.trans hr'
      rw [hsock] at hsock'
      cases hsock'
  | post q j hr' hroom =>
      cases hr.symm.trans hr'
      have hturn : acceptsSince p (.delivered k p :: s.history) + s.backlog.length ≤ 9 := by
        simp only [acceptsSince, if_true]
        omega
      exact {
        opened := hopened
        port := hdport
        plain := hplain
        pointer := fun _ => .inl rfl
        routerSetup := nofun
        serverSetup := hset
        turn := .queued s.backlog.length halone hevent hptr (by simp) hturn }
  | full q j hr' hsock' => exact absurd hist (List.cons_ne_self _ _).symm
  | giveUp hr' => exact absurd hist (List.cons_ne_self _ _).symm
  | _ => cases hr.symm.trans ‹s.router = _›

end staged

/-- A delivered packet to port 15 has been received, or has its place in a slot. -/
structure Delivering (s : System) : Prop where
  staged : Staged s.table.conn s.router
  served : ∀ k p, .delivered k p ∈ s.history → p.id.dport = myPort →
    0 < receipts p s.history ∨ ∃ j, Awaiting s p j

section
variable {me : Fin 32} {s s' : System}

theorem Delivering.route (h : Delivering s) (hu : Undisturbed s) (hstep : RouterStep me s s') :
    Delivering s' := by
  refine ⟨h.staged.route hu hstep, fun k p hmem hport => ?_⟩
  have hold (hreceipts : receipts p s'.history = receipts p s.history)
      (hmem : .delivered k p ∈ s.history) :
      0 < receipts p s'.history ∨ ∃ j, Awaiting s' p j := by
    rw [hreceipts]
    exact (h.served k p hmem hport).imp_right fun ⟨j, hj⟩ => ⟨j, hj.route hu hstep⟩
  obtain heq | ⟨j, id, heq⟩ | ⟨j, q, heq⟩ | ⟨q, j, hr, heq⟩ := hstep.observes
  · rw [heq] at hmem
    exact hold (by rw [heq]) hmem
  · rw [heq] at hmem
    exact hold (by rw [heq]; rfl) (by simpa using hmem)
  · rw [heq] at hmem
    exact hold (by rw [heq]; rfl) (by simpa using hmem)
  · rw [heq] at hmem
    obtain hnew | hmem := List.mem_cons.mp hmem
    · cases hnew
      exact .inr ⟨k, h.staged.delivered hu hstep hr heq hport⟩
    · exact hold (by rw [heq]; rfl) hmem

theorem Delivering.serve (h : Delivering s) (hu : Undisturbed s) (hstep : ServerStep me s s') :
    Delivering s' := by
  refine ⟨h.staged.serve hu hstep, fun k p hmem hport => ?_⟩
  -- `task_server` delivers nothing, so the packet was delivered before
  have hold : .delivered k p ∈ s.history ∧ receipts p s.history ≤ receipts p s'.history := by
    obtain heq | ⟨o, ho, heq⟩ := hstep.observes
    · rw [heq] at hmem ⊢
      exact ⟨hmem, Nat.le_refl _⟩
    · rw [heq] at hmem ⊢
      exact ⟨(List.mem_cons.mp hmem).resolve_left fun he => ho k p he.symm, receipts_le o⟩
  obtain hreceived | ⟨j, hj⟩ := h.served k p hold.1 hport
  · exact .inl (hreceived.trans_le hold.2)
  · exact (hj.serve hstep).imp_right fun hnext => ⟨j, hnext⟩

theorem delivering_start : Delivering start := ⟨trivial, fun k p hmem => by cases hmem⟩

end

theorem copies_le_settled (s : System) (p : QueuedPacket) (k : Slot) :
    receipts p s.history + flushes p s.history + copies (s.table.conn k) p ≤ settled s p := by
  have hle : copies (s.table.conn k) p ≤ ∑ j, copies (s.table.conn j) p :=
    Finset.single_le_sum (f := fun j => copies (s.table.conn j) p) (fun _ _ => Nat.zero_le _)
      (Finset.mem_univ k)
  unfold settled
  omega

theorem Awaiting.tally {s : System} {p : QueuedPacket} {k : Slot} (h : Awaiting s p k) :
    receipts p s.history + flushes p s.history + 1 ≤ tally s p := by
  have hsettled := copies_le_settled s p k
  have hqueue (ha : Alone (s.table.conn k) p) : 0 < copies (s.table.conn k) p := by
    have hmem : some p ∈ (s.table.conn k).rxQueue p.id.pri := by
      rw [ha, Function.update_self]
      exact List.mem_singleton_self _
    exact Nat.add_pos_left (countAll_pos hmem) _
  have hsum : settled s p ≤ Station.tally s p := by
    unfold Station.tally
    omega
  cases h.turn with
  | queued i ha he hptr hi hn =>
      have hpos := hqueue ha
      omega
  | reading ha he hs hn =>
      have hpos := hqueue ha
      omega
  | taking ha hs hn =>
      have hpos := hqueue ha
      omega
  | handling hs hn =>
      have hhand : s.server.hand = some p := by rw [hs]; rfl
      unfold Station.tally
      rw [hhand]
      simp only [if_true]
      omega

theorem Awaiting.soon {s : System} {p : QueuedPacket} {k : Slot} (h : Awaiting s p k) :
    ¬ (s.server = .accept ∧ s.backlog = [] ∨ 11 ≤ acceptsSince p s.history) := by
  rintro (⟨hserver, hbacklog⟩ | hmany)
  · cases h.turn with
    | queued i ha he hptr hi hn => simp [hbacklog] at hi
    | reading ha he hs hn => simp [hserver] at hs
    | taking ha hs hn => simp [hserver] at hs
    | handling hs hn => simp [hserver] at hs
  · cases h.turn with
    | queued i ha he hptr hi hn => omega
    | reading ha he hs hn => omega
    | taking ha hs hn => omega
    | handling hs hn => omega

/-- `csp_close` and `csp_conn_new` have not released the packet, and `receive_packet` has not had it
twice. It has had it when `task_server` waits with nothing posted, and when `csp_accept` has returned
eleven times since the delivery. -/
def HandedOver (s : System) (p : QueuedPacket) : Prop :=
  flushes p s.history = 0 ∧ receipts p s.history ≤ 1 ∧
    (s.server = .accept ∧ s.backlog = [] ∨ 11 ≤ acceptsSince p s.history →
      receipts p s.history = 1)

/-- In every undisturbed run, what `csp_udp_new_packet` delivers to port 15 is handed over. -/
theorem delivered_received {me : Fin 32} {s : System} (h : Reaches (step me) Undisturbed .start s)
    {k : Slot} {p : QueuedPacket} (hp : .delivered k p ∈ s.history) (hport : p.id.dport = myPort) :
    HandedOver s p := by
  have htallied : Tallied s := h.invariant tallied_start fun s _ s' hs _ hstep => by
    obtain hr | hv := step_cases hstep
    · exact hs.route hr
    · exact hs.serve hv
  have hdelivering : Delivering s := h.invariant delivering_start fun s _ s' hs hu hstep => by
    obtain hr | hv := step_cases hstep
    · exact hs.route hu hr
    · exact hs.serve hu hv
  have honce := htallied.once p
  have hsum : receipts p s.history + flushes p s.history ≤ tally s p := by
    unfold tally settled
    omega
  obtain hreceived | ⟨j, hj⟩ := hdelivering.served k p hp hport
  · exact ⟨by omega, by omega, fun _ => by omega⟩
  · have hwaits := hj.tally
    exact ⟨by omega, by omega, fun hsoon => absurd hsoon hj.soon⟩

def handedOver : System :=
  (exec (step 10) Undisturbed start (arrival (downlinkId 1) 13 ++ serving 16)).get
    (by decide +kernel)

theorem delivered_received_handedOver :
    receipts ⟨0, downlinkId 1, 4⟩ handedOver.history = 1 := by
  have hreach : Reaches (step 10) Undisturbed .start handedOver :=
    reaches_of_exec .start (Option.some_get _).symm
  have hdelivered : Obs.delivered 2 ⟨0, downlinkId 1, 4⟩ ∈ handedOver.history := by decide +kernel
  have hwaits : handedOver.server = .accept ∧ handedOver.backlog = [] := by decide +kernel
  exact (delivered_received hreach hdelivered rfl).2.2 (.inl hwaits)

/-- A second packet of the flow arrives before `task_server` has closed the connection of the first. -/
def secondFlushed : System :=
  (exec (step 10) (fun _ => True) start
    (arrival (downlinkId 1) 13 ++ arrival (downlinkId 1) 4 ++ serving 12)).get (by decide +kernel)

theorem not_delivered_received : ¬ ∀ (me : Fin 32) (s : System),
    Reaches (step me) (fun _ => True) .start s → ∀ k p, .delivered k p ∈ s.history →
      p.id.dport = myPort → HandedOver s p := by
  intro h
  have hreach : Reaches (step 10) (fun _ => True) .start secondFlushed :=
    reaches_of_exec .start (Option.some_get _).symm
  have hdelivered : Obs.delivered 2 ⟨1, downlinkId 1, 4⟩ ∈ secondFlushed.history := by
    decide +kernel
  obtain ⟨hflushes, -⟩ := h 10 secondFlushed hreach 2 ⟨1, downlinkId 1, 4⟩ hdelivered rfl
  have hflushed : flushes ⟨1, downlinkId 1, 4⟩ secondFlushed.history = 1 := by decide +kernel
  rw [hflushed] at hflushes
  cases hflushes

end UhfGs.Station
