import UhfGs.Station.TaskServer

/-! What one step of the router or of `task_server` can do. -/
namespace UhfGs.Station
open Bytes Csp Csp.ConnTable

/-- The slot whose connection the router is setting up in `csp_conn_new`. -/
def RouterPc.setup : RouterPc → Option Slot
  | .fill _ k | .clear _ k _ => some k
  | _ => none

/-- The connection the router holds a pointer to otherwise. -/
def RouterPc.pointer : RouterPc → Option Slot
  | .attach _ k | .deliver _ k | .event _ k | .post _ k | .detach k | .rdp _ k | .close k _ => some k
  | _ => none

/-- The slot whose connection the `csp_connect` of `reply_data` is setting up. -/
def ServerPc.setup : ServerPc → Option Slot
  | .replyFill _ j | .replyClear _ j _ => some j
  | _ => none

/-- The connection of the loop of `task_server`. -/
def ServerPc.pointer : ServerPc → Option Slot
  | .accept => none
  | .accepted k | .read k | .wait k | .take k | .handle k _ | .connect k | .replyFill k _
  | .replyClear k _ _ | .close k _ _ => some k

namespace System

section
variable (s : System) (k : Slot) (f : Conn QueuedPacket → Conn QueuedPacket) (o : Obs)

@[simp] theorem update_history : (s.update k f).history = s.history := rfl
@[simp] theorem update_table : (s.update k f).table = s.table.update k f := rfl
@[simp] theorem observe_history : (s.observe o).history = o :: s.history := rfl
@[simp] theorem observe_table : (s.observe o).table = s.table := rfl

theorem update_self_eq : s.update k (fun c => c) = s := by
  unfold update ConnTable.update
  rw [Function.update_eq_self]

end

inductive Flushes (s : System) (k : Slot) (stage : Nat) : System → Option Nat → Prop where
  | skip (h : stage < 4) (hq : (s.table.conn k).rxQueue ⟨stage, h⟩ = []) :
      Flushes s k stage s (some (stage + 1))
  | null (h : stage < 4) (rest : List (Option QueuedPacket))
      (hq : (s.table.conn k).rxQueue ⟨stage, h⟩ = none :: rest) :
      Flushes s k stage (s.update k fun c =>
        { c with rxQueue := Function.update c.rxQueue ⟨stage, h⟩ rest }) (some stage)
  | drop (h : stage < 4) (p : QueuedPacket) (rest : List (Option QueuedPacket))
      (hq : (s.table.conn k).rxQueue ⟨stage, h⟩ = some p :: rest) :
      Flushes s k stage ((s.update k fun c =>
        { c with rxQueue := Function.update c.rxQueue ⟨stage, h⟩ rest }).observe (.flushed k p))
        (some stage)
  | event (h : 4 ≤ stage) :
      Flushes s k stage (s.update k fun c => { c with rxEvent := c.rxEvent - 1 }) (some stage)
  | done (h : 4 ≤ stage) (he : (s.table.conn k).rxEvent = 0) : Flushes s k stage s none

theorem flush_flushes {s s' : System} {k : Slot} {stage : Nat} {next : Option Nat}
    (h : s.flush k stage = (s', next)) : Flushes s k stage s' next := by
  have hsame : s.update k (fun _ => s.table.conn k) = s := update_self_eq s k
  by_cases hlt : stage < 4
  · cases hq : (s.table.conn k).rxQueue ⟨stage, hlt⟩ with
    | nil =>
        simp only [flush, flushStep, hlt, dite_true, hq, Option.elim_none, hsame] at h
        obtain ⟨rfl, rfl⟩ := Prod.mk.inj h
        exact .skip hlt hq
    | cons p rest =>
        simp only [flush, flushStep, hlt, dite_true, hq] at h
        obtain ⟨rfl, rfl⟩ := Prod.mk.inj h
        cases p with
        | none => exact .null hlt rest hq
        | some p => exact .drop hlt p rest hq
  · have hle : 4 ≤ stage := Nat.le_of_not_lt hlt
    by_cases he : (s.table.conn k).rxEvent = 0
    · simp only [flush, flushStep, hlt, dite_false, he, if_true, Option.elim_none, hsame] at h
      obtain ⟨rfl, rfl⟩ := Prod.mk.inj h
      exact .done hle he
    · simp only [flush, flushStep, hlt, dite_false, he, if_false] at h
      obtain ⟨rfl, rfl⟩ := Prod.mk.inj h
      exact .event hle

inductive Closes (s : System) (k : Slot) (free : Bool) :
    CloseStage → System → Option CloseStage → Prop where
  | check (st : RdpState) (next : Option CloseStage) (hn : next = none ∨ next = some .lock) :
      Closes s k free .check (s.update k fun c => { c with rdpState := st }) next
  | timedOut : Closes s k free .lock s none
  | locked (hfree : free) : Closes s k free .lock s (some .set)
  | set : Closes s k free .set (s.update k fun c => { c with state := .closed }) (some (.flush 0))
  | flush (stage : Nat) (s' : System) (stage' : Nat) (h : Flushes s k stage s' (some stage')) :
      Closes s k free (.flush stage) s' (some (.flush stage'))
  | flushed (stage : Nat) (h : 4 ≤ stage) (he : (s.table.conn k).rxEvent = 0) :
      Closes s k free (.flush stage) (s.update k fun c =>
        { c with rdpRx := if c.idin.flags &&& frdp ≠ 0 then [] else c.rdpRx }) none

theorem closeBegin_eq (t : ConnTable QueuedPacket) (k : Slot) :
    ∃ st, (t.closeBegin k).1 = t.update k fun c => { c with rdpState := st } := by
  have hsame : t = t.update k fun c => { c with rdpState := (t.conn k).rdpState } :=
    congrArg System.table (update_self_eq ⟨t, [], .idle, .accept, 0, []⟩ k).symm
  unfold closeBegin
  by_cases hc : (t.conn k).state = .closed
  · exact ⟨_, by simpa [hc] using hsame⟩
  · by_cases hrdp : (t.conn k).usesRdp
    · refine ⟨(cspRdpClose (t.conn k)).1.rdpState, ?_⟩
      have hclose : (cspRdpClose (t.conn k)).1 =
          { t.conn k with rdpState := (cspRdpClose (t.conn k)).1.rdpState } := by
        unfold cspRdpClose
        split <;> rfl
      simp only [hc, hrdp, if_false, if_true]
      rw [ConnTable.update, ConnTable.update, hclose]
    · exact ⟨_, by simpa [hc, hrdp] using hsame⟩

theorem close_closes {s s' : System} {ok free : Bool} {k : Slot} {stage : CloseStage}
    {next : Option CloseStage} (h : s.close ok free k stage = some (s', next)) :
    Closes s k free stage s' next := by
  cases stage with
  | check =>
      obtain ⟨st, heq⟩ := closeBegin_eq s.table k
      simp only [close, Option.some.injEq, Prod.mk.injEq] at h
      obtain ⟨rfl, rfl⟩ := h
      have hs : ({ s with table := (s.table.closeBegin k).1 } : System) =
          s.update k fun c => { c with rdpState := st } := by rw [heq]; rfl
      rw [hs]
      refine .check st _ ?_
      split
      · exact .inr rfl
      · exact .inl rfl
  | lock =>
      simp only [close] at h
      split at h
      · cases h
        exact .timedOut
      · split at h
        · rename_i hfree
          cases h
          exact .locked hfree
        · cases h
  | set =>
      cases h
      exact .set
  | flush stage =>
      simp only [close] at h
      split at h
      · rename_i hf
        cases h
        exact .flush _ _ _ (flush_flushes hf)
      · rename_i hf
        cases h
        cases flush_flushes hf with
        | done h4 he => exact .flushed _ h4 he

theorem pushRx_some {c c' : Conn QueuedPacket} {prio : Fin 4} {p : Option QueuedPacket}
    (h : c.pushRx prio p = some c') :
    c' = { c with rxQueue := Function.update c.rxQueue prio (c.rxQueue prio ++ [p]) } := by
  unfold Conn.pushRx at h
  split at h
  · exact (Option.some.inj h).symm
  · cases h

theorem pushEvent_some {c c' : Conn QueuedPacket} (h : c.pushEvent = some c') :
    c' = { c with rxEvent := c.rxEvent + 1 } := by
  unfold Conn.pushEvent at h
  split at h
  · exact (Option.some.inj h).symm
  · cases h

def push (s : System) (k : Slot) (prio : Fin 4) (p : Option QueuedPacket) : System :=
  s.update k fun c => { c with rxQueue := Function.update c.rxQueue prio (c.rxQueue prio ++ [p]) }

inductive RouterStep (me : Fin 32) (s : System) : System → Prop where
  | giveUp (h : s.router.setup = none) : RouterStep me s { s with router := .idle }
  | arrive (id : CspId) (length : UInt16) (h : s.router = .idle) :
      RouterStep me s
        { s with router := .find ⟨s.arrivals, id, length⟩, arrivals := s.arrivals + 1 }
  | forward (h : s.router = .idle) : RouterStep me s { s with arrivals := s.arrivals + 1 }
  | timeout (k : Slot) (h : s.router = .idle) (hopen : (s.table.conn k).state = .opened)
      (hrdp : (s.table.conn k).idin.flags &&& frdp ≠ 0) :
      RouterStep me s { s with router := .rdp none k }
  | find (p : QueuedPacket) (k : Slot) (h : s.router = .find p)
      (hk : s.table.cspConnFind (p.id.ext .little) connMask = some k) :
      RouterStep me s { s with router := .deliver p k }
  | create (p : QueuedPacket) (h : s.router = .find p)
      (hk : s.table.cspConnFind (p.id.ext .little) connMask = none) :
      RouterStep me s { s with router := .create p }
  | allocate (p : QueuedPacket) (k : Slot) (table : ConnTable QueuedPacket)
      (h : s.router = .create p) (hlock : s.server.locks = false)
      (hk : s.table.allocate .client = some (k, table)) :
      RouterStep me s { s with table := table, router := .fill p k }
  | fill (p : QueuedPacket) (k : Slot) (h : s.router = .fill p k) :
      RouterStep me s { (s.update k fun c =>
        { c with idin := p.id, idout := routeIdout me p.id }).observe (.created k p.id) with
          router := .clear p k 0 }
  | clear (p : QueuedPacket) (k : Slot) (stage stage' : Nat) (s' : System)
      (h : s.router = .clear p k stage) (hf : Flushes s k stage s' (some stage')) :
      RouterStep me s { s' with router := .clear p k stage' }
  | cleared (p : QueuedPacket) (k : Slot) (stage : Nat) (h : s.router = .clear p k stage)
      (h4 : 4 ≤ stage) (he : (s.table.conn k).rxEvent = 0) :
      RouterStep me s { s with router := .attach p k }
  | attach (p : QueuedPacket) (k : Slot) (h : s.router = .attach p k) :
      RouterStep me s
        { s.update k fun c => { c with socket := true } with router := .deliver p k }
  | toRdp (p : QueuedPacket) (k : Slot) (h : s.router = .deliver p k) (hp : p.overRdp = true) :
      RouterStep me s { s with router := .rdp (some p) k }
  | push (p : QueuedPacket) (k : Slot) (h : s.router = .deliver p k) (hp : p.overRdp = false) :
      RouterStep me s { s.push k p.id.pri (some p) with router := .event p k }
  | event (p : QueuedPacket) (k : Slot) (h : s.router = .event p k) :
      RouterStep me s
        { s.update k fun c => { c with rxEvent := c.rxEvent + 1 } with router := .post p k }
  | posted (p : QueuedPacket) (k : Slot) (h : s.router = .post p k)
      (hsock : (s.table.conn k).socket = false) :
      RouterStep me s { s.observe (.delivered k p) with router := .idle }
  | post (p : QueuedPacket) (k : Slot) (h : s.router = .post p k)
      (hroom : s.backlog.length < 10) :
      RouterStep me s
        { s.observe (.delivered k p) with backlog := s.backlog ++ [k], router := .detach k }
  | full (p : QueuedPacket) (k : Slot) (h : s.router = .post p k)
      (hsock : (s.table.conn k).socket = true) :
      RouterStep me s { s with router := .close k .check }
  | detach (k : Slot) (h : s.router = .detach k) :
      RouterStep me s { s.update k fun c => { c with socket := false } with router := .idle }
  | close (k : Slot) (stage : CloseStage) (s' : System) (next : Option CloseStage)
      (h : s.router = .close k stage) (hc : Closes s k (!s.server.locks) stage s' next) :
      RouterStep me s { s' with router := next.elim .idle fun stage => .close k stage }
  | rdpState (p : Option QueuedPacket) (k : Slot) (st : RdpState) (h : s.router = .rdp p k) :
      RouterStep me s (s.update k fun c => { c with rdpState := st })
  | rdpStore (p : QueuedPacket) (k : Slot) (h : s.router = .rdp (some p) k) :
      RouterStep me s
        { s.update k fun c => { c with rdpRx := c.rdpRx ++ [p] } with router := .rdp none k }
  | rdpNull (p : Option QueuedPacket) (k : Slot) (h : s.router = .rdp p k) :
      RouterStep me s (s.push k 3 none)
  | rdpEnqueue (p : QueuedPacket) (k : Slot) (h : s.router = .rdp (some p) k) :
      RouterStep me s { s.push k p.id.pri (some p) with router := .rdp none k }
  | rdpStored (p : Option QueuedPacket) (k : Slot) (q : QueuedPacket) (h : s.router = .rdp p k)
      (hq : q ∈ (s.table.conn k).rdpRx) :
      RouterStep me s (s.update k fun c =>
        { c with
          rdpRx := c.rdpRx.erase q
          rxQueue := Function.update c.rxQueue q.id.pri (c.rxQueue q.id.pri ++ [some q]) })
  | rdpEvent (p : Option QueuedPacket) (k : Slot) (h : s.router = .rdp p k) :
      RouterStep me s (s.update k fun c => { c with rxEvent := c.rxEvent + 1 })
  | rdpPost (p : Option QueuedPacket) (k : Slot) (h : s.router = .rdp p k)
      (hroom : s.backlog.length < 10) : RouterStep me s { s with backlog := s.backlog ++ [k] }
  | rdpDetach (p : Option QueuedPacket) (k : Slot) (h : s.router = .rdp p k) :
      RouterStep me s (s.update k fun c => { c with socket := false })
  | rdpClose (p : Option QueuedPacket) (k : Slot) (h : s.router = .rdp p k) :
      RouterStep me s { s with router := .close k .check }

theorem route_step {me : Fin 32} {ok : Bool} {s s' : System} (h : s.route me ok = some s') :
    RouterStep me s s' := by
  unfold route at h
  split at h
  · cases h
  · cases h
  · rename_i p hr
    split at h
    · cases h
      exact .giveUp (by rw [hr]; rfl)
    · split at h
      · rename_i k hk
        cases h
        exact .find p k hr hk
      · rename_i hk
        cases h
        split
        · exact .create p hr hk
        · exact .giveUp (by rw [hr]; rfl)
  · rename_i p hr
    split at h
    · cases h
      exact .giveUp (by rw [hr]; rfl)
    · split at h
      · cases h
      · rename_i hlock
        split at h
        · cases h
          exact .giveUp (by rw [hr]; rfl)
        · rename_i k table hk
          cases h
          exact .allocate p k table hr (Bool.eq_false_iff.mpr hlock) hk
  · rename_i p k hr
    cases h
    exact .fill p k hr
  · rename_i p k stage hr
    split at h
    · rename_i hf
      cases h
      exact .clear p k stage _ _ hr (flush_flushes hf)
    · rename_i hf
      cases h
      cases flush_flushes hf with
      | done h4 he => exact .cleared p k stage hr h4 he
  · rename_i p k hr
    cases h
    exact .attach p k hr
  · rename_i p k hr
    split at h
    · rename_i hp
      cases h
      exact .toRdp p k hr hp
    · rename_i hp
      split at h
      · cases h
        exact .giveUp (by rw [hr]; rfl)
      · rename_i c hc
        cases h
        obtain rfl := pushRx_some hc
        exact .push p k hr (Bool.eq_false_iff.mpr hp)
  · rename_i p k hr
    split at h
    · cases h
      exact .giveUp (by rw [hr]; rfl)
    · rename_i c hc
      cases h
      obtain rfl := pushEvent_some hc
      exact .event p k hr
  · rename_i p k hr
    split at h
    · rename_i hsock
      cases h
      exact .posted p k hr (Bool.eq_false_iff.mpr hsock)
    · rename_i hsock
      split at h
      · rename_i hroom
        cases h
        exact .post p k hr hroom
      · cases h
        exact .full p k hr (by simpa using hsock)
  · rename_i k hr
    cases h
    exact .detach k hr
  · rename_i k stage hr
    obtain ⟨⟨s₁, next⟩, hclose, rfl⟩ := Option.map_eq_some_iff.mp h
    exact .close k stage s₁ next hr (close_closes hclose)

theorem routeRdp_step {me : Fin 32} {act : RdpAct} {s s' : System}
    (h : s.routeRdp act = some s') : RouterStep me s s' := by
  unfold routeRdp at h
  split at h
  · rename_i p k hr
    cases act with
    | setState st =>
        cases h
        exact .rdpState p k st hr
    | store =>
        obtain ⟨q, rfl, rfl⟩ := Option.map_eq_some_iff.mp h
        exact .rdpStore q k hr
    | enqueueNull =>
        obtain ⟨c, hc, rfl⟩ := Option.map_eq_some_iff.mp h
        obtain rfl := pushRx_some hc
        exact .rdpNull p k hr
    | enqueue =>
        obtain ⟨q, rfl, h⟩ := Option.bind_eq_some_iff.mp h
        obtain ⟨c, hc, rfl⟩ := Option.map_eq_some_iff.mp h
        obtain rfl := pushRx_some hc
        exact .rdpEnqueue q k hr
    | enqueueStored q =>
        simp only at h
        split at h
        · rename_i hq
          obtain ⟨c, hc, rfl⟩ := Option.map_eq_some_iff.mp h
          obtain rfl := pushRx_some hc
          exact .rdpStored p k q hr hq
        · cases h
    | event =>
        obtain ⟨c, hc, rfl⟩ := Option.map_eq_some_iff.mp h
        obtain rfl := pushEvent_some hc
        exact .rdpEvent p k hr
    | post =>
        simp only at h
        split at h
        · rename_i hroom
          cases h
          exact .rdpPost p k hr hroom.2
        · cases h
    | detach =>
        cases h
        exact .rdpDetach p k hr
    | close =>
        cases h
        exact .rdpClose p k hr
    | done =>
        cases h
        exact .giveUp (by rw [hr]; rfl)
  · cases h

inductive ServerStep (me : Fin 32) (s : System) : System → Prop where
  | accept (k : Slot) (backlog : List Slot) (h : s.server = .accept) (hb : s.backlog = k :: backlog) :
      ServerStep me s { s.observe (.accepted k (s.table.conn k).idin) with
        backlog := backlog, server := .accepted k }
  | ftp (k : Slot) (h : s.server = .accepted k) (hp : (s.table.conn k).idin.dport = ftpPort) :
      ServerStep me s { s with server := .accept }
  | toRead (k : Slot) (h : s.server = .accepted k) (hp : (s.table.conn k).idin.dport ≠ ftpPort) :
      ServerStep me s { s with server := .read k }
  | toWait (k : Slot) (h : s.server = .read k) : ServerStep me s { s with server := .wait k }
  | readClosed (k : Slot) (h : s.server = .read k) (hc : (s.table.conn k).state ≠ .opened) :
      ServerStep me s { s with server := .close k false .check }
  | toTake (k : Slot) (h : s.server = .wait k) :
      ServerStep me s
        { s.update k fun c => { c with rxEvent := c.rxEvent - 1 } with server := .take k }
  | timedOut (k : Slot) (h : s.server = .wait k) (he : (s.table.conn k).rxEvent = 0) :
      ServerStep me s { s with server := .close k false .check }
  | takeEmpty (k : Slot) (h : s.server = .take k) (hq : ∀ prio, (s.table.conn k).rxQueue prio = []) :
      ServerStep me s { s with server := .close k false .check }
  | takeNull (k : Slot) (prio : Fin 4) (rest : List (Option QueuedPacket)) (h : s.server = .take k)
      (hq : (s.table.conn k).rxQueue prio = none :: rest) :
      ServerStep me s
        { s.update k fun c => { c with rxQueue := Function.update c.rxQueue prio rest } with
          server := .close k false .check }
  | take (k : Slot) (p : QueuedPacket) (prio : Fin 4) (rest : List (Option QueuedPacket))
      (h : s.server = .take k) (hq : (s.table.conn k).rxQueue prio = some p :: rest) :
      ServerStep me s
        { (s.update k fun c => { c with rxQueue := Function.update c.rxQueue prio rest }).observe
            (.taken k p) with
          server := .handle k p }
  | receive (k : Slot) (p : QueuedPacket) (h : s.server = .handle k p)
      (hp : (s.table.conn k).idin.dport = myPort) :
      ServerStep me s
        { s.observe (.received k p (s.table.conn k).idin (s.table.conn 2).idin) with
          server := .close k true .check }
  | reply (k : Slot) (p : QueuedPacket) (h : s.server = .handle k p)
      (hp : (s.table.conn k).idin.dport ≠ myPort) : ServerStep me s { s with server := .connect k }
  | handled (k : Slot) (p : QueuedPacket) (h : s.server = .handle k p)
      (hp : (s.table.conn k).idin.dport ≠ myPort) :
      ServerStep me s { s with server := .close k true .check }
  | connectFails (k : Slot) (h : s.server = .connect k) :
      ServerStep me s { s with server := .close k true .check }
  | allocate (k j : Slot) (table : ConnTable QueuedPacket) (h : s.server = .connect k)
      (hlock : s.router.locks = false) (hj : s.table.allocate .client = some (j, table)) :
      ServerStep me s { s with table := table, server := .replyFill k j }
  | replyFill (k j : Slot) (sport : Fin 64) (h : s.server = .replyFill k j) (hs : 32 ≤ sport) :
      ServerStep me s { (s.update j fun c =>
        { c with
          idin := incomingId 2 me 23 15 sport, idout := outgoingId 2 me 23 15 sport }).observe
            (.created j (incomingId 2 me 23 15 sport)) with
          server := .replyClear k j 0 }
  | replyClear (k j : Slot) (stage stage' : Nat) (s' : System) (h : s.server = .replyClear k j stage)
      (hf : Flushes s j stage s' (some stage')) :
      ServerStep me s { s' with server := .replyClear k j stage' }
  | replyCleared (k j : Slot) (stage : Nat) (h : s.server = .replyClear k j stage)
      (h4 : 4 ≤ stage) (he : (s.table.conn j).rxEvent = 0) :
      ServerStep me s { s with server := .close k true .check }
  | close (k : Slot) (inLoop : Bool) (stage : CloseStage) (s' : System) (next : Option CloseStage)
      (h : s.server = .close k inLoop stage) (hc : Closes s k (!s.router.locks) stage s' next) :
      ServerStep me s
        { (if stage = .set ∧ (s.table.conn k).state = .opened then
            s'.observe (.closed k (s.table.conn k).idin) else s') with
          server :=
            next.elim (if inLoop then .read k else .accept) fun stage => .close k inLoop stage }

theorem serve_step {me : Fin 32} {ok : Bool} {sport : Fin 64} {s s' : System}
    (h : s.serve me ok sport = some s') : ServerStep me s s' := by
  unfold serve at h
  split at h
  · rename_i hr
    split at h
    · cases h
    · rename_i k backlog hb
      cases h
      exact .accept k backlog hr hb
  · rename_i k hr
    cases h
    split
    · rename_i hp
      exact .ftp k hr hp
    · rename_i hp
      exact .toRead k hr hp
  · rename_i k hr
    cases h
    split
    · exact .toWait k hr
    · rename_i hc
      exact .readClosed k hr hc
  · rename_i k hr
    split at h
    · cases h
      exact .toTake k hr
    · rename_i he
      cases h
      exact .timedOut k hr (Nat.eq_zero_of_not_pos he)
  · rename_i k hr
    split at h
    · rename_i hq
      cases h
      exact .takeEmpty k hr (Conn.popRx_none hq)
    · rename_i c hpop
      cases h
      obtain ⟨prio, rest, hq, rfl⟩ := Conn.popRx_some hpop
      exact .takeNull k prio rest hr hq
    · rename_i p c hpop
      cases h
      obtain ⟨prio, rest, hq, rfl⟩ := Conn.popRx_some hpop
      exact .take k p prio rest hr hq
  · rename_i k p hr
    simp only at h
    split at h
    · rename_i hp
      cases h
      exact .receive k p hr hp
    · rename_i hp
      split at h
      · cases h
        exact .reply k p hr hp
      · cases h
        exact .handled k p hr hp
  · rename_i k hr
    split at h
    · cases h
      exact .connectFails k hr
    · split at h
      · cases h
      · rename_i hlock
        split at h
        · cases h
          exact .connectFails k hr
        · rename_i j table hj
          cases h
          exact .allocate k j table hr (Bool.eq_false_iff.mpr hlock) hj
  · rename_i k j hr
    split at h
    · rename_i hs
      cases h
      exact .replyFill k j sport hr hs
    · cases h
  · rename_i k j stage hr
    split at h
    · rename_i hf
      cases h
      exact .replyClear k j stage _ _ hr (flush_flushes hf)
    · rename_i hf
      cases h
      cases flush_flushes hf with
      | done h4 he => exact .replyCleared k j stage hr h4 he
  · rename_i k inLoop stage hr
    obtain ⟨⟨s₁, next⟩, hclose, rfl⟩ := Option.map_eq_some_iff.mp h
    exact .close k inLoop stage s₁ next hr (close_closes hclose)

theorem step_cases {me : Fin 32} {s s' : System} {m : Move} (h : s.step me m = some s') :
    RouterStep me s s' ∨ ServerStep me s s' := by
  cases m with
  | arrive id length =>
      simp only [step] at h
      split at h
      · rename_i hr
        cases h
        split
        · exact .inl (.arrive id length hr)
        · refine .inl ?_
          rw [← hr]
          exact .forward hr
      · cases h
  | timeout k =>
      simp only [step] at h
      split at h
      · rename_i hr
        cases h
        exact .inl (.timeout k hr.1 hr.2.1 hr.2.2)
      · cases h
  | route ok => exact .inl (route_step h)
  | rdp act => exact .inl (routeRdp_step h)
  | serve ok sport => exact .inr (serve_step h)

end System
end UhfGs.Station
