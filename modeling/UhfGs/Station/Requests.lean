import UhfGs.Csp.Connect
import UhfGs.Library.Runs

/-! The connections that `task_server` leaves open when it is done with a request. -/
namespace UhfGs.Station
open Csp Runs Cyclic Csp.ConnTable

/- The ports of `task_server`: `MY_PORT`, `RE_PORT`, `PING_RX_PORT` and `CSPTERM_PORT_FTP`. -/
def myPort : Fin 64 := 15
def rePort : Fin 64 := 16
def pingRxPort : Fin 64 := 17
def ftpPort : Fin 64 := 9

structure Pool where
  table : ConnTable Unit
  sport : Nat
  sport_ge : 32 ≤ sport
  sport_le : sport ≤ 63

/-- The outcomes around one packet that `csp_read` returns: what RDP traffic has made of the state
before the connection is closed, the locks of a reply's `csp_connect`, and the lock of
`csp_close`. `csp_send` does not touch the array. -/
structure Handling where
  rdp : Option RdpState
  sportLock : Bool
  connLock : Bool
  closeLock : Bool

/-- A request on one of the ports of `task_server`: its identifier, the lock that the router needs
for its connection, the packets read from it, and the outcomes of the last `csp_close`. -/
structure Request where
  id : CspId
  newLock : Bool
  reads : List Handling
  rdp : Option RdpState
  lastLock : Bool
  bound : id.dport < 32
  not_ftp : id.dport ≠ ftpPort

namespace Pool

def openCount (p : Pool) : Nat := p.table.openCount

def conn (p : Pool) (k : Slot) : Conn Unit := p.table.conn k

def traffic (p : Pool) (k : Slot) (st : Option RdpState) : Pool :=
  { p with table := p.table.update k fun c => { c with rdpState := st.getD c.rdpState } }

def close (p : Pool) (lock : Bool) (k : Slot) : Pool :=
  { p with table := p.table.cspClose lock k }

/-- The `csp_connect` of `reply_data`, to port 15 of node 23. Nobody closes the connection. -/
def replyData (me : Fin 32) (p : Pool) (h : Handling) : Pool :=
  let r := p.table.cspConnect h.sportLock h.connLock p.sport 2 me 23 15
  have hr : 32 ≤ r.2 ∧ r.2 ≤ 63 := cspConnect_sport _ _ _ _ _ _ _ p.sport_ge p.sport_le
  { table := (r.1.map Prod.snd).getD p.table, sport := r.2, sport_ge := hr.1, sport_le := hr.2 }

def handle (me : Fin 32) (k : Slot) (p : Pool) (h : Handling) : Pool :=
  let q := if (p.conn k).idin.dport = rePort then p.replyData me h else p
  (q.traffic k h.rdp).close h.closeLock k

/-- The read loop of `task_server`. A closed connection ends it. -/
def readLoop (me : Fin 32) (k : Slot) (p : Pool) : List Handling → Pool
  | [] => p
  | h :: hs =>
      if (p.conn k).state = .closed then p
      else readLoop me k (p.handle me k h) hs

/-- One request: the router's new connection, the read loop, and the `csp_close` after it. -/
def serveRequest (me : Fin 32) (p : Pool) (r : Request) : Pool :=
  match p.table.cspConnNew r.newLock r.id (routeIdout me r.id) with
  | none => p
  | some (k, table) =>
      ((readLoop me k { p with table := table } r.reads).traffic k r.rdp).close r.lastLock k

def Opens (p : Pool) (k : Slot) (h : Handling) : Prop :=
  (p.conn k).idin.dport = rePort ∧ p.openCount < 10 ∧ h.sportLock ∧ h.connLock

instance (p : Pool) (k : Slot) (h : Handling) : Decidable (p.Opens k h) :=
  inferInstanceAs (Decidable (_ ∧ _))

theorem replyData_spec (me : Fin 32) {p : Pool} {k : Slot} (h : Handling)
    (hopen : (p.conn k).state = .opened) :
    (p.replyData me h).conn k = p.conn k ∧
      (p.replyData me h).openCount =
        p.openCount + if p.openCount < 10 ∧ h.sportLock ∧ h.connLock then 1 else 0 := by
  obtain ⟨idin, idout, hfst⟩ := cspConnect_fst p.table h.sportLock h.connLock 2 me 23 15
    p.sport_ge p.sport_le
  have htable : (p.replyData me h).table =
      ((p.table.cspConnNew (h.sportLock && h.connLock) idin idout).map Prod.snd).getD p.table := by
    rw [← hfst]
    rfl
  have hnone := cspConnNew_eq_none_iff p.table (h.sportLock && h.connLock) idin idout
  unfold conn openCount at *
  rw [htable]
  cases hnew : p.table.cspConnNew (h.sportLock && h.connLock) idin idout with
  | none =>
      refine ⟨rfl, ?_⟩
      have hfail := hnone.mp hnew
      rw [if_neg (by grind)]
      rfl
  | some r =>
      obtain ⟨j, t⟩ := r
      obtain ⟨hclosed, hconn⟩ := cspConnNew_some hnew
      have hjk : k ≠ j := by
        rintro rfl
        rw [hclosed] at hopen
        cases hopen
      have hlock : ¬ ((h.sportLock && h.connLock) = false ∨ 10 ≤ p.table.openCount) := by
        rw [← hnone, hnew]
        simp
      rw [if_pos (by grind)]
      simp only [Option.map_some, Option.getD_some, hconn]
      exact ⟨update_conn_of_ne _ hjk _, cspConnNew_openCount hnew⟩

theorem close_spec {p : Pool} {k : Slot} (lock : Bool) (hopen : (p.conn k).state = .opened) :
    let a := attempt (p.conn k).usesRdp lock (p.conn k).rdpState
    let q := p.close lock k
    (q.conn k).state = (if a.2 then .closed else .opened) ∧ (q.conn k).rdpState = a.1 ∧
      (q.conn k).idin = (p.conn k).idin ∧ (q.conn k).idout = (p.conn k).idout ∧
      q.openCount + (if a.2 then 1 else 0) = p.openCount := by
  obtain ⟨c, heq, hstate, hrdp, hidin, hidout⟩ := cspClose_opened lock hopen
  have hconn : (p.close lock k).conn k = c := by
    rw [conn, close, heq, update_conn_self]
  have hcount := openCount_update p.table k fun _ => c
  rw [← heq, hstate, show (p.table.conn k).state = .opened from hopen] at hcount
  refine ⟨hconn ▸ hstate, hconn ▸ hrdp, hconn ▸ hidin, hconn ▸ hidout, ?_⟩
  unfold conn openCount close at *
  cases ha : (attempt (p.table.conn k).usesRdp lock (p.table.conn k).rdpState).2 with
  | true => simpa [ha] using hcount
  | false => simpa [ha] using hcount

theorem close_closed {p : Pool} {k : Slot} (lock : Bool) (h : (p.conn k).state = .closed) :
    p.close lock k = p := by
  have hsame : p.table.cspClose lock k = p.table := by
    simp [cspClose, closeBegin, show (p.table.conn k).state = .closed from h]
  rw [close, hsame]

theorem traffic_spec (p : Pool) (k : Slot) (st : Option RdpState) :
    (p.traffic k st).conn k = { p.conn k with rdpState := st.getD (p.conn k).rdpState } ∧
      (p.traffic k st).openCount = p.openCount := by
  constructor
  · rw [conn, traffic, update_conn_self]
    rfl
  · refine openCount_congr fun j => ?_
    rw [traffic, update_conn]
    split
    · subst j
      rfl
    · rfl

theorem handle_spec (me : Fin 32) {p : Pool} {k : Slot} (h : Handling)
    (hopen : (p.conn k).state = .opened) :
    let a := attempt (p.conn k).usesRdp h.closeLock (h.rdp.getD (p.conn k).rdpState)
    let q := p.handle me k h
    (q.conn k).state = (if a.2 then .closed else .opened) ∧ (q.conn k).rdpState = a.1 ∧
      (q.conn k).idin = (p.conn k).idin ∧ (q.conn k).idout = (p.conn k).idout ∧
      q.openCount + (if a.2 then 1 else 0) = p.openCount + if p.Opens k h then 1 else 0 := by
  have hreply : ∃ q : Pool, p.handle me k h = (q.traffic k h.rdp).close h.closeLock k ∧
      q.conn k = p.conn k ∧ q.openCount = p.openCount + if p.Opens k h then 1 else 0 := by
    obtain ⟨hconn, hcount⟩ := replyData_spec me h hopen
    by_cases hport : (p.conn k).idin.dport = rePort
    · refine ⟨p.replyData me h, by simp [handle, hport], hconn, ?_⟩
      simpa [Opens, hport] using hcount
    · exact ⟨p, by simp [handle, hport], rfl, by simp [Opens, hport]⟩
  obtain ⟨q, heq, hconn, hcount⟩ := hreply
  obtain ⟨htraffic, hsame⟩ := traffic_spec q k h.rdp
  rw [hconn] at htraffic
  have hclose := close_spec (p := q.traffic k h.rdp) h.closeLock (by rw [htraffic]; exact hopen)
  rw [htraffic, hsame, hcount] at hclose
  rw [heq]
  exact hclose

end Pool

/-- The packets that the loop handles before it closes the connection, and the RDP state when it
does not. -/
def handled (rdp : Bool) : RdpState → List Handling → List Handling × Option RdpState
  | st, [] => ([], some st)
  | st, h :: hs =>
      let a := attempt rdp h.closeLock (h.rdp.getD st)
      if a.2 then ([h], none)
      else
        let rest := handled rdp a.1 hs
        (h :: rest.1, rest.2)

namespace Pool

theorem readLoop_closed {me : Fin 32} {p : Pool} {k : Slot} (hs : List Handling)
    (h : (p.conn k).state = .closed) : readLoop me k p hs = p := by
  cases hs with
  | nil => rfl
  | cons _ _ => rw [readLoop, if_pos h]

theorem readLoop_spec (me : Fin 32) {k : Slot} (hs : List Handling) (p : Pool)
    (hopen : (p.conn k).state = .opened) :
    let a := handled (p.conn k).usesRdp (p.conn k).rdpState hs
    let q := readLoop me k p hs
    (∀ st, a.2 = some st → (q.conn k).state = .opened ∧ (q.conn k).rdpState = st ∧
      (q.conn k).usesRdp = (p.conn k).usesRdp) ∧
    (a.2 = none → (q.conn k).state = .closed) ∧
    ∃ n, q.openCount + (if a.2 = none then 1 else 0) = p.openCount + n ∧
      (n = 0 ↔ ∀ h ∈ a.1, ¬ p.Opens k h) := by
  induction hs generalizing p with
  | nil => exact ⟨fun st hst => ⟨hopen, Option.some.inj hst, rfl⟩, nofun, 0, rfl, by simp [handled]⟩
  | cons h hs ih =>
      obtain ⟨hstate, hrdp, hidin, hidout, hcount⟩ := handle_spec me h hopen
      have huse : ((p.handle me k h).conn k).usesRdp = (p.conn k).usesRdp := by
        rw [Conn.usesRdp, hidin, hidout]
        rfl
      rw [readLoop, if_neg (by rw [hopen]; nofun), handled]
      cases ha : (attempt (p.conn k).usesRdp h.closeLock (h.rdp.getD (p.conn k).rdpState)).2 with
      | true =>
          rw [ha] at hstate hcount
          rw [readLoop_closed hs hstate]
          refine ⟨nofun, fun _ => hstate, _, hcount, ?_⟩
          by_cases ho : p.Opens k h
          all_goals simp [ho]
      | false =>
          rw [ha] at hstate hcount
          have hnext := ih (p.handle me k h) hstate
          rw [huse, hrdp] at hnext
          obtain ⟨hsome, hnone, n, hn, hzero⟩ := hnext
          refine ⟨hsome, hnone, n + (if p.Opens k h then 1 else 0), ?_, ?_⟩
          · simp only [Bool.false_eq_true, if_false, Nat.add_zero] at hcount ⊢
            omega
          · by_cases ho : p.Opens k h
            · simp [ho]
            · have hsame (h' : Handling) : (p.handle me k h).Opens k h' ↔ p.Opens k h' := by
                simp only [ho, Bool.false_eq_true, if_false, Nat.add_zero] at hcount
                rw [Opens, Opens, hidin, hcount]
              simpa [ho, hsame] using hzero

end Pool

namespace Request

def overRdp (r : Request) : Bool := r.id.flags &&& frdp ≠ 0

/-- One of the `csp_close` calls closes the connection, whose RDP state starts as `st`. -/
def closes (r : Request) (st : RdpState) : Bool :=
  match (handled r.overRdp st r.reads).2 with
  | none => true
  | some st => (attempt r.overRdp r.lastLock (r.rdp.getD st)).2

end Request

namespace Pool

/-- The number of open slots is the same after the request. -/
def Conserves (me : Fin 32) (p : Pool) (r : Request) : Prop :=
  (p.serveRequest me r).openCount = p.openCount

/-- The request is not on the reply port, or no second slot is free, or none of its packets finds
both locks for the `csp_connect` of `reply_data`. -/
def Quiet (p : Pool) (r : Request) (k : Slot) : Prop :=
  r.id.dport = rePort → p.openCount < 9 →
    ∀ h ∈ (handled r.overRdp (p.conn k).rdpState r.reads).1, ¬ (h.sportLock ∧ h.connLock)

/-- A request that gets slot `k` gets it closed too, and no other one opened. -/
def Balanced (p : Pool) (r : Request) : Prop :=
  ∀ k, r.newLock → scan p.table.isClosed 10 (p.table.lastGiven + 1) = some k →
    r.closes (p.conn k).rdpState ∧ p.Quiet r k

/-- The slots that a served request leaves open besides those that were. -/
theorem serveRequest_spec (me : Fin 32) {p : Pool} {r : Request} {k : Slot} (hlock : r.newLock)
    (hk : scan p.table.isClosed 10 (p.table.lastGiven + 1) = some k) :
    ∃ n, (p.serveRequest me r).openCount + (if r.closes (p.conn k).rdpState then 1 else 0) =
      p.openCount + 1 + n ∧ (n = 0 ↔ p.Quiet r k) := by
  unfold serveRequest
  have hfst := cspConnNew_fst p.table r.newLock r.id (routeIdout me r.id)
  rw [if_pos hlock, hk] at hfst
  obtain ⟨⟨j, t⟩, hnew, hj⟩ := Option.map_eq_some_iff.mp hfst
  obtain rfl : j = k := hj
  obtain ⟨hclosed, hconn⟩ := cspConnNew_some hnew
  have hcount := cspConnNew_openCount hnew
  let q : Pool := { p with table := t }
  have hq : q.conn j = Conn.flushRxQueue { p.conn j with
      state := .opened, socket := false, type := .client, idin := r.id,
      idout := routeIdout me r.id } :=
    (congrFun hconn j).trans (update_conn_self _ _ _)
  have huse : (q.conn j).usesRdp = r.overRdp := by
    rw [hq]
    exact Bool.or_self _
  have hrdp : (q.conn j).rdpState = (p.conn j).rdpState := by
    rw [hq]
    rfl
  have hopens (h : Handling) : q.Opens j h ↔
      r.id.dport = rePort ∧ p.openCount < 9 ∧ h.sportLock ∧ h.connLock := by
    have hroom : q.openCount < 10 ↔ p.openCount < 9 := by
      rw [openCount, openCount, hcount]
      omega
    rw [Opens, hq, hroom]
    rfl
  obtain ⟨hsome, hnone, n, hn, hzero⟩ := readLoop_spec me r.reads q (by rw [hq]; rfl)
  rw [huse, hrdp] at hsome hnone hn hzero
  have hquiet : n = 0 ↔ p.Quiet r j := by
    rw [hzero]
    unfold Quiet
    simp only [hopens]
    grind
  rw [hnew]
  refine ⟨n, ?_, hquiet⟩
  obtain ⟨htraffic, hsame⟩ := traffic_spec (readLoop me j q r.reads) j r.rdp
  have hbefore : p.openCount + 1 + n = q.openCount + n := by
    rw [openCount, openCount, hcount]
  rw [hbefore, ← hn]
  unfold Request.closes
  cases hleft : (handled r.overRdp (p.conn j).rdpState r.reads).2 with
  | none =>
      have hstate : ((readLoop me j q r.reads).traffic j r.rdp |>.conn j).state = .closed := by
        rw [htraffic]
        exact hnone hleft
      simp only [if_true]
      rw [close_closed _ hstate, hsame]
  | some st =>
      obtain ⟨hstate, hst, huse'⟩ := hsome st hleft
      have hclose := close_spec r.lastLock (p := (readLoop me j q r.reads).traffic j r.rdp)
        (k := j) (by rw [htraffic]; exact hstate)
      have huse'' : ((readLoop me j q r.reads).traffic j r.rdp |>.conn j).usesRdp = r.overRdp := by
        rw [htraffic]
        exact huse'
      rw [huse'', htraffic, hsame, hst] at hclose
      simpa using hclose.2.2.2.2

theorem conserves_iff_balanced (me : Fin 32) (p : Pool) (r : Request) :
    p.Conserves me r ↔ p.Balanced r := by
  cases hlock : r.newLock with
  | false =>
      have hsame : p.serveRequest me r = p := by
        simp [serveRequest, hlock, cspConnNew, cspConnAllocate]
      simp [Conserves, Balanced, hsame, hlock]
  | true =>
      cases hk : scan p.table.isClosed 10 (p.table.lastGiven + 1) with
      | none =>
          have hsame : p.serveRequest me r = p := by
            simp [serveRequest, hlock, cspConnNew, cspConnAllocate, allocate, hk]
          simp [Conserves, Balanced, hsame, hk]
      | some k =>
          obtain ⟨n, hcount, hzero⟩ := serveRequest_spec me hlock hk
          unfold Conserves Balanced
          simp only [hlock, hk, Option.some.injEq, true_implies, forall_eq']
          rw [← hzero]
          cases hc : r.closes (p.conn k).rdpState with
          | true =>
              simp only [hc, if_true] at hcount
              simp only [true_and]
              omega
          | false =>
              simp only [hc, Bool.false_eq_true, if_false] at hcount
              simp only [Bool.false_eq_true, false_and, iff_false]
              intro hsame
              rw [hsame] at hcount
              omega

end Pool

/-- The number of open slots stays the same over a run of requests exactly if each of them is
balanced where it arrives, and then no number of requests uses the slots up. -/
theorem serve_conserves_iff (me : Fin 32) (p : Pool) (rs : List Request) :
    (Along (Pool.serveRequest me) (Pool.Conserves me) p rs ↔
      Along (Pool.serveRequest me) Pool.Balanced p rs) ∧
    (Along (Pool.serveRequest me) Pool.Balanced p rs →
      (rs.foldl (Pool.serveRequest me) p).openCount = p.openCount) := by
  have hiff : Along (Pool.serveRequest me) (Pool.Conserves me) p rs ↔
      Along (Pool.serveRequest me) Pool.Balanced p rs :=
    along_congr (fun _ => True) (fun _ _ _ _ => trivial)
      (fun p r _ => Pool.conserves_iff_balanced me p r) rs p trivial
  exact ⟨hiff, fun hbalanced => (hiff.mpr hbalanced).const⟩

def Pool.start : Pool where
  table := (ConnTable.init.allocate .server).elim .init Prod.snd
  sport := 32
  sport_ge := by decide
  sport_le := by decide

def replyRequest : Request where
  id := { pri := 2, src := 1, dst := 25, dport := 16, sport := 40, flags := 0 }
  newLock := true
  reads := [{ rdp := none, sportLock := true, connLock := true, closeLock := true }]
  rdp := none
  lastLock := true
  bound := by decide
  not_ftp := by decide

theorem not_serve_conserves :
    ¬ ∀ (me : Fin 32) (p : Pool) (rs : List Request),
      Along (Pool.serveRequest me) (Pool.Conserves me) p rs := by
  intro h
  have hone := (h 25 .start [replyRequest]).1
  have hbefore : Pool.start.openCount = 1 := by decide
  have hafter : (Pool.serveRequest 25 .start replyRequest).openCount = 2 := by decide +kernel
  rw [Pool.Conserves, hbefore, hafter] at hone
  cases hone

end UhfGs.Station
