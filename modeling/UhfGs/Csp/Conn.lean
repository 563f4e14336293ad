import Mathlib.Data.Fintype.Basic
import Mathlib.Logic.Function.Basic
import UhfGs.Library.Cyclic
import UhfGs.Library.Queues
import UhfGs.Csp.Types

/-! The connection array of `csp_conn.c`. -/
namespace UhfGs.Csp
open Bytes Cyclic Queues

inductive ConnState where
  | closed
  | opened
  deriving DecidableEq, Repr

inductive ConnType where
  | client
  | server
  deriving DecidableEq, Repr

inductive RdpState where
  | closed
  | synSent
  | synRcvd
  | opened
  | closeWait
  deriving DecidableEq, Repr

abbrev Slot := Fin 10

instance neZeroSlot : NeZero 10 := ⟨by decide⟩

/-- `csp_conn_t`, over packets of type `π`. The queues hold packet pointers, and RDP also puts a
null pointer there; `socket` says whether the connection still has to be posted. -/
structure Conn (π : Type) where
  state : ConnState
  type : ConnType
  idin : CspId
  idout : CspId
  rxEvent : Nat
  rxQueue : Fin 4 → List (Option π)
  socket : Bool
  rdpState : RdpState
  rdpRx : List π

structure ConnTable (π : Type) where
  conn : Slot → Conn π
  lastGiven : Slot

variable {π : Type}

namespace Conn

def init : Conn π where
  state := .closed
  type := .client
  idin := .zero
  idout := .zero
  rxEvent := 0
  rxQueue := fun _ => []
  socket := false
  rdpState := .closed
  rdpRx := []

def usesRdp (c : Conn π) : Bool := c.idin.flags &&& frdp ≠ 0 || c.idout.flags &&& frdp ≠ 0

def queued (c : Conn π) : List π := ((List.finRange 4).flatMap c.rxQueue).filterMap id

def flushRxQueue (c : Conn π) : Conn π := { c with rxQueue := fun _ => [], rxEvent := 0 }

/- `csp_conn_enqueue_packet` in its two halves. A null pointer goes to the last queue. -/
def pushRx (c : Conn π) (prio : Fin 4) (packet : Option π) : Option (Conn π) :=
  if (c.rxQueue prio).length < 25 then
    some { c with rxQueue := Function.update c.rxQueue prio (c.rxQueue prio ++ [packet]) }
  else none

def pushEvent (c : Conn π) : Option (Conn π) :=
  if c.rxEvent < 100 then some { c with rxEvent := c.rxEvent + 1 } else none

/-- The last loop of `csp_read`: the head of the first queue that is not empty. -/
def popRx (c : Conn π) : Option (Option π × Conn π) :=
  (List.finRange 4).findSome? fun prio =>
    match c.rxQueue prio with
    | [] => none
    | packet :: rest => some (packet, { c with rxQueue := Function.update c.rxQueue prio rest })

theorem popRx_some {c c' : Conn π} {packet : Option π} (h : c.popRx = some (packet, c')) :
    ∃ prio rest, c.rxQueue prio = packet :: rest ∧
      c' = { c with rxQueue := Function.update c.rxQueue prio rest } := by
  obtain ⟨prio, -, hprio⟩ := List.exists_of_findSome?_eq_some h
  split at hprio
  · cases hprio
  · rename_i p rest hq
    cases hprio
    exact ⟨prio, rest, hq, rfl⟩

theorem popRx_none {c : Conn π} (h : c.popRx = none) (prio : Fin 4) : c.rxQueue prio = [] := by
  have hp := List.findSome?_eq_none_iff.mp h prio (List.mem_finRange prio)
  split at hp
  · assumption
  · cases hp

end Conn

/-- The outgoing identifier that `csp_route_work` gives to a new incoming connection. -/
def routeIdout (me : Fin 32) (id : CspId) : CspId where
  pri := id.pri
  src := me
  dst := id.src
  dport := id.sport
  sport := id.dport
  flags := id.flags

namespace ConnTable

/-- The array after `csp_conn_init`: zeroed memory. -/
def init : ConnTable π := ⟨fun _ => .init, 0⟩

def update (t : ConnTable π) (k : Slot) (f : Conn π → Conn π) : ConnTable π :=
  { t with conn := Function.update t.conn k (f (t.conn k)) }

@[simp] theorem update_conn_self (t : ConnTable π) (k : Slot) (f : Conn π → Conn π) :
    (t.update k f).conn k = f (t.conn k) := Function.update_self k _ _

theorem update_conn_of_ne (t : ConnTable π) {k j : Slot} (h : j ≠ k) (f : Conn π → Conn π) :
    (t.update k f).conn j = t.conn j := Function.update_of_ne h _ _

theorem update_conn (t : ConnTable π) (k j : Slot) (f : Conn π → Conn π) :
    (t.update k f).conn j = if j = k then f (t.conn k) else t.conn j := by
  by_cases h : j = k
  · subst h
    simp
  · simp [h, update_conn_of_ne]

def isClosed (t : ConnTable π) (k : Slot) : Bool := (t.conn k).state = .closed

def cspConnFind (t : ConnTable π) (id mask : Nat) : Option Slot :=
  (List.finRange 10).find? fun k =>
    (t.conn k).state ≠ .closed ∧ (t.conn k).type = .client ∧
      (t.conn k).idin.ext .little &&& mask = id &&& mask

/-- `csp_conn_allocate` under the lock. After a whole turn without a closed connection the last
one looked at is open. -/
def allocate (t : ConnTable π) (type : ConnType) : Option (Slot × ConnTable π) :=
  (scan t.isClosed 10 (t.lastGiven + 1)).map fun k =>
    (k, { t.update k fun c => { c with state := .opened, socket := false, type := type } with
      lastGiven := k })

/-- `lock` is whether the lock is obtained in time. -/
def cspConnAllocate (lock : Bool) (t : ConnTable π) (type : ConnType) :
    Option (Slot × ConnTable π) :=
  if lock then t.allocate type else none

def cspConnNew (lock : Bool) (t : ConnTable π) (idin idout : CspId) :
    Option (Slot × ConnTable π) :=
  (t.cspConnAllocate lock .client).map fun (k, t) =>
    (k, (t.update k fun c => { c with idin := idin, idout := idout }).update k Conn.flushRxQueue)

/-- `csp_rdp_close`, and whether it asks to be called again. -/
def cspRdpClose (c : Conn π) : Conn π × Bool :=
  match c.rdpState with
  | .closed => (c, false)
  | .closeWait => ({ c with rdpState := .closed }, false)
  | _ => ({ c with rdpState := .closeWait }, true)

/-- `csp_close` up to the lock, and whether it goes on to take it. -/
def closeBegin (t : ConnTable π) (k : Slot) : ConnTable π × Bool :=
  let c := t.conn k
  if c.state = .closed then (t, false)
  else if c.usesRdp then (t.update k fun c => (cspRdpClose c).1, !(cspRdpClose c).2)
  else (t, true)

/- `csp_close` under the lock. -/
def setClosed (t : ConnTable π) (k : Slot) : ConnTable π :=
  t.update k fun c => { c with state := .closed }

def closeFlush (t : ConnTable π) (k : Slot) : ConnTable π :=
  t.update k fun c =>
    { c.flushRxQueue with rdpRx := if c.idin.flags &&& frdp ≠ 0 then [] else c.rdpRx }

def cspClose (lock : Bool) (t : ConnTable π) (k : Slot) : ConnTable π :=
  let (t, goesOn) := t.closeBegin k
  if goesOn ∧ lock then (t.setClosed k).closeFlush k else t

theorem cspConnFind_some {t : ConnTable π} {id mask : Nat} {k : Slot}
    (h : t.cspConnFind id mask = some k) :
    (t.conn k).state = .opened ∧ (t.conn k).type = .client ∧
      (t.conn k).idin.ext .little &&& mask = id &&& mask := by
  have hk := List.find?_some h
  simp only [ne_eq, decide_eq_true_eq] at hk
  refine ⟨?_, hk.2⟩
  cases hs : (t.conn k).state with
  | closed => exact absurd hs hk.1
  | opened => rfl

theorem allocate_some {t t' : ConnTable π} {type : ConnType} {k : Slot}
    (h : t.allocate type = some (k, t')) :
    (t.conn k).state = .closed ∧
      t' = { t.update k fun c => { c with state := .opened, socket := false, type := type } with
        lastGiven := k } := by
  obtain ⟨j, hj, heq⟩ := Option.map_eq_some_iff.mp h
  obtain ⟨rfl, rfl⟩ := Prod.mk.inj heq
  exact ⟨by simpa [isClosed] using scan_some hj, rfl⟩

theorem allocate_eq_none_iff {t : ConnTable π} {type : ConnType} :
    t.allocate type = none ↔ ∀ k, (t.conn k).state = .opened := by
  rw [allocate, Option.map_eq_none_iff, scan_full_eq_none_iff]
  refine forall_congr' fun k => ?_
  cases h : (t.conn k).state with
  | closed => simp [isClosed, h]
  | opened => simp [isClosed, h]

theorem cspConnNew_fst (t : ConnTable π) (lock : Bool) (idin idout : CspId) :
    (t.cspConnNew lock idin idout).map Prod.fst =
      if lock then scan t.isClosed 10 (t.lastGiven + 1) else none := by
  cases lock with
  | false => rfl
  | true => simp [cspConnNew, cspConnAllocate, allocate, Function.comp_def]

theorem cspConnNew_some {t t' : ConnTable π} {lock : Bool} {idin idout : CspId} {k : Slot}
    (h : t.cspConnNew lock idin idout = some (k, t')) :
    (t.conn k).state = .closed ∧
      t'.conn = (t.update k fun c => Conn.flushRxQueue
        { c with state := .opened, socket := false, type := .client, idin, idout }).conn := by
  obtain ⟨⟨j, t₁⟩, halloc, heq⟩ := Option.map_eq_some_iff.mp h
  obtain ⟨rfl, rfl⟩ := Prod.mk.inj heq
  unfold cspConnAllocate at halloc
  split at halloc
  · obtain ⟨hclosed, rfl⟩ := allocate_some halloc
    refine ⟨hclosed, ?_⟩
    simp [update, Conn.flushRxQueue]
  · cases halloc

/-- What `csp_close` makes of the RDP state of an open connection, and whether it closes it. -/
def attempt (rdp lock : Bool) (st : RdpState) : RdpState × Bool :=
  match rdp, st with
  | false, st => (st, lock)
  | true, .closed | true, .closeWait => (.closed, lock)
  | true, _ => (.closeWait, false)

theorem cspClose_opened {t : ConnTable π} {k : Slot} (lock : Bool)
    (h : (t.conn k).state = .opened) :
    let a := attempt (t.conn k).usesRdp lock (t.conn k).rdpState
    ∃ c, t.cspClose lock k = t.update k (fun _ => c) ∧
      (c.state = if a.2 then .closed else .opened) ∧ c.rdpState = a.1 ∧
      c.idin = (t.conn k).idin ∧ c.idout = (t.conn k).idout := by
  cases hrdp : (t.conn k).usesRdp with
  | false =>
      cases lock with
      | false => exact ⟨t.conn k, by simp [cspClose, closeBegin, h, hrdp, update], h, rfl, rfl, rfl⟩
      | true =>
          refine ⟨(((t.setClosed k).closeFlush k).conn k), ?_, ?_, ?_, ?_, ?_⟩
          · simp [cspClose, closeBegin, h, hrdp, setClosed, closeFlush, update]
          all_goals simp [setClosed, closeFlush, Conn.flushRxQueue, attempt]
  | true =>
      refine ⟨(t.cspClose lock k).conn k, ?_, ?_, ?_, ?_, ?_⟩
      all_goals
        cases lock <;> cases hst : (t.conn k).rdpState <;>
          simp [cspClose, closeBegin, h, hrdp, cspRdpClose, hst, setClosed, closeFlush, update,
            Conn.flushRxQueue, attempt]

def openCount (t : ConnTable π) : Nat := ∑ k, if (t.conn k).state = .opened then 1 else 0

theorem openCount_congr {t t' : ConnTable π} (h : ∀ k, (t'.conn k).state = (t.conn k).state) :
    t'.openCount = t.openCount :=
  Finset.sum_congr rfl fun k _ => by rw [h k]

theorem openCount_update (t : ConnTable π) (k : Slot) (f : Conn π → Conn π) :
    (t.update k f).openCount + (if (t.conn k).state = .opened then 1 else 0) =
      t.openCount + if (f (t.conn k)).state = .opened then 1 else 0 :=
  sum_update_add t.conn (fun c => if c.state = .opened then 1 else 0) k (f (t.conn k))

theorem openCount_lt_iff {t : ConnTable π} :
    t.openCount < 10 ↔ ∃ k, (t.conn k).state = .closed := by
  have hten : ∑ _k : Slot, 1 = 10 := rfl
  constructor
  · intro hlt
    obtain ⟨k, -, hk⟩ := Finset.exists_lt_of_sum_lt (hlt.trans_eq hten.symm)
    cases hs : (t.conn k).state with
    | closed => exact ⟨k, hs⟩
    | opened => simp [hs] at hk
  · rintro ⟨k, hk⟩
    refine (Finset.sum_lt_sum (fun j _ => ?_) ⟨k, Finset.mem_univ k, ?_⟩).trans_eq hten
    · split <;> omega
    · simp [hk]

theorem cspConnNew_openCount {t t' : ConnTable π} {lock : Bool} {idin idout : CspId} {k : Slot}
    (h : t.cspConnNew lock idin idout = some (k, t')) : t'.openCount = t.openCount + 1 := by
  obtain ⟨hclosed, hconn⟩ := cspConnNew_some h
  have hcount := openCount_update t k fun c => Conn.flushRxQueue
    { c with state := .opened, socket := false, type := .client, idin, idout }
  have hsame : t'.openCount = (t.update k fun c => Conn.flushRxQueue
      { c with state := .opened, socket := false, type := .client, idin, idout }).openCount :=
    openCount_congr fun j => by rw [hconn]
  have hbefore : (if ConnState.closed = .opened then 1 else 0) = 0 := if_neg (by decide)
  rw [hclosed, hbefore, Nat.add_zero, ← hsame] at hcount
  exact hcount

theorem cspConnNew_eq_none_iff (t : ConnTable π) (lock : Bool) (idin idout : CspId) :
    t.cspConnNew lock idin idout = none ↔ lock = false ∨ 10 ≤ t.openCount := by
  rw [cspConnNew, Option.map_eq_none_iff, ← not_lt, openCount_lt_iff]
  cases lock with
  | false => simp [cspConnAllocate]
  | true =>
      rw [cspConnAllocate, if_pos rfl, allocate_eq_none_iff]
      refine ⟨fun h => .inr fun ⟨k, hk⟩ => ?_, fun h k => ?_⟩
      · rw [h k] at hk
        cases hk
      · obtain h | h := h
        · cases h
        · cases hs : (t.conn k).state with
          | closed => exact absurd ⟨k, hs⟩ h
          | opened => rfl

end ConnTable
end UhfGs.Csp
