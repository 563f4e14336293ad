import Mathlib.Logic.Relation
import UhfGs.Csp.Rdp

/-! What the protocol of `csp_rdp.c` does, apart from its timers and buffers: the part of a
connection that its safety rests on, and the moves that change it. -/
namespace UhfGs.Csp
open Serial

structure Kept where
  flags : RdpFlags
  seqNr : BitVec 16
  data : List UInt8

def Segment.kept (s : Segment) : Kept := ⟨s.flags, s.seqNr, s.data⟩

def Segment.Carries (s : Segment) : Prop :=
  s.flags.syn = false ∧ s.flags.rst = false ∧ s.flags.eak = false ∧ s.data ≠ []

def takenMessage : RdpEvent → Option (List UInt8)
  | .taken message => some message
  | _ => none

def passedMessage : RdpEvent → Option (List UInt8 × Bool)
  | .passed message queued => some (message, queued)
  | _ => none

def taken (h : List RdpEvent) : List (List UInt8) := (h.filterMap takenMessage).reverse

def passed (h : List RdpEvent) : List (List UInt8 × Bool) := (h.filterMap passedMessage).reverse

@[simp] theorem taken_nil : taken [] = [] := rfl

@[simp] theorem passed_nil : passed [] = [] := rfl

@[simp] theorem taken_taken (m : List UInt8) (h : List RdpEvent) :
    taken (.taken m :: h) = taken h ++ [m] := by
  simp [taken, takenMessage]

@[simp] theorem taken_passed (m : List UInt8) (q : Bool) (h : List RdpEvent) :
    taken (.passed m q :: h) = taken h := rfl

@[simp] theorem taken_transmitted (s : Segment) (h : List RdpEvent) :
    taken (.transmitted s :: h) = taken h := rfl

@[simp] theorem taken_synchronised (h : List RdpEvent) :
    taken (.synchronised :: h) = taken h := rfl

@[simp] theorem passed_passed (m : List UInt8) (q : Bool) (h : List RdpEvent) :
    passed (.passed m q :: h) = passed h ++ [(m, q)] := by
  simp [passed, passedMessage]

@[simp] theorem passed_taken (m : List UInt8) (h : List RdpEvent) :
    passed (.taken m :: h) = passed h := rfl

@[simp] theorem passed_transmitted (s : Segment) (h : List RdpEvent) :
    passed (.transmitted s :: h) = passed h := rfl

@[simp] theorem passed_synchronised (h : List RdpEvent) :
    passed (.synchronised :: h) = passed h := rfl

def Synced (h : List RdpEvent) : Prop := RdpEvent.synchronised ∈ h

@[simp] theorem synced_taken (m : List UInt8) (h : List RdpEvent) :
    Synced (.taken m :: h) ↔ Synced h := by
  simp [Synced]

@[simp] theorem synced_passed (m : List UInt8) (q : Bool) (h : List RdpEvent) :
    Synced (.passed m q :: h) ↔ Synced h := by
  simp [Synced]

@[simp] theorem synced_transmitted (s : Segment) (h : List RdpEvent) :
    Synced (.transmitted s :: h) ↔ Synced h := by
  simp [Synced]

theorem synced_synchronised (h : List RdpEvent) : Synced (.synchronised :: h) :=
  List.mem_cons_self

/-- What the safety of the protocol rests on. `checked` is whether `csp_rdp_check_timeouts` ran
after the latest segment came in. -/
structure Core where
  history : List RdpEvent
  iss : BitVec 16
  nxt : BitVec 16
  una : BitVec 16
  irs : BitVec 16
  cur : BitVec 16
  window : BitVec 32
  tx : List Kept
  rx : List Segment
  state : RdpState
  alive : Bool
  checked : Bool

namespace Core

def Active (k : Core) : Prop := k.state ≠ .closed ∧ k.state ≠ .closeWait

/-- The message of a segment is the latest one, or still to be acknowledged. -/
def Outstanding (k : Core) (s : Segment) : Prop :=
  k.alive ∧
    (k.state = .opened ∧ s.seqNr = k.nxt - 1 ∧ (taken k.history).getLast? = some s.data ∨
      k.Active ∧ ∃ e ∈ k.tx, e.flags.syn = false ∧ e.seqNr = s.seqNr ∧ e.data = s.data ∧
        before e.seqNr k.una = false)

/-- The first segment of a connection: the answer to a SYN, or one with the options. -/
def Opening (k : Core) (e : Kept) : Prop :=
  e.flags.syn ∧ e.seqNr = k.iss ∧
    if e.flags.ack then k.state = .synRcvd else k.state = .synSent ∧ data32 e.data 0 = k.window

structure Sendable (k : Core) (s : Segment) : Prop where
  begun : k.state = .closed → k.alive = false
  ack : s.flags.ack → k.state ≠ .closed ∧ k.alive ∧
    (s.ackNr = k.cur ∨ k.state = .synRcvd ∧ s.ackNr = k.irs)
  syn : s.flags.syn → k.Opening s.kept ∨ s.kept ∈ k.tx
  eak : s.flags.eak → eackNumbers s.data = k.rx.map Segment.seqNr
  carries : s.Carries → k.Outstanding s

end Core

inductive Move (a : Option Segment) (k : Core) : Core → Prop where
  | transmit (s : Segment) (h : k.Sendable s) :
      Move a k { k with history := .transmitted s :: k.history }
  | take (m : List UInt8) (hopen : k.state = .opened) (halive : k.alive)
      (hwindow : before (k.una + k.window.setWidth 16) k.nxt = false) :
      Move a k { k with
        history := .taken m :: k.history
        nxt := k.nxt + 1
        tx := k.tx ++ [⟨{ ack := true }, k.nxt, m⟩] }
  | acked (s : Segment) (ha : a = some s) (hack : s.flags.ack) (hchecked : k.checked) :
      Move a k { k with una := s.ackNr + 1, checked := false }
  | free (tx : List Kept) (hst : k.state ≠ .closed) (hsub : ∀ e ∈ tx, e ∈ k.tx)
      (hfree : ∀ e ∈ k.tx, e ∈ tx ∨ before e.seqNr k.una ∨
        ∃ s, a = some s ∧ s.flags.eak ∧ s.flags.ack ∧ e.seqNr ∈ eackNumbers s.data) :
      Move a k { k with tx := tx }
  | swept (h : k.Active → ∀ e ∈ k.tx, before e.seqNr k.una = false) :
      Move a k { k with checked := true }
  | unchecked : Move a k { k with checked := false }
  | keepSyn (e : Kept) (h : k.Opening e) : Move a k { k with tx := k.tx ++ [e] }
  | hold (s : Segment) (ha : a = some s) (hs : s.Carries) (hopen : k.state = .opened)
      (hspan : between s.seqNr (k.cur + 1) (k.cur + (k.window * 2).setWidth 16))
      (hnew : ∀ x ∈ k.rx, x.seqNr ≠ s.seqNr) :
      Move a k { k with rx := k.rx ++ [s] }
  | turn (rx : List Segment) (h : rx.Perm k.rx) : Move a k { k with rx := rx }
  | pass (s : Segment) (queued : Bool) (ha : a = some s) (hs : s.Carries)
      (hopen : k.state = .opened) (hseq : s.seqNr = k.cur + 1)
      (hnew : ∀ x ∈ k.rx, x.seqNr ≠ k.cur + 1) :
      Move a k { k with cur := k.cur + 1, history := .passed s.data queued :: k.history }
  | release (x : Segment) (rx : List Segment) (queued : Bool) (hrx : k.rx.Perm (x :: rx))
      (hopen : k.state = .opened) (hseq : x.seqNr = k.cur + 1) :
      Move a k { k with
        rx := rx
        cur := k.cur + 1
        history := .passed x.data queued :: k.history }
  | opened (hst : k.state = .synRcvd) (huna : k.una = k.iss + 1) :
      Move a k { k with state := .opened }
  | closing (hst : k.state ≠ .closed) : Move a k { k with state := .closeWait }
  | shut : Move a k { k with state := .closed, alive := false, tx := [], rx := [] }
  | accept (s : Segment) (iss : BitVec 16) (ha : a = some s) (hsyn : s.flags.syn)
      (hst : k.state = .closed) (halive : k.alive) :
      Move a k { k with
        history := .synchronised :: k.history
        iss := iss
        nxt := iss + 1
        una := iss
        irs := s.seqNr
        cur := s.seqNr
        window := data32 s.data 0
        state := .synRcvd }
  | connect (s : Segment) (ha : a = some s) (hsyn : s.flags.syn) (hack : s.flags.ack)
      (hst : k.state = .synSent) (halive : k.alive) (hchecked : k.checked) :
      Move a k { k with
        history := .synchronised :: k.history
        una := s.ackNr + 1
        irs := s.seqNr
        cur := s.seqNr
        state := .opened
        checked := false }

abbrev Moves (a : Option Segment) : Core → Core → Prop := Relation.ReflTransGen (Move a)

end UhfGs.Csp
