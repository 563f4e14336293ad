import Mathlib.Data.List.FinRange
import Mathlib.Logic.Function.Basic
import UhfGs.Csp.Packet

/-! The queues between the interfaces and the router: `csp_qfifo.c`. -/
namespace UhfGs.Csp

/-- A queue for each priority, and the events that wake the router. -/
structure Qfifo where
  fifo : Fin 4 → List Packet
  events : Nat

namespace Qfifo

def size : Nat := 100

def empty : Qfifo := ⟨fun _ => [], 0⟩

/-- `csp_qfifo_write`, and whether there was room for the packet. Where there was, its event can
still be one too many. -/
def cspQfifoWrite (q : Qfifo) (packet : Packet) : Qfifo × Bool :=
  if (q.fifo packet.id.pri).length < size then
    ({ fifo := Function.update q.fifo packet.id.pri (q.fifo packet.id.pri ++ [packet])
       events := if q.events < size then q.events + 1 else q.events }, true)
  else (q, false)

def pop (q : Qfifo) : Option (Packet × Qfifo) :=
  (List.finRange 4).findSome? fun prio =>
    match q.fifo prio with
    | [] => none
    | packet :: rest => some (packet, { q with fifo := Function.update q.fifo prio rest })

/-- `csp_qfifo_read`, with no packet where it times out. -/
def cspQfifoRead (q : Qfifo) : Qfifo × Option Packet :=
  if q.events = 0 then (q, none)
  else
    match { q with events := q.events - 1 }.pop with
    | some (packet, q) => (q, some packet)
    | none => ({ q with events := q.events - 1 }, none)

def Sorted (q : Qfifo) : Prop := ∀ prio, ∀ packet ∈ q.fifo prio, packet.id.pri = prio

/-- The packets of one priority that were read, and those that still wait. -/
def through (q : Qfifo) (got : List Packet) (prio : Fin 4) : List Packet :=
  (got.filter fun packet => packet.id.pri = prio) ++ q.fifo prio

theorem sorted_empty : empty.Sorted := fun _ _ => nofun

variable {q q' : Qfifo} {packet : Packet}

theorem pop_some (h : q.pop = some (packet, q')) :
    ∃ prio rest, q.fifo prio = packet :: rest ∧
      q' = { q with fifo := Function.update q.fifo prio rest } := by
  obtain ⟨prio, -, hprio⟩ := List.exists_of_findSome?_eq_some h
  split at hprio
  · cases hprio
  · rename_i first rest hq
    cases hprio
    exact ⟨prio, rest, hq, rfl⟩

theorem cspQfifoWrite_room (h : (q.fifo packet.id.pri).length < size) :
    (q.cspQfifoWrite packet).2 = true := by
  rw [cspQfifoWrite, if_pos h]

theorem sorted_cspQfifoWrite (h : q.Sorted) (packet : Packet) : (q.cspQfifoWrite packet).1.Sorted := by
  unfold cspQfifoWrite
  split
  · intro prio x hx
    dsimp only at hx
    by_cases hprio : prio = packet.id.pri
    · subst hprio
      rw [Function.update_self] at hx
      obtain hold | hnew := List.mem_append.mp hx
      · exact h _ x hold
      · rw [List.mem_singleton.mp hnew]
    · rw [Function.update_of_ne hprio] at hx
      exact h prio x hx
  · exact h

theorem through_cspQfifoWrite (q : Qfifo) (packet : Packet) (got : List Packet) (prio : Fin 4) :
    (q.cspQfifoWrite packet).1.through got prio = q.through got prio ++
      if (q.cspQfifoWrite packet).2 ∧ packet.id.pri = prio then [packet] else [] := by
  unfold cspQfifoWrite
  split
  · by_cases hprio : packet.id.pri = prio
    · subst hprio
      simp [through]
    · simp [through, hprio, Function.update_of_ne (Ne.symm hprio)]
  · simp

theorem cspQfifoRead_cases (q : Qfifo) :
    (q.cspQfifoRead.1.fifo = q.fifo ∧ q.cspQfifoRead.2 = none) ∨
      ∃ prio packet rest, q.fifo prio = packet :: rest ∧
        q.cspQfifoRead.1.fifo = Function.update q.fifo prio rest ∧
        q.cspQfifoRead.2 = some packet := by
  unfold cspQfifoRead
  split
  · exact .inl ⟨rfl, rfl⟩
  · split
    · rename_i packet q' hpop
      obtain ⟨prio, rest, hq, rfl⟩ := pop_some hpop
      exact .inr ⟨prio, packet, rest, hq, rfl, rfl⟩
    · exact .inl ⟨rfl, rfl⟩

theorem sorted_cspQfifoRead (h : q.Sorted) : q.cspQfifoRead.1.Sorted := by
  obtain ⟨hfifo, -⟩ | ⟨first, packet, rest, hq, hfifo, -⟩ := q.cspQfifoRead_cases
  · rw [Sorted, hfifo]
    exact h
  · intro prio x hx
    rw [hfifo] at hx
    by_cases hprio : prio = first
    · subst hprio
      rw [Function.update_self] at hx
      exact h prio x (hq ▸ List.mem_cons_of_mem packet hx)
    · rw [Function.update_of_ne hprio] at hx
      exact h prio x hx

theorem through_cspQfifoRead (h : q.Sorted) (got : List Packet) (prio : Fin 4) :
    q.cspQfifoRead.1.through (got ++ q.cspQfifoRead.2.toList) prio = q.through got prio := by
  obtain ⟨hfifo, hnone⟩ | ⟨first, packet, rest, hq, hfifo, hsome⟩ := q.cspQfifoRead_cases
  · rw [through, hfifo, hnone, Option.toList_none, List.append_nil, through]
  · have hpri : packet.id.pri = first := h first packet (hq ▸ List.mem_cons_self)
    rw [through, through, hfifo, hsome, Option.toList_some, List.filter_append]
    by_cases hprio : prio = first
    · subst hprio
      simp [hpri, hq]
    · simp [hpri, Ne.symm hprio, Function.update_of_ne hprio]

end Qfifo
end UhfGs.Csp
