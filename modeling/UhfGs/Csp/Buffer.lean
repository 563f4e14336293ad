import Mathlib.Data.Fintype.Card
import Mathlib.Logic.Function.Basic

/-! The buffer pool of `csp_buffer.c`. -/
namespace UhfGs.Csp
variable {n : Nat}

/-- Reference counts and the queue of free buffers. Exactly the buffers without references are
in the queue, each once. -/
structure BufferPool (n : Nat) where
  refcount : Fin n → Nat
  csp_buffers : List (Fin n)
  nodup : csp_buffers.Nodup
  mem_iff : ∀ b, b ∈ csp_buffers ↔ refcount b = 0

/- `CSP_BUFFER_PACKET_OVERHEAD`, and the argument of the code's `csp_buffer_get(SIZE_MAX)`. -/
def packetOverhead : UInt64 := 14
def sizeMax : UInt64 := 0xffffffffffffffff

namespace BufferPool

def cspBufferInit (n : Nat) : BufferPool n where
  refcount := fun _ => 0
  csp_buffers := List.finRange n
  nodup := List.nodup_finRange n
  mem_iff := fun b => ⟨fun _ => rfl, fun _ => List.mem_finRange b⟩

def cspBufferRemaining (p : BufferPool n) : Nat := p.csp_buffers.length

def take (p : BufferPool n) : Option (Fin n × BufferPool n) :=
  match hq : p.csp_buffers with
  | [] => none
  | b :: rest =>
      have hnodup : (b :: rest).Nodup := hq ▸ p.nodup
      some (b,
        { refcount := Function.update p.refcount b (p.refcount b + 1)
          csp_buffers := rest
          nodup := (List.nodup_cons.mp hnodup).2
          mem_iff := fun c => by
            by_cases hc : c = b
            · subst c
              simp [(List.nodup_cons.mp hnodup).1]
            · have hmem := p.mem_iff c
              rw [hq, List.mem_cons, or_iff_right hc] at hmem
              rw [Function.update_of_ne hc, hmem] })

/-- `csp_buffer_get`. The sum with the overhead wraps around. -/
def cspBufferGet (size bufSize : UInt64) (p : BufferPool n) : Option (Fin n × BufferPool n) :=
  if bufSize + packetOverhead > size + packetOverhead then none else p.take

def cspBufferFree (p : BufferPool n) (b : Fin n) : BufferPool n :=
  if h0 : p.refcount b = 0 then p
  else if h1 : p.refcount b > 1 then
    { p with
      refcount := Function.update p.refcount b (p.refcount b - 1)
      mem_iff := fun c => by
        by_cases hc : c = b
        · subst c
          rw [p.mem_iff, Function.update_self]
          omega
        · rw [p.mem_iff, Function.update_of_ne hc] }
  else
    { refcount := Function.update p.refcount b 0
      csp_buffers := p.csp_buffers ++ [b]
      nodup := by
        have hb : b ∉ p.csp_buffers := fun hmem => h0 ((p.mem_iff b).mp hmem)
        exact List.nodup_append.mpr ⟨p.nodup, List.nodup_singleton b, by
          rintro c hc d hd rfl
          exact hb (List.mem_singleton.mp hd ▸ hc)⟩
      mem_iff := fun c => by
        by_cases hc : c = b
        · subst c
          simp
        · simp [hc, p.mem_iff] }

theorem take_some {p p' : BufferPool n} {b : Fin n} (h : p.take = some (b, p')) :
    p.refcount b = 0 ∧ p'.refcount = Function.update p.refcount b 1 := by
  unfold take at h
  split at h
  · cases h
  · rename_i c rest hq
    obtain ⟨rfl, rfl⟩ := Prod.mk.inj (Option.some.inj h)
    have hfree : p.refcount c = 0 := (p.mem_iff c).mp (hq ▸ List.mem_cons_self)
    refine ⟨hfree, ?_⟩
    change Function.update p.refcount c (p.refcount c + 1) = _
    rw [hfree]

theorem cspBufferFree_refcount {p : BufferPool n} {b : Fin n} (h : p.refcount b ≤ 1) :
    (p.cspBufferFree b).refcount = Function.update p.refcount b 0 := by
  unfold cspBufferFree
  split
  · rename_i h0
    rw [← h0, Function.update_eq_self]
  · rw [dif_neg (by omega)]

theorem cspBufferRemaining_eq_iff (p : BufferPool n) :
    p.cspBufferRemaining = n ↔ ∀ b, p.refcount b = 0 := by
  have hcard : p.csp_buffers.toFinset.card = p.cspBufferRemaining :=
    List.toFinset_card_of_nodup p.nodup
  have huniv := Finset.card_eq_iff_eq_univ p.csp_buffers.toFinset
  rw [Fintype.card_fin, hcard] at huniv
  simp only [huniv, Finset.eq_univ_iff_forall, List.mem_toFinset, p.mem_iff]

end BufferPool
end UhfGs.Csp
