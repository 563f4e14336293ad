import Mathlib.Data.Finset.Basic
import UhfGs.Library.Descriptors
import UhfGs.Library.Runs

/-! The descriptor sets of `tcp_server`: accepting and closing clients while the ready set of
a `select` is scanned. -/
namespace UhfGs.Station
open Descriptors Runs

def fdSetsize : Nat := 1024

/-- What a descriptor of the process refers to. Clients are numbered as they are accepted. -/
inductive Sock where
  | listener
  | client (no : Nat)
  | other
  deriving DecidableEq

/-- A call of the loop, with what its descriptor refers to at that moment. -/
inductive SockCall where
  | recv (on : Option Sock)
  | close (on : Option Sock)
  deriving DecidableEq

def SockCall.on : SockCall → Option Sock
  | .recv on => on
  | .close on => on

def SockCall.closed : SockCall → Option Nat
  | .close (some (.client no)) => some no
  | _ => none

/-- The loop: the descriptors of the process, the number of clients accepted so far, the two sets
with `fdmax`, the descriptor the scan has come to, and the calls made so far, latest first. -/
structure SelectLoop where
  running : Bool
  table : Table Sock
  accepted : Nat
  master : Finset Nat
  readFds : Finset Nat
  fdmax : Nat
  pos : Option Nat
  calls : List SockCall

inductive LoopInput where
  /-- `select` reports a part of the master set, whatever clients have done. -/
  | select (ready : Finset Nat)
  | selectFails
  /-- The scan goes on. The flag is for `accept`, and for `recv`, which fails or reports the end
  of the stream otherwise. -/
  | scan (ok : Bool)
  /-- Other code of the process opens or closes a descriptor of its own. -/
  | other (fd : Nat)

namespace SelectLoop

def closed (s : SelectLoop) : List Nat := s.calls.filterMap SockCall.closed

def start (serverFd : Nat) (others : Finset Nat) : SelectLoop where
  running := true
  table := fun fd =>
    if fd = serverFd then some .listener else if fd ∈ others then some .other else none
  accepted := 0
  master := {serverFd}
  readFds := ∅
  fdmax := serverFd
  pos := none
  calls := []

def scanAt (serverFd : Nat) (s : SelectLoop) (i : Nat) (ok : Bool) : Option SelectLoop :=
  if s.fdmax < i then some { s with pos := none }
  else if i ∉ s.readFds then some { s with pos := some (i + 1) }
  else if i = serverFd then
    if ok then
      (alloc fdSetsize s.table (.client s.accepted)).map fun new =>
        { s with
          table := new.2
          accepted := s.accepted + 1
          master := insert new.1 s.master
          fdmax := if s.fdmax < new.1 then new.1 else s.fdmax
          pos := some (i + 1) }
    else some { s with running := false }
  else if ok then some { s with calls := .recv (s.table i) :: s.calls, pos := some (i + 1) }
  else
    some { s with
      table := release s.table i
      master := s.master.erase i
      calls := .close (s.table i) :: .recv (s.table i) :: s.calls
      pos := some (i + 1) }

def step (serverFd : Nat) (s : SelectLoop) : LoopInput → Option SelectLoop
  | .select ready =>
      if s.running ∧ s.pos = none ∧ ready ⊆ s.master then
        some { s with readFds := ready, pos := some 0 }
      else none
  | .selectFails => if s.running ∧ s.pos = none then some { s with running := false } else none
  | .scan ok => if s.running then s.pos.bind fun i => s.scanAt serverFd i ok else none
  | .other fd =>
      match s.table fd with
      | none => some { s with table := Function.update s.table fd (some .other) }
      | some .other => some { s with table := release s.table fd }
      | some _ => none

structure Inv (serverFd : Nat) (s : SelectLoop) : Prop where
  listener : ∀ fd, s.table fd = some .listener ↔ fd = serverFd
  master : ∀ fd, fd ∈ s.master ↔ fd = serverFd ∨ ∃ no, s.table fd = some (.client no)
  bound : ∀ fd ∈ s.master, fd ≤ s.fdmax
  ready : ∀ i, s.pos = some i → ∀ fd ∈ s.readFds, i ≤ fd → fd ∈ s.master
  live : ∀ no, (∃ fd, s.table fd = some (.client no)) ↔ no < s.accepted ∧ no ∉ s.closed
  single : ∀ fd fd' no, s.table fd = some (.client no) → s.table fd' = some (.client no) → fd = fd'
  onClients : ∀ c ∈ s.calls, ∃ no < s.accepted, c.on = some (.client no)
  once : s.closed.Nodup

variable {serverFd : Nat} {s s' : SelectLoop}

theorem inv_start (serverFd : Nat) (others : Finset Nat) : (start serverFd others).Inv serverFd := by
  have hclient (fd no : Nat) : (start serverFd others).table fd ≠ some (.client no) := by
    simp only [start]
    split
    · simp
    · split <;> simp
  refine ⟨fun fd => ?_, fun fd => ?_, fun fd h => ?_, fun i h => ?_, fun no => ?_,
    fun fd _ no h => ?_, fun c h => ?_, ?_⟩
  · simp only [start]
    split
    · simp_all
    · split <;> simp_all
  · simp only [hclient, exists_false, or_false]
    exact Finset.mem_singleton
  · exact Nat.le_of_eq (Finset.mem_singleton.mp h)
  · cases h
  · simp only [hclient, exists_false, false_iff]
    exact fun hlt => Nat.not_lt_zero _ hlt.1
  · exact absurd h (hclient fd no)
  · cases h
  · exact List.nodup_nil

/-- What the body of the `for` loop can do, with the conditions under which it does it. -/
theorem scanAt_cases {i : Nat} {ok : Bool} (h : s.scanAt serverFd i ok = some s') :
    s' = { s with running := false } ∨ s' = { s with pos := none } ∨
    s' = { s with pos := some (i + 1) } ∨
    (∃ newfd table, alloc fdSetsize s.table (.client s.accepted) = some (newfd, table) ∧
      s' = { s with
        table := table
        accepted := s.accepted + 1
        master := insert newfd s.master
        fdmax := if s.fdmax < newfd then newfd else s.fdmax
        pos := some (i + 1) }) ∨
    (i ∈ s.readFds ∧ i ≠ serverFd ∧
      (s' = { s with calls := .recv (s.table i) :: s.calls, pos := some (i + 1) } ∨
      s' = { s with
        table := release s.table i
        master := s.master.erase i
        calls := .close (s.table i) :: .recv (s.table i) :: s.calls
        pos := some (i + 1) })) := by
  unfold scanAt at h
  split at h
  · exact Or.inr (Or.inl (Option.some.inj h).symm)
  · split at h
    · exact Or.inr (Or.inr (Or.inl (Option.some.inj h).symm))
    · rename_i hready
      split at h
      · split at h
        · obtain ⟨new, hnew, h⟩ := Option.map_eq_some_iff.mp h
          exact Or.inr (Or.inr (Or.inr (Or.inl ⟨new.1, new.2, hnew, h.symm⟩)))
        · exact Or.inl (Option.some.inj h).symm
      · rename_i hserver
        refine Or.inr (Or.inr (Or.inr (Or.inr ⟨not_not.mp hready, hserver, ?_⟩)))
        split at h
        · exact Or.inl (Option.some.inj h).symm
        · exact Or.inr (Option.some.inj h).symm

theorem step_cases {input : LoopInput} (h : step serverFd s input = some s') :
    (∃ ready ⊆ s.master, s.pos = none ∧ s' = { s with readFds := ready, pos := some 0 }) ∨
    s' = { s with running := false } ∨
    (∃ fd, (s.table fd = none ∧
        s' = { s with table := Function.update s.table fd (some .other) }) ∨
      (s.table fd = some .other ∧ s' = { s with table := release s.table fd })) ∨
    ∃ i ok, s.pos = some i ∧ s.scanAt serverFd i ok = some s' := by
  cases input with
  | select ready =>
      simp only [step] at h
      split at h
      · rename_i hc
        exact Or.inl ⟨ready, hc.2.2, hc.2.1, (Option.some.inj h).symm⟩
      · cases h
  | selectFails =>
      simp only [step] at h
      split at h
      · exact Or.inr (Or.inl (Option.some.inj h).symm)
      · cases h
  | other fd =>
      refine Or.inr (Or.inr (Or.inl ⟨fd, ?_⟩))
      simp only [step] at h
      split at h
      · rename_i hfd
        exact Or.inl ⟨hfd, (Option.some.inj h).symm⟩
      · rename_i hfd
        exact Or.inr ⟨hfd, (Option.some.inj h).symm⟩
      · cases h
  | scan ok =>
      simp only [step] at h
      split at h
      · obtain ⟨i, hi, h⟩ := Option.bind_eq_some_iff.mp h
        exact Or.inr (Or.inr (Or.inr ⟨i, ok, hi, h⟩))
      · cases h

namespace Inv

theorem other (h : s.Inv serverFd) {table : Table Sock}
    (hl : ∀ fd, table fd = some .listener ↔ s.table fd = some .listener)
    (hc : ∀ fd no, table fd = some (.client no) ↔ s.table fd = some (.client no)) :
    ({ s with table := table } : SelectLoop).Inv serverFd where
  listener fd := (hl fd).trans (h.listener fd)
  master fd := by simpa only [hc] using h.master fd
  bound := h.bound
  ready := h.ready
  live no := by
    have hlive := h.live no
    simp only [← hc] at hlive
    exact hlive
  single fd fd' no hfd hfd' := h.single fd fd' no ((hc fd no).mp hfd) ((hc fd' no).mp hfd')
  onClients := h.onClients
  once := h.once

theorem scanned (h : s.Inv serverFd) {i : Nat} (hi : s.pos = some i) (hr : i ∈ s.readFds)
    (hne : i ≠ serverFd) : ∃ no, s.table i = some (.client no) :=
  ((h.master i).mp (h.ready i hi i hr le_rfl)).resolve_left hne

theorem next (h : s.Inv serverFd) {i : Nat} (hi : s.pos = some i) :
    ({ s with pos := some (i + 1) } : SelectLoop).Inv serverFd :=
  { h with
    ready := fun j hj fd hfd hle => by
      cases hj
      exact h.ready i hi fd hfd (by omega) }

theorem fresh (h : s.Inv serverFd) : s.accepted ∉ s.closed := by
  intro hmem
  obtain ⟨c, hc, hcl⟩ := List.mem_filterMap.mp hmem
  obtain ⟨no, hno, hon⟩ := h.onClients c hc
  cases c with
  | recv on => cases hcl
  | close on =>
      simp only [SockCall.on] at hon
      subst hon
      cases hcl
      exact absurd hno (Nat.lt_irrefl _)

theorem accept (h : s.Inv serverFd) {i newfd : Nat} (hi : s.pos = some i) {table : Table Sock}
    (hnew : alloc fdSetsize s.table (.client s.accepted) = some (newfd, table)) :
    ({ s with
        table := table
        accepted := s.accepted + 1
        master := insert newfd s.master
        fdmax := if s.fdmax < newfd then newfd else s.fdmax
        pos := some (i + 1) } : SelectLoop).Inv serverFd := by
  obtain ⟨-, hfree, rfl⟩ := alloc_eq_some hnew
  have hserver : newfd ≠ serverFd := by
    rintro rfl
    rw [(h.listener newfd).mpr rfl] at hfree
    cases hfree
  have hold (no : Nat) (hno : ∃ fd, s.table fd = some (.client no)) : no < s.accepted :=
    ((h.live no).mp hno).1
  have htable (fd no : Nat) :
      Function.update s.table newfd (some (.client s.accepted)) fd = some (.client no) ↔
        (fd = newfd ∧ no = s.accepted) ∨ s.table fd = some (.client no) := by
    rw [update_eq_some_iff hfree, Sock.client.injEq, eq_comm (a := s.accepted)]
  refine ⟨fun fd => ?_, fun fd => ?_, fun fd hfd => ?_, fun j hj fd hfd hle => ?_, fun no => ?_,
    fun fd fd' no hfd hfd' => ?_, fun c hc => ?_, h.once⟩
  · by_cases hfd : fd = newfd
    · subst hfd
      simp [hserver]
    · simpa [hfd] using h.listener fd
  · have hex : (∃ no, (fd = newfd ∧ no = s.accepted) ∨ s.table fd = some (.client no)) ↔
        fd = newfd ∨ ∃ no, s.table fd = some (.client no) := by
      rw [exists_or]
      simp
    simp only [htable, Finset.mem_insert, h.master fd, hex]
    exact or_left_comm
  · change fd ≤ if s.fdmax < newfd then newfd else s.fdmax
    obtain rfl | hfd := Finset.mem_insert.mp hfd
    · split <;> omega
    · have hle := h.bound fd hfd
      split <;> omega
  · cases hj
    exact Finset.mem_insert_of_mem (h.ready i hi fd hfd (by omega))
  · have hex : (∃ fd, (fd = newfd ∧ no = s.accepted) ∨ s.table fd = some (.client no)) ↔
        no = s.accepted ∨ ∃ fd, s.table fd = some (.client no) := by
      rw [exists_or]
      simp
    simp only [htable, hex, h.live no]
    constructor
    · rintro (rfl | ⟨hlt, hnot⟩)
      · exact ⟨Nat.lt_succ_self _, h.fresh⟩
      · exact ⟨Nat.lt_succ_of_lt hlt, hnot⟩
    · rintro ⟨hlt, hnot⟩
      obtain heq | hlt := Nat.eq_or_lt_of_le (Nat.le_of_lt_succ hlt)
      · exact Or.inl heq
      · exact Or.inr ⟨hlt, hnot⟩
  · obtain ⟨hn, hno⟩ | hs := (htable fd no).mp hfd
    · obtain ⟨hn', -⟩ | hs' := (htable fd' no).mp hfd'
      · rw [hn, hn']
      · exact absurd (hold no ⟨fd', hs'⟩) (hno ▸ Nat.lt_irrefl _)
    · obtain ⟨-, hno⟩ | hs' := (htable fd' no).mp hfd'
      · exact absurd (hold no ⟨fd, hs⟩) (hno ▸ Nat.lt_irrefl _)
      · exact h.single fd fd' no hs hs'
  · obtain ⟨no, hno, hon⟩ := h.onClients c hc
    exact ⟨no, Nat.lt_succ_of_lt hno, hon⟩

theorem recv (h : s.Inv serverFd) {i : Nat} (hi : s.pos = some i) (hr : i ∈ s.readFds)
    (hne : i ≠ serverFd) :
    ({ s with calls := .recv (s.table i) :: s.calls, pos := some (i + 1) } :
      SelectLoop).Inv serverFd := by
  obtain ⟨no, hno⟩ := h.scanned hi hr hne
  refine { h.next hi with onClients := fun c hc => ?_ }
  obtain rfl | hc := List.mem_cons.mp hc
  · exact ⟨no, ((h.live no).mp ⟨i, hno⟩).1, hno⟩
  · exact h.onClients c hc

theorem close (h : s.Inv serverFd) {i : Nat} (hi : s.pos = some i) (hr : i ∈ s.readFds)
    (hne : i ≠ serverFd) :
    ({ s with
        table := release s.table i
        master := s.master.erase i
        calls := .close (s.table i) :: .recv (s.table i) :: s.calls
        pos := some (i + 1) } : SelectLoop).Inv serverFd := by
  obtain ⟨no, hno⟩ := h.scanned hi hr hne
  have hlive := (h.live no).mp ⟨i, hno⟩
  have hclosed : (SockCall.close (s.table i) :: .recv (s.table i) :: s.calls).filterMap
      SockCall.closed = no :: s.closed := by
    rw [hno]
    rfl
  have htable (fd m : Nat) : release s.table i fd = some (.client m) ↔
      fd ≠ i ∧ s.table fd = some (.client m) := release_eq_some_iff
  refine ⟨fun fd => ?_, fun fd => ?_, fun fd hfd => ?_, fun j hj fd hfd hle => ?_, fun m => ?_,
    fun fd fd' m hfd hfd' => ?_, fun c hc => ?_, ?_⟩
  · by_cases hfd : fd = i
    · subst hfd
      simp [release, hne]
    · simpa [release, hfd] using h.listener fd
  · simp only [htable, Finset.mem_erase, h.master fd]
    constructor
    · rintro ⟨hfd, hserver | ⟨m, hm⟩⟩
      · exact Or.inl hserver
      · exact Or.inr ⟨m, hfd, hm⟩
    · rintro (hserver | ⟨m, hfd, hm⟩)
      · exact ⟨fun heq => hne (heq.symm.trans hserver), Or.inl hserver⟩
      · exact ⟨hfd, Or.inr ⟨m, hm⟩⟩
  · exact h.bound fd (Finset.mem_of_mem_erase hfd)
  · cases hj
    exact Finset.mem_erase.mpr ⟨by omega, h.ready i hi fd hfd (by omega)⟩
  · simp only [SelectLoop.closed, hclosed, htable, List.mem_cons, not_or]
    constructor
    · rintro ⟨fd, hfd, hm⟩
      have hm' := (h.live m).mp ⟨fd, hm⟩
      refine ⟨hm'.1, ?_, hm'.2⟩
      rintro rfl
      exact hfd (h.single fd i m hm hno)
    · rintro ⟨hlt, hne', hnot⟩
      obtain ⟨fd, hm⟩ := (h.live m).mpr ⟨hlt, hnot⟩
      refine ⟨fd, ?_, hm⟩
      rintro rfl
      rw [hno] at hm
      cases hm
      exact hne' rfl
  · exact h.single fd fd' m ((htable fd m).mp hfd).2 ((htable fd' m).mp hfd').2
  · obtain rfl | hc := List.mem_cons.mp hc
    · exact ⟨no, hlive.1, hno⟩
    · obtain rfl | hc := List.mem_cons.mp hc
      · exact ⟨no, hlive.1, hno⟩
      · exact h.onClients c hc
  · rw [SelectLoop.closed, hclosed]
    exact List.nodup_cons.mpr ⟨hlive.2, h.once⟩

end Inv

theorem inv_step {input : LoopInput} (h : s.Inv serverFd) (hs : step serverFd s input = some s') :
    s'.Inv serverFd := by
  obtain ⟨ready, hready, -, rfl⟩ | rfl | ⟨fd, hfd⟩ | ⟨i, ok, hi, hscan⟩ := step_cases hs
  · exact { h with ready := fun _ _ fd hfd _ => hready hfd }
  · exact { h with }
  · have hset (a : Option Sock) (hold : s.table fd = none ∨ s.table fd = some .other)
        (hnew : a = none ∨ a = some .other) :
        ({ s with table := Function.update s.table fd a } : SelectLoop).Inv serverFd := by
      refine h.other (fun g => ?_) (fun g no => ?_)
      · by_cases hg : g = fd
        · subst hg
          obtain hold | hold := hold <;> obtain rfl | rfl := hnew <;> simp [hold]
        · simp [hg]
      · by_cases hg : g = fd
        · subst hg
          obtain hold | hold := hold <;> obtain rfl | rfl := hnew <;> simp [hold]
        · simp [hg]
    obtain ⟨hnone, rfl⟩ | ⟨hother, rfl⟩ := hfd
    · exact hset _ (Or.inl hnone) (Or.inr rfl)
    · exact hset _ (Or.inr hother) (Or.inl rfl)
  · obtain rfl | rfl | rfl | ⟨newfd, table, hnew, rfl⟩ | ⟨hr, hne, rfl | rfl⟩ := scanAt_cases hscan
    · exact { h with }
    · exact { h with ready := fun _ hj => nomatch hj }
    · exact h.next hi
    · exact h.accept hi hnew
    · exact h.recv hi hr hne
    · exact h.close hi hr hne

/-- The sets of the loop at every iteration, whatever clients and other threads do: the master set
is the listening socket and the open clients, none is above `fdmax`, `recv` and `close` are
called on open clients only, and no client is closed twice. -/
theorem inv_of_reaches {others : Finset Nat}
    (h : Reaches (step serverFd) (fun _ => True) (start serverFd others) s) : s.Inv serverFd :=
  h.invariant (inv_start serverFd others) fun _ _ _ hinv _ hs => inv_step hinv hs

def reused : SelectLoop :=
  (exec (step 1) (fun _ => True) (start 1 {0})
    [.select {1}, .scan true, .scan true, .scan true, .scan true,
     .select {1, 2}, .scan true, .scan true, .scan false, .scan true, .scan true,
     .select {1}, .scan true, .scan true]).get (by decide +kernel)

theorem inv_reused : reused.Inv 1 :=
  inv_of_reaches (reaches_of_exec .start (Option.some_get _).symm)

end SelectLoop
end UhfGs.Station
