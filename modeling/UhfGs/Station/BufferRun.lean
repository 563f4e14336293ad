import UhfGs.Csp.Buffer
import UhfGs.Station.Requests
import UhfGs.Station.Survival

/-! The buffers that the station's operations take from the pool and give back. -/
namespace UhfGs.Station
open Csp Runs

inductive Releaser where
  | iface
  | station
  | library

inductive Owner where
  | nobody
  | sendPacket
  | ping
  | queued (port : Fin 64)
  | task (port : Fin 64)
  deriving DecidableEq

/-- The interface releases what it transmits, `send_packet` itself releases nothing. -/
def SendRun.releases (run : SendRun) : List Releaser :=
  if run.sendto = some .none then [.iface] else []

def pingSendto (node : Node) (packet : Packet) : Err :=
  (cspSendto node 2 25 1 17 0
    { packet with length := 1, data := Function.update packet.data 0 0 }).1

def pingReleases (node : Node) (packet : Packet) : List Releaser :=
  if pingSendto node packet = .none then [.iface] else []

def replyReleases (connected sent : Bool) : List Releaser :=
  if ¬ connected then [.station] else if ¬ sent then [.station] else [.iface]

/-- The switch of `task_server`: `receive_packet` and `Receive_data` release nothing. -/
def dispatchReleases (port : Fin 64) (connected sent : Bool) : List Releaser :=
  if port = myPort then []
  else if port = rePort then replyReleases connected sent
  else if port = pingRxPort then []
  else [.library]

/-- What happens to buffers. A packet that arrives is queued on a connection; it is flushed with the
connection or read by `task_server`. A packet sent to the station itself arrives again. -/
inductive BufferEvent where
  | sendPacketGet
  | sendPacketDone (b : Fin 1024) (env : SendEnv) (packet : Packet)
  | pingGet
  | pingDone (b : Fin 1024) (node : Node) (packet : Packet)
  | arrive (port : Fin 64)
  | flush (b : Fin 1024)
  | read (b : Fin 1024)
  | dispatchDone (b : Fin 1024) (connected sent : Bool)

def SendEnv.with (env : SendEnv) (packet : Packet) : SendEnv := { env with buffer := some packet }

structure BufferState where
  pool : BufferPool 1024
  owner : Fin 1024 → Owner
  ended : Bool

namespace BufferState

def start : BufferState := ⟨.cspBufferInit 1024, fun _ => .nobody, false⟩

def completion (s : BufferState) : BufferEvent → Option (Fin 1024 × List Releaser)
  | .sendPacketDone b env packet =>
      if s.owner b = .sendPacket ∧ (sendPacket (env.with packet)).returned then
        some (b, (sendPacket (env.with packet)).releases)
      else none
  | .pingDone b node packet =>
      if s.owner b = .ping then some (b, pingReleases node packet) else none
  | .flush b =>
      match s.owner b with
      | .queued _ => some (b, [.library])
      | _ => none
  | .dispatchDone b connected sent =>
      match s.owner b with
      | .task port => some (b, dispatchReleases port connected sent)
      | _ => none
  | _ => none

def finish (s : BufferState) (b : Fin 1024) (releases : List Releaser) : BufferState :=
  { s with
    pool := releases.foldl (fun pool _ => pool.cspBufferFree b) s.pool
    owner := Function.update s.owner b .nobody }

def obtain? (s : BufferState) (bufSize : UInt64) (owner : Owner) : Option BufferState :=
  (s.pool.cspBufferGet 1024 bufSize).map fun (b, pool) =>
    { s with pool, owner := Function.update s.owner b owner }

/-- The events that are not completions. `ping_sat_func` does not check for a null pointer. -/
def proceed (s : BufferState) : BufferEvent → BufferState
  | .sendPacketGet => (s.obtain? sizeMax .sendPacket).getD s
  | .pingGet => (s.obtain? sizeMax .ping).getD { s with ended := true }
  | .arrive port => (s.obtain? 256 (.queued port)).getD s
  | .read b =>
      match s.owner b with
      | .queued port =>
          if port < 32 ∧ port ≠ ftpPort then
            { s with owner := Function.update s.owner b (.task port) }
          else s
      | _ => s
  | .sendPacketDone b _ _ => if s.owner b = .sendPacket then { s with ended := true } else s
  | _ => s

def step (s : BufferState) (e : BufferEvent) : BufferState :=
  if s.ended then s
  else
    match s.completion e with
    | some (b, releases) => s.finish b releases
    | none => s.proceed e

/-- No operation is in progress and all queues are empty. -/
def Quiescent (s : BufferState) : Prop := ¬ s.ended ∧ ∀ b, s.owner b = .nobody

/-- The buffer that the event is done with is released exactly once. -/
def ReleasesOnce (s : BufferState) (e : BufferEvent) : Prop :=
  ¬ s.ended → ∀ b releases, s.completion e = some (b, releases) → releases.length = 1

end BufferState

/-- The file can be read, its destination is a satellite, and `csp_sendto` succeeds. -/
def Transmits (env : SendEnv) (packet : Packet) : Prop :=
  ∃ file, env.mcsUplinkFile = some file ∧ file.Readable ∧
    let header := (file.params env.stack).toHeader
    header.dstAddr ≤ 15 ∧
      (cspSendto env.node (UInt8.ofInt header.pri) (UInt8.ofInt header.dstAddr)
        (UInt8.ofInt header.dstPort) (UInt8.ofInt header.srcPort) 0
        { packet with
          data := file.data packet.data, length := UInt16.ofInt header.dataLength }).1 = .none

/-- What an event needs to return its buffer. -/
def BufferState.Tidy (s : BufferState) (e : BufferEvent) : Prop :=
  ¬ s.ended →
    match e with
    | .sendPacketDone b env packet =>
        s.owner b = .sendPacket → (env.with packet).Safe → Transmits env packet
    | .pingDone b node packet => s.owner b = .ping → pingSendto node packet = .none
    | .dispatchDone b _ _ => ∀ port, s.owner b = .task port → port ≠ myPort ∧ port ≠ pingRxPort
    | _ => True

theorem uplink_sendto (env : SendEnv) (header : Header) (packet : Packet) :
    (uplink env header packet).sendto = some (cspSendto env.node (UInt8.ofInt header.pri)
      (UInt8.ofInt header.dstAddr) (UInt8.ofInt header.dstPort) (UInt8.ofInt header.srcPort) 0
      packet).1 := rfl

theorem carryOut_sendto (env : SendEnv) (header : Header) (packet : Packet) :
    (carryOut env header packet).sendto = none := by
  simp only [carryOut]
  split <;> rfl

theorem sendPacket_sendto_iff (env : SendEnv) (packet : Packet) :
    (sendPacket (env.with packet)).sendto = some .none ↔ Transmits env packet := by
  cases hf : env.mcsUplinkFile with
  | none => simp [sendPacket, SendEnv.with, hf, processMcsFile, Transmits]
  | some file =>
      have hf' : (env.with packet).mcsUplinkFile = some file := hf
      by_cases hr : file.Readable
      · rw [sendPacket_readable rfl hf' hr]
        by_cases hd : (file.params env.stack).toHeader.dstAddr ≤ 15
        · have hd' : (file.params (env.with packet).stack).toHeader.dstAddr ≤ 15 := hd
          simp only [hd', if_true, uplink_sendto, Option.some.injEq]
          simp only [Transmits, hf, Option.some.injEq, exists_eq_left', hr, hd, true_and]
          rfl
        · have hd' : ¬ (file.params (env.with packet).stack).toHeader.dstAddr ≤ 15 := hd
          simp only [hd', if_false, carryOut_sendto]
          simp [Transmits, hf, hd]
      · rw [sendPacket_unreadable rfl hf' hr]
        simp [Transmits, hf, hr]

theorem dispatchReleases_length (port : Fin 64) (connected sent : Bool) :
    (dispatchReleases port connected sent).length = 1 ↔ port ≠ myPort ∧ port ≠ pingRxPort := by
  by_cases hm : port = myPort
  · simp [dispatchReleases, hm]
  · by_cases hr : port = rePort
    · have hx : rePort ≠ pingRxPort := by decide
      have hy : rePort ≠ myPort := by decide
      cases connected <;> cases sent <;> simp [dispatchReleases, replyReleases, hr, hx, hy]
    · by_cases hx : port = pingRxPort
      · simp [dispatchReleases, hx]
        decide +revert
      · simp [dispatchReleases, hm, hr, hx]

namespace BufferState

theorem releasesOnce_iff_tidy (s : BufferState) (e : BufferEvent) :
    s.ReleasesOnce e ↔ s.Tidy e := by
  unfold ReleasesOnce Tidy
  refine imp_congr_right fun _ => ?_
  cases e with
  | sendPacketGet => simp [completion]
  | pingGet => simp [completion]
  | arrive port => simp [completion]
  | read b => simp [completion]
  | flush b =>
      simp only [completion, iff_true]
      intro c releases h
      split at h
      · obtain ⟨rfl, rfl⟩ := Prod.mk.inj (Option.some.inj h)
        rfl
      · cases h
  | pingDone b node packet =>
      by_cases ho : s.owner b = .ping
      · by_cases hp : pingSendto node packet = .none
        · simp [completion, ho, pingReleases, hp]
        · simp [completion, ho, pingReleases, hp]
      · simp [completion, ho]
  | dispatchDone b connected sent =>
      cases ho : s.owner b with
      | task port =>
          simp [completion, ho, dispatchReleases_length]
      | nobody => simp [completion, ho]
      | sendPacket => simp [completion, ho]
      | ping => simp [completion, ho]
      | queued port => simp [completion, ho]
  | sendPacketDone b env packet =>
      simp only [completion, SendRun.releases, ← sendPacket_returned, ← sendPacket_sendto_iff]
      generalize sendPacket (env.with packet) = run
      by_cases ho : s.owner b = .sendPacket
      · by_cases hr : run.returned
        · by_cases hs : run.sendto = some .none
          · simp [ho, hr, hs]
          · simp [ho, hr, hs]
        · simp [hr]
      · simp [ho]

/-- A buffer that somebody holds has one reference, and no buffer has more. -/
def Owned (s : BufferState) : Prop :=
  ∀ b, (s.owner b ≠ .nobody → s.pool.refcount b = 1) ∧ s.pool.refcount b ≤ 1

def Lost (s : BufferState) (b : Fin 1024) : Prop := s.owner b = .nobody ∧ s.pool.refcount b ≠ 0

theorem foldl_free_refcount {pool : BufferPool 1024} {b : Fin 1024} (h : pool.refcount b ≤ 1)
    (r : Releaser) (rs : List Releaser) :
    ((r :: rs).foldl (fun pool _ => pool.cspBufferFree b) pool).refcount =
      Function.update pool.refcount b 0 := by
  induction rs generalizing r pool with
  | nil => exact BufferPool.cspBufferFree_refcount h
  | cons r' rs ih =>
      have hfree := BufferPool.cspBufferFree_refcount h
      rw [List.foldl_cons, ih (by rw [hfree]; simp), hfree, Function.update_idem]

theorem obtain?_some {s s' : BufferState} {bufSize : UInt64} {owner : Owner}
    (h : s.obtain? bufSize owner = some s') :
    ∃ b, s.pool.refcount b = 0 ∧ s'.pool.refcount = Function.update s.pool.refcount b 1 ∧
      s'.owner = Function.update s.owner b owner := by
  obtain ⟨⟨b, pool⟩, hget, rfl⟩ := Option.map_eq_some_iff.mp h
  unfold BufferPool.cspBufferGet at hget
  split at hget
  · cases hget
  · obtain ⟨hfree, hcount⟩ := BufferPool.take_some hget
    exact ⟨b, hfree, hcount, rfl⟩

theorem dispatchReleases_cases (port : Fin 64) (connected sent : Bool) :
    dispatchReleases port connected sent = [] ∨
      (dispatchReleases port connected sent).length = 1 := by
  unfold dispatchReleases replyReleases
  grind

theorem completion_spec {s : BufferState} {e : BufferEvent} {b : Fin 1024}
    {releases : List Releaser} (h : s.completion e = some (b, releases)) :
    s.owner b ≠ .nobody ∧ (releases = [] ∨ releases.length = 1) := by
  cases e with
  | sendPacketGet => cases h
  | pingGet => cases h
  | arrive port => cases h
  | read c => cases h
  | sendPacketDone c env packet =>
      simp only [completion, SendRun.releases] at h
      generalize sendPacket (env.with packet) = run at h
      split at h
      · rename_i ho
        cases h
        refine ⟨by rw [ho.1]; nofun, ?_⟩
        split <;> simp
      · cases h
  | pingDone c node packet =>
      simp only [completion, pingReleases] at h
      split at h
      · rename_i ho
        cases h
        refine ⟨by rw [ho]; nofun, ?_⟩
        split <;> simp
      · cases h
  | flush c =>
      simp only [completion] at h
      split at h
      · rename_i ho
        cases h
        exact ⟨by rw [ho]; nofun, .inr rfl⟩
      · cases h
  | dispatchDone c connected sent =>
      simp only [completion] at h
      split at h
      · rename_i port ho
        cases h
        exact ⟨by rw [ho]; nofun, dispatchReleases_cases port connected sent⟩
      · cases h

inductive Proceeds (s s' : BufferState) : Prop where
  | take (b : Fin 1024) (o : Owner) (ho : o ≠ .nobody) (hfree : s.pool.refcount b = 0)
      (hcount : s'.pool.refcount = Function.update s.pool.refcount b 1)
      (howner : s'.owner = Function.update s.owner b o)
  | pass (b : Fin 1024) (o : Owner) (ho : o ≠ .nobody) (hb : s.owner b ≠ .nobody)
      (hpool : s'.pool = s.pool) (howner : s'.owner = Function.update s.owner b o)
  | stay (hpool : s'.pool = s.pool) (howner : s'.owner = s.owner)

theorem obtain?_proceeds (s : BufferState) (bufSize : UInt64) {o : Owner} (ho : o ≠ .nobody)
    {s₀ : BufferState} (hpool : s₀.pool = s.pool) (howner : s₀.owner = s.owner) :
    Proceeds s ((s.obtain? bufSize o).getD s₀) := by
  cases hget : s.obtain? bufSize o with
  | none => exact .stay hpool howner
  | some s' =>
      obtain ⟨b, hfree, hcount, howner⟩ := obtain?_some hget
      exact .take b o ho hfree hcount howner

theorem proceed_proceeds (s : BufferState) (e : BufferEvent) : Proceeds s (s.proceed e) := by
  cases e with
  | sendPacketGet => exact obtain?_proceeds s _ (o := .sendPacket) nofun rfl rfl
  | pingGet => exact obtain?_proceeds s _ (o := .ping) nofun rfl rfl
  | arrive port => exact obtain?_proceeds s _ (o := .queued port) nofun rfl rfl
  | read b =>
      cases ho : s.owner b with
      | queued port =>
          simp only [proceed, ho]
          split
          · exact .pass b (.task port) nofun (by rw [ho]; nofun) rfl rfl
          · exact .stay rfl rfl
      | nobody => exact .stay (by simp only [proceed, ho]) (by simp only [proceed, ho])
      | sendPacket => exact .stay (by simp only [proceed, ho]) (by simp only [proceed, ho])
      | ping => exact .stay (by simp only [proceed, ho]) (by simp only [proceed, ho])
      | task port => exact .stay (by simp only [proceed, ho]) (by simp only [proceed, ho])
  | sendPacketDone b env packet =>
      simp only [proceed]
      split
      · exact .stay rfl rfl
      · exact .stay rfl rfl
  | pingDone b node packet => exact .stay rfl rfl
  | flush b => exact .stay rfl rfl
  | dispatchDone b connected sent => exact .stay rfl rfl

theorem step_cases (s : BufferState) (e : BufferEvent) :
    (∃ b releases, ¬ s.ended ∧ s.completion e = some (b, releases) ∧
      s.step e = s.finish b releases) ∨
    (¬ s.ended → s.completion e = none) ∧ Proceeds s (s.step e) := by
  unfold step
  by_cases hend : s.ended
  · rw [if_pos hend]
    exact .inr ⟨fun h => absurd hend h, .stay rfl rfl⟩
  · rw [if_neg hend]
    cases hdone : s.completion e with
    | some r => exact .inl ⟨r.1, r.2, hend, rfl, rfl⟩
    | none => exact .inr ⟨fun _ => rfl, proceed_proceeds s e⟩

theorem finish_refcount {s : BufferState} {b : Fin 1024} (h : s.pool.refcount b ≤ 1)
    (releases : List Releaser) :
    (s.finish b releases).pool.refcount =
      if releases = [] then s.pool.refcount else Function.update s.pool.refcount b 0 := by
  cases releases with
  | nil => rfl
  | cons r rs => exact foldl_free_refcount h r rs

theorem step_owned {s : BufferState} (e : BufferEvent) (h : s.Owned) : (s.step e).Owned := by
  intro c
  obtain ⟨hone, hle⟩ := h c
  obtain ⟨b, releases, -, -, hstep⟩ | ⟨-, hstep⟩ := step_cases s e
  · rw [hstep, finish_refcount (h b).2]
    by_cases hc : c = b
    · subst c
      simp only [finish, Function.update_self]
      split <;> simp [hle]
    · simp only [finish, Function.update_of_ne hc]
      split <;> simp_all [Function.update_of_ne]
  · cases hstep with
    | take b o ho hfree hcount howner =>
        rw [hcount, howner]
        by_cases hc : c = b
        · subst c
          simp
        · simpa [Function.update_of_ne hc] using h c
    | pass b o ho hb hpool howner =>
        rw [hpool, howner]
        by_cases hc : c = b
        · subst c
          exact ⟨fun _ => hone hb, hle⟩
        · simpa [Function.update_of_ne hc] using h c
    | stay hpool howner =>
        rw [hpool, howner]
        exact h c

/-- A buffer gets lost exactly where an event is done with it and it is not released. -/
theorem step_lost {s : BufferState} (e : BufferEvent) (h : s.Owned) (c : Fin 1024) :
    (s.step e).Lost c ↔ s.Lost c ∨ ¬ s.ended ∧ s.completion e = some (c, []) := by
  unfold Lost
  obtain ⟨b, releases, hend, hdone, hstep⟩ | ⟨hnone, hstep⟩ := step_cases s e
  · have hb := (completion_spec hdone).1
    rw [hstep, finish_refcount (h b).2, hdone]
    by_cases hc : c = b
    · subst c
      have hone := (h b).1 hb
      cases releases with
      | nil => simp [finish, hend, hone]
      | cons r rs => simp [finish, hb]
    · have hne : b ≠ c := fun heq => hc heq.symm
      cases releases with
      | nil => simp [finish, Function.update_of_ne hc, hne]
      | cons r rs => simp [finish, Function.update_of_ne hc, hne]
  · have hno : ¬ (¬ s.ended ∧ s.completion e = some (c, [])) := by
      rintro ⟨hend, hdone⟩
      rw [hnone hend] at hdone
      cases hdone
    rw [or_iff_left hno]
    cases hstep with
    | take b o ho hfree hcount howner =>
        rw [hcount, howner]
        by_cases hc : c = b
        · subst c
          simp [ho, hfree]
        · simp [Function.update_of_ne hc]
    | pass b o ho hb hpool howner =>
        rw [hpool, howner]
        by_cases hc : c = b
        · subst c
          simp [ho, hb]
        · simp [Function.update_of_ne hc]
    | stay hpool howner => rw [hpool, howner]

theorem step_lost_iff {s : BufferState} (e : BufferEvent) (h : s.Owned) :
    (∃ c, (s.step e).Lost c) ↔ (∃ c, s.Lost c) ∨ ¬ s.ReleasesOnce e := by
  have hleak : (∃ c, ¬ s.ended ∧ s.completion e = some (c, [])) ↔ ¬ s.ReleasesOnce e := by
    constructor
    · rintro ⟨c, hend, hdone⟩ honce
      exact absurd (honce hend c [] hdone) (by decide)
    · intro honce
      by_contra hno
      refine honce fun hend b releases hdone => (completion_spec hdone).2.resolve_left ?_
      rintro rfl
      exact hno ⟨b, hend, hdone⟩
  rw [← hleak, ← exists_or]
  exact exists_congr fun c => step_lost e h c

theorem owned_start : start.Owned := fun _ => ⟨fun h => absurd rfl h, Nat.zero_le 1⟩

theorem lost_foldl_iff (es : List BufferEvent) :
    (∃ c, (es.foldl step start).Lost c) ↔ ¬ Along step ReleasesOnce start es := by
  have hstart : ¬ ∃ c, start.Lost c := fun ⟨_, h⟩ => h.2 rfl
  have hmark : (∃ c, (es.foldl step start).Lost c) ↔
      (∃ c, start.Lost c) ∨ ¬ Along step ReleasesOnce start es :=
    marked_foldl_iff (fun s : BufferState => ∃ c, s.Lost c) Owned
      (fun _ e h => step_owned e h) (fun _ e h => step_lost_iff e h) owned_start
  rw [hmark, or_iff_right hstart]

theorem remaining_iff {s : BufferState} (h : s.Quiescent) :
    s.pool.cspBufferRemaining = 1024 ↔ ¬ ∃ c, s.Lost c := by
  rw [BufferPool.cspBufferRemaining_eq_iff, not_exists]
  refine forall_congr' fun b => ?_
  simp [Lost, h.2 b]

end BufferState

/-- Over a run every buffer that an operation is done with is released exactly once, and the pool
is full when nothing is going on, exactly if every event of the run is tidy; and one event that is
not keeps the pool from ever being full again. -/
theorem buffers_conserved_iff (es : List BufferEvent) :
    let s := es.foldl BufferState.step .start
    (Along BufferState.step BufferState.ReleasesOnce .start es ∧
        (s.Quiescent → s.pool.cspBufferRemaining = 1024) ↔
      Along BufferState.step BufferState.Tidy .start es) ∧
    (s.Quiescent →
      (s.pool.cspBufferRemaining = 1024 ↔ Along BufferState.step BufferState.Tidy .start es)) := by
  have htidy : Along BufferState.step BufferState.ReleasesOnce .start es ↔
      Along BufferState.step BufferState.Tidy .start es :=
    along_congr (fun _ => True) (fun _ _ _ _ => trivial)
      (fun s e _ => BufferState.releasesOnce_iff_tidy s e) es .start trivial
  have hfull (hq : (es.foldl BufferState.step .start).Quiescent) :
      (es.foldl BufferState.step .start).pool.cspBufferRemaining = 1024 ↔
        Along BufferState.step BufferState.Tidy .start es := by
    rw [BufferState.remaining_iff hq, BufferState.lost_foldl_iff, not_not, htidy]
  refine ⟨⟨fun h => htidy.mp h.1, fun h => ⟨htidy.mpr h, fun hq => (hfull hq).mpr h⟩⟩, hfull⟩

def downlinkPacket : List BufferEvent := [.arrive 15, .read 0, .dispatchDone 0 true true]

theorem not_buffers_conserved : ¬ ∀ es : List BufferEvent,
    let s := es.foldl BufferState.step .start
    Along BufferState.step BufferState.ReleasesOnce .start es ∧
      (s.Quiescent → s.pool.cspBufferRemaining = 1024) := by
  intro h
  have hquiet : (downlinkPacket.foldl BufferState.step .start).Quiescent :=
    ⟨by decide +kernel, by decide +kernel⟩
  have hfull := (h downlinkPacket).2 hquiet
  exact absurd hfull (by decide +kernel)

end UhfGs.Station
