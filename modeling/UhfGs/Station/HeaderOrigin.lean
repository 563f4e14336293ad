import UhfGs.Station.Steps

/-! Whose identifier the header of a downlink carries. -/
namespace UhfGs.Station
open Bytes Csp Csp.ConnTable Runs UhfGs.Station.System

/-- The identifier of the last connection created in slot `k`, zeroed memory before the first. -/
def lastCreated (k : Slot) : List Obs → CspId
  | [] => .zero
  | .created j id :: past => if j = k then id else lastCreated k past
  | _ :: past => lastCreated k past

/-- What `receive_packet` makes of `header` is what it would make of `idin`: the encoded header, and
the destination that decides between beacon and downlink. -/
def Attributed (header idin : CspId) (length : UInt16) : Prop :=
  cspHeader (headerValues header) length = cspHeader (headerValues idin) length ∧
    headerValues header 0 = headerValues idin 0

theorem cspHeader_flow {x y : CspId} (length : UInt16) (h : x.flow = y.flow) :
    cspHeader (headerValues x) length = cspHeader (headerValues y) length := by
  obtain ⟨hsrc, hdst, hdport, hsport⟩ := Csp.Flow.mk.inj h
  rw [cspHeader_headerValues, cspHeader_headerValues, hsrc, hdst, hdport, hsport]

theorem flow_of_cspHeader {x y : CspId} {length : UInt16}
    (h : cspHeader (headerValues x) length = cspHeader (headerValues y) length) :
    x.flow = y.flow := by
  have hfields (z : CspId) : headerOf (cspHeader (headerValues z) length) =
      headerOf (cspHeader (headerValues ⟨0, z.src, z.dst, z.dport, z.sport, 0⟩) length) := by
    rw [cspHeader_flow length (show z.flow = CspId.flow ⟨0, z.src, z.dst, z.dport, z.sport, 0⟩
      from rfl)]
  have hdecoded := congrArg headerOf h
  rw [hfields x, hfields y, headerOf_cspHeader, headerOf_cspHeader] at hdecoded
  simp only [Header.mk.injEq, true_and, and_true, Int.natCast_inj] at hdecoded
  obtain ⟨hsrc, hdst, hdport, hsport⟩ := hdecoded
  unfold CspId.flow
  rw [Fin.ext hsrc, Fin.ext hdst, Fin.ext hdport, Fin.ext hsport]

theorem attributed_iff {header idin : CspId} {length : UInt16} :
    Attributed header idin length ↔ header.flow = idin.flow := by
  refine ⟨fun h => flow_of_cspHeader h.1, fun h => ⟨cspHeader_flow length h, ?_⟩⟩
  have hdst : header.dst = idin.dst := congrArg Csp.Flow.dst h
  rw [headerValues, headerValues, hdst]

/-- What the observation of a downlink says about the connections created before it. -/
def HeaderRead (o : Obs) (past : List Obs) : Prop :=
  match o with
  | .received c _ idin header => idin = lastCreated c past ∧ header = lastCreated 2 past
  | _ => True

/-- Every slot has the identifier of the last connection created in it. -/
structure Traced (s : System) : Prop where
  idin : ∀ k, (s.table.conn k).idin = lastCreated k s.history
  headers : Throughout HeaderRead s.history

namespace Traced
variable {s s' : System}

theorem keep (h : Traced s) (ht : s'.table = s.table) (hh : s'.history = s.history) :
    Traced s' where
  idin j := by rw [ht, hh, h.idin j]
  headers := hh ▸ h.headers

theorem change (h : Traced s) {k : Slot} {c : Conn QueuedPacket}
    (ht : s'.table.conn = Function.update s.table.conn k c)
    (hc : c.idin = (s.table.conn k).idin) (hh : s'.history = s.history) : Traced s' where
  idin j := by
    rw [ht, hh, ← h.idin j]
    by_cases hj : j = k
    · rw [hj, Function.update_self, hc]
    · rw [Function.update_of_ne hj]
  headers := hh ▸ h.headers

theorem observe (h : Traced s) {o : Obs} (ht : s'.table = s.table)
    (hh : s'.history = o :: s.history)
    (hl : ∀ k, lastCreated k (o :: s.history) = lastCreated k s.history)
    (ho : HeaderRead o s.history) : Traced s' where
  idin j := by rw [ht, hh, hl, h.idin j]
  headers := hh ▸ ⟨ho, h.headers⟩

theorem create (h : Traced s) {k : Slot} {idin idout : CspId}
    (ht : s'.table = s.table.update k fun c => { c with idin, idout })
    (hh : s'.history = .created k idin :: s.history) : Traced s' where
  idin j := by
    rw [ht, hh, update_conn, lastCreated]
    by_cases hj : j = k
    · simp [hj]
    · simp [hj, Ne.symm hj, h.idin j]
  headers := hh ▸ ⟨trivial, h.headers⟩

theorem allocate (h : Traced s) {k : Slot} {type : ConnType} {table : ConnTable QueuedPacket}
    (hk : s.table.allocate type = some (k, table)) (ht : s'.table = table)
    (hh : s'.history = s.history) : Traced s' := by
  obtain ⟨-, rfl⟩ := allocate_some hk
  exact h.change (congrArg ConnTable.conn ht) rfl hh

theorem flushes {k : Slot} {stage : Nat} {next : Option Nat} (h : Traced s)
    (hf : Flushes s k stage s' next) : Traced s' := by
  cases hf with
  | skip hlt hq => exact h
  | null hlt rest hq => exact h.change rfl rfl rfl
  | drop hlt p rest hq =>
      have hdrop : Traced (s.update k fun c =>
          { c with rxQueue := Function.update c.rxQueue ⟨stage, hlt⟩ rest }) :=
        h.change rfl rfl rfl
      exact hdrop.observe rfl rfl (fun _ => rfl) trivial
  | event hle => exact h.change rfl rfl rfl
  | done hle he => exact h

theorem closes {k : Slot} {free : Bool} {stage : CloseStage} {next : Option CloseStage}
    (h : Traced s) (hc : Closes s k free stage s' next) : Traced s' := by
  cases hc with
  | timedOut => exact h
  | locked hfree => exact h
  | flush stage s' stage' hf => exact h.flushes hf
  | check st next hn => exact h.change rfl rfl rfl
  | set => exact h.change rfl rfl rfl
  | flushed stage hle he => exact h.change rfl rfl rfl

theorem route {me : Fin 32} (h : Traced s) (hstep : RouterStep me s s') : Traced s' := by
  cases hstep with
  | fill p k hr => exact h.create rfl rfl
  | allocate p k table hr hlock hk => exact h.allocate hk rfl rfl
  | clear p k stage stage' s' hr hf => exact (h.flushes hf).keep rfl rfl
  | close k stage s' next hr hc => exact (h.closes hc).keep rfl rfl
  | posted p k hr hsock => exact h.observe rfl rfl (fun _ => rfl) trivial
  | post p k hr hroom => exact h.observe rfl rfl (fun _ => rfl) trivial
  | attach p k hr => exact h.change rfl rfl rfl
  | push p k hr hp => exact h.change rfl rfl rfl
  | event p k hr => exact h.change rfl rfl rfl
  | detach k hr => exact h.change rfl rfl rfl
  | rdpState p k st hr => exact h.change rfl rfl rfl
  | rdpStore p k hr => exact h.change rfl rfl rfl
  | rdpNull p k hr => exact h.change rfl rfl rfl
  | rdpEnqueue p k hr => exact h.change rfl rfl rfl
  | rdpStored p k q hr hq => exact h.change rfl rfl rfl
  | rdpEvent p k hr => exact h.change rfl rfl rfl
  | rdpDetach p k hr => exact h.change rfl rfl rfl
  | _ => exact h.keep rfl rfl

theorem serve {me : Fin 32} (h : Traced s) (hstep : ServerStep me s s') : Traced s' := by
  cases hstep with
  | accept k backlog hr hb => exact h.observe rfl rfl (fun _ => rfl) trivial
  | toTake k hr => exact h.change rfl rfl rfl
  | takeNull k prio rest hr hq => exact h.change rfl rfl rfl
  | take k p prio rest hr hq =>
      have htake : Traced (s.update k fun c =>
          { c with rxQueue := Function.update c.rxQueue prio rest }) := h.change rfl rfl rfl
      exact htake.observe rfl rfl (fun _ => rfl) trivial
  | receive k p hr hp => exact h.observe rfl rfl (fun _ => rfl) ⟨h.idin k, h.idin 2⟩
  | allocate k j table hr hlock hj => exact h.allocate hj rfl rfl
  | replyFill k j sport hr hs => exact h.create rfl rfl
  | replyClear k j stage stage' s' hr hf => exact (h.flushes hf).keep rfl rfl
  | close k inLoop stage s' next hr hc =>
      have hclosed := h.closes hc
      split
      · exact hclosed.observe rfl rfl (fun _ => rfl) trivial
      · exact hclosed.keep rfl rfl
  | _ => exact h.keep rfl rfl

end Traced

theorem traced_start : Traced start where
  idin k := by
    revert k
    decide
  headers := trivial

theorem traced_of_reaches {me : Fin 32} {C : System → Prop} {s : System}
    (h : Reaches (step me) C .start s) : Traced s :=
  h.invariant traced_start fun s _ s' hs _ hstep => by
    obtain hr | hv := step_cases hstep
    · exact hs.route hr
    · exact hs.serve hv

/-- In every run, what `receive_packet` encodes and decides on is that of the packet's connection
exactly if the last connection created in slot 2 belongs to the same flow. -/
theorem received_attributed_iff {me : Fin 32} {s : System} {c : Slot} {p : QueuedPacket}
    {idin header : CspId} {past : List Obs} (h : Reaches (step me) (fun _ => True) .start s)
    (hobs : .received c p idin header :: past <:+ s.history) :
    Attributed header idin p.length ↔
      (lastCreated 2 past).flow = (lastCreated c past).flow := by
  obtain ⟨hidin, hheader⟩ := (traced_of_reaches h).headers.at hobs
  rw [attributed_iff, hidin, hheader]

/-- Two packets from different nodes, and `task_server` up to the second `receive_packet`. -/
def twoFlows : System :=
  (exec (step 10) (fun _ => True) start
    (arrival (downlinkId 1) 13 ++ arrival (downlinkId 3) 13 ++ serving 22)).get (by decide +kernel)

theorem reaches_twoFlows : Reaches (step 10) (fun _ => True) .start twoFlows :=
  reaches_of_exec .start (Option.some_get _).symm

theorem twoFlows_history : twoFlows.history =
    .received 3 ⟨1, downlinkId 3, 4⟩ (downlinkId 3) (downlinkId 1) :: twoFlows.history.tail := by
  decide +kernel

theorem received_attributed_iff_twoFlows :
    Attributed (downlinkId 1) (downlinkId 3) 4 ↔
      (lastCreated 2 twoFlows.history.tail).flow = (lastCreated 3 twoFlows.history.tail).flow :=
  received_attributed_iff (p := ⟨1, downlinkId 3, 4⟩) reaches_twoFlows
    (by rw [← twoFlows_history])

/-- The second packet is attributed to the first one's node. -/
theorem not_received_attributed : ¬ ∀ (me : Fin 32) (s : System),
    Reaches (step me) (fun _ => True) .start s → ∀ c p idin header past,
      .received c p idin header :: past <:+ s.history → Attributed header idin p.length := by
  intro h
  have hobs : Attributed (downlinkId 1) (downlinkId 3) 4 :=
    h 10 twoFlows reaches_twoFlows 3 ⟨1, downlinkId 3, 4⟩ _ _ _ (by rw [← twoFlows_history])
  exact absurd (attributed_iff.mp hobs) (by decide)

end UhfGs.Station
