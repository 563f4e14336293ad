import UhfGs.Station.BufferRun
import UhfGs.Station.Options

/-! What `send_packet` and `ping_sat_func` report about their call of `csp_sendto`. -/
namespace UhfGs.Station
open Csp

/-- Both callers compare the result with the number -1. -/
def failureBranch (err : Err) : Bool := err.code = -1

/-- What `send_packet` prints: that the packet failed, or when it was sent. -/
inductive SendReport where
  | failed
  | sentAt (time : TimeString)

def sendReport (env : SendEnv) (err : Err) : SendReport :=
  if failureBranch err then .failed else .sentAt env.now

def SendReport.timeString (env : SendEnv) : SendReport → List Char
  | .failed => env.timeStringSent
  | .sentAt time => time.chars

def pingCall (packet : Packet) : SendtoCall :=
  ⟨2, 25, 1, 17, 0, { packet with length := 1, data := Function.update packet.data 0 0 }⟩

/-- The branch is taken exactly on failure, and the result says exactly whether the packet was
transmitted. -/
structure NoticesFailure (node : Node) (call : SendtoCall) : Prop where
  branch : failureBranch (call.run node).1 ↔ ¬ call.Transmittable node
  result : (call.run node).1 ≠ .none ↔ ¬ call.Transmittable node

/-- Every call that `send_packet` makes is noticed where it fails, and only a packet that was
transmitted is reported with the time of its sending. -/
structure SendNotices (env : SendEnv) : Prop where
  notices : ∀ call, sendtoCall env = some call → NoticesFailure env.node call
  stamps : ∀ call, sendtoCall env = some call → ∀ time,
    sendReport env (call.run env.node).1 = .sentAt time → call.Transmittable env.node

theorem not_failureBranch (node : Node) (call : SendtoCall) :
    failureBranch (call.run node).1 = false := by
  have h := cspSendto_code_ne node call.prio call.dest call.dport call.srcPort call.opts call.packet
  rw [failureBranch]
  exact decide_eq_false h

theorem noticesFailure_iff (node : Node) (call : SendtoCall) :
    NoticesFailure node call ↔ call.Transmittable node := by
  constructor
  · intro h
    by_contra hn
    have hb := h.branch.mpr hn
    rw [not_failureBranch] at hb
    cases hb
  · intro h
    refine ⟨?_, not_congr (call.run_none_iff node)⟩
    rw [not_failureBranch]
    simp [h]

theorem sendNotices_iff (env : SendEnv) : SendNotices env ↔
    ∀ call, sendtoCall env = some call → call.Transmittable env.node := by
  constructor
  · intro h call hc
    exact (noticesFailure_iff _ _).mp (h.notices call hc)
  · intro h
    exact ⟨fun call hc => (noticesFailure_iff _ _).mpr (h call hc), fun call hc _ _ => h call hc⟩

/-- For any call of `csp_sendto` whose result is compared with -1, and for those of both callers:
failure is noticed exactly when there is none. -/
theorem failure_noticed_iff (env : SendEnv) (node : Node) (packet : Packet) (call : SendtoCall) :
    (NoticesFailure node call ↔ call.Transmittable node) ∧
      (SendNotices env ↔ ∀ call, sendtoCall env = some call → call.Transmittable env.node) ∧
      (NoticesFailure node (pingCall packet) ↔ (pingCall packet).Transmittable node) :=
  ⟨noticesFailure_iff node call, sendNotices_iff env, noticesFailure_iff node _⟩

/-- A station without a route to satellite 1 reports the ping as sent. -/
theorem not_sendNotices : ¬ ∀ env, SendNotices env := by
  intro h
  let env : SendEnv := { callWith .little usedBuffer [0, 0x10, 0, 0, 0, 1, 0xAA] with
    node := { stationNode .little with cspRtableFindIface := fun _ => none } }
  have hr : (OpenFile.regular [0, 0x10, 0, 0, 0, 1, 0xAA]).Readable :=
    OpenFile.readable_of_length (by decide) (by decide)
  have hh : ((OpenFile.regular [0, 0x10, 0, 0, 0, 1, 0xAA]).params env.stack).toHeader.dstAddr ≤
      15 := by
    rw [OpenFile.toHeader_regular (by decide), headerOf_eq]
    decide
  obtain ⟨-, iface, nexthop, p, hroute, -⟩ :=
    (sendNotices_iff env).mp (h env) _ (sendtoCall_readable rfl rfl hr hh)
  cases hroute

end UhfGs.Station
