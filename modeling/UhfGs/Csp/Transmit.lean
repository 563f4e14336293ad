import UhfGs.Csp.Output

/-! What `csp_sendto` hands to the interface, and when it succeeds. -/
namespace UhfGs.Csp

def outgoing (node : Node) (idout : CspId) (packet : Packet) : Option Packet :=
  if idout.src.val = node.address.toNat then protect node idout.flags { packet with id := idout }
  else some { packet with id := idout }

/-- The transmit function that `csp_send_direct` reaches, and the packet it gets. -/
def handedOver (node : Node) (idout : CspId) (packet : Packet) (ifout : Option Iface) :
    Option ((Packet → Err × List UInt8) × Packet) := do
  let iface ← ifout
  let nexthop ← iface.nexthop
  let p ← outgoing node idout packet
  if iface.mtu > 0 ∧ p.length > iface.mtu then none else some (nexthop, p)

theorem cspSendDirect_eq (node : Node) (idout : CspId) (packet : Packet) (ifout : Option Iface) :
    cspSendDirect node idout packet ifout =
      match handedOver node idout packet ifout with
      | none => (.tx, [])
      | some (nexthop, p) =>
          match nexthop p with
          | (.none, line) => (.none, line)
          | (_, line) => (.tx, line) := by
  unfold cspSendDirect handedOver
  cases ifout with
  | none => rfl
  | some iface =>
      cases hn : iface.nexthop with
      | none => simp [hn]
      | some nexthop =>
          have hout : (if idout.src.val = node.address.toNat then
              protect node idout.flags { packet with id := idout }
            else some { packet with id := idout }) = outgoing node idout packet := rfl
          simp only [Option.bind_some, hn, Option.map_some, Option.bind_eq_bind, hout]
          cases outgoing node idout packet with
          | none => rfl
          | some p =>
              simp only [Option.bind_some]
              by_cases hlong : iface.mtu > 0 ∧ p.length > iface.mtu
              · simp only [hlong, and_self, if_true]
              · cases hsent : nexthop p with
                | mk err line => cases err <;> simp only [hlong, if_false, hsent]

theorem handedOver_eq_some {node : Node} {idout : CspId} {packet p : Packet} {ifout : Option Iface}
    {nexthop : Packet → Err × List UInt8} :
    handedOver node idout packet ifout = some (nexthop, p) ↔
      ∃ iface, ifout = some iface ∧ iface.nexthop = some nexthop ∧
        outgoing node idout packet = some p ∧ (iface.mtu = 0 ∨ p.length ≤ iface.mtu) := by
  have hfit (mtu n : UInt16) : ¬ (mtu > 0 ∧ n > mtu) ↔ mtu = 0 ∨ n ≤ mtu := by
    rw [not_and_or, UInt16.not_lt, UInt16.not_lt, UInt16.le_zero_iff]
  unfold handedOver
  constructor
  · intro h
    obtain ⟨iface, hroute, h⟩ := Option.bind_eq_some_iff.mp h
    obtain ⟨tx, hn, h⟩ := Option.bind_eq_some_iff.mp h
    obtain ⟨p', hp, h⟩ := Option.bind_eq_some_iff.mp h
    by_cases hlong : iface.mtu > 0 ∧ p'.length > iface.mtu
    · rw [if_pos hlong] at h
      cases h
    · rw [if_neg hlong] at h
      cases h
      exact ⟨iface, hroute, hn, hp, (hfit _ _).mp hlong⟩
  · rintro ⟨iface, hroute, hn, hp, hm⟩
    simp only [hroute, Option.bind_eq_bind, Option.bind_some, hn, hp, if_neg ((hfit _ _).mpr hm)]

theorem outgoing_unflagged (node : Node) {idout : CspId} (h : idout.flags = 0) (packet : Packet) :
    outgoing node idout packet = some { packet with id := idout } := by
  simp only [outgoing, h, protect_zero, ite_self]

structure SendtoCall where
  prio : UInt8
  dest : UInt8
  dport : UInt8
  srcPort : UInt8
  opts : UInt32
  packet : Packet

namespace SendtoCall
variable (node : Node) (call : SendtoCall)

def run : Err × List UInt8 :=
  cspSendto node call.prio call.dest call.dport call.srcPort call.opts call.packet

def flags : UInt8 :=
  (if call.opts &&& optHmac ≠ 0 then fhmac else 0) |||
    (if call.opts &&& optXtea ≠ 0 then fxtea else 0) |||
    (if call.opts &&& optCrc32 ≠ 0 then fcrc32 else 0)

def id : CspId := sendtoId node call.prio call.dest call.dport call.srcPort call.flags

def handedOver : Option ((Packet → Err × List UInt8) × Packet) :=
  if call.opts &&& optRdp ≠ 0 then none
  else
    Csp.handedOver node (call.id node) { call.packet with id := call.id node }
      (node.cspRtableFindIface call.dest)

/-- RDP is not asked for, there is a route with a transmit function, protecting the packet works
and leaves it within the MTU, and the transmit function takes it. -/
def Transmittable : Prop :=
  call.opts &&& optRdp = 0 ∧ ∃ iface nexthop p,
    node.cspRtableFindIface call.dest = some iface ∧ iface.nexthop = some nexthop ∧
      outgoing node (call.id node) call.packet = some p ∧
      (iface.mtu = 0 ∨ p.length ≤ iface.mtu) ∧ (nexthop p).1 = .none

theorem run_eq : call.run node =
    match call.handedOver node with
    | none => (if call.opts &&& optRdp ≠ 0 then .inval else .notsup, [])
    | some (nexthop, p) =>
        match nexthop p with
        | (.none, line) => (.none, line)
        | (_, line) => (.notsup, line) := by
  unfold run cspSendto handedOver
  by_cases hr : call.opts &&& optRdp ≠ 0
  · rw [if_pos hr, if_pos hr, if_pos hr]
  · have hid : sendtoId node call.prio call.dest call.dport call.srcPort
        ((if call.opts &&& optHmac ≠ 0 then fhmac else 0) |||
          (if call.opts &&& optXtea ≠ 0 then fxtea else 0) |||
          (if call.opts &&& optCrc32 ≠ 0 then fcrc32 else 0)) = call.id node := rfl
    simp only [hr, if_false, hid, cspSendDirect_eq]
    cases Csp.handedOver node (call.id node) { call.packet with id := call.id node }
        (node.cspRtableFindIface call.dest) with
    | none => rfl
    | some h =>
        obtain ⟨nexthop, p⟩ := h
        simp only
        cases nexthop p with
        | mk err line => cases err <;> rfl

theorem handedOver_eq_some {nexthop : Packet → Err × List UInt8} {p : Packet} :
    call.handedOver node = some (nexthop, p) ↔
      call.opts &&& optRdp = 0 ∧ ∃ iface,
        node.cspRtableFindIface call.dest = some iface ∧ iface.nexthop = some nexthop ∧
          outgoing node (call.id node) call.packet = some p ∧
          (iface.mtu = 0 ∨ p.length ≤ iface.mtu) := by
  unfold handedOver
  by_cases hr : call.opts &&& optRdp = 0
  · rw [if_neg (not_not.mpr hr), Csp.handedOver_eq_some]
    exact (and_iff_right hr).symm
  · rw [if_pos hr]
    exact iff_of_false (fun h => nomatch h) fun h => hr h.1

theorem transmittable_iff : call.Transmittable node ↔
    ∃ nexthop p, call.handedOver node = some (nexthop, p) ∧ (nexthop p).1 = .none := by
  simp only [handedOver_eq_some]
  constructor
  · rintro ⟨hr, iface, nexthop, p, hroute, hn, hp, hm, hok⟩
    exact ⟨nexthop, p, ⟨hr, iface, hroute, hn, hp, hm⟩, hok⟩
  · rintro ⟨nexthop, p, ⟨hr, iface, hroute, hn, hp, hm⟩, hok⟩
    exact ⟨hr, iface, nexthop, p, hroute, hn, hp, hm, hok⟩

theorem run_none_iff : (call.run node).1 = .none ↔ call.Transmittable node := by
  rw [transmittable_iff, run_eq]
  cases h : call.handedOver node with
  | none =>
      by_cases hr : call.opts &&& optRdp ≠ 0
      · simp [hr]
      · simp [hr]
  | some x =>
      obtain ⟨nexthop, p⟩ := x
      simp only [Option.some.injEq, Prod.mk.injEq]
      cases hx : nexthop p with
      | mk err line =>
          constructor
          · intro hok
            refine ⟨nexthop, p, ⟨rfl, rfl⟩, ?_⟩
            cases err <;> simp_all
          · rintro ⟨_, _, ⟨rfl, rfl⟩, hok⟩
            rw [hx] at hok
            cases hok
            rfl

end SendtoCall
end UhfGs.Csp
