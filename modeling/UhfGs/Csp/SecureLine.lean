import UhfGs.Csp.KissNode
import UhfGs.Csp.Security

/-! From `csp_sendto` on one node over a serial line to the router of another. -/
namespace UhfGs.Csp
open Bytes KissRx

def optFlags (opts : UInt32) : UInt8 :=
  (if opts &&& optHmac ≠ 0 then fhmac else 0) |||
    (if opts &&& optXtea ≠ 0 then fxtea else 0) |||
    (if opts &&& optCrc32 ≠ 0 then fcrc32 else 0)

def overhead (flags : UInt8) : Nat :=
  (if flags &&& fhmac ≠ 0 then 4 else 0) + (if flags &&& fcrc32 ≠ 0 then 4 else 0) +
    (if flags &&& fxtea ≠ 0 then 4 else 0)

theorem overhead_le (flags : UInt8) : overhead flags ≤ 12 := by
  have hle (c : Prop) [Decidable c] : (if c then 4 else 0) ≤ 4 := by
    split
    · exact Nat.le_refl _
    · exact Nat.zero_le _
  unfold overhead
  have h₁ := hle (flags &&& fhmac ≠ 0)
  have h₂ := hle (flags &&& fcrc32 ≠ 0)
  have h₃ := hle (flags &&& fxtea ≠ 0)
  omega

theorem length_sealed (keys : Keys) (flags : UInt8) (nonce : UInt32) (msg : List UInt8) :
    (sealed keys flags nonce msg).length = msg.length + overhead flags := by
  have htag : (tagged keys flags msg).length = msg.length +
      ((if flags &&& fhmac ≠ 0 then 4 else 0) + if flags &&& fcrc32 ≠ 0 then 4 else 0) := by
    unfold tagged
    split
    · split
      · simp
      · simp
    · split
      · simp
      · simp
  rw [sealed, overhead]
  split
  · rw [enciphered, List.length_append, length_cspXteaEncrypt, htag, Packed.length_store]
    exact Nat.add_assoc _ _ _
  · exact htag

theorem cspSendto_direct {node : Node} {prio dest dport srcPort : UInt8} {opts : UInt32}
    {packet : Packet} {line : List UInt8} (hrdp : opts &&& optRdp = 0)
    (h : cspSendDirect node (sendtoId node prio dest dport srcPort (optFlags opts))
      { packet with id := sendtoId node prio dest dport srcPort (optFlags opts) }
      (node.cspRtableFindIface dest) = (.none, line)) :
    cspSendto node prio dest dport srcPort opts packet = (.none, line) := by
  unfold optFlags at h
  simp only [cspSendto, if_neg (not_not.mpr hrdp), h]

theorem cspSendto_keyed {node : Node} (keys : Keys) (nonce : UInt32) {dest : UInt8}
    {packet : Packet} {opts : UInt32} {sender : Endian}
    (haddr : node.address < 32) (hroute : node.cspRtableFindIface dest = some (kissIface sender true))
    (hrdp : opts &&& optRdp = 0) (hfit : packet.length.toNat + overhead (optFlags opts) ≤ 248)
    (prio dport srcPort : UInt8) :
    ∃ sent, cspSendto (keyedNode node keys nonce) prio dest dport srcPort opts packet =
        cspKissTx sender true sent ∧
      sent.length ≤ 248 ∧ sent.id = sendtoId node prio dest dport srcPort (optFlags opts) ∧
      sent.payload = sealed keys (optFlags opts) nonce packet.payload := by
  let id := sendtoId node prio dest dport srcPort (optFlags opts)
  have hlong := overhead_le (optFlags opts)
  obtain ⟨sent, hsent, hid, hpay⟩ := protect_sealed node keys nonce (optFlags opts)
    (p := { packet with id := id }) (by dsimp only; omega)
  have hsame : ({ packet with id := id } : Packet).payload = packet.payload := rfl
  rw [hsame] at hpay
  have hlen : sent.length ≤ 248 := by
    rw [UInt16.le_iff_toNat_le, ← length_payload, hpay, length_sealed, length_payload]
    exact hfit
  refine ⟨sent, ?_, hlen, hid, hpay⟩
  have hown : id.src.val = (keyedNode node keys nonce).address.toNat :=
    Nat.mod_eq_of_lt (UInt8.lt_iff_toNat_lt.mp haddr)
  have hmtu : ¬ ((256 : UInt16) > 0 ∧ sent.length > 256) := by
    rintro ⟨-, hgt⟩
    have hlt := UInt16.lt_iff_toNat_lt.mp hgt
    have hle := UInt16.le_iff_toNat_le.mp hlen
    simp only [UInt16.reduceToNat] at hlt hle
    omega
  have hdirect : cspSendDirect (keyedNode node keys nonce) id { packet with id := id }
      (some (kissIface sender true)) = cspKissTx sender true sent := by
    simp only [cspSendDirect, kissIface, Option.bind_some, Option.map_some, if_pos hown]
    rw [show id.flags = optFlags opts from rfl, hsent]
    simp only [if_neg hmtu]
    rfl
  have hfound : (keyedNode node keys nonce).cspRtableFindIface dest =
      some (kissIface sender true) := hroute
  rw [← hfound] at hdirect
  exact cspSendto_direct hrdp hdirect

/-- A packet given to `csp_sendto`, the random number it meets, and its frame as it comes in, with
noise on the line before it. -/
structure Sending where
  noise : Line
  prio : UInt8
  dport : UInt8
  srcPort : UInt8
  opts : UInt32
  nonce : UInt32
  packet : Packet
  frame : Line

namespace Sending

/-- The packet fits with what its options add, and there is a buffer for it on the other side. -/
structure Sent (node : Node) (keys : Keys) (dest : UInt8) (x : Sending) : Prop where
  noise : ∀ y ∈ x.noise, y.1 ≠ FEND
  unreliable : x.opts &&& optRdp = 0
  fits : x.packet.length.toNat + overhead (optFlags x.opts) ≤ 248
  frame : x.frame.map Prod.fst =
    (cspSendto (keyedNode node keys x.nonce) x.prio dest x.dport x.srcPort x.opts x.packet).2
  buffered : ∃ y ∈ x.frame.head?, y.2.isSome

def id (node : Node) (dest : UInt8) (x : Sending) : CspId :=
  sendtoId node x.prio dest x.dport x.srcPort (optFlags x.opts)

def onLine (node : Node) (keys : Keys) (dest : UInt8) (x : Sending) : CspId × List UInt8 :=
  (x.id node dest, sealed keys (optFlags x.opts) x.nonce x.packet.payload)

variable {node : Node} {keys : Keys} {dest : UInt8} {sender e : Endian}

theorem run (haddr : node.address < 32)
    (hroute : node.cspRtableFindIface dest = some (kissIface sender true)) {x : Sending}
    (hx : x.Sent node keys dest) {s : KissRx} (hmode : s.handle.rxMode = .notStarted)
    (hp : s.handle.rxPacket = none) :
    ∃ s', cspKissRx e s (x.noise ++ x.frame) = some s' ∧ s'.handle.rxMode = .notStarted ∧
      s'.handle.rxPacket = none ∧ s'.contents = s.contents ++ [x.onLine node keys dest] := by
  obtain ⟨sent, hline, hlen, hid, hpay⟩ := cspSendto_keyed keys x.nonce haddr hroute
    hx.unreliable hx.fits x.prio x.dport x.srcPort
  let t : Transmission := ⟨x.noise, sender, sent, x.frame⟩
  have ht : t.Sent := ⟨hx.noise, hlen, hline ▸ hx.frame⟩
  obtain ⟨s', hs', hmode', hp', hc⟩ := Transmission.run (e := e) hmode hp ht
  rw [if_pos (t.buffered_iff.mpr hx.buffered)] at hc
  refine ⟨s', hs', hmode', hp', ?_⟩
  rw [hc, onLine, id, ← hid, ← hpay]

theorem run_all (haddr : node.address < 32)
    (hroute : node.cspRtableFindIface dest = some (kissIface sender true)) {xs : List Sending}
    (hxs : ∀ x ∈ xs, x.Sent node keys dest) {s : KissRx} (hmode : s.handle.rxMode = .notStarted)
    (hp : s.handle.rxPacket = none) :
    ∃ s', cspKissRx e s (xs.flatMap fun x => x.noise ++ x.frame) = some s' ∧
      s'.contents = s.contents ++ xs.map (onLine node keys dest) := by
  induction xs generalizing s with
  | nil => exact ⟨s, rfl, by simp⟩
  | cons x xs ih =>
      obtain ⟨s₁, hs₁, hmode₁, hp₁, hc₁⟩ :=
        run (e := e) haddr hroute (hxs x List.mem_cons_self) hmode hp
      obtain ⟨s', hs', hc'⟩ := ih (fun y hy => hxs y (List.mem_cons_of_mem x hy)) hmode₁ hp₁
      refine ⟨s', ?_, ?_⟩
      · rw [List.flatMap_cons, cspKissRx_append, hs₁, Option.bind_some, hs']
      · rw [hc', hc₁, List.append_assoc, List.map_cons, List.singleton_append]

/-- A packet that came in is opened to what was sent, by every socket whose options ask for no more
than the sender's. -/
def Opened (e : Endian) (node : Node) (keys : Keys) (dest : UInt8) (x : Sending) (q : Packet) :
    Prop :=
  ∀ securityOpts, Meets securityOpts (optFlags x.opts) →
    ∃ r, cspRouteSecurityCheck e keys securityOpts q = .passed r ∧ r.id = x.id node dest ∧
      r.payload = x.packet.payload

theorem opened_of_view {xs : List Sending} {new : List Packet}
    (hview : view new = xs.map (onLine node keys dest)) :
    List.Forall₂ (Opened e node keys dest) xs new := by
  rw [List.forall₂_iff_get]
  have hlen := congrArg List.length hview
  rw [view, List.length_map, List.length_map] at hlen
  refine ⟨hlen.symm, fun i hi hi' securityOpts hmeets => ?_⟩
  have hsame : (new[i].id, new[i].payload) = xs[i].onLine node keys dest := by
    have hget := congrArg (fun l => l[i]?) hview
    simpa [view, hi, hi'] using hget
  obtain ⟨hid, hpay⟩ := Prod.mk.inj hsame
  obtain ⟨r, hr, hid', hpay'⟩ := (undoes_cspRouteSecurityCheck e keys securityOpts).passes new[i]
    xs[i].packet.payload (by rw [hid]; exact ⟨hmeets, _, hpay⟩)
  exact ⟨r, hr, hid'.trans hid, hpay'⟩

/-- From `csp_sendto` to the router behind the line, which reads meanwhile: under all options but
that for RDP, all nonces and keys, the packets of each priority come in as they were sent, one for one
while there is room. -/
theorem received {s : KissNode} {events : List RxEvent} {xs : List Sending}
    (haddr : node.address < 32) (hroute : node.cspRtableFindIface dest = some (kissIface sender true))
    (hxs : ∀ x ∈ xs, x.Sent node keys dest) (hs : s.rx.fifo.Sorted)
    (hmode : s.rx.handle.rxMode = .notStarted) (hp : s.rx.handle.rxPacket = none)
    (hline : KissNode.characters events = xs.flatMap fun x => x.noise ++ x.frame) :
    ∃ s', s.run e events = some s' ∧ ∀ prio, ∃ kept new,
      kept.Sublist (xs.filter fun x => (x.id node dest).pri = prio) ∧
      (s.roomy e prio events → kept = xs.filter fun x => (x.id node dest).pri = prio) ∧
      s'.through prio = s.through prio ++ new ∧
      List.Forall₂ (Opened e node keys dest) kept new := by
  obtain ⟨r', hr', hc⟩ := run_all (e := e) haddr hroute hxs hmode hp
  rw [← hline] at hr'
  obtain ⟨s', hrun, -, -, hgains⟩ := KissNode.exists_run hs hr' hc
  refine ⟨s', hrun, fun prio => ?_⟩
  obtain ⟨new, hthrough, hsub, hall⟩ := hgains prio
  have hfilter : ((xs.map (onLine node keys dest)).filter fun c => c.1.pri = prio) =
      (xs.filter fun x => (x.id node dest).pri = prio).map (onLine node keys dest) := by
    rw [List.filter_map]
    rfl
  rw [hfilter] at hsub hall
  obtain ⟨kept, hkept, hfull, hview⟩ : ∃ kept : List Sending,
      kept.Sublist (xs.filter fun x => (x.id node dest).pri = prio) ∧
        (s.roomy e prio events → kept = xs.filter fun x => (x.id node dest).pri = prio) ∧
        view new = kept.map (onLine node keys dest) := by
    by_cases hroomy : s.roomy e prio events = true
    · exact ⟨_, List.Sublist.refl _, fun _ => rfl, hall hroomy⟩
    · obtain ⟨kept, hkept, hview⟩ := List.sublist_map_iff.mp hsub
      exact ⟨kept, hkept, fun h => absurd h hroomy, hview⟩
  exact ⟨kept, new, hkept, hfull, hthrough, opened_of_view hview⟩

def behind (noise : List UInt8) (node : Node) (keys : Keys) (dest prio : UInt8)
    (opts nonce : UInt32) (packet : Packet) : Sending :=
  ⟨supplied noise, prio, 10, 25, opts, nonce, packet,
    supplied (cspSendto (keyedNode node keys nonce) prio dest 10 25 opts packet).2⟩

theorem sent_behind (haddr : node.address < 32)
    (hroute : node.cspRtableFindIface dest = some (kissIface sender true)) {noise : List UInt8}
    (hnoise : FEND ∉ noise) {opts : UInt32} {packet : Packet} (hrdp : opts &&& optRdp = 0)
    (hfit : packet.length.toNat + overhead (optFlags opts) ≤ 248) (prio : UInt8) (nonce : UInt32) :
    (behind noise node keys dest prio opts nonce packet).Sent node keys dest where
  noise y hy hflag := by
    refine hnoise ?_
    rw [← hflag, ← map_fst_supplied noise]
    exact List.mem_map_of_mem hy
  unreliable := hrdp
  fits := hfit
  frame := map_fst_supplied _
  buffered := by
    obtain ⟨sent, hline, -⟩ := cspSendto_keyed keys nonce haddr hroute hrdp hfit prio 10 25
    rw [behind, hline]
    exact ⟨(FEND, some fun _ => 0), rfl, rfl⟩

def ground : Node where
  endian := .little
  address := 10
  cspRtableFindIface _ := some (kissIface .little true)
  cspHmacAppend := some
  cspXteaEncrypt := some

/-- One packet under all options and one of another priority, with noise before each. -/
def passage : List Sending :=
  [behind [1, 2] ground zeroKeys 1 2 (optHmac ||| optXtea ||| optCrc32) 7 escaped,
    behind [3] ground zeroKeys 1 0 optXtea 8 escaped]

def arriving : List RxEvent :=
  passage.flatMap fun x => .read :: (x.noise ++ x.frame).map .char

theorem received_arriving : ∃ s', KissNode.init.run .big arriving = some s' ∧
    ∀ prio, ∃ kept new,
      kept.Sublist (passage.filter fun x => (x.id ground 1).pri = prio) ∧
      (KissNode.init.roomy .big prio arriving →
        kept = passage.filter fun x => (x.id ground 1).pri = prio) ∧
      s'.through prio = KissNode.init.through prio ++ new ∧
      List.Forall₂ (Opened .big ground zeroKeys 1) kept new := by
  refine received (by decide) rfl ?_ Qfifo.sorted_empty rfl rfl ?_
  · intro x hx
    obtain rfl | rfl := List.mem_pair.mp hx
    · exact sent_behind (by decide) rfl (by decide) (by decide) (by decide) _ _
    · exact sent_behind (by decide) rfl (by decide) (by decide) (by decide) _ _
  · rw [arriving, KissNode.characters_flatMap]
    exact List.flatMap_congr fun x _ => KissNode.characters_char _

end Sending
end UhfGs.Csp
