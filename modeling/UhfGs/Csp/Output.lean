import UhfGs.Library.Stuffing
import UhfGs.Csp.Packet

/-! The way out of the station: `csp_sendto`, `csp_send_direct` and the KISS
interface on the serial line. -/
namespace UhfGs.Csp
open Bytes

/-- `csp_iface_t`. The transmit function returns an error code and gives the bytes that it
put on the line. -/
structure Iface where
  mtu : UInt16
  nexthop : Option (Packet → Err × List UInt8)

/-- What the output path reads of the node: the host's byte order, the address, the routing
table, and the cipher functions, which can refuse a packet. -/
structure Node where
  endian : Endian
  address : UInt8
  cspRtableFindIface : UInt8 → Option Iface
  cspHmacAppend : Packet → Option Packet
  cspXteaEncrypt : Packet → Option Packet

/- Connect options. -/
def optRdp : UInt32 := 0x0001
def optHmac : UInt32 := 0x0004
def optXtea : UInt32 := 0x0010
def optCrc32 : UInt32 := 0x0040

/-- What `csp_send_direct` does to a packet from its own node before it goes out. -/
def protect (node : Node) (flags : UInt8) (packet : Packet) : Option Packet := do
  let packet ← if flags &&& fhmac ≠ 0 then node.cspHmacAppend packet else some packet
  let packet := if flags &&& fcrc32 ≠ 0 then cspCrc32Append node.endian packet else packet
  if flags &&& fxtea ≠ 0 then node.cspXteaEncrypt packet else some packet

/-- Promiscuous mode is never switched on, so that `csp_promisc_add` does nothing. -/
def cspSendDirect (node : Node) (idout : CspId) (packet : Packet) (ifout : Option Iface) :
    Err × List UInt8 :=
  match ifout.bind fun i => i.nexthop.map fun tx => (i.mtu, tx) with
  | none => (.tx, [])
  | some (mtu, nexthop) =>
      let packet := { packet with id := idout }
      let own := idout.src.val = node.address.toNat
      match if own then protect node idout.flags packet else some packet with
      | none => (.tx, [])
      | some packet =>
          if mtu > 0 ∧ packet.length > mtu then (.tx, [])
          else
            match nexthop packet with
            | (.none, line) => (.none, line)
            | (_, line) => (.tx, line)

/-- The identifier `csp_sendto` writes into a packet. Storing into a bit-field keeps the
low bits. -/
def sendtoId (node : Node) (prio dest dport srcPort flags : UInt8) : CspId where
  pri := Fin.ofNat 4 prio.toNat
  src := Fin.ofNat 32 node.address.toNat
  dst := Fin.ofNat 32 dest.toNat
  dport := Fin.ofNat 64 dport.toNat
  sport := Fin.ofNat 64 srcPort.toNat
  flags := flags

def cspSendto (node : Node) (prio dest dport srcPort : UInt8) (opts : UInt32)
    (packet : Packet) : Err × List UInt8 :=
  if opts &&& optRdp ≠ 0 then (.inval, [])
  else
    let flags :=
      (if opts &&& optHmac ≠ 0 then fhmac else 0) |||
        (if opts &&& optXtea ≠ 0 then fxtea else 0) |||
        (if opts &&& optCrc32 ≠ 0 then fcrc32 else 0)
    let id := sendtoId node prio dest dport srcPort flags
    match cspSendDirect node id { packet with id := id } (node.cspRtableFindIface dest) with
    | (.none, line) => (.none, line)
    | (_, line) => (.notsup, line)

/- The KISS interface. -/
def FEND : UInt8 := 0xC0
def FESC : UInt8 := 0xDB
def TFEND : UInt8 := 0xDC
def TFESC : UInt8 := 0xDD
def TNC_DATA : UInt8 := 0x00

def kiss : Stuffing.Alphabet UInt8 := ⟨FEND, FESC, TFEND, TFESC, by decide⟩

/-- The bytes from the identifier on, as the transmit loop indexes them. -/
def idAndData (e : Endian) (packet : Packet) : Nat → UInt8 :=
  writeMem 0 (e.bytes (cspHton32 e (packet.id.ext e))) fun i => packet.data (i - 4)

def cspKissTx (e : Endian) (driver : Bool) (packet : Packet) : Err × List UInt8 :=
  if driver then
    let packet := cspCrc32Append e packet
    let length := packet.length + 4
    (.none, FEND :: TNC_DATA :: (kiss.stuff (readMem length.toNat (idAndData e packet)) ++ [FEND]))
  else (.driver, [])

def kissIface (e : Endian) (driver : Bool) : Iface where
  mtu := 256
  nexthop := some (cspKissTx e driver)

/-- What a receiver gets out of a frame: the bytes between the TNC command and the closing
FEND, with the escapes undone. -/
def deframe (line : List UInt8) : List UInt8 :=
  kiss.unstuff ((line.drop 2).takeWhile fun b => decide (b ≠ FEND))

theorem deframe_frame (bs : List UInt8) :
    deframe (FEND :: TNC_DATA :: (kiss.stuff bs ++ [FEND])) = bs := by
  have h := kiss.takeWhile_stuff bs []
  have hd : (FEND :: TNC_DATA :: (kiss.stuff bs ++ [FEND])).drop 2 = kiss.stuff bs ++ [FEND] := rfl
  rw [deframe, hd]
  calc kiss.unstuff ((kiss.stuff bs ++ [FEND]).takeWhile fun b => decide (b ≠ FEND))
      = kiss.unstuff (kiss.stuff bs) := congrArg kiss.unstuff h
    _ = bs := kiss.unstuff_stuff bs

theorem deframe_cspKissTx_take (e : Endian) (packet : Packet) (h : packet.length ≤ 0xff00) :
    (deframe (cspKissTx e true packet).2).take 4 = beBytes (packet.id.ext .big) := by
  have hl : 4 ≤ (packet.length + 4 + 4).toNat := by
    have := UInt16.le_iff_toNat_le.mp h
    simp only [UInt16.toNat_add, UInt16.reduceToNat] at this ⊢
    omega
  simp only [cspKissTx, if_true]
  rw [deframe_frame, idAndData, readMem_writeMem_zero, cspCrc32Append_id, bytes_cspHton32,
    CspId.ext_eq, List.take_of_length_le (l := beBytes _) (by simpa [cspCrc32Append] using hl)]
  exact List.take_left' (length_beBytes _)

theorem protect_zero (node : Node) (packet : Packet) : protect node 0 packet = some packet := by
  simp [protect]

theorem cspSendDirect_line (node : Node) {idout : CspId} {iface : Iface}
    {nexthop : Packet → Err × List UInt8} (packet : Packet) (hf : idout.flags = 0)
    (hn : iface.nexthop = some nexthop) (hm : packet.length ≤ iface.mtu) :
    (cspSendDirect node idout packet (some iface)).2 =
      (nexthop { packet with id := idout }).2 := by
  have hfit : ¬ (iface.mtu > 0 ∧ packet.length > iface.mtu) := by
    rintro ⟨-, hl⟩
    exact absurd hl (UInt16.not_lt.mpr hm)
  simp only [cspSendDirect, Option.bind_some, hn, Option.map_some, hf, protect_zero, ite_self,
    hfit, if_false]
  split <;> simp_all

theorem cspSendto_line {node : Node} {dest : UInt8} {iface : Iface}
    {nexthop : Packet → Err × List UInt8} {packet : Packet}
    (hr : node.cspRtableFindIface dest = some iface) (hn : iface.nexthop = some nexthop)
    (hm : packet.length ≤ iface.mtu) (prio dport srcPort : UInt8) :
    (cspSendto node prio dest dport srcPort 0 packet).2 =
      (nexthop { packet with id := sendtoId node prio dest dport srcPort 0 }).2 := by
  have hopt : (0 : UInt32) &&& optRdp = 0 ∧ (0 : UInt32) &&& optHmac = 0 ∧
      (0 : UInt32) &&& optXtea = 0 ∧ (0 : UInt32) &&& optCrc32 = 0 := by decide
  obtain ⟨h1, h2, h3, h4⟩ := hopt
  let id := sendtoId node prio dest dport srcPort 0
  have hline := cspSendDirect_line node { packet with id := id } (show id.flags = 0 from rfl) hn hm
  simp only [cspSendto, h1, h2, h3, h4, ne_eq, not_true_eq_false, if_false, UInt8.or_self, hr]
  rw [← hline]
  obtain ⟨err, line⟩ := cspSendDirect node id { packet with id := id } (some iface)
  cases err <;> rfl

end UhfGs.Csp
