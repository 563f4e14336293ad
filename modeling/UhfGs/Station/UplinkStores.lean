import UhfGs.Csp.Buffer
import UhfGs.Csp.Transmit
import UhfGs.Library.Packed
import UhfGs.Library.Stores
import UhfGs.Station.TcpServer

/-! The stores of an uplink into its buffer: the payload, the fields of the packet, the checksum
and the escapes that the serial interface leaves in place. -/
namespace UhfGs.Station
open Bytes Csp CString

def bufSize : UInt64 := 1024

/-- A store into the fields in front of `packet->data`, or into the data bytes of the buffer. -/
def InBuffer (s : Store) : Prop :=
  s.Inside (-packetOverhead.toNat) 0 ∨ s.Inside 0 bufSize.toNat

def lengthStore (e : Endian) (length : UInt16) : Store := ⟨-6, e.store 2 length.toNat⟩

def idStore (word : List UInt8) : Store := ⟨-4, word⟩

def OpenFile.stores (file : OpenFile) : List Store :=
  if 6 < toInt32 file.content.length ∧ 0 < file.headerRead then
    [⟨0, ((file.content.drop (min file.headerRead 6)).take
      (toInt32 file.content.length - 6).toNat).take file.bodyRead⟩]
  else []

def cspCrc32Stores (e : Endian) (packet : Packet) : List Store :=
  let crc := cspHton32 e (cspCrc32Memory packet.payload).toNat
  [⟨packet.length.toNat, e.bytes crc⟩, lengthStore e (packet.length + 4)]

/-- The transmit loop over `n` bytes from the one at `i` on, counted from the identifier: what it
puts on the line, and its stores. -/
def kissLoop (m : Int → UInt8) (i : Nat) : Nat → List UInt8 × List Store
  | 0 => ([], [])
  | n + 1 =>
      if m (i - 4) = FEND then
        let s : Store := ⟨i - 4, [TFEND]⟩
        let (line, stores) := kissLoop (s.apply m) (i + 1) n
        (FESC :: TFEND :: line, s :: stores)
      else if m (i - 4) = FESC then
        let s : Store := ⟨i - 4, [TFESC]⟩
        let (line, stores) := kissLoop (s.apply m) (i + 1) n
        (FESC :: TFESC :: line, s :: stores)
      else
        let (line, stores) := kissLoop m (i + 1) n
        (m (i - 4) :: line, stores)

/-- The memory from the identifier on, once that is in network order. -/
def outMemory (e : Endian) (packet : Packet) : Int → UInt8 :=
  fun i => idAndData e packet (i + 4).toNat

def cspKissStores (e : Endian) (driver : Bool) (packet : Packet) : List Store :=
  if driver then
    let stores := cspCrc32Stores e packet
    let packet := cspCrc32Append e packet
    let length := packet.length + 4
    stores ++ idStore (e.bytes (cspHton32 e (packet.id.ext e))) :: lengthStore e length ::
      (kissLoop (outMemory e packet) 0 length.toNat).2
  else []

/-- `csp_send_direct` for a packet without flags, on a route over the KISS interface. -/
def cspSendDirectStores (node : Node) (idout : CspId) (driver : Bool) (packet : Packet)
    (ifout : Option Iface) : List Store :=
  if (ifout.bind Iface.nexthop).isNone then []
  else
    idStore (node.endian.bytes (idout.ext node.endian)) ::
      match Csp.handedOver node idout packet ifout with
      | none => []
      | some (_, p) => cspKissStores node.endian driver p

def cspSendtoStores (node : Node) (prio dest dport srcPort : UInt8) (driver : Bool)
    (packet : Packet) : List Store :=
  let id := sendtoId node prio dest dport srcPort 0
  idStore (node.endian.bytes (id.ext node.endian)) ::
    cspSendDirectStores node id driver { packet with id := id } (node.cspRtableFindIface dest)

def uplinkStores (env : SendEnv) (driver : Bool) (header : Header) (packet : Packet) :
    List Store :=
  cspSendtoStores env.node (UInt8.ofInt header.pri) (UInt8.ofInt header.dstAddr)
    (UInt8.ofInt header.dstPort) (UInt8.ofInt header.srcPort) driver packet

instance (file : OpenFile) : Decidable file.Readable := inferInstanceAs (Decidable (_ ∧ _ ∧ _))

def sendPacketStores (env : SendEnv) (driver : Bool) : List Store :=
  match env.buffer, env.mcsUplinkFile with
  | some packet, some file =>
      file.stores ++
        if file.Readable then
          let header := (file.params env.stack).toHeader
          let packet := { packet with
            data := file.data packet.data, length := UInt16.ofInt header.dataLength }
          lengthStore env.node.endian packet.length ::
            if header.dstAddr ≤ 15 then uplinkStores env driver header packet else []
        else []
  | _, _ => []

def Params.Fit (p : Params) : Prop :=
  p.pri.length + 1 ≤ 3 ∧ ∀ s ∈ [p.srcOut, p.dstOut, p.dstPOut, p.srcPOut, p.hmacOut, p.xteaOut,
    p.rdpOut, p.crcOut, p.dataLengthOut], s.length + 1 ≤ 6

theorem length_bytes (e : Endian) (w : Nat) : (e.bytes w).length = 4 := by
  cases e <;> rfl

theorem inBuffer_iff (off : Int) (bytes : List UInt8) : InBuffer ⟨off, bytes⟩ ↔
    (-14 ≤ off ∧ off + bytes.length ≤ 0) ∨ (0 ≤ off ∧ off + bytes.length ≤ 1024) :=
  Iff.rfl

theorem inBuffer_lengthStore (e : Endian) (length : UInt16) : InBuffer (lengthStore e length) := by
  rw [lengthStore, inBuffer_iff, Endian.length_store]
  decide

theorem inBuffer_idStore (e : Endian) (w : Nat) : InBuffer (idStore (e.bytes w)) := by
  rw [idStore, inBuffer_iff, length_bytes]
  decide

theorem inBuffer_byte {i n : Nat} (h : i < n) (hn : n ≤ 1028) (b : UInt8) :
    InBuffer ⟨i - 4, [b]⟩ := by
  rw [inBuffer_iff, List.length_singleton]
  omega

theorem inBuffer_kissLoop (m : Int → UInt8) {i n : Nat} (h : i + n ≤ 1028) :
    ∀ s ∈ (kissLoop m i n).2, InBuffer s := by
  induction n generalizing m i with
  | zero => exact List.forall_mem_nil _
  | succ n ih =>
      have hbyte (b : UInt8) : InBuffer ⟨i - 4, [b]⟩ :=
        inBuffer_byte (Nat.lt_succ_self i) (by omega) b
      unfold kissLoop
      split
      · exact List.forall_mem_cons.mpr ⟨hbyte TFEND, ih _ (by omega)⟩
      · split
        · exact List.forall_mem_cons.mpr ⟨hbyte TFESC, ih _ (by omega)⟩
        · exact ih m (by omega)

theorem inBuffer_crc32Stores (e : Endian) {packet : Packet} (h : packet.length.toNat ≤ 1020) :
    ∀ s ∈ cspCrc32Stores e packet, InBuffer s := by
  refine List.forall_mem_cons.mpr ⟨?_, List.forall_mem_singleton.mpr (inBuffer_lengthStore e _)⟩
  rw [inBuffer_iff, length_bytes]
  omega

theorem inBuffer_kissStores (e : Endian) (driver : Bool) {packet : Packet}
    (h : packet.length.toNat ≤ 1020) : ∀ s ∈ cspKissStores e driver packet, InBuffer s := by
  unfold cspKissStores
  split
  · have hlen : (packet.length + 4 + 4).toNat ≤ 1028 := by
      rw [UInt16.toNat_add, UInt16.toNat_add]
      have h4 : (4 : UInt16).toNat = 4 := rfl
      omega
    refine List.forall_mem_append.mpr ⟨inBuffer_crc32Stores e h, ?_⟩
    refine List.forall_mem_cons.mpr ⟨inBuffer_idStore e _, ?_⟩
    refine List.forall_mem_cons.mpr ⟨inBuffer_lengthStore e _, ?_⟩
    exact inBuffer_kissLoop _ (by rwa [Nat.zero_add])
  · exact List.forall_mem_nil _

theorem inBuffer_sendtoStores (node : Node) (prio dest dport srcPort : UInt8) (driver : Bool)
    {packet : Packet} (h : packet.length.toNat ≤ 1020) :
    ∀ s ∈ cspSendtoStores node prio dest dport srcPort driver packet, InBuffer s := by
  refine List.forall_mem_cons.mpr ⟨inBuffer_idStore _ _, ?_⟩
  unfold cspSendDirectStores
  split
  · exact List.forall_mem_nil _
  · refine List.forall_mem_cons.mpr ⟨inBuffer_idStore _ _, ?_⟩
    split
    · exact List.forall_mem_nil _
    · rename_i nexthop p hp
      obtain ⟨_, _, _, hout, _⟩ := handedOver_eq_some.mp hp
      rw [outgoing_unflagged node (show (sendtoId node prio dest dport srcPort 0).flags = 0 from rfl)]
        at hout
      obtain rfl := Option.some.inj hout
      exact inBuffer_kissStores _ _ h

theorem inBuffer_openFile {file : OpenFile} (h : file.content.length ≤ 1024) :
    ∀ s ∈ file.stores, InBuffer s := by
  unfold OpenFile.stores
  split
  · have hle := toInt32_le file.content.length
    refine List.forall_mem_singleton.mpr ?_
    rw [inBuffer_iff, List.length_take, List.length_take]
    omega
  · exact List.forall_mem_nil _

theorem length_toHeader_lt (hexInput : Nat → UInt8) :
    (UInt16.ofInt (decodeParameters hexInput).toHeader.dataLength).toNat < 256 := by
  have h5 := (hexInput 5).toNat_lt
  rw [toHeader_decodeParameters]
  simp only [UInt16.ofInt, UInt16.toNat_ofNat']
  omega

theorem inBuffer_sendPacketStores {env : SendEnv}
    (h : ∀ file ∈ env.mcsUplinkFile, file.content.length ≤ 1024) (driver : Bool) :
    ∀ s ∈ sendPacketStores env driver, InBuffer s := by
  unfold sendPacketStores
  split
  · rename_i packet file _ hfile
    refine List.forall_mem_append.mpr ⟨inBuffer_openFile (h file hfile), ?_⟩
    split
    · have hlen := length_toHeader_lt
        (writeMem 0 ((file.content.take 6).take file.headerRead) env.stack)
      refine List.forall_mem_cons.mpr ⟨inBuffer_lengthStore _ _, ?_⟩
      split
      · exact inBuffer_sendtoStores _ _ _ _ _ _ (Nat.le_of_lt_succ (by
          exact Nat.lt_of_lt_of_le hlen (by decide)))
      · exact List.forall_mem_nil _
    · exact List.forall_mem_nil _
  · exact List.forall_mem_nil _

theorem sendPacketStores_frame {env : SendEnv}
    (h : ∀ file ∈ env.mcsUplinkFile, file.content.length ≤ 1024) (driver : Bool)
    (m : Int → UInt8) {i : Int} (hi : i < -14 ∨ 1024 ≤ i) :
    (sendPacketStores env driver).foldl Store.apply m i = m i := by
  refine @Store.foldl_apply_of_outside _ (-14) 1024 (fun s hs => ?_) m i hi
  have hin := inBuffer_sendPacketStores h driver s hs
  rw [inBuffer_iff] at hin
  rw [Store.inside_iff]
  omega

theorem length_sprintfD_le {n k : Nat} (hk : 0 < k) (h : n < 10 ^ k) :
    (sprintfD (n : Nat)).length ≤ k :=
  (Nat.length_toDigits_le_iff (by decide) hk).mpr h

theorem fit_decodeParameters (hexInput : Nat → UInt8) : (decodeParameters hexInput).Fit := by
  have hmask (x k : Nat) (hk : k < 10 ^ 5) : (sprintfD (x &&& k : Nat)).length + 1 ≤ 6 :=
    Nat.succ_le_succ (length_sprintfD_le (by decide) (Nat.lt_of_le_of_lt Nat.and_le_right hk))
  have hpri (x : Nat) : (sprintfD (x &&& 3 : Nat)).length + 1 ≤ 3 :=
    Nat.succ_le_succ (length_sprintfD_le (by decide)
      (Nat.lt_of_le_of_lt Nat.and_le_right (by decide)))
  refine ⟨hpri _, ?_⟩
  simp only [decodeParameters, List.forall_mem_cons]
  exact ⟨hmask _ _ (by decide), hmask _ _ (by decide), hmask _ _ (by decide),
    hmask _ _ (by decide), hmask _ _ (by decide), hmask _ _ (by decide), hmask _ _ (by decide),
    hmask _ _ (by decide), hmask _ _ (by decide), List.forall_mem_nil _⟩

/-- The loop has read a byte before it stores over it. -/
theorem read_behind (m : Int → UInt8) (i n : Nat) (b : UInt8) :
    ((List.range n).map fun k : Nat => Store.apply m ⟨i - 4, [b]⟩ ((i + 1 : Nat) + k - 4)) =
      (List.range n).map fun k : Nat => m ((i + 1 : Nat) + k - 4) := by
  refine List.map_congr_left fun k _ => ?_
  have hinside : Store.Inside (i - 4) (i - 3) ⟨i - 4, [b]⟩ := by
    rw [Store.inside_iff, List.length_singleton]
    omega
  exact Store.apply_of_outside hinside m (Or.inr (by omega))

theorem kissLoop_line (m : Int → UInt8) (i n : Nat) :
    (kissLoop m i n).1 = kiss.stuff ((List.range n).map fun k : Nat => m (i + k - 4)) := by
  induction n generalizing m i with
  | zero => rfl
  | succ n ih =>
      have hbytes : ((List.range (n + 1)).map fun k : Nat => m (i + k - 4)) =
          m (i - 4) :: (List.range n).map fun k : Nat => m ((i + 1 : Nat) + k - 4) := by
        rw [List.range_succ_eq_map, List.map_cons, List.map_map, Nat.cast_zero, Int.add_zero]
        congr 1
        refine List.map_congr_left fun k _ => ?_
        have hnext : (i : Int) + (k.succ : Nat) - 4 = (i + 1 : Nat) + k - 4 := by omega
        exact congrArg m hnext
      rw [hbytes, Stuffing.Alphabet.stuff, List.flatMap_cons, ← Stuffing.Alphabet.stuff,
        Stuffing.Alphabet.stuffOne]
      unfold kissLoop
      by_cases hflag : m (i - 4) = FEND
      · rw [if_pos hflag, if_pos (show m (i - 4) = kiss.flag from hflag)]
        simp only [ih, read_behind]
        rfl
      · rw [if_neg hflag, if_neg (show ¬ m (i - 4) = kiss.flag from hflag)]
        by_cases hesc : m (i - 4) = FESC
        · rw [if_pos hesc, if_pos (show m (i - 4) = kiss.esc from hesc)]
          simp only [ih, read_behind]
          rfl
        · rw [if_neg hesc, if_neg (show ¬ m (i - 4) = kiss.esc from hesc)]
          simp only [ih]
          rfl

theorem cspKissTx_line (e : Endian) (packet : Packet) :
    (cspKissTx e true packet).2 = FEND :: TNC_DATA ::
      ((kissLoop (outMemory e (cspCrc32Append e packet)) 0
        ((cspCrc32Append e packet).length + 4).toNat).1 ++ [FEND]) := by
  rw [kissLoop_line]
  simp [cspKissTx, outMemory, readMem]

theorem cspCrc32Stores_data (e : Endian) (packet : Packet) {m : Int → UInt8}
    (hm : ∀ i : Nat, m i = packet.data i) (i : Nat) :
    (cspCrc32Stores e packet).foldl Store.apply m i = (cspCrc32Append e packet).data i := by
  have hlength : (lengthStore e (packet.length + 4)).Inside (-6) 0 := by
    rw [lengthStore, Store.inside_iff, Endian.length_store]
    decide
  have hdata : (fun j : Nat => m j) = packet.data := funext hm
  rw [cspCrc32Stores, List.foldl_cons, List.foldl_cons, List.foldl_nil,
    Store.apply_of_outside hlength _ (Or.inr (Int.natCast_nonneg i)), Store.apply_natCast rfl, hdata]
  rfl

theorem openFile_stores_data {file : OpenFile} (h : file.Readable) (packet : Packet)
    {m : Int → UInt8} (hm : ∀ i : Nat, m i = packet.data i) (i : Nat) :
    file.stores.foldl Store.apply m i = file.data packet.data i := by
  have hdata : (fun j : Nat => m j) = packet.data := funext hm
  rw [OpenFile.stores, if_pos ⟨h.1, h.2.1⟩, List.foldl_cons, List.foldl_nil,
    @Store.apply_natCast _ 0 rfl, hdata]
  rfl

/-- Whatever chunk the server received and however much of it reached the file: all stores of the
uplink lie in the buffer, and the numbers of every header fit their arrays. The size check of the
buffer passes because its sum wraps around; it would not hold of the numbers. -/
theorem uplink_stores_inBuffer (chunk : Chunk) (written : Nat) (reopen : Option (Nat × Nat))
    (env : SendEnv) (driver : Bool) :
    (∀ s ∈ sendPacketStores
        { env with mcsUplinkFile := reopenFile (chunk.bytes.take written) reopen } driver,
      InBuffer s) ∧
      (∀ hexInput, (decodeParameters hexInput).Fit) ∧
      (∀ {n : Nat} (pool : BufferPool n), pool.cspBufferGet bufSize sizeMax = pool.take) ∧
      ¬ sizeMax.toNat + packetOverhead.toNat ≤ bufSize.toNat + packetOverhead.toNat := by
  refine ⟨inBuffer_sendPacketStores ?_ driver, fit_decodeParameters, fun pool => if_neg (by decide),
    by decide⟩
  intro file hfile
  obtain ⟨⟨headerRead, bodyRead⟩, -, rfl⟩ := Option.map_eq_some_iff.mp hfile
  have hle := chunk.le
  rw [List.length_take]
  omega

end UhfGs.Station
