import UhfGs.Clients.ConfigGet
import UhfGs.Csp.Buffer

/-! The requests that carry the name of a file. -/
namespace UhfGs.Clients
open Csp Bytes Packed

structure Path where
  chars : List UInt8
  nonzero : 0 ∉ chars

/-- What `strncpy` leaves in an array that it may fill: the characters, and zeros behind them. -/
def strncpy (n : Nat) (src : List UInt8) : Vector UInt8 n := Vector.ofFn fun i => src.getD i 0

/-- A call of `csp_transaction` with its pointer and length as they are. -/
structure OutCall where
  prio : Fin 4
  dest : UInt8
  port : UInt8
  timeout : UInt32
  outbuf : Nat → UInt8
  outlen : Int
  inlen : Int

def bufferSize : UInt64 := 1024

def OutCall.packet (call : OutCall) (mem : Nat → UInt8) : List UInt8 :=
  readMem (UInt16.ofInt call.outlen).toNat
    (if 0 < call.outlen then writeMem 0 (readMem call.outlen.toNat call.outbuf) mem else mem)

/-- `csp_buffer_get` takes the longer of the two lengths as a `size_t`. -/
def OutCall.Fits (call : OutCall) : Prop :=
  ¬ UInt64.ofInt (max call.inlen call.outlen) + packetOverhead > bufferSize + packetOverhead

instance (call : OutCall) : Decidable call.Fits := inferInstanceAs (Decidable (¬ _))

def cspTransactionOut (link : Link) (call : OutCall) : Exchange :=
  if ¬ link.conn then ⟨0, none, none⟩
  else
    match if call.Fits then link.buffer else none with
    | none => ⟨0, none, none⟩
    | some mem =>
        if ¬ link.sent then ⟨0, none, none⟩
        else if call.inlen = 0 then ⟨1, some (call.packet mem), none⟩
        else
          match link.reply with
          | none => ⟨0, some (call.packet mem), none⟩
          | some data =>
              if call.inlen ≠ -1 ∧ (data.length : Int) ≠ call.inlen then
                ⟨0, some (call.packet mem), none⟩
              else ⟨data.length, some (call.packet mem), some data⟩

/- `struct gatoss_load_req`. -/
structure GatossLoadReq where
  autoload : Int8
  (loadNow storeAsDfl : UInt8)
  path : Vector UInt8 20
  deriving DecidableEq, Repr

def GatossLoadReq.packed : Packed GatossLoadReq :=
  Fields.packed
    (Fields.start mk
      |>.field i8 autoload |>.field u8 loadNow |>.field u8 storeAsDfl |>.field (u8.array 20) path)
    fun _ => rfl

/- `struct gatoss_file_plane_req`. -/
structure GatossFilePlaneReq where
  icao24 : UInt32
  format : UInt8
  (beginTime endTime maxSize : UInt32)
  path : Vector UInt8 50
  deriving DecidableEq, Repr

def GatossFilePlaneReq.packed : Packed GatossFilePlaneReq :=
  Fields.packed
    (Fields.start mk
      |>.field u32 icao24 |>.field u8 format |>.field u32 beginTime |>.field u32 endTime
      |>.field u32 maxSize |>.field (u8.array 50) path)
    fun _ => rfl

/- `struct gatoss_file_plane_reply`. -/
structure GatossFilePlaneReply where
  (memAddr memSize : UInt32)
  deriving DecidableEq, Repr

def GatossFilePlaneReply.packed : Packed GatossFilePlaneReply :=
  Fields.packed (Fields.start mk |>.field u32 memAddr |>.field u32 memSize) fun _ => rfl

/- `struct gatoss_file_all_frames_req`. -/
structure GatossFileAllFramesReq where
  (startTime runDuration maxSize : UInt32)
  path : Vector UInt8 50
  deriving DecidableEq, Repr

def GatossFileAllFramesReq.packed : Packed GatossFileAllFramesReq :=
  Fields.packed
    (Fields.start mk
      |>.field u32 startTime |>.field u32 runDuration |>.field u32 maxSize
      |>.field (u8.array 50) path)
    fun _ => rfl

/- `struct gatoss_file_raw_samples_req`. -/
structure GatossFileRawSamplesReq where
  noiseSample : UInt8
  (timeout maxCount maxSize : UInt32)
  threshold : Int32
  path : Vector UInt8 50
  deriving DecidableEq, Repr

def GatossFileRawSamplesReq.packed : Packed GatossFileRawSamplesReq :=
  Fields.packed
    (Fields.start mk
      |>.field u8 noiseSample |>.field u32 timeout |>.field u32 maxCount |>.field u32 maxSize
      |>.field i32 threshold |>.field (u8.array 50) path)
    fun _ => rfl

/- `struct gatoss_db_store_req`. -/
structure GatossDbStoreReq where
  type : UInt8
  path : Vector UInt8 50
  deriving DecidableEq, Repr

def GatossDbStoreReq.packed : Packed GatossDbStoreReq :=
  Fields.packed (Fields.start mk |>.field u8 type |>.field (u8.array 50) path) fun _ => rfl

/-- What a request finds: the host, the library, the static variables of the clients, the memory
from a local array on, and the field that no one sets. -/
structure PathEnv where
  endian : Endian
  link : Link
  (nodeObc nodeGatoss : UInt8)
  timeoutGatoss : UInt32
  behind : Nat → UInt8
  maxSize : UInt32

def Exchange.char (x : Exchange) : Int := ((x.received.getD []).headD 0).toInt8.toInt

section Builders
variable (s : PathEnv)

def bootConfBuf (checksum bootCounts : UInt32) (path : Path) : List UInt8 :=
  u32.store s.endian (cspHton32Word s.endian checksum) ++
    u32.store s.endian (cspHton32Word s.endian bootCounts) ++ (strncpy 92 path.chars).toList

/-- The length of the string, whatever of it was copied, makes an `int`. -/
def bootConfLen (path : Path) : Int := (Int32.ofNat (path.chars.length + 1 + 4 + 4)).toInt

def obcBootConf (checksum bootCounts : UInt32) (path : Path) : Exchange :=
  cspTransactionOut s.link
    ⟨2, s.nodeObc, 11, 0, fun i => (bootConfBuf s checksum bootCounts path).getD i (s.behind i),
      bootConfLen path, 0⟩

def gatossLoadReq (path : Path) (loadNow storeAsDfl : UInt8) : GatossLoadReq :=
  ⟨-1, loadNow, storeAsDfl, strncpy 20 path.chars⟩

/-- `gatoss_load_fpga` and `gatoss_load_uc`, which differ in their port. -/
def gatossLoad (port : UInt8) (path : Path) (loadNow storeAsDfl : UInt8) : Exchange × Int :=
  let x := cspTransaction s.link
    ⟨2, s.nodeGatoss, port, s.timeoutGatoss,
      GatossLoadReq.packed.store s.endian (gatossLoadReq path loadNow storeAsDfl), 1⟩
  (x, if x.status ≤ 0 then -1 else x.char)

def gatossLoadFpga : Path → UInt8 → UInt8 → Exchange × Int := gatossLoad s 10

def gatossLoadUc : Path → UInt8 → UInt8 → Exchange × Int := gatossLoad s 11

def gatossFilePlaneReq (icao24 : UInt32) (format : UInt8) (beginTime endTime maxSize : UInt32)
    (path : Path) : GatossFilePlaneReq :=
  ⟨cspHton32Word s.endian icao24, format, cspHton32Word s.endian beginTime,
    cspHton32Word s.endian endTime, cspHton32Word s.endian maxSize, strncpy 50 path.chars⟩

def gatossFilePlane (icao24 : UInt32) (format : UInt8) (beginTime endTime maxSize : UInt32)
    (path : Path) (reply : GatossFilePlaneReply) : Exchange × Int × GatossFilePlaneReply :=
  let req := gatossFilePlaneReq s icao24 format beginTime endTime maxSize path
  let x := cspTransaction s.link
    ⟨2, s.nodeGatoss, 27, s.timeoutGatoss, GatossFilePlaneReq.packed.store s.endian req,
      GatossFilePlaneReply.packed.size⟩
  let reply := x.into GatossFilePlaneReply.packed s.endian reply
  if x.status ≠ GatossFilePlaneReply.packed.size then (x, -2, reply)
  else
    (x, 0, ⟨cspNtoh32Word s.endian reply.memAddr, cspNtoh32Word s.endian reply.memSize⟩)

def gatossFile (port : UInt8) (out : List UInt8) : Exchange × Int :=
  let x := cspTransaction s.link ⟨2, s.nodeGatoss, port, s.timeoutGatoss, out, 1⟩
  (x, if x.status ≠ 1 then -2 else x.char)

def gatossFileAllFramesReq (startTime runDuration maxSize : UInt32) (path : Path) :
    GatossFileAllFramesReq :=
  ⟨cspHton32Word s.endian startTime, cspHton32Word s.endian runDuration,
    cspHton32Word s.endian maxSize, strncpy 50 path.chars⟩

def gatossFileAllFrames (startTime runDuration maxSize : UInt32) (path : Path) : Exchange × Int :=
  gatossFile s 25 (GatossFileAllFramesReq.packed.store s.endian
    (gatossFileAllFramesReq s startTime runDuration maxSize path))

def gatossFileAllPositions (startTime runDuration maxSize : UInt32) (path : Path) :
    Exchange × Int :=
  gatossFile s 26 (GatossFileAllFramesReq.packed.store s.endian
    (gatossFileAllFramesReq s startTime runDuration maxSize path))

def gatossFileRawSamplesReq (noiseSample : UInt8) (timeout maxCount : UInt32) (threshold : Int32)
    (path : Path) : GatossFileRawSamplesReq :=
  ⟨noiseSample, cspHton32Word s.endian timeout, cspHton32Word s.endian maxCount, s.maxSize,
    (cspHton32Word s.endian threshold.toUInt32).toInt32, strncpy 50 path.chars⟩

def gatossFileRawSamples (noiseSample : UInt8) (timeout maxCount : UInt32) (threshold : Int32)
    (path : Path) : Exchange × Int :=
  gatossFile s 28 (GatossFileRawSamplesReq.packed.store s.endian
    (gatossFileRawSamplesReq s noiseSample timeout maxCount threshold path))

def gatossDbStore (path : Path) : Exchange × Int :=
  gatossFile s 30 (GatossDbStoreReq.packed.store s.endian ⟨1, strncpy 50 path.chars⟩)

def gatossDbLoad (path : Path) : Exchange × Int :=
  gatossFile s 30 (GatossDbStoreReq.packed.store s.endian ⟨0, strncpy 50 path.chars⟩)

end Builders

inductive PathRequest where
  | obcBootConf (checksum bootCounts : UInt32)
  | gatossLoadFpga (loadNow storeAsDfl : UInt8)
  | gatossLoadUc (loadNow storeAsDfl : UInt8)
  | gatossFilePlane (icao24 : UInt32) (format : UInt8) (beginTime endTime maxSize : UInt32)
      (reply : GatossFilePlaneReply)
  | gatossFileAllFrames (startTime runDuration maxSize : UInt32)
  | gatossFileAllPositions (startTime runDuration maxSize : UInt32)
  | gatossFileRawSamples (noiseSample : UInt8) (timeout maxCount : UInt32) (threshold : Int32)
  | gatossDbStore
  | gatossDbLoad

namespace PathRequest

def transmitted (s : PathEnv) (path : Path) : PathRequest → Option (List UInt8)
  | obcBootConf checksum bootCounts =>
      (Clients.obcBootConf s checksum bootCounts path).transmitted
  | gatossLoadFpga loadNow storeAsDfl =>
      (Clients.gatossLoadFpga s path loadNow storeAsDfl).1.transmitted
  | gatossLoadUc loadNow storeAsDfl =>
      (Clients.gatossLoadUc s path loadNow storeAsDfl).1.transmitted
  | gatossFilePlane icao24 format beginTime endTime maxSize reply =>
      (Clients.gatossFilePlane s icao24 format beginTime endTime maxSize path reply).1.transmitted
  | gatossFileAllFrames startTime runDuration maxSize =>
      (Clients.gatossFileAllFrames s startTime runDuration maxSize path).1.transmitted
  | gatossFileAllPositions startTime runDuration maxSize =>
      (Clients.gatossFileAllPositions s startTime runDuration maxSize path).1.transmitted
  | gatossFileRawSamples noiseSample timeout maxCount threshold =>
      (Clients.gatossFileRawSamples s noiseSample timeout maxCount threshold path).1.transmitted
  | gatossDbStore => (Clients.gatossDbStore s path).1.transmitted
  | gatossDbLoad => (Clients.gatossDbLoad s path).1.transmitted

def image (s : PathEnv) (path : Path) : PathRequest → List UInt8
  | obcBootConf checksum bootCounts => bootConfBuf s checksum bootCounts path
  | gatossLoadFpga loadNow storeAsDfl | gatossLoadUc loadNow storeAsDfl =>
      GatossLoadReq.packed.store s.endian (gatossLoadReq path loadNow storeAsDfl)
  | gatossFilePlane icao24 format beginTime endTime maxSize _ =>
      GatossFilePlaneReq.packed.store s.endian
        (gatossFilePlaneReq s icao24 format beginTime endTime maxSize path)
  | gatossFileAllFrames startTime runDuration maxSize
  | gatossFileAllPositions startTime runDuration maxSize =>
      GatossFileAllFramesReq.packed.store s.endian
        (gatossFileAllFramesReq s startTime runDuration maxSize path)
  | gatossFileRawSamples noiseSample timeout maxCount threshold =>
      GatossFileRawSamplesReq.packed.store s.endian
        (gatossFileRawSamplesReq s noiseSample timeout maxCount threshold path)
  | gatossDbStore => GatossDbStoreReq.packed.store s.endian ⟨1, strncpy 50 path.chars⟩
  | gatossDbLoad => GatossDbStoreReq.packed.store s.endian ⟨0, strncpy 50 path.chars⟩

def offset : PathRequest → Nat
  | obcBootConf .. => 8
  | gatossLoadFpga .. | gatossLoadUc .. => 3
  | gatossFilePlane .. | gatossFileRawSamples .. => 17
  | gatossFileAllFrames .. | gatossFileAllPositions .. => 12
  | gatossDbStore | gatossDbLoad => 1

def room : PathRequest → Nat
  | obcBootConf .. => 92
  | gatossLoadFpga .. | gatossLoadUc .. => 20
  | _ => 50

def outlen (path : Path) : PathRequest → Int
  | obcBootConf .. => bootConfLen path
  | r => (r.offset + r.room : Nat)

def Leaves (s : PathEnv) (path : Path) (r : PathRequest) : Prop :=
  s.link.Sends ∧ r.outlen path ≤ bufferSize.toNat

/-- What goes out comes from the structure alone and has the whole path in it. -/
def Carries (s : PathEnv) (path : Path) (r : PathRequest) : Prop :=
  ∀ data, r.transmitted s path = some data →
    data <+: r.image s path ∧ path.chars ++ [0] <+: data.drop r.offset

end PathRequest

theorem store_chars (e : Endian) {n : Nat} (v : Vector UInt8 n) :
    (u8.array n).store e v = v.toList := by
  have hbyte (b : UInt8) : u8.store e b = [b] := by
    have hone : leBytes 1 b.toNat = [b] := by simp [leBytes]
    cases e with
    | little => exact hone
    | big =>
        change (leBytes 1 b.toNat).reverse = [b]
        rw [hone, List.reverse_singleton]
  have hstore : u8.store e = fun b => [b] := funext hbyte
  simp [array, hstore]

theorem prefix_strncpy_iff (path : Path) (n : Nat) :
    path.chars ++ [0] <+: (strncpy n path.chars).toList ↔ path.chars.length < n := by
  constructor
  · intro h
    have hle := h.length_le
    rw [List.length_append, List.length_singleton, Vector.length_toList] at hle
    exact hle
  · intro h
    refine List.prefix_iff_eq_take.mpr (List.ext_getElem (by simp; omega) fun i hi hi' => ?_)
    simp only [List.length_append, List.length_singleton] at hi
    by_cases hlast : i < path.chars.length
    · simp [strncpy, hlast]
    · obtain rfl : i = path.chars.length := by omega
      simp [strncpy]

theorem readMem_getD {l : List UInt8} {n : Nat} (m : Nat → UInt8) (h : n ≤ l.length) :
    readMem n (fun i => l.getD i (m i)) = l.take n := by
  refine List.ext_getElem (by simp [h]) fun i hi hi' => ?_
  rw [length_readMem] at hi
  have hil : i < l.length := hi.trans_le h
  simp [readMem, hil]

section
variable {link : Link}

theorem OutCall.fits_iff {call : OutCall} (h0 : 0 ≤ call.inlen) (hin : call.inlen < 2 ^ 31)
    (hout : call.outlen < 2 ^ 31) :
    call.Fits ↔ max call.inlen call.outlen ≤ bufferSize.toNat := by
  have hsize : (UInt64.ofInt (max call.inlen call.outlen)).toNat =
      (max call.inlen call.outlen).toNat := by
    rw [UInt64.ofInt, UInt64.toNat_ofNat']
    omega
  have hoverhead : packetOverhead.toNat = 14 := rfl
  have hbuffer : bufferSize.toNat = 1024 := rfl
  rw [Fits, gt_iff_lt, UInt64.lt_iff_toNat_lt, UInt64.toNat_add, UInt64.toNat_add, hsize, hoverhead,
    hbuffer]
  omega

theorem cspTransactionOut_eq {call : OutCall} {out : List UInt8} (h0 : 0 ≤ call.inlen)
    (hin : call.inlen ≤ 1024) (hlen : call.outlen = out.length) (hmax : out.length ≤ 1024)
    (hout : readMem out.length call.outbuf = out) :
    cspTransactionOut link call =
      cspTransaction link ⟨call.prio, call.dest, call.port, call.timeout, out, call.inlen⟩ := by
  have hbuffer : bufferSize.toNat = 1024 := rfl
  have hfits : call.Fits := (OutCall.fits_iff h0 (by omega) (by omega)).mpr (by omega)
  have hwidth : (UInt16.ofInt out.length).toNat = out.length := by
    rw [UInt16.ofInt, UInt16.toNat_ofNat']
    omega
  have hpacket (mem : Nat → UInt8) : call.packet mem =
      Call.packet ⟨call.prio, call.dest, call.port, call.timeout, out, call.inlen⟩ mem := by
    rw [OutCall.packet, hlen, hwidth, Int.toNat_natCast, hout]
    simp only [Int.natCast_pos]
    rfl
  cases hc : link.conn with
  | false => simp [cspTransactionOut, cspTransaction, hc]
  | true =>
      cases hb : link.buffer with
      | none => simp [cspTransactionOut, cspTransaction, cspTransactionPersistent, hc, hb]
      | some mem =>
          cases hr : link.reply <;>
            simp [cspTransactionOut, cspTransaction, cspTransactionPersistent, hc, hfits, hb, hr,
              hpacket]

theorem cspTransactionOut_sends {call : OutCall} (h : link.Sends) (hfits : call.Fits) :
    (cspTransactionOut link call).transmitted.isSome := by
  obtain ⟨hc, hb, hs⟩ := h
  obtain ⟨mem, hb⟩ := Option.isSome_iff_exists.mp hb
  simp only [cspTransactionOut, hc, hfits, hb, hs, not_true, if_false, if_true]
  by_cases hi : call.inlen = 0
  · rw [if_pos hi]
    rfl
  · rw [if_neg hi]
    cases link.reply with
    | none => rfl
    | some data =>
        dsimp only
        split <;> rfl

theorem cspTransactionOut_silent {call : OutCall} (h : ¬ (link.Sends ∧ call.Fits)) :
    (cspTransactionOut link call).transmitted = none := by
  cases hc : link.conn with
  | false => simp [cspTransactionOut, hc]
  | true =>
      by_cases hfits : call.Fits
      · cases hb : link.buffer with
        | none => simp [cspTransactionOut, hc, hb]
        | some mem =>
            have hs : ¬ link.sent := fun hs => h ⟨⟨hc, by rw [hb]; rfl, hs⟩, hfits⟩
            simp [cspTransactionOut, hc, hb, hfits, hs]
      · simp [cspTransactionOut, hc, hfits]

end


/- Every structure ends in its path. -/
section
variable (e : Endian)

theorem GatossLoadReq.drop_store (req : GatossLoadReq) :
    (packed.store e req).drop 3 = req.path.toList := by
  rw [← store_chars e]
  exact Fields.drop_store_field _ (u8.array 20) path e req rfl

theorem GatossFilePlaneReq.drop_store (req : GatossFilePlaneReq) :
    (packed.store e req).drop 17 = req.path.toList := by
  rw [← store_chars e]
  exact Fields.drop_store_field _ (u8.array 50) path e req rfl

theorem GatossFileAllFramesReq.drop_store (req : GatossFileAllFramesReq) :
    (packed.store e req).drop 12 = req.path.toList := by
  rw [← store_chars e]
  exact Fields.drop_store_field _ (u8.array 50) path e req rfl

theorem GatossFileRawSamplesReq.drop_store (req : GatossFileRawSamplesReq) :
    (packed.store e req).drop 17 = req.path.toList := by
  rw [← store_chars e]
  exact Fields.drop_store_field _ (u8.array 50) path e req rfl

theorem GatossDbStoreReq.drop_store (req : GatossDbStoreReq) :
    (packed.store e req).drop 1 = req.path.toList := by
  rw [← store_chars e]
  exact Fields.drop_store_field _ (u8.array 50) path e req rfl

end

namespace PathRequest
variable {s : PathEnv} {path : Path}

theorem length_image (s : PathEnv) (path : Path) (r : PathRequest) :
    (r.image s path).length = r.offset + r.room := by
  cases r with
  | obcBootConf checksum bootCounts =>
      simp only [image, bootConfBuf, List.length_append, Packed.length_store, Vector.length_toList]
      rfl
  | _ => exact Packed.length_store _ _ _

theorem drop_image (s : PathEnv) (path : Path) (r : PathRequest) :
    (r.image s path).drop r.offset = (strncpy r.room path.chars).toList := by
  cases r with
  | obcBootConf checksum bootCounts =>
      refine List.drop_left' ?_
      rw [List.length_append, Packed.length_store, Packed.length_store]
      rfl
  | gatossLoadFpga | gatossLoadUc => exact GatossLoadReq.drop_store s.endian _
  | gatossFilePlane => exact GatossFilePlaneReq.drop_store s.endian _
  | gatossFileAllFrames | gatossFileAllPositions =>
      exact GatossFileAllFramesReq.drop_store s.endian _
  | gatossFileRawSamples => exact GatossFileRawSamplesReq.drop_store s.endian _
  | gatossDbStore | gatossDbLoad => exact GatossDbStoreReq.drop_store s.endian _

theorem transmitted_eq (h : ∀ checksum bootCounts, r ≠ obcBootConf checksum bootCounts) :
    r.transmitted s path = if s.link.Sends then some (r.image s path) else none := by
  have hcall (call : Call) : (cspTransaction s.link call).transmitted =
      if s.link.Sends then some call.out else none := by
    split
    · rename_i hs
      exact transmitted_of_sends call hs
    · rename_i hs
      rw [cspTransaction_of_not_sends call hs]
  cases r with
  | obcBootConf checksum bootCounts => exact absurd rfl (h checksum bootCounts)
  | gatossFilePlane icao24 format beginTime endTime maxSize reply =>
      simp only [transmitted, Clients.gatossFilePlane]
      split <;> exact hcall _
  | _ => exact hcall _

theorem transmitted_obcBootConf_short {checksum bootCounts : UInt32}
    (h : path.chars.length < 92) :
    (obcBootConf checksum bootCounts).transmitted s path =
      if s.link.Sends then
        some (((obcBootConf checksum bootCounts).image s path).take (path.chars.length + 9))
      else none := by
  have hlen : bootConfLen path = (path.chars.length + 9 : Nat) := by
    rw [bootConfLen, Int32.toInt_ofNat_of_lt (by omega)]
  have himage := length_image s path (obcBootConf checksum bootCounts)
  have hroom : path.chars.length + 9 ≤ 8 + 92 := by omega
  have htake : (((obcBootConf checksum bootCounts).image s path).take
      (path.chars.length + 9)).length = path.chars.length + 9 := by
    rw [List.length_take, himage]
    exact Nat.min_eq_left hroom
  have heq := @cspTransactionOut_eq s.link
    ⟨2, s.nodeObc, 11, 0, fun i => (bootConfBuf s checksum bootCounts path).getD i (s.behind i),
      bootConfLen path, 0⟩ _ le_rfl (by simp) (hlen.trans (by rw [htake])) (by rw [htake]; omega)
    (by rw [htake]; exact readMem_getD s.behind (hroom.trans himage.ge))
  simp only [transmitted, Clients.obcBootConf, heq]
  split
  · rename_i hs
    exact transmitted_of_sends _ hs
  · rename_i hs
    rw [cspTransaction_of_not_sends _ hs]

theorem transmitted_isSome_iff (r : PathRequest) :
    (r.transmitted s path).isSome ↔ r.Leaves s path := by
  cases r with
  | obcBootConf checksum bootCounts =>
      have hint : bootConfLen path < 2 ^ 31 := Int32.toInt_lt _
      have hfits := @OutCall.fits_iff
        ⟨2, s.nodeObc, 11, 0, fun i => (bootConfBuf s checksum bootCounts path).getD i (s.behind i),
          bootConfLen path, 0⟩ le_rfl (by simp) hint
      rw [max_le_iff, and_iff_right (Int.natCast_nonneg _)] at hfits
      by_cases h : s.link.Sends ∧ bootConfLen path ≤ bufferSize.toNat
      · exact iff_of_true (cspTransactionOut_sends h.1 (hfits.mpr h.2)) h
      · refine iff_of_false ?_ h
        rw [← hfits] at h
        simp only [transmitted, Clients.obcBootConf, cspTransactionOut_silent h]
        exact Bool.false_ne_true
  | _ =>
      rw [transmitted_eq (by simp)]
      by_cases hs : s.link.Sends
      · simp only [hs, if_true, Option.isSome_some, true_iff]
        exact ⟨hs, by simp [outlen, offset, room, bufferSize]⟩
      · simp [hs, Leaves]

theorem carries_of_short {r : PathRequest} (h : path.chars.length < r.room) :
    r.Carries s path := by
  have hpath : path.chars ++ [0] <+: (r.image s path).drop r.offset := by
    rw [drop_image]
    exact (prefix_strncpy_iff path r.room).mpr h
  intro data hdata
  cases r with
  | obcBootConf checksum bootCounts =>
      rw [transmitted_obcBootConf_short h, Option.ite_none_right_eq_some, Option.some.injEq] at hdata
      obtain ⟨-, rfl⟩ := hdata
      refine ⟨List.take_prefix _ _, ?_⟩
      rw [List.drop_take]
      exact List.prefix_take_iff.mpr ⟨hpath, by simp [offset]⟩
  | _ =>
      rw [transmitted_eq (by simp), Option.ite_none_right_eq_some, Option.some.injEq] at hdata
      obtain ⟨-, rfl⟩ := hdata
      exact ⟨List.prefix_rfl, hpath⟩

/-- A request does right by the paths that leave room for a NUL, and by those that it cannot
send. -/
theorem carries_iff (s : PathEnv) (path : Path) (r : PathRequest) :
    r.Carries s path ↔ path.chars.length < r.room ∨ ¬ r.Leaves s path := by
  constructor
  · intro h
    refine or_iff_not_imp_right.mpr fun hleaves => ?_
    obtain ⟨data, hdata⟩ :=
      Option.isSome_iff_exists.mp ((transmitted_isSome_iff r).mpr (not_not.mp hleaves))
    obtain ⟨hfront, hpath⟩ := h data hdata
    have hsize := hfront.length_le
    have hroom := hpath.length_le
    rw [length_image] at hsize
    rw [List.length_append, List.length_singleton, List.length_drop] at hroom
    omega
  · rintro (h | h)
    · exact carries_of_short h
    · intro data hdata
      exact absurd ((transmitted_isSome_iff r).mp (by rw [hdata]; rfl)) h

/-- A name of twenty characters loses its NUL. -/
theorem load_drops_nul : ¬ ∀ (s : PathEnv) (path : Path) (r : PathRequest), r.Carries s path := by
  intro h
  let link : Link := ⟨true, some fun _ => 0, true, some [0]⟩
  let s : PathEnv := ⟨.little, link, 1, 4, 1000, fun _ => 0, 0⟩
  let path : Path := ⟨List.replicate 20 65, by simp⟩
  obtain ⟨-, hpath⟩ := h s path (gatossLoadFpga 1 0) _ (transmitted_eq (by simp))
  have hroom := hpath.length_le
  rw [List.length_append, List.length_singleton, List.length_drop, length_image] at hroom
  exact absurd hroom (by decide)

end PathRequest

end UhfGs.Clients
