import UhfGs.Clients.ConfigGet
import UhfGs.Clients.Housekeeping

/-! Which fields the converters of the aircraft receiver and of the old power supply reach. -/
namespace UhfGs.Clients
open Csp Bytes Packed

/- `gatoss_pos_t` as it lies in memory, with the bits of its floats. -/
@[ext] structure GatossPosWords where
  (lat lon altitude timestamp : UInt32)
  deriving DecidableEq, Repr, Inhabited

def GatossPosWords.packed : Packed GatossPosWords :=
  Fields.packed
    (Fields.start mk
      |>.field u32 lat |>.field u32 lon |>.field u32 altitude |>.field u32 timestamp)
    fun _ => rfl

/- `gatoss_hk_t`. -/
@[ext] structure GatossHk where
  (current1v2 current2v5 current3v3Fpga current3v3Adc current5v0Board current3v3Board
    current3v3Sd averageFps10sec averageFps1min averageFps5min planeCount : UInt16)
  (frameCount crcCorrected lastIcao24 : UInt32)
  lastPos : GatossPosWords
  bootcount : UInt32
  bootcause : UInt16
  (currentTime totFrames totPlanes totCrcCorrected fpgaCrcCnt flashLastWrite : UInt32)
  deriving DecidableEq, Repr, Inhabited

def GatossHk.packed : Packed GatossHk :=
  Fields.packed
    (Fields.start mk
      |>.field u16 current1v2 |>.field u16 current2v5 |>.field u16 current3v3Fpga
      |>.field u16 current3v3Adc |>.field u16 current5v0Board |>.field u16 current3v3Board
      |>.field u16 current3v3Sd |>.field u16 averageFps10sec |>.field u16 averageFps1min
      |>.field u16 averageFps5min |>.field u16 planeCount |>.field u32 frameCount
      |>.field u32 crcCorrected |>.field u32 lastIcao24 |>.field GatossPosWords.packed lastPos
      |>.field u32 bootcount |>.field u16 bootcause |>.field u32 currentTime
      |>.field u32 totFrames |>.field u32 totPlanes |>.field u32 totCrcCorrected
      |>.field u32 fpgaCrcCnt |>.field u32 flashLastWrite)
    fun _ => rfl

/- The converters of `byteorder.c` have the bodies of those of CSP. -/
section
variable (e : Endian)

def utilBetoh16 (be16 : UInt16) : UInt16 := cspHton16 e be16

def utilBetoh32 (be32 : UInt32) : UInt32 := cspHton32Word e be32

def utilNtohflt (f : UInt32) : UInt32 := cspHton32Word e f

end

def GatossHk.convert (f16 : UInt16 → UInt16) (f32 flt : UInt32 → UInt32) (hk : GatossHk) :
    GatossHk :=
  { hk with
    current1v2 := f16 hk.current1v2
    current2v5 := f16 hk.current2v5
    current3v3Adc := f16 hk.current3v3Adc
    current3v3Board := f16 hk.current3v3Board
    current3v3Fpga := f16 hk.current3v3Fpga
    current5v0Board := f16 hk.current5v0Board
    current3v3Sd := f16 hk.current3v3Sd
    bootcause := f16 hk.bootcause
    bootcount := f32 hk.bootcount
    averageFps10sec := f16 hk.averageFps10sec
    averageFps1min := f16 hk.averageFps1min
    averageFps5min := f16 hk.averageFps5min
    frameCount := f32 hk.frameCount
    planeCount := f16 hk.planeCount
    lastIcao24 := f32 hk.lastIcao24
    lastPos :=
      { altitude := f32 hk.lastPos.altitude
        timestamp := f32 hk.lastPos.timestamp
        lat := flt hk.lastPos.lat
        lon := flt hk.lastPos.lon }
    crcCorrected := f32 hk.crcCorrected
    currentTime := f32 hk.currentTime
    totFrames := f32 hk.totFrames
    totPlanes := f32 hk.totPlanes
    totCrcCorrected := f32 hk.totCrcCorrected
    fpgaCrcCnt := f32 hk.fpgaCrcCnt }

def gatossHk (peers : Peers) (e : Endian) (link : Link) (hk : GatossHk) (save : UInt8) :
    Int × GatossHk :=
  let x := cspTransaction link
    ⟨2, peers.nodeGatoss, 9, peers.timeoutGatoss, [save], GatossHk.packed.size⟩
  let hk := x.into GatossHk.packed e hk
  if x.status ≤ 0 then (x.status, hk)
  else (x.status, hk.convert (utilBetoh16 e) (utilBetoh32 e) (utilNtohflt e))

/- `eps_hk_1_t`. -/
@[ext] structure EpsHk1 where
  pv : Vector UInt16 3
  (pc bv sc : UInt16)
  temp : Vector Int16 6
  latchup : Vector UInt16 6
  reset : UInt8
  (bootcount swErrors : UInt16)
  (pptMode channelStatus : UInt8)
  deriving DecidableEq, Repr

def EpsHk1.packed : Packed EpsHk1 :=
  Fields.packed
    (Fields.start mk
      |>.field (u16.array 3) pv |>.field u16 pc |>.field u16 bv |>.field u16 sc
      |>.field (i16.array 6) temp |>.field (u16.array 6) latchup |>.field u8 reset
      |>.field u16 bootcount |>.field u16 swErrors |>.field u8 pptMode |>.field u8 channelStatus)
    fun _ => rfl

def epsHk1Pack (e : Endian) (hk : EpsHk1) : EpsHk1 :=
  { hk with
    pv := hk.pv.map (cspHton16 e)
    pc := cspHton16 e hk.pc
    bv := cspHton16 e hk.bv
    sc := cspHton16 e hk.sc
    temp := hk.temp.map (signed16 (cspHton16 e))
    latchup := hk.latchup.map (cspHton16 e)
    bootcount := cspHton16 e hk.bootcount }

/-- What `eps_slave_hk` finds: whether there is a buffer, whether the frame is taken, and the data of
the one that comes back. -/
structure I2cBus where
  buffer : Bool
  sent : Bool
  received : Option (List UInt8)

structure I2cFrame where
  dest : UInt8
  data : List UInt8
  lenRx : UInt8
  deriving DecidableEq, Repr

/-- What a command of the old power supply returns, the frame that it sends, and the record that it
prints. -/
structure SlaveReport where
  code : Int
  frame : I2cFrame
  chkparam : Option EpsHk1

/-- The conversions of `eps_slave_hk`, an element of an array after the other. -/
def EpsHk1.decode (e : Endian) (hk : EpsHk1) : EpsHk1 :=
  { hk with
    pv := hk.pv.map (cspNtoh16 e)
    pc := cspNtoh16 e hk.pc
    bv := cspNtoh16 e hk.bv
    sc := cspNtoh16 e hk.sc
    temp := hk.temp.map (signed16 (cspNtoh16 e))
    latchup := hk.latchup.map (cspNtoh16 e)
    swErrors := cspNtoh16 e hk.swErrors
    bootcount := cspNtoh16 e hk.bootcount }

/-- The record lies behind two bytes of the frame. Without a buffer the frame is at address 0, and
there is no value. -/
def epsSlaveHk (e : Endian) (bus : I2cBus) (slaveNode : UInt8) : Option SlaveReport :=
  let frame : I2cFrame := ⟨slaveNode, [8], 2 + UInt8.ofNat EpsHk1.packed.size⟩
  if ¬ bus.buffer then none
  else if ¬ bus.sent then some ⟨-3, frame, none⟩
  else
    match bus.received with
    | none => some ⟨-1, frame, none⟩
    | some data => some ⟨0, frame, some ((EpsHk1.packed.load e (data.drop 2)).decode e)⟩

def GatossHk.integers : List (GatossHk → Int) :=
  [fun hk => hk.current1v2.toNat, fun hk => hk.current2v5.toNat, fun hk => hk.current3v3Fpga.toNat,
    fun hk => hk.current3v3Adc.toNat, fun hk => hk.current5v0Board.toNat,
    fun hk => hk.current3v3Board.toNat, fun hk => hk.current3v3Sd.toNat,
    fun hk => hk.averageFps10sec.toNat, fun hk => hk.averageFps1min.toNat,
    fun hk => hk.averageFps5min.toNat, fun hk => hk.planeCount.toNat,
    fun hk => hk.frameCount.toNat, fun hk => hk.crcCorrected.toNat, fun hk => hk.lastIcao24.toNat,
    fun hk => hk.lastPos.altitude.toNat, fun hk => hk.lastPos.timestamp.toNat,
    fun hk => hk.bootcount.toNat, fun hk => hk.bootcause.toNat, fun hk => hk.currentTime.toNat,
    fun hk => hk.totFrames.toNat, fun hk => hk.totPlanes.toNat, fun hk => hk.totCrcCorrected.toNat,
    fun hk => hk.fpgaCrcCnt.toNat, fun hk => hk.flashLastWrite.toNat]

def GatossConf.integers (taskPassive : Bool) : List (GatossConf → Int) :=
  [fun c => c.fpgaThresholdA.toInt, fun c => c.fpgaThresholdB.toInt,
    fun c => c.fpgaThresholdCount.toInt, fun c => c.fpgaAdcSwitchInterval.toNat,
    fun c => c.garbageCollectorInterval.toNat, fun c => c.garbagePlaneInactiveInterval.toNat,
    fun c => c.garbagePlaneNoLockInactiveInterval.toNat, fun c => c.garbagePlaneFrameCount.toNat,
    fun c => c.garbagePlaneFrameInterval.toNat, fun c => c.garbagePosLifetime.toNat,
    fun c => c.garbageFrameLifetime.toNat, fun c => c.currMax3v3Board.toNat,
    fun c => c.currMax5v0Board.toNat] ++
  if taskPassive then
    [fun c => c.passiveInhibit.toNat, fun c => c.passiveIntervalListShort.toNat,
      fun c => c.passiveIntervalListFull.toNat, fun c => c.passiveIntervalPlane.toNat,
      fun c => c.passiveLiveMinTxInterval.toNat, fun c => c.passiveLiveInterval.toNat,
      fun c => c.passiveFilterListShort.toNat, fun c => c.passiveFilterListFull.toNat]
  else []

/-- A use of the converters. What the old power supply sends lies between two bytes and the rest of
the frame. -/
inductive Conversion where
  | gatossHk (peers : Peers) (link : Link) (hk : GatossHk) (save : UInt8)
  | gatossConfGet (peers : Peers) (link : Link) (config : GatossConf)
  | gatossConfSet (peers : Peers) (link : Link) (config : GatossConf)
  | epsSlaveHk (slaveNode : UInt8) (hk : EpsHk1) (front : Vector UInt8 2) (rest : List UInt8)

namespace Conversion

/-- On a little endian host every integer of several bytes is the one in the reply, or in the
record of the caller. -/
def Complete (taskPassive : Bool) : Conversion → Prop
  | gatossHk peers link hk save =>
      link.Sends → ∀ data, link.reply = some data → data.length = GatossHk.packed.size →
        ∀ f ∈ GatossHk.integers,
          f (Clients.gatossHk peers .little link hk save).2 = f (GatossHk.packed.load .big data)
  | gatossConfGet peers link config =>
      link.Sends → ∀ data, link.reply = some data → data.length = GatossConf.packed.size →
        ∀ f ∈ GatossConf.integers taskPassive,
          f (Clients.gatossConfGet peers .little link taskPassive config).2 =
            f (GatossConf.packed.load .big data)
  | gatossConfSet peers link config =>
      ∀ data, (Clients.gatossConfSet peers .little link taskPassive config).exchange.transmitted =
        some data → ∀ f ∈ GatossConf.integers taskPassive,
          f (GatossConf.packed.load .big data) = f config
  | epsSlaveHk slaveNode hk front rest =>
      (Clients.epsSlaveHk .little ⟨true, true, some (front.toList ++
        (EpsHk1.packed.store .little (epsHk1Pack .little hk) ++ rest))⟩ slaveNode).bind
          SlaveReport.chkparam = some hk

/-- The fields that are left out read the same from both ends. -/
def Unharmed : Conversion → Prop
  | gatossHk _ link _ _ =>
      link.Sends → ∀ data, link.reply = some data → data.length = GatossHk.packed.size →
        Mirrored32 (GatossHk.packed.load .big data).flashLastWrite
  | gatossConfGet _ link _ =>
      link.Sends → ∀ data, link.reply = some data → data.length = GatossConf.packed.size →
        Mirrored32 (GatossConf.packed.load .big data).fpgaThresholdCount.toUInt32
  | gatossConfSet _ link config => link.Sends → Mirrored32 config.fpgaThresholdCount.toUInt32
  | epsSlaveHk _ hk _ _ => Mirrored16 hk.swErrors

end Conversion

/-- The last write to the flash is not converted. -/
def GatossHk.skipped (e : Endian) (hk : GatossHk) : GatossHk :=
  { hk with flashLastWrite := cspHton32Word e hk.flashLastWrite }

theorem GatossHk.convert_load (e : Endian) {data : List UInt8} (h : data.length = packed.size) :
    (packed.load e data).convert (cspHton16 e) (cspHton32Word e) (cspHton32Word e) =
      (packed.load .big data).skipped e := by
  have h16 (i : Nat) (hi : i + 2 ≤ 80) :
      cspHton16 e (u16.load e (data.drop i)) = u16.load .big (data.drop i) :=
    cspNtoh16_load_drop e (by rw [h]; exact hi)
  have h32 (i : Nat) (hi : i + 4 ≤ 80) :
      cspHton32Word e (u32.load e (data.drop i)) = u32.load .big (data.drop i) :=
    cspNtoh32Word_load_drop e (by rw [h]; exact hi)
  have hpos (i : Nat) (hi : i + 4 ≤ 16) : cspHton32Word e (u32.load e ((data.drop 34).drop i)) =
      u32.load .big ((data.drop 34).drop i) := by
    rw [List.drop_drop]
    exact h32 _ (by omega)
  have hlast := congrArg (cspHton32Word e) (h32 76 (by decide))
  rw [cspHton32Word_cspHton32Word] at hlast
  apply GatossHk.ext
  case lastPos =>
    exact GatossPosWords.ext (hpos 0 (by decide)) (hpos 4 (by decide)) (hpos 8 (by decide))
      (hpos 12 (by decide))
  case flashLastWrite => exact hlast
  all_goals first | exact h16 _ (by decide) | exact h32 _ (by decide)

/-- The count of the threshold is not converted, nor are the passive task's fields without it. -/
def GatossConf.skipped (taskPassive : Bool) (e : Endian) (c : GatossConf) : GatossConf :=
  let passive (w : UInt16) := if taskPassive then w else cspHton16 e w
  { c with
    fpgaThresholdCount := (cspHton32Word e c.fpgaThresholdCount.toUInt32).toInt32
    passiveInhibit := passive c.passiveInhibit
    passiveIntervalListShort := passive c.passiveIntervalListShort
    passiveIntervalListFull := passive c.passiveIntervalListFull
    passiveIntervalPlane := passive c.passiveIntervalPlane
    passiveLiveMinTxInterval := passive c.passiveLiveMinTxInterval
    passiveLiveInterval := passive c.passiveLiveInterval
    passiveFilterListShort := passive c.passiveFilterListShort
    passiveFilterListFull := passive c.passiveFilterListFull }

theorem GatossConf.convert_load (taskPassive : Bool) (e : Endian) {data : List UInt8}
    (h : data.length = packed.size) :
    (packed.load e data).convert taskPassive (cspHton16 e) (cspHton32Word e) =
      (packed.load .big data).skipped taskPassive e := by
  have h16 (i : Nat) (hi : i + 2 ≤ 62) :
      cspHton16 e (u16.load e (data.drop i)) = u16.load .big (data.drop i) :=
    cspNtoh16_load_drop e (by rw [h]; exact hi)
  have h32 (i : Nat) (hi : i + 4 ≤ 62) :
      cspHton32Word e (u32.load e (data.drop i)) = u32.load .big (data.drop i) :=
    cspNtoh32Word_load_drop e (by rw [h]; exact hi)
  have hthreshold (i : Nat) (hi : i + 4 ≤ 62) :
      (cspHton32Word e (u32.load e (data.drop i)).toInt32.toUInt32).toInt32 =
        (u32.load .big (data.drop i)).toInt32 := by
    rw [UInt32.toUInt32_toInt32, h32 i hi]
  have hcount (i : Nat) (hi : i + 4 ≤ 62) : (u32.load e (data.drop i)).toInt32 =
      (cspHton32Word e (u32.load .big (data.drop i)).toInt32.toUInt32).toInt32 := by
    rw [UInt32.toUInt32_toInt32, ← h32 i hi, cspHton32Word_cspHton32Word]
  have hpassive (i : Nat) (hi : i + 2 ≤ 62) :
      (if taskPassive then cspHton16 e (u16.load e (data.drop i)) else u16.load e (data.drop i)) =
        if taskPassive then u16.load .big (data.drop i)
        else cspHton16 e (u16.load .big (data.drop i)) := by
    rw [← h16 i hi, cspHton16_cspHton16]
  have h8 (i : Nat) : u8.load e (data.drop i) = u8.load .big (data.drop i) := load_u8 e _
  have hsigned (i : Nat) : (u8.load e (data.drop i)).toInt8 = (u8.load .big (data.drop i)).toInt8 :=
    congrArg UInt8.toInt8 (h8 i)
  apply GatossConf.ext
  case fpgaThresholdCount => exact hcount _ (by decide)
  case fpgaThresholdA => exact hthreshold _ (by decide)
  case fpgaThresholdB => exact hthreshold _ (by decide)
  case epsCspAddr => exact hsigned _
  all_goals first | exact h16 _ (by decide) | exact hpassive _ (by decide) | exact h8 _

theorem GatossConf.skipped_skipped (taskPassive : Bool) (e : Endian) (c : GatossConf) :
    (c.skipped taskPassive e).skipped taskPassive e = c := by
  cases taskPassive <;> simp [skipped]

theorem GatossConf.load_store_convert (taskPassive : Bool) (e : Endian) (c : GatossConf) :
    packed.load .big (packed.store e (c.convert taskPassive (cspHton16 e) (cspHton32Word e))) =
      c.skipped taskPassive e := by
  have hload := convert_load taskPassive e (packed.length_store e
    (c.convert taskPassive (cspHton16 e) (cspHton32Word e)))
  rw [packed.load_store_self, convert_convert] at hload
  exact (skipped_skipped taskPassive e _).symm.trans
    (congrArg (skipped taskPassive e) hload.symm)

theorem EpsHk1.decode_pack (e : Endian) (hk : EpsHk1) :
    (epsHk1Pack e hk).decode e = { hk with swErrors := cspNtoh16 e hk.swErrors } := by
  have hwords {n : Nat} (v : Vector UInt16 n) : (v.map (cspHton16 e)).map (cspNtoh16 e) = v :=
    map_map_cancel (cspHton16_cspHton16 e) v
  have hword (w : UInt16) : cspNtoh16 e (cspHton16 e w) = w := cspHton16_cspHton16 e w
  have htemp : (hk.temp.map (signed16 (cspHton16 e))).map (signed16 (cspNtoh16 e)) = hk.temp :=
    map_map_cancel (signed16_involutive e) hk.temp
  simp only [decode, epsHk1Pack, hwords, hword, htemp]

/- On a little endian host a field that is left out is right only if it reads the same from both
ends. -/
theorem GatossHk.integers_skipped_iff (hk : GatossHk) :
    (∀ f ∈ integers, f (hk.skipped .little) = f hk) ↔ Mirrored32 hk.flashLastWrite := by
  simp [integers, skipped, UInt32.toNat_inj, cspHton32Word_little_eq_iff]

theorem GatossConf.integers_skipped_iff (taskPassive : Bool) (c : GatossConf) :
    (∀ f ∈ integers taskPassive, f (c.skipped taskPassive .little) = f c) ↔
      Mirrored32 c.fpgaThresholdCount.toUInt32 := by
  cases taskPassive <;>
    simp [integers, skipped, Int32.toInt_inj, toInt32_eq_iff, cspHton32Word_little_eq_iff]

section
variable {peers : Peers} {link : Link} {data : List UInt8}

theorem gatossHk_answered (e : Endian) (hk : GatossHk) (save : UInt8) (hs : link.Sends)
    (hr : link.reply = some data) (hl : data.length = GatossHk.packed.size) :
    (gatossHk peers e link hk save).2 = (GatossHk.packed.load .big data).skipped e := by
  have hsize : (GatossHk.packed.size : Int) ≠ 0 := by decide
  have hpos : ¬ (GatossHk.packed.size : Int) ≤ 0 := by decide
  rw [← GatossHk.convert_load e hl]
  simp only [gatossHk]
  rw [cspTransaction_of_answer _ hs hsize hr (.inr (by rw [hl]))]
  simp only [hl, hpos, if_false]
  rfl

theorem gatossConfGet_answered (taskPassive : Bool) (e : Endian) (config : GatossConf)
    (hs : link.Sends) (hr : link.reply = some data) (hl : data.length = GatossConf.packed.size) :
    (gatossConfGet peers e link taskPassive config).2 =
      (GatossConf.packed.load .big data).skipped taskPassive e := by
  have hsize : (GatossConf.packed.size : Int) ≠ 0 := by decide
  rw [← GatossConf.convert_load taskPassive e hl]
  simp only [gatossConfGet]
  rw [cspTransaction_of_answer _ hs hsize hr (.inr (by rw [hl]))]
  simp only [hl, hsize, if_false]
  rfl

theorem gatossConfSet_transmitted_iff (taskPassive : Bool) (e : Endian) (config : GatossConf) :
    (gatossConfSet peers e link taskPassive config).exchange.transmitted = some data ↔
      link.Sends ∧ GatossConf.packed.store e
        (config.convert taskPassive (cspHton16 e) (cspHton32Word e)) = data := by
  by_cases hs : link.Sends
  · simp only [gatossConfSet, upload, transmitted_of_sends _ hs, Option.some.injEq, hs, true_and]
  · simp only [gatossConfSet, upload, cspTransaction_of_not_sends _ hs, hs, false_and,
      reduceCtorEq]

theorem epsSlaveHk_received (e : Endian) (slaveNode : UInt8) (hk : EpsHk1)
    (front : Vector UInt8 2) (rest : List UInt8) :
    (epsSlaveHk e ⟨true, true, some (front.toList ++ (EpsHk1.packed.store e hk ++ rest))⟩
      slaveNode).bind SlaveReport.chkparam = some (hk.decode e) := by
  have hdrop : (front.toList ++ (EpsHk1.packed.store e hk ++ rest)).drop 2 =
      EpsHk1.packed.store e hk ++ rest := List.drop_left' front.length_toList
  simp only [epsSlaveHk, hdrop, Packed.load_store]
  rfl

end

/-- Complete are the conversions of records in which the left out fields do not show. -/
theorem Conversion.complete_iff (taskPassive : Bool) (c : Conversion) :
    c.Complete taskPassive ↔ c.Unharmed := by
  cases c with
  | gatossHk peers link hk save =>
      refine forall_congr' fun hs => forall_congr' fun data => forall_congr' fun hr =>
        forall_congr' fun hl => ?_
      rw [gatossHk_answered .little hk save hs hr hl]
      exact GatossHk.integers_skipped_iff _
  | gatossConfGet peers link config =>
      refine forall_congr' fun hs => forall_congr' fun data => forall_congr' fun hr =>
        forall_congr' fun hl => ?_
      rw [gatossConfGet_answered taskPassive .little config hs hr hl]
      exact GatossConf.integers_skipped_iff taskPassive _
  | gatossConfSet peers link config =>
      have hset := GatossConf.integers_skipped_iff taskPassive config
      rw [← GatossConf.load_store_convert] at hset
      simp only [Complete, Unharmed, gatossConfSet_transmitted_iff]
      constructor
      · intro h hs
        exact hset.mp (h _ ⟨hs, rfl⟩)
      · rintro h data ⟨hs, rfl⟩
        exact hset.mpr (h hs)
  | epsSlaveHk slaveNode hk front rest =>
      simp only [Complete, Unharmed, epsSlaveHk_received, Option.some.injEq, EpsHk1.decode_pack]
      rw [← cspHton16_little_eq_iff]
      simp [EpsHk1.ext_iff, cspNtoh16]

/-- One software error is shown as 256. -/
theorem Conversion.not_complete :
    ¬ ∀ (taskPassive : Bool) (c : Conversion), c.Complete taskPassive := by
  intro h
  have hone := h false (.epsSlaveHk 2
    ⟨#v[0, 0, 0], 0, 0, 0, #v[0, 0, 0, 0, 0, 0], #v[0, 0, 0, 0, 0, 0], 0, 0, 1, 0, 0⟩ #v[0, 0] [])
  simp only [Complete, epsSlaveHk_received, Option.some.injEq, EpsHk1.decode_pack] at hone
  exact absurd (congrArg EpsHk1.swErrors hone) (by decide)

end UhfGs.Clients
