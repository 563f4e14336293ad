import UhfGs.Clients.Transaction

/-! The configuration records of the satellite's subsystems, and the fields of each that the
clients convert to network order and back. -/
namespace UhfGs.Clients
open Csp Bytes Packed

/- `nanocom_conf_t`. -/
@[ext] structure NanocomConf where
  (doRs doRandom doViterbi txBaud rxBaud : UInt8)
  txMaxTemp : Int16
  preambleLength : UInt16
  (morseEnable morseMode morseCycle morseEnVoltage morseEnRxCount morseEnTxCount morseEnTempA
    morseEnTempB morseEnRssi morseEnRfErr : UInt8)
  (morseInterDelay morsePospone : UInt16)
  morseWpm : UInt8
  morseText : Vector UInt8 20
  (morseBatLevel hkInterval : UInt16)
  deriving DecidableEq, Repr, Inhabited

namespace NanocomConf

def packed : Packed NanocomConf :=
  Fields.packed
    (Fields.start mk
      |>.field u8 doRs |>.field u8 doRandom |>.field u8 doViterbi |>.field u8 txBaud
      |>.field u8 rxBaud |>.field i16 txMaxTemp |>.field u16 preambleLength
      |>.field u8 morseEnable |>.field u8 morseMode |>.field u8 morseCycle
      |>.field u8 morseEnVoltage |>.field u8 morseEnRxCount |>.field u8 morseEnTxCount
      |>.field u8 morseEnTempA |>.field u8 morseEnTempB |>.field u8 morseEnRssi
      |>.field u8 morseEnRfErr |>.field u16 morseInterDelay |>.field u16 morsePospone
      |>.field u8 morseWpm |>.field (u8.array 20) morseText |>.field u16 morseBatLevel
      |>.field u16 hkInterval)
    fun _ => rfl

/-- The conversions of `com_set_conf` and `com_get_conf`. -/
def convert (f16 : UInt16 → UInt16) (c : NanocomConf) : NanocomConf :=
  { c with
    morseBatLevel := f16 c.morseBatLevel
    morsePospone := f16 c.morsePospone
    morseInterDelay := f16 c.morseInterDelay
    hkInterval := f16 c.hkInterval
    preambleLength := f16 c.preambleLength
    txMaxTemp := (f16 c.txMaxTemp.toUInt16).toInt16 }

def Mirrored (c : NanocomConf) : Prop :=
  Mirrored16 c.morseBatLevel ∧ Mirrored16 c.morsePospone ∧ Mirrored16 c.morseInterDelay ∧
    Mirrored16 c.hkInterval ∧ Mirrored16 c.preambleLength ∧ Mirrored16 c.txMaxTemp.toUInt16

theorem convert_eq_self_iff (e : Endian) (c : NanocomConf) :
    c.convert (cspHton16 e) = c ↔ e = .big ∨ c.Mirrored := by
  cases e with
  | big => simp [convert]
  | little =>
      simp only [convert, NanocomConf.ext_iff, toInt16_eq_iff, cspHton16_little_eq_iff, Mirrored,
        true_and, reduceCtorEq, false_or]
      tauto

theorem convert_convert (e : Endian) (c : NanocomConf) :
    (c.convert (cspHton16 e)).convert (cspHton16 e) = c := by
  simp [convert]

end NanocomConf

/- `gatoss_conf_t`. -/
@[ext] structure GatossConf where
  (sdEnable fpgaImage fpgaWdtEnable : UInt8)
  (fpgaThresholdA fpgaThresholdB fpgaThresholdCount : Int32)
  fpgaAdc : UInt8
  (fpgaAdcSwitchInterval passiveInhibit passiveIntervalListShort passiveIntervalListFull
    passiveIntervalPlane passiveLiveMinTxInterval passiveLiveInterval passiveFilterListShort
    passiveFilterListFull garbageCollectorInterval garbagePlaneInactiveInterval
    garbagePlaneNoLockInactiveInterval garbagePlaneFrameCount garbagePlaneFrameInterval
    garbagePosLifetime garbageFrameLifetime : UInt16)
  (planeEnableFrameLog planePositionLogInterval currMax3v3Sd currMax1v2 currMax2v5
    currMax3v3Fpga currMax3v3Adc : UInt8)
  (currMax3v3Board currMax5v0Board : UInt16)
  latchupChannel : UInt8
  epsCspAddr : Int8
  epsAdsbPwrChan : UInt8
  deriving DecidableEq, Repr, Inhabited

namespace GatossConf

def packed : Packed GatossConf :=
  Fields.packed
    (Fields.start mk
      |>.field u8 sdEnable |>.field u8 fpgaImage |>.field u8 fpgaWdtEnable
      |>.field i32 fpgaThresholdA |>.field i32 fpgaThresholdB |>.field i32 fpgaThresholdCount
      |>.field u8 fpgaAdc |>.field u16 fpgaAdcSwitchInterval |>.field u16 passiveInhibit
      |>.field u16 passiveIntervalListShort |>.field u16 passiveIntervalListFull
      |>.field u16 passiveIntervalPlane |>.field u16 passiveLiveMinTxInterval
      |>.field u16 passiveLiveInterval |>.field u16 passiveFilterListShort
      |>.field u16 passiveFilterListFull |>.field u16 garbageCollectorInterval
      |>.field u16 garbagePlaneInactiveInterval |>.field u16 garbagePlaneNoLockInactiveInterval
      |>.field u16 garbagePlaneFrameCount |>.field u16 garbagePlaneFrameInterval
      |>.field u16 garbagePosLifetime |>.field u16 garbageFrameLifetime
      |>.field u8 planeEnableFrameLog |>.field u8 planePositionLogInterval
      |>.field u8 currMax3v3Sd |>.field u8 currMax1v2 |>.field u8 currMax2v5
      |>.field u8 currMax3v3Fpga |>.field u8 currMax3v3Adc |>.field u16 currMax3v3Board
      |>.field u16 currMax5v0Board |>.field u8 latchupChannel |>.field i8 epsCspAddr
      |>.field u8 epsAdsbPwrChan)
    fun _ => rfl

/-- The conversions of `gatoss_conf_set` and `gatoss_conf_get`; `TASK_PASSIVE` is a build option. -/
def convert (taskPassive : Bool) (f16 : UInt16 → UInt16) (f32 : UInt32 → UInt32)
    (c : GatossConf) : GatossConf :=
  let passive (w : UInt16) := if taskPassive then f16 w else w
  { c with
    fpgaThresholdA := (f32 c.fpgaThresholdA.toUInt32).toInt32
    fpgaThresholdB := (f32 c.fpgaThresholdB.toUInt32).toInt32
    fpgaAdcSwitchInterval := f16 c.fpgaAdcSwitchInterval
    passiveInhibit := passive c.passiveInhibit
    passiveIntervalListShort := passive c.passiveIntervalListShort
    passiveIntervalListFull := passive c.passiveIntervalListFull
    passiveIntervalPlane := passive c.passiveIntervalPlane
    passiveLiveMinTxInterval := passive c.passiveLiveMinTxInterval
    passiveLiveInterval := passive c.passiveLiveInterval
    passiveFilterListShort := passive c.passiveFilterListShort
    passiveFilterListFull := passive c.passiveFilterListFull
    garbageCollectorInterval := f16 c.garbageCollectorInterval
    garbagePlaneInactiveInterval := f16 c.garbagePlaneInactiveInterval
    garbagePlaneNoLockInactiveInterval := f16 c.garbagePlaneNoLockInactiveInterval
    garbagePlaneFrameCount := f16 c.garbagePlaneFrameCount
    garbagePlaneFrameInterval := f16 c.garbagePlaneFrameInterval
    garbagePosLifetime := f16 c.garbagePosLifetime
    garbageFrameLifetime := f16 c.garbageFrameLifetime
    currMax3v3Board := f16 c.currMax3v3Board
    currMax5v0Board := f16 c.currMax5v0Board }

def Mirrored (taskPassive : Bool) (c : GatossConf) : Prop :=
  Mirrored32 c.fpgaThresholdA.toUInt32 ∧ Mirrored32 c.fpgaThresholdB.toUInt32 ∧
    Mirrored16 c.fpgaAdcSwitchInterval ∧
    (taskPassive → Mirrored16 c.passiveInhibit ∧ Mirrored16 c.passiveIntervalListShort ∧
      Mirrored16 c.passiveIntervalListFull ∧ Mirrored16 c.passiveIntervalPlane ∧
      Mirrored16 c.passiveLiveMinTxInterval ∧ Mirrored16 c.passiveLiveInterval ∧
      Mirrored16 c.passiveFilterListShort ∧ Mirrored16 c.passiveFilterListFull) ∧
    Mirrored16 c.garbageCollectorInterval ∧ Mirrored16 c.garbagePlaneInactiveInterval ∧
    Mirrored16 c.garbagePlaneNoLockInactiveInterval ∧ Mirrored16 c.garbagePlaneFrameCount ∧
    Mirrored16 c.garbagePlaneFrameInterval ∧ Mirrored16 c.garbagePosLifetime ∧
    Mirrored16 c.garbageFrameLifetime ∧ Mirrored16 c.currMax3v3Board ∧
    Mirrored16 c.currMax5v0Board

theorem convert_eq_self_iff (taskPassive : Bool) (e : Endian) (c : GatossConf) :
    c.convert taskPassive (cspHton16 e) (cspHton32Word e) = c ↔
      e = .big ∨ c.Mirrored taskPassive := by
  cases e with
  | big => cases taskPassive <;> simp [convert]
  | little =>
      cases taskPassive <;>
        simp [convert, GatossConf.ext_iff, toInt32_eq_iff, cspHton16_little_eq_iff,
          cspHton32Word_little_eq_iff, Mirrored, and_assoc]

theorem convert_convert (taskPassive : Bool) (e : Endian) (c : GatossConf) :
    (c.convert taskPassive (cspHton16 e) (cspHton32Word e)).convert taskPassive (cspHton16 e)
      (cspHton32Word e) = c := by
  cases taskPassive <;> simp [convert]

end GatossConf

/- `istage_burn_settings_t`. -/
@[ext] structure IstageBurnSettings where
  (stdTimeMs incrementMs shortCntDown : UInt16)
  (maxRepeat repTimeS switchPolarity status locked rebootDeployCnt : UInt8)
  deriving DecidableEq, Repr, Inhabited

namespace IstageBurnSettings

def packed : Packed IstageBurnSettings :=
  Fields.packed
    (Fields.start mk
      |>.field u16 stdTimeMs |>.field u16 incrementMs |>.field u16 shortCntDown
      |>.field u8 maxRepeat |>.field u8 repTimeS |>.field u8 switchPolarity |>.field u8 status
      |>.field u8 locked |>.field u8 rebootDeployCnt)
    fun _ => rfl

/-- The conversions of `gssb_interstage_settings_set` and `gssb_interstage_settings_get`. -/
def convert (f16 : UInt16 → UInt16) (c : IstageBurnSettings) : IstageBurnSettings :=
  { c with
    stdTimeMs := f16 c.stdTimeMs
    incrementMs := f16 c.incrementMs
    shortCntDown := f16 c.shortCntDown }

def Mirrored (c : IstageBurnSettings) : Prop :=
  Mirrored16 c.stdTimeMs ∧ Mirrored16 c.incrementMs ∧ Mirrored16 c.shortCntDown

theorem convert_eq_self_iff (e : Endian) (c : IstageBurnSettings) :
    c.convert (cspHton16 e) = c ↔ e = .big ∨ c.Mirrored := by
  cases e with
  | big => simp [convert]
  | little =>
      simp [convert, IstageBurnSettings.ext_iff, cspHton16_little_eq_iff, Mirrored]

theorem convert_convert (e : Endian) (c : IstageBurnSettings) :
    (c.convert (cspHton16 e)).convert (cspHton16 e) = c := by
  simp [convert]

end IstageBurnSettings

/- `nanohub_conf_knife_t`. -/
@[ext] structure NanohubConfKnife where
  time : Vector UInt16 2
  retries : Vector UInt8 2
  bootdelay : Vector UInt32 2
  enable : Vector UInt8 2
  delay : Vector UInt16 2
  sensemask : Vector UInt8 2
  senseNo : UInt8
  deriving DecidableEq, Repr, Inhabited

namespace NanohubConfKnife

def packed : Packed NanohubConfKnife :=
  Fields.packed
    (Fields.start mk
      |>.field (u16.array 2) time |>.field (u8.array 2) retries
      |>.field (u32.array 2) bootdelay |>.field (u8.array 2) enable
      |>.field (u16.array 2) delay |>.field (u8.array 2) sensemask |>.field u8 senseNo)
    fun _ => rfl

def convert (f16 : UInt16 → UInt16) (f32 : UInt32 → UInt32) (c : NanohubConfKnife) :
    NanohubConfKnife :=
  { c with
    time := c.time.map f16
    bootdelay := c.bootdelay.map f32
    delay := c.delay.map f16 }

def Mirrored (c : NanohubConfKnife) : Prop :=
  (∀ w ∈ c.time, Mirrored16 w) ∧ (∀ w ∈ c.bootdelay, Mirrored32 w) ∧ ∀ w ∈ c.delay, Mirrored16 w

theorem convert_eq_self_iff (e : Endian) (c : NanohubConfKnife) :
    c.convert (cspHton16 e) (cspHton32Word e) = c ↔ e = .big ∨ c.Mirrored := by
  simp only [NanohubConfKnife.ext_iff, convert, map_eq_self_iff, true_and, and_true]
  cases e with
  | big => simp
  | little => simp [cspHton16_little_eq_iff, cspHton32Word_little_eq_iff, Mirrored]

end NanohubConfKnife

/- `nanohub_conf_timing_t`. -/
@[ext] structure NanohubConfTiming where
  wdtTimeout : UInt32
  wdtEnable : UInt8
  comTxInhibitTimeout : UInt32
  comTxInhibitEnable : UInt8
  deriving DecidableEq, Repr, Inhabited

namespace NanohubConfTiming

def packed : Packed NanohubConfTiming :=
  Fields.packed
    (Fields.start mk
      |>.field u32 wdtTimeout |>.field u8 wdtEnable |>.field u32 comTxInhibitTimeout
      |>.field u8 comTxInhibitEnable)
    fun _ => rfl

end NanohubConfTiming

/- `nanohub_conf_dio_t`. -/
structure NanohubConfDio where
  (enable dirmask outputvalue : UInt8)
  deriving DecidableEq, Repr, Inhabited

namespace NanohubConfDio

def packed : Packed NanohubConfDio :=
  Fields.packed
    (Fields.start mk
      |>.field u8 enable |>.field u8 dirmask |>.field u8 outputvalue)
    fun _ => rfl

end NanohubConfDio

/- `nanohub_conf_t`, with the only field of `nanohub_conf_switch_t` for each switch. -/
@[ext] structure NanohubConf where
  (knife0 knife1 : NanohubConfKnife)
  (switch0Bootdelay switch1Bootdelay : UInt16)
  timing : NanohubConfTiming
  dio : NanohubConfDio
  checksum : UInt32
  deriving DecidableEq, Repr, Inhabited

namespace NanohubConf

def packed : Packed NanohubConf :=
  Fields.packed
    (Fields.start mk
      |>.field NanohubConfKnife.packed knife0 |>.field NanohubConfKnife.packed knife1
      |>.field u16 switch0Bootdelay |>.field u16 switch1Bootdelay
      |>.field NanohubConfTiming.packed timing |>.field NanohubConfDio.packed dio
      |>.field u32 checksum)
    fun _ => rfl

/-- The conversions of `hub_set_conf` and `hub_get_conf`. -/
def convert (f16 : UInt16 → UInt16) (f32 : UInt32 → UInt32) (c : NanohubConf) : NanohubConf :=
  { c with
    knife0 := c.knife0.convert f16 f32
    knife1 := c.knife1.convert f16 f32
    switch0Bootdelay := f16 c.switch0Bootdelay
    switch1Bootdelay := f16 c.switch1Bootdelay
    timing :=
      { c.timing with
        wdtTimeout := f32 c.timing.wdtTimeout
        comTxInhibitTimeout := f32 c.timing.comTxInhibitTimeout } }

def Mirrored (c : NanohubConf) : Prop :=
  c.knife0.Mirrored ∧ c.knife1.Mirrored ∧ Mirrored16 c.switch0Bootdelay ∧
    Mirrored16 c.switch1Bootdelay ∧ Mirrored32 c.timing.wdtTimeout ∧
    Mirrored32 c.timing.comTxInhibitTimeout

theorem convert_eq_self_iff (e : Endian) (c : NanohubConf) :
    c.convert (cspHton16 e) (cspHton32Word e) = c ↔ e = .big ∨ c.Mirrored := by
  simp only [NanohubConf.ext_iff, NanohubConfTiming.ext_iff, convert,
    NanohubConfKnife.convert_eq_self_iff, true_and, and_true]
  cases e with
  | big => simp
  | little => simp [cspHton16_little_eq_iff, cspHton32Word_little_eq_iff, Mirrored]

end NanohubConf

/- `eps_config_t`. -/
structure EpsConfig where
  (pptMode battheaterMode : UInt8)
  (battheaterLow battheaterHigh : Int8)
  (outputNormalValue outputSafeValue : Vector UInt8 8)
  (outputInitialOnDelay outputInitialOffDelay : Vector UInt16 8)
  vboost : Vector UInt16 3
  deriving DecidableEq, Repr, Inhabited

namespace EpsConfig

def packed : Packed EpsConfig :=
  Fields.packed
    (Fields.start mk
      |>.field u8 pptMode |>.field u8 battheaterMode |>.field i8 battheaterLow
      |>.field i8 battheaterHigh |>.field (u8.array 8) outputNormalValue
      |>.field (u8.array 8) outputSafeValue |>.field (u16.array 8) outputInitialOnDelay
      |>.field (u16.array 8) outputInitialOffDelay |>.field (u16.array 3) vboost)
    fun _ => rfl

/-- The conversions of `eps_config_pack` and `eps_config_unpack`. -/
def convert (f16 : UInt16 → UInt16) (c : EpsConfig) : EpsConfig :=
  { c with
    vboost := c.vboost.map f16
    outputInitialOnDelay := c.outputInitialOnDelay.map f16
    outputInitialOffDelay := c.outputInitialOffDelay.map f16 }

end EpsConfig

/- `eps_config2_t`. -/
structure EpsConfig2 where
  (battMaxvoltage battSafevoltage battCriticalvoltage battNormalvoltage : UInt16)
  reserved1 : Vector UInt32 2
  reserved2 : Vector UInt8 4
  deriving DecidableEq, Repr, Inhabited

namespace EpsConfig2

def packed : Packed EpsConfig2 :=
  Fields.packed
    (Fields.start mk
      |>.field u16 battMaxvoltage |>.field u16 battSafevoltage |>.field u16 battCriticalvoltage
      |>.field u16 battNormalvoltage |>.field (u32.array 2) reserved1
      |>.field (u8.array 4) reserved2)
    fun _ => rfl

/-- The conversions of `eps_config2_pack` and `eps_config2_unpack`. -/
def convert (f16 : UInt16 → UInt16) (c : EpsConfig2) : EpsConfig2 :=
  { c with
    battMaxvoltage := f16 c.battMaxvoltage
    battSafevoltage := f16 c.battSafevoltage
    battNormalvoltage := f16 c.battNormalvoltage
    battCriticalvoltage := f16 c.battCriticalvoltage }

end EpsConfig2

/- `eps_config3_t`. -/
structure EpsConfig3 where
  (version cmd length flags : UInt8)
  curLim : Vector UInt16 8
  curEmaGain : UInt8
  (cspwdtChannel cspwdtAddress : Vector UInt8 2)
  deriving DecidableEq, Repr, Inhabited

namespace EpsConfig3

def packed : Packed EpsConfig3 :=
  Fields.packed
    (Fields.start mk
      |>.field u8 version |>.field u8 cmd |>.field u8 length |>.field u8 flags
      |>.field (u16.array 8) curLim |>.field u8 curEmaGain |>.field (u8.array 2) cspwdtChannel
      |>.field (u8.array 2) cspwdtAddress)
    fun _ => rfl

/-- The conversions of `eps_config3_pack` and `eps_config3_unpack`. -/
def convert (f16 : UInt16 → UInt16) (c : EpsConfig3) : EpsConfig3 :=
  { c with curLim := c.curLim.map f16 }

end EpsConfig3

end UhfGs.Clients
