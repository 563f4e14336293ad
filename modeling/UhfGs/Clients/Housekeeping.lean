import UhfGs.Csp.ByteOrder

/-! The housekeeping records of the power supply, whole and in four parts, with the conversions of
`nanopower2.c`. -/
namespace UhfGs.Clients
open Csp Bytes Packed

/- `eps_hk_vi_t`. -/
structure EpsHkVi where
  vboost : Vector UInt16 3
  vbatt : UInt16
  curin : Vector UInt16 3
  (cursun cursys reserved : UInt16)
  deriving DecidableEq, Repr

/- `eps_hk_out_t`. -/
structure EpsHkOut where
  curout : Vector UInt16 6
  output : Vector UInt8 8
  (outputOnDelta outputOffDelta : Vector UInt16 8)
  latchup : Vector UInt16 6
  deriving DecidableEq, Repr

/- `eps_hk_wdt_t`. -/
structure EpsHkWdt where
  (wdtI2cTimeLeft wdtGndTimeLeft : UInt32)
  wdtCspPingsLeft : Vector UInt8 2
  (counterWdtI2c counterWdtGnd : UInt32)
  counterWdtCsp : Vector UInt32 2
  deriving DecidableEq, Repr

/- `eps_hk_basic_t`. -/
structure EpsHkBasic where
  counterBoot : UInt32
  temp : Vector Int16 6
  (bootcause battmode pptmode : UInt8)
  reserved2 : UInt16
  deriving DecidableEq, Repr

/- `eps_hk_t`. -/
structure EpsHk where
  vboost : Vector UInt16 3
  vbatt : UInt16
  curin : Vector UInt16 3
  (cursun cursys reserved : UInt16)
  curout : Vector UInt16 6
  output : Vector UInt8 8
  (outputOnDelta outputOffDelta : Vector UInt16 8)
  latchup : Vector UInt16 6
  (wdtI2cTimeLeft wdtGndTimeLeft : UInt32)
  wdtCspPingsLeft : Vector UInt8 2
  (counterWdtI2c counterWdtGnd : UInt32)
  counterWdtCsp : Vector UInt32 2
  counterBoot : UInt32
  temp : Vector Int16 6
  (bootcause battmode pptmode : UInt8)
  reserved2 : UInt16
  deriving DecidableEq, Repr

def EpsHkVi.packed : Packed EpsHkVi :=
  Fields.packed
    (Fields.start mk
      |>.field (u16.array 3) vboost |>.field u16 vbatt |>.field (u16.array 3) curin
      |>.field u16 cursun |>.field u16 cursys |>.field u16 reserved)
    fun _ => rfl

def EpsHkOut.packed : Packed EpsHkOut :=
  Fields.packed
    (Fields.start mk
      |>.field (u16.array 6) curout |>.field (u8.array 8) output
      |>.field (u16.array 8) outputOnDelta |>.field (u16.array 8) outputOffDelta
      |>.field (u16.array 6) latchup)
    fun _ => rfl

def EpsHkWdt.packed : Packed EpsHkWdt :=
  Fields.packed
    (Fields.start mk
      |>.field u32 wdtI2cTimeLeft |>.field u32 wdtGndTimeLeft
      |>.field (u8.array 2) wdtCspPingsLeft |>.field u32 counterWdtI2c
      |>.field u32 counterWdtGnd |>.field (u32.array 2) counterWdtCsp)
    fun _ => rfl

def EpsHkBasic.packed : Packed EpsHkBasic :=
  Fields.packed
    (Fields.start mk
      |>.field u32 counterBoot |>.field (i16.array 6) temp |>.field u8 bootcause
      |>.field u8 battmode |>.field u8 pptmode |>.field u16 reserved2)
    fun _ => rfl

def EpsHk.packed : Packed EpsHk :=
  Fields.packed
    (Fields.start mk
      |>.field (u16.array 3) vboost |>.field u16 vbatt |>.field (u16.array 3) curin
      |>.field u16 cursun |>.field u16 cursys |>.field u16 reserved
      |>.field (u16.array 6) curout |>.field (u8.array 8) output
      |>.field (u16.array 8) outputOnDelta |>.field (u16.array 8) outputOffDelta
      |>.field (u16.array 6) latchup
      |>.field u32 wdtI2cTimeLeft |>.field u32 wdtGndTimeLeft
      |>.field (u8.array 2) wdtCspPingsLeft |>.field u32 counterWdtI2c
      |>.field u32 counterWdtGnd |>.field (u32.array 2) counterWdtCsp
      |>.field u32 counterBoot |>.field (i16.array 6) temp |>.field u8 bootcause
      |>.field u8 battmode |>.field u8 pptmode |>.field u16 reserved2)
    fun _ => rfl

def signed16 (f : UInt16 → UInt16) (w : Int16) : Int16 := (f w.toUInt16).toInt16

section Conversions
variable (e : Endian)

def epsHkViPack (hk : EpsHkVi) : EpsHkVi :=
  { hk with
    vboost := hk.vboost.map (cspHton16 e)
    curin := hk.curin.map (cspHton16 e)
    vbatt := cspHton16 e hk.vbatt
    cursun := cspHton16 e hk.cursun
    cursys := cspHton16 e hk.cursys }

def epsHkOutPack (hk : EpsHkOut) : EpsHkOut :=
  { hk with
    curout := hk.curout.map (cspHton16 e)
    latchup := hk.latchup.map (cspHton16 e)
    outputOnDelta := hk.outputOnDelta.map (cspHton16 e)
    outputOffDelta := hk.outputOffDelta.map (cspHton16 e) }

def epsHkWdtPack (hk : EpsHkWdt) : EpsHkWdt :=
  { hk with
    wdtI2cTimeLeft := cspHton32Word e hk.wdtI2cTimeLeft
    wdtGndTimeLeft := cspHton32Word e hk.wdtGndTimeLeft
    counterWdtI2c := cspHton32Word e hk.counterWdtI2c
    counterWdtGnd := cspHton32Word e hk.counterWdtGnd
    counterWdtCsp := hk.counterWdtCsp.map (cspHton32Word e) }

def epsHkBasicPack (hk : EpsHkBasic) : EpsHkBasic :=
  { hk with
    temp := hk.temp.map (signed16 (cspHton16 e))
    counterBoot := cspHton32Word e hk.counterBoot }

/-- The two watchdog counters are converted with `csp_ntoh32` here too. -/
def epsHkPack (hk : EpsHk) : EpsHk :=
  { hk with
    vboost := hk.vboost.map (cspHton16 e)
    curin := hk.curin.map (cspHton16 e)
    curout := hk.curout.map (cspHton16 e)
    temp := hk.temp.map (signed16 (cspHton16 e))
    latchup := hk.latchup.map (cspHton16 e)
    outputOnDelta := hk.outputOnDelta.map (cspHton16 e)
    outputOffDelta := hk.outputOffDelta.map (cspHton16 e)
    vbatt := cspHton16 e hk.vbatt
    cursun := cspHton16 e hk.cursun
    cursys := cspHton16 e hk.cursys
    wdtI2cTimeLeft := cspHton32Word e hk.wdtI2cTimeLeft
    wdtGndTimeLeft := cspHton32Word e hk.wdtGndTimeLeft
    counterBoot := cspHton32Word e hk.counterBoot
    counterWdtI2c := cspHton32Word e hk.counterWdtI2c
    counterWdtGnd := cspHton32Word e hk.counterWdtGnd
    counterWdtCsp := hk.counterWdtCsp.map (cspNtoh32Word e) }

def epsHkViUnpack (hk : EpsHkVi) : EpsHkVi :=
  { hk with
    vboost := hk.vboost.map (cspNtoh16 e)
    curin := hk.curin.map (cspNtoh16 e)
    vbatt := cspNtoh16 e hk.vbatt
    cursun := cspNtoh16 e hk.cursun
    cursys := cspNtoh16 e hk.cursys }

def epsHkOutUnpack (hk : EpsHkOut) : EpsHkOut :=
  { hk with
    curout := hk.curout.map (cspNtoh16 e)
    latchup := hk.latchup.map (cspNtoh16 e)
    outputOnDelta := hk.outputOnDelta.map (cspNtoh16 e)
    outputOffDelta := hk.outputOffDelta.map (cspNtoh16 e) }

def epsHkWdtUnpack (hk : EpsHkWdt) : EpsHkWdt :=
  { hk with
    wdtI2cTimeLeft := cspNtoh32Word e hk.wdtI2cTimeLeft
    wdtGndTimeLeft := cspNtoh32Word e hk.wdtGndTimeLeft
    counterWdtI2c := cspNtoh32Word e hk.counterWdtI2c
    counterWdtGnd := cspNtoh32Word e hk.counterWdtGnd
    counterWdtCsp := hk.counterWdtCsp.map (cspNtoh32Word e) }

def epsHkBasicUnpack (hk : EpsHkBasic) : EpsHkBasic :=
  { hk with
    temp := hk.temp.map (signed16 (cspNtoh16 e))
    counterBoot := cspNtoh32Word e hk.counterBoot }

def epsHkUnpack (hk : EpsHk) : EpsHk :=
  { hk with
    vboost := hk.vboost.map (cspNtoh16 e)
    curin := hk.curin.map (cspNtoh16 e)
    curout := hk.curout.map (cspNtoh16 e)
    temp := hk.temp.map (signed16 (cspNtoh16 e))
    latchup := hk.latchup.map (cspNtoh16 e)
    outputOnDelta := hk.outputOnDelta.map (cspNtoh16 e)
    outputOffDelta := hk.outputOffDelta.map (cspNtoh16 e)
    vbatt := cspNtoh16 e hk.vbatt
    cursun := cspNtoh16 e hk.cursun
    cursys := cspNtoh16 e hk.cursys
    wdtI2cTimeLeft := cspNtoh32Word e hk.wdtI2cTimeLeft
    wdtGndTimeLeft := cspNtoh32Word e hk.wdtGndTimeLeft
    counterBoot := cspNtoh32Word e hk.counterBoot
    counterWdtI2c := cspNtoh32Word e hk.counterWdtI2c
    counterWdtGnd := cspNtoh32Word e hk.counterWdtGnd
    counterWdtCsp := hk.counterWdtCsp.map (cspNtoh32Word e) }

end Conversions

def EpsHk.ofParts (vi : EpsHkVi) (out : EpsHkOut) (wdt : EpsHkWdt) (basic : EpsHkBasic) : EpsHk where
  vboost := vi.vboost
  vbatt := vi.vbatt
  curin := vi.curin
  cursun := vi.cursun
  cursys := vi.cursys
  reserved := vi.reserved
  curout := out.curout
  output := out.output
  outputOnDelta := out.outputOnDelta
  outputOffDelta := out.outputOffDelta
  latchup := out.latchup
  wdtI2cTimeLeft := wdt.wdtI2cTimeLeft
  wdtGndTimeLeft := wdt.wdtGndTimeLeft
  wdtCspPingsLeft := wdt.wdtCspPingsLeft
  counterWdtI2c := wdt.counterWdtI2c
  counterWdtGnd := wdt.counterWdtGnd
  counterWdtCsp := wdt.counterWdtCsp
  counterBoot := basic.counterBoot
  temp := basic.temp
  bootcause := basic.bootcause
  battmode := basic.battmode
  pptmode := basic.pptmode
  reserved2 := basic.reserved2

theorem EpsHk.exists_parts (hk : EpsHk) : ∃ vi out wdt basic, hk = ofParts vi out wdt basic :=
  ⟨⟨hk.vboost, hk.vbatt, hk.curin, hk.cursun, hk.cursys, hk.reserved⟩,
    ⟨hk.curout, hk.output, hk.outputOnDelta, hk.outputOffDelta, hk.latchup⟩,
    ⟨hk.wdtI2cTimeLeft, hk.wdtGndTimeLeft, hk.wdtCspPingsLeft, hk.counterWdtI2c, hk.counterWdtGnd,
      hk.counterWdtCsp⟩,
    ⟨hk.counterBoot, hk.temp, hk.bootcause, hk.battmode, hk.pptmode, hk.reserved2⟩, rfl⟩

theorem EpsHkVi.packed_local : packed.Local :=
  ((Fields.start_local mk).field (u16_local.array 3) vboost |>.field u16_local vbatt
    |>.field (u16_local.array 3) curin |>.field u16_local cursun |>.field u16_local cursys
    |>.field u16_local reserved).packed fun _ => rfl

theorem EpsHkOut.packed_local : packed.Local :=
  ((Fields.start_local mk).field (u16_local.array 6) curout |>.field (u8_local.array 8) output
    |>.field (u16_local.array 8) outputOnDelta |>.field (u16_local.array 8) outputOffDelta
    |>.field (u16_local.array 6) latchup).packed fun _ => rfl

theorem EpsHkWdt.packed_local : packed.Local :=
  ((Fields.start_local mk).field u32_local wdtI2cTimeLeft |>.field u32_local wdtGndTimeLeft
    |>.field (u8_local.array 2) wdtCspPingsLeft |>.field u32_local counterWdtI2c
    |>.field u32_local counterWdtGnd |>.field (u32_local.array 2) counterWdtCsp).packed fun _ => rfl

theorem EpsHkBasic.packed_local : packed.Local :=
  ((Fields.start_local mk).field u32_local counterBoot |>.field (i16_local.array 6) temp
    |>.field u8_local bootcause |>.field u8_local battmode |>.field u8_local pptmode
    |>.field u16_local reserved2).packed fun _ => rfl

theorem size_array {α : Type} (p : Packed α) (n : Nat) : (p.array n).size = n * p.size := rfl

theorem size_words : u8.size = 1 ∧ u16.size = 2 ∧ u32.size = 4 ∧ i16.size = 2 := ⟨rfl, rfl, rfl, rfl⟩

theorem EpsHk.load_eq (e : Endian) (bs : List UInt8) :
    packed.load e bs = ofParts (EpsHkVi.packed.load e bs) (EpsHkOut.packed.load e (bs.drop 20))
      (EpsHkWdt.packed.load e (bs.drop 84)) (EpsHkBasic.packed.load e (bs.drop 110)) := by
  obtain ⟨h8, h16, h32, h16'⟩ := size_words
  simp [packed, ofParts, EpsHkVi.packed, EpsHkOut.packed, EpsHkWdt.packed, EpsHkBasic.packed,
    Fields.packed, Fields.field, Fields.start, size_array, h8, h16, h32, h16']

theorem epsHkUnpack_ofParts (e : Endian) (vi : EpsHkVi) (out : EpsHkOut) (wdt : EpsHkWdt)
    (basic : EpsHkBasic) :
    epsHkUnpack e (.ofParts vi out wdt basic) =
      .ofParts (epsHkViUnpack e vi) (epsHkOutUnpack e out) (epsHkWdtUnpack e wdt)
        (epsHkBasicUnpack e basic) := rfl

def Inverse {α : Type} (f g : α → α) : Prop := Function.LeftInverse f g ∧ Function.RightInverse f g

theorem inverse_of_involutive {α : Type} {f : α → α} (h : Function.Involutive f) : Inverse f f :=
  ⟨h, h⟩

theorem map_map_cancel {α : Type} {f : α → α} (h : Function.Involutive f) {n : Nat}
    (v : Vector α n) : (v.map f).map f = v := by
  rw [Vector.map_map]
  exact (map_eq_self_iff v).mpr fun a _ => h a

section
variable (e : Endian)

theorem signed16_involutive : Function.Involutive (signed16 (cspHton16 e)) := by
  intro w
  simp [signed16]

/- Each conversion undoes itself, and `csp_ntoh16` is `csp_hton16`. -/
theorem epsHkVi_inverse : Inverse (epsHkViPack e) (epsHkViUnpack e) := by
  apply inverse_of_involutive
  intro hk
  simp only [epsHkViPack, map_map_cancel (cspHton16_cspHton16 e), cspHton16_cspHton16]

theorem epsHkOut_inverse : Inverse (epsHkOutPack e) (epsHkOutUnpack e) := by
  apply inverse_of_involutive
  intro hk
  simp only [epsHkOutPack, map_map_cancel (cspHton16_cspHton16 e)]

theorem epsHkWdt_inverse : Inverse (epsHkWdtPack e) (epsHkWdtUnpack e) := by
  apply inverse_of_involutive
  intro hk
  simp only [epsHkWdtPack, map_map_cancel (cspHton32Word_cspHton32Word e),
    cspHton32Word_cspHton32Word]

theorem epsHkBasic_inverse : Inverse (epsHkBasicPack e) (epsHkBasicUnpack e) := by
  apply inverse_of_involutive
  intro hk
  simp only [epsHkBasicPack, map_map_cancel (signed16_involutive e), cspHton32Word_cspHton32Word]

theorem epsHkPack_ofParts (vi : EpsHkVi) (out : EpsHkOut) (wdt : EpsHkWdt) (basic : EpsHkBasic) :
    epsHkPack e (.ofParts vi out wdt basic) =
      .ofParts (epsHkViPack e vi) (epsHkOutPack e out) (epsHkWdtPack e wdt)
        (epsHkBasicPack e basic) := rfl

theorem epsHk_inverse : Inverse (epsHkPack e) (epsHkUnpack e) := by
  constructor
  · intro hk
    obtain ⟨vi, out, wdt, basic, rfl⟩ := hk.exists_parts
    rw [epsHkUnpack_ofParts, epsHkPack_ofParts, (epsHkVi_inverse e).1, (epsHkOut_inverse e).1,
      (epsHkWdt_inverse e).1, (epsHkBasic_inverse e).1]
  · intro hk
    obtain ⟨vi, out, wdt, basic, rfl⟩ := hk.exists_parts
    rw [epsHkPack_ofParts, epsHkUnpack_ofParts, (epsHkVi_inverse e).2, (epsHkOut_inverse e).2,
      (epsHkWdt_inverse e).2, (epsHkBasic_inverse e).2]

/-- Decoded whole or in parts the telemetry is the same, with the reserved words, and encoding
undoes decoding. -/
theorem epsHk_views :
    (∀ bs : List UInt8, epsHkUnpack e (EpsHk.packed.load e bs) =
      let vi := EpsHkVi.packed
      let out := EpsHkOut.packed
      let wdt := EpsHkWdt.packed
      let basic := EpsHkBasic.packed
      .ofParts (epsHkViUnpack e (vi.load e (bs.take vi.size)))
        (epsHkOutUnpack e (out.load e ((bs.drop vi.size).take out.size)))
        (epsHkWdtUnpack e (wdt.load e ((bs.drop (vi.size + out.size)).take wdt.size)))
        (epsHkBasicUnpack e
          (basic.load e ((bs.drop (vi.size + out.size + wdt.size)).take basic.size)))) ∧
    Inverse (epsHkViPack e) (epsHkViUnpack e) ∧ Inverse (epsHkOutPack e) (epsHkOutUnpack e) ∧
    Inverse (epsHkWdtPack e) (epsHkWdtUnpack e) ∧
    Inverse (epsHkBasicPack e) (epsHkBasicUnpack e) ∧ Inverse (epsHkPack e) (epsHkUnpack e) := by
  refine ⟨fun bs => ?_, epsHkVi_inverse e, epsHkOut_inverse e, epsHkWdt_inverse e,
    epsHkBasic_inverse e, epsHk_inverse e⟩
  rw [EpsHk.load_eq, epsHkUnpack_ofParts]
  simp only [EpsHkVi.packed_local e _ _ le_rfl, EpsHkOut.packed_local e _ _ le_rfl,
    EpsHkWdt.packed_local e _ _ le_rfl, EpsHkBasic.packed_local e _ _ le_rfl]
  rfl

end
end UhfGs.Clients
