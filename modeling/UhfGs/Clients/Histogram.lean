import Mathlib.Algebra.Order.Floor.Div
import UhfGs.Clients.ClientReports
import UhfGs.Library.Ordered

/-! The histogram that `cmd_cam_snap` draws from the camera's reply. -/
namespace UhfGs.Clients
open Csp Bytes Packed

/- `cam_snap_t`. -/
structure CamSnap where
  flags : UInt32
  (count format : UInt8)
  (delay width height top left : UInt16)
  deriving DecidableEq, Repr, Inhabited

def CamSnap.packed : Packed CamSnap :=
  Fields.packed
    (Fields.start mk
      |>.field u32 flags |>.field u8 count |>.field u8 format |>.field u16 delay
      |>.field u16 width |>.field u16 height |>.field u16 top |>.field u16 left)
    fun _ => rfl

/- `cam_snap_reply_t`. -/
structure CamSnapReply where
  (result seq : UInt8)
  reserved : Vector UInt8 2
  (lightAvg lightPeak lightMin lightMax : Vector UInt8 4)
  hist : Vector (Vector UInt8 16) 4
  deriving DecidableEq, Repr, Inhabited

def CamSnapReply.packed : Packed CamSnapReply :=
  Fields.packed
    (Fields.start mk
      |>.field u8 result |>.field u8 seq |>.field (u8.array 2) reserved
      |>.field (u8.array 4) lightAvg |>.field (u8.array 4) lightPeak |>.field (u8.array 4) lightMin
      |>.field (u8.array 4) lightMax |>.field ((u8.array 16).array 4) hist)
    fun _ => rfl

def nanocamSnap (cam : Camera) (e : Endian) (link : Link) (snap : CamSnap) (reply : CamSnapReply)
    (timeout : UInt32) : Int × CamSnapReply :=
  let snap :=
    { snap with
      flags := cspHton32Word e snap.flags
      delay := cspHton16 e snap.delay
      width := cspHton16 e snap.width
      height := cspHton16 e snap.height
      top := cspHton16 e snap.top
      left := cspHton16 e snap.left }
  let x := cspTransaction link
    ⟨2, cam.nodeCam, 20, timeout, CamSnap.packed.store e snap, CamSnapReply.packed.size⟩
  let reply := x.into CamSnapReply.packed e reply
  if x.status ≠ CamSnapReply.packed.size then (-1, reply) else (reply.result.toNat, reply)

/-- What `gosh_getopt` reads, with the numbers that `atoi` makes of the arguments. -/
inductive SnapOption where
  | autoGain
  | delay (n : Int)
  | colors (s : List UInt8)
  | storeTags
  | count (n : Int)
  | storeRam
  | storeFlash
  | storeThumb
  | noHistogram
  | unknown
  deriving DecidableEq, Repr

structure SnapSetting where
  snap : CamSnap
  colors : List UInt8
  histogram : Bool
  deriving DecidableEq, Repr

/- `rgb` are the colours at first; the start column and row are what is on the stack. -/
def SnapSetting.default (top left : UInt16) : SnapSetting :=
  ⟨⟨0, 1, 2, 0, 0, 0, top, left⟩, [114, 103, 98], true⟩

def SnapSetting.flag (s : SnapSetting) (flag : UInt32) : SnapSetting :=
  { s with snap := { s.snap with flags := s.snap.flags ||| flag } }

def SnapSetting.take (s : SnapSetting) : SnapOption → Option SnapSetting
  | .autoGain => some (s.flag 0x1)
  | .delay n => some { s with snap := { s.snap with delay := UInt16.ofInt n } }
  | .colors colors => some { s with colors }
  | .storeTags => some (s.flag 0x800)
  | .count n => some { s with snap := { s.snap with count := UInt8.ofInt n } }
  | .storeRam => some (s.flag 0x100)
  | .storeFlash => some (s.flag 0x200)
  | .storeThumb => some (s.flag 0x400)
  | .noHistogram => some { s.flag 0x10000 with histogram := false }
  | .unknown => none

inductive BinColor where
  | none
  | red
  | green
  | blue
  | yellow
  | magenta
  | cyan
  | white
  deriving DecidableEq, Repr

def histBinColor (red green blue : Bool) : BinColor :=
  if red ∧ green ∧ blue then .white
  else if red ∧ green then .yellow
  else if red ∧ blue then .magenta
  else if green ∧ blue then .cyan
  else if red then .red
  else if green then .green
  else if blue then .blue
  else .none

/-- The colours that have blocks; the histogram before theirs counts all light. -/
inductive LightColor where
  | red
  | green
  | blue
  deriving DecidableEq, Repr

def LightColor.index : LightColor → Fin 4
  | .red => 1
  | .green => 2
  | .blue => 3

/-- A line of the histogram: the count that its percentage is of, the blocks, the characters of the
bar (blank where there is none) and the bounds of the bin. -/
structure HistRow where
  brightness : UInt8
  (rBlocks gBlocks bBlocks : UInt32)
  bar : List (Option BinColor)
  (low high : Nat)
  deriving DecidableEq, Repr

def HistRow.blocks (row : HistRow) : LightColor → UInt32
  | .red => row.rBlocks
  | .green => row.gBlocks
  | .blue => row.bBlocks

def histWidth : UInt32 := 50

def binMax (hist : Vector (Vector UInt8 16) 4) : UInt32 :=
  (List.finRange 16).foldl
    (fun max i =>
      (List.finRange 4).foldl
        (fun max j => if max < hist[j][i].toUInt32 then hist[j][i].toUInt32 else max) max)
    0

/-- Rounded up and scaled; without a value when the divisor is 0. -/
def scaledBlocks (binMax : UInt32) (count : UInt8) : Option UInt32 :=
  if binMax = 0 then none else some ((count.toUInt32 * histWidth + binMax - 1) / binMax)

def histBar (colors : List UInt8) (rBlocks gBlocks bBlocks : UInt32) : List (Option BinColor) :=
  (List.range histWidth.toNat).map fun j =>
    let r := j < rBlocks.toNat ∧ 114 ∈ colors
    let g := j < gBlocks.toNat ∧ 103 ∈ colors
    let b := j < bBlocks.toNat ∧ 98 ∈ colors
    if r ∨ g ∨ b then some (histBinColor r g b) else none

def histRow (colors : List UInt8) (reply : CamSnapReply) (i : Fin 16) : Option HistRow := do
  let max := binMax reply.hist
  let rBlocks ← scaledBlocks max reply.hist[1][i]
  let gBlocks ← scaledBlocks max reply.hist[2][i]
  let bBlocks ← scaledBlocks max reply.hist[3][i]
  return ⟨reply.hist[0][i], rBlocks, gBlocks, bBlocks, histBar colors rBlocks gBlocks bBlocks,
    i * 256 / 16, i * 256 / 16 + 15⟩

/-- The lines of the histogram, if no division by zero ends the program. -/
def camHistogram (colors : List UInt8) (reply : CamSnapReply) : Option (List HistRow) :=
  (List.finRange 16).mapM (histRow colors reply)

def brightness (reply : CamSnapReply) (j : Fin 4) : Nat × UInt8 × UInt8 × UInt8 × UInt8 :=
  (reply.lightAvg[j].toNat * 100 / 255, reply.lightMin[j], reply.lightMax[j], reply.lightPeak[j],
    reply.lightAvg[j])

/-- What the command returns, the result that it prints, and the two parts behind it. -/
structure SnapReport where
  code : Int
  result : Option Int
  light : List (Nat × UInt8 × UInt8 × UInt8 × UInt8)
  rows : List HistRow
  deriving DecidableEq, Repr

/-- `width` and `height` are the arguments behind the options, `top`, `left` and `reply` are on the
stack. There is no value when the command divides by zero. -/
def cmdCamSnap (cam : Camera) (e : Endian) (link : Link) (options : List SnapOption)
    (width height : Option Int) (top left : UInt16) (reply : CamSnapReply) : Option SnapReport :=
  match options.foldlM SnapSetting.take (.default top left) with
  | none => some ⟨-2, none, [], []⟩
  | some s =>
      let snap :=
        { s.snap with
          width := UInt16.ofInt (width.getD 0)
          height := UInt16.ofInt (height.getD 0) }
      let (result, reply) := nanocamSnap cam e link snap reply cam.camTimeout
      if result < 0 then some ⟨-1, some result, [], []⟩
      else if ¬ s.histogram then some ⟨0, some result, [], []⟩
      else
        (camHistogram s.colors reply).map fun rows =>
          ⟨0, some result, (List.finRange 4).map (brightness reply), rows⟩

section
variable {hist : Vector (Vector UInt8 16) 4}

theorem binMax_le_iff (m : UInt32) :
    binMax hist ≤ m ↔ ∀ (i : Fin 16) (j : Fin 4), hist[j][i].toUInt32 ≤ m := by
  have hstep (a c : UInt32) : (if a < c then c else a) ≤ m ↔ a ≤ m ∧ c ≤ m := by
    simp only [UInt32.le_iff_toNat_le]
    split
    · rename_i h
      rw [UInt32.lt_iff_toNat_lt] at h
      omega
    · rename_i h
      rw [UInt32.lt_iff_toNat_lt] at h
      omega
  have hcolors (i : Fin 16) (a : UInt32) := Ordered.foldl_le_iff
    (fun a j => hstep a (hist[j][i].toUInt32)) (List.finRange 4) a
  have hbins := Ordered.foldl_le_iff (fun a i => hcolors i a) (List.finRange 16) 0
  refine hbins.trans ?_
  simp [UInt32.le_iff_toNat_le]

theorem le_binMax (j : Fin 4) (i : Fin 16) : hist[j][i].toNat ≤ (binMax hist).toNat := by
  have h := (binMax_le_iff (binMax hist)).mp (UInt32.le_refl _) i j
  rwa [UInt32.le_iff_toNat_le, UInt8.toNat_toUInt32] at h

theorem binMax_le : (binMax hist).toNat ≤ 255 := by
  have h : binMax hist ≤ 255 := (binMax_le_iff 255).mpr fun i j => by
    have hbyte := hist[j][i].toNat_lt
    rw [UInt32.le_iff_toNat_le, UInt8.toNat_toUInt32]
    exact Nat.le_of_lt_succ hbyte
  exact UInt32.le_iff_toNat_le.mp h

theorem binMax_eq_zero_iff : binMax hist = 0 ↔ ∀ (j : Fin 4) (i : Fin 16), hist[j][i] = 0 := by
  constructor
  · intro h j i
    have hle := @le_binMax hist j i
    rw [h] at hle
    exact UInt8.toNat_inj.mp (Nat.le_zero.mp hle)
  · intro h
    have hle : binMax hist ≤ 0 := (binMax_le_iff 0).mpr fun i j => by
      rw [h j i]
      exact UInt32.le_refl _
    exact UInt32.toNat_inj.mp (Nat.le_zero.mp (UInt32.le_iff_toNat_le.mp hle))

end

section
variable {m : UInt32} {count count' : UInt8}

theorem scaledBlocks_eq (h0 : m ≠ 0) (hm : m.toNat ≤ 255) (count : UInt8) :
    ∃ b, scaledBlocks m count = some b ∧ b.toNat = (count.toNat * 50) ⌈/⌉ m.toNat := by
  have hcount := count.toNat_lt
  have hpos : m.toNat ≠ 0 := fun h => h0 (UInt32.toNat_inj.mp h)
  have h50 : histWidth.toNat = 50 := rfl
  have h1 : (1 : UInt32).toNat = 1 := rfl
  refine ⟨_, if_neg h0, ?_⟩
  rw [UInt32.toNat_div, UInt32.toNat_sub, UInt32.toNat_add, UInt32.toNat_mul, UInt8.toNat_toUInt32,
    h50, h1, Nat.ceilDiv_eq_add_pred_div]
  congr 1
  omega

end

/- Rounding up, for a width `w` at the maximum `m`. -/
section
variable {m w c c' : Nat}

theorem ceilDiv_le_width (hm : 0 < m) (h : c ≤ m) : (c * w) ⌈/⌉ m ≤ w :=
  (ceilDiv_le_iff_le_mul hm).mpr (Nat.mul_le_mul_right w h)

theorem ceilDiv_eq_zero_iff (hm : 0 < m) (hw : 0 < w) : (c * w) ⌈/⌉ m = 0 ↔ c = 0 := by
  rw [← Nat.le_zero, ceilDiv_le_iff_le_mul hm, Nat.mul_zero, Nat.le_zero, Nat.mul_eq_zero]
  omega

theorem ceilDiv_mono (hm : 0 < m) (h : c ≤ c') : (c * w) ⌈/⌉ m ≤ (c' * w) ⌈/⌉ m :=
  (ceilDiv_le_iff_le_mul hm).mpr
    ((Nat.mul_le_mul_right w h).trans (le_smul_ceilDiv hm))

end

section
variable {colors : List UInt8} {reply : CamSnapReply}

theorem histRow_eq (h0 : binMax reply.hist ≠ 0) (i : Fin 16) :
    ∃ row, histRow colors reply i = some row ∧ ∀ c : LightColor, (row.blocks c).toNat =
      (reply.hist[c.index][i].toNat * 50) ⌈/⌉ (binMax reply.hist).toNat := by
  obtain ⟨r, hr, hr'⟩ := scaledBlocks_eq h0 binMax_le reply.hist[1][i]
  obtain ⟨g, hg, hg'⟩ := scaledBlocks_eq h0 binMax_le reply.hist[2][i]
  obtain ⟨b, hb, hb'⟩ := scaledBlocks_eq h0 binMax_le reply.hist[3][i]
  refine ⟨_, by rw [histRow, hr, hg, hb]; rfl, fun c => ?_⟩
  cases c with
  | red => exact hr'
  | green => exact hg'
  | blue => exact hb'

theorem histRow_trap (h0 : binMax reply.hist = 0) (i : Fin 16) :
    histRow colors reply i = none := by
  rw [histRow, h0]
  rfl

theorem camHistogram_eq (h0 : binMax reply.hist ≠ 0) :
    ∃ row : Fin 16 → HistRow, camHistogram colors reply = some ((List.finRange 16).map row) ∧
      ∀ i c, ((row i).blocks c).toNat =
        (reply.hist[c.index][i].toNat * 50) ⌈/⌉ (binMax reply.hist).toNat := by
  choose row hrow hblocks using @histRow_eq colors reply h0
  have hpure : histRow colors reply = fun i => pure (row i) := funext hrow
  exact ⟨row, by rw [camHistogram, hpure, List.mapM_pure]; rfl, hblocks⟩

theorem camHistogram_trap (h0 : binMax reply.hist = 0) : camHistogram colors reply = none := by
  rw [camHistogram, List.finRange_succ, List.mapM_cons, histRow_trap h0]
  rfl

end

/-- The lines are drawn, their blocks fit, and larger counts have no fewer blocks. -/
def SoundHistogram (colors : List UInt8) (reply : CamSnapReply) : Prop :=
  ∃ rows, camHistogram colors reply = some rows ∧ rows.length = 16 ∧
    ∀ (i : Fin 16) (c : LightColor) (row : HistRow), rows[i.val]? = some row →
      row.blocks c ≤ histWidth ∧ (row.blocks c = 0 ↔ reply.hist[c.index][i] = 0) ∧
        ∀ (i' : Fin 16) (c' : LightColor) (row' : HistRow), rows[i'.val]? = some row' →
          reply.hist[c.index][i] ≤ reply.hist[c'.index][i'] → row.blocks c ≤ row'.blocks c'

/-- The histogram needs a count that is not 0. -/
theorem soundHistogram_iff (colors : List UInt8) (reply : CamSnapReply) :
    SoundHistogram colors reply ↔ ∃ (j : Fin 4) (i : Fin 16), reply.hist[j][i] ≠ 0 := by
  by_cases h0 : binMax reply.hist = 0
  · have hzero := binMax_eq_zero_iff.mp h0
    refine iff_of_false ?_ fun ⟨j, i, h⟩ => h (hzero j i)
    rintro ⟨rows, hrows, -⟩
    rw [camHistogram_trap h0] at hrows
    cases hrows
  · refine iff_of_true ?_ (by simpa [binMax_eq_zero_iff] using h0)
    have hpos : 0 < (binMax reply.hist).toNat :=
      Nat.pos_of_ne_zero fun h => h0 (UInt32.toNat_inj.mp h)
    obtain ⟨row, hrows, hblocks⟩ := @camHistogram_eq colors reply h0
    have hrow {i : Fin 16} {r : HistRow} (h : ((List.finRange 16).map row)[i.val]? = some r) :
        r = row i := by
      simpa using h.symm
    refine ⟨_, hrows, by simp, fun i c r hr => ?_⟩
    obtain rfl := hrow hr
    refine ⟨?_, ?_, fun i' c' r' hr' hle => ?_⟩
    · rw [UInt32.le_iff_toNat_le, hblocks]
      exact ceilDiv_le_width hpos (le_binMax c.index i)
    · rw [← UInt32.toNat_inj, hblocks, ← UInt8.toNat_inj]
      exact ceilDiv_eq_zero_iff hpos (by decide)
    · obtain rfl := hrow hr'
      rw [UInt32.le_iff_toNat_le, hblocks, hblocks]
      exact ceilDiv_mono hpos (UInt8.le_iff_toNat_le.mp hle)

/-- A reply that counts nothing, as one that reports an error may. -/
theorem camHistogram_divides_by_zero :
    ¬ ∀ (colors : List UInt8) (reply : CamSnapReply), SoundHistogram colors reply := by
  intro h
  obtain ⟨rows, hrows, -⟩ := h [] { (default : CamSnapReply) with result := 1 }
  rw [camHistogram_trap (binMax_eq_zero_iff.mpr fun j i => by revert j i; decide)] at hrows
  cases hrows

section
variable {cam : Camera} {e : Endian} {link : Link} {data : List UInt8}

theorem nanocamSnap_answered (snap : CamSnap) (reply : CamSnapReply) (timeout : UInt32)
    (hs : link.Sends) (hr : link.reply = some data)
    (hl : data.length = CamSnapReply.packed.size) :
    nanocamSnap cam e link snap reply timeout =
      (((CamSnapReply.packed.load e data).result.toNat : Int), CamSnapReply.packed.load e data) := by
  have hsize : (CamSnapReply.packed.size : Int) ≠ 0 := by decide
  simp only [nanocamSnap]
  rw [cspTransaction_of_answer _ hs hsize hr (.inr (by rw [hl]))]
  simp [hl, Exchange.into]

theorem cmdCamSnap_answered {options : List SnapOption} {top left : UInt16} {s : SnapSetting}
    (width height : Option Int) (reply : CamSnapReply) (hs : link.Sends)
    (hr : link.reply = some data) (hl : data.length = CamSnapReply.packed.size)
    (ho : options.foldlM SnapSetting.take (.default top left) = some s) (hh : s.histogram = true) :
    cmdCamSnap cam e link options width height top left reply =
      (camHistogram s.colors (CamSnapReply.packed.load e data)).map fun rows =>
        ⟨0, some (CamSnapReply.packed.load e data).result.toNat,
          (List.finRange 4).map (brightness (CamSnapReply.packed.load e data)), rows⟩ := by
  have hsign : ¬ ((CamSnapReply.packed.load e data).result.toNat : Int) < 0 := by omega
  simp only [cmdCamSnap, ho, nanocamSnap_answered _ _ _ hs hr hl, hsign, hh, if_false, not_true]

end

end UhfGs.Clients
