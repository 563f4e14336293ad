import Mathlib.Algebra.GroupWithZero.Nat
import UhfGs.Library.Bits
import UhfGs.Library.Bytes

/-! The CSP identifier: its fields, the 32-bit word that overlays them, and the
masks under which connections are compared. -/
namespace UhfGs.Csp
open Bits Bytes

-- The literals of the field types refer to these instances by name, in every module alike.
instance neZeroPri : NeZero 4 := ⟨by decide⟩
instance neZeroAddr : NeZero 32 := ⟨by decide⟩
instance neZeroPort : NeZero 64 := ⟨by decide⟩

structure CspId where
  pri : Fin 4
  src : Fin 32
  dst : Fin 32
  dport : Fin 64
  sport : Fin 64
  flags : UInt8
  deriving DecidableEq, Repr

namespace CspId

def zero : CspId := ⟨0, 0, 0, 0, 0, 0⟩

/- The bit-fields as the header declares them for either byte order. -/
def littleFields (id : CspId) : List (Nat × Nat) :=
  [(8, id.flags.toNat), (6, id.sport), (6, id.dport), (5, id.dst), (5, id.src), (2, id.pri)]

def bigFields (id : CspId) : List (Nat × Nat) :=
  [(2, id.pri), (5, id.src), (5, id.dst), (6, id.dport), (6, id.sport), (8, id.flags.toNat)]

/-- The `ext` member. The compiler fills a word from its low end on a little
endian host and from its high end on a big endian one. -/
def ext : Endian → CspId → Nat
  | .little, id => packLow id.littleFields
  | .big, id => packHigh id.bigFields

theorem ext_big (id : CspId) : id.ext .big =
    id.pri * 2 ^ 30 + id.src * 2 ^ 25 + id.dst * 2 ^ 20 + id.dport * 2 ^ 14 +
      id.sport * 2 ^ 8 + id.flags.toNat := by
  simp only [ext, bigFields, packHigh, width, List.map_cons, List.map_nil, List.sum_cons,
    List.sum_nil]
  ring

theorem ext_eq (e : Endian) (id : CspId) : id.ext e = id.ext .big := by
  cases e with
  | little => exact packLow_reverse id.bigFields
  | big => rfl

def ofExt (w : Nat) : CspId where
  pri := Fin.ofNat 4 (w / 2 ^ 30)
  src := Fin.ofNat 32 (w / 2 ^ 25)
  dst := Fin.ofNat 32 (w / 2 ^ 20)
  dport := Fin.ofNat 64 (w / 2 ^ 14)
  sport := Fin.ofNat 64 (w / 2 ^ 8)
  flags := UInt8.ofNat w

theorem ext_lt (e : Endian) (id : CspId) : id.ext e < 2 ^ 32 := by
  have hpri := id.pri.isLt
  have hsrc := id.src.isLt
  have hdst := id.dst.isLt
  have hdport := id.dport.isLt
  have hsport := id.sport.isLt
  have hflags := id.flags.toNat_lt
  rw [ext_eq, ext_big]
  omega

@[simp] theorem ofExt_ext (e : Endian) (id : CspId) : ofExt (id.ext e) = id := by
  obtain ⟨⟨pri, hpri⟩, ⟨src, hsrc⟩, ⟨dst, hdst⟩, ⟨dport, hdport⟩, ⟨sport, hsport⟩, flags⟩ := id
  have hflags := flags.toNat_lt
  rw [ext_eq, ext_big]
  simp only [ofExt, CspId.mk.injEq, Fin.ext_iff, Fin.val_ofNat, ← UInt8.toNat_inj, toNat_ofNat]
  omega

end CspId

structure Flow where
  src : Fin 32
  dst : Fin 32
  dport : Fin 64
  sport : Fin 64
  deriving DecidableEq, Repr

def CspId.flow (id : CspId) : Flow := ⟨id.src, id.dst, id.dport, id.sport⟩

def srcMask : Nat := 0x1f <<< 25
def dstMask : Nat := 0x1f <<< 20
def dportMask : Nat := 0x3f <<< 14
def sportMask : Nat := 0x3f <<< 8

def connMask : Nat := srcMask ||| dstMask ||| dportMask ||| sportMask

theorem connMask_eq : connMask = mask 8 22 := by decide

theorem dportMask_eq : dportMask = mask 14 6 := by decide

theorem ext_connMask_eq_iff (e : Endian) (x y : CspId) :
    x.ext e &&& connMask = y.ext e &&& connMask ↔ x.flow = y.flow := by
  have hx := x.flags.toNat_lt
  have hy := y.flags.toNat_lt
  rw [connMask_eq, and_mask_eq_iff, CspId.ext_eq, CspId.ext_eq e y, CspId.ext_big, CspId.ext_big]
  simp only [field, CspId.flow, Flow.mk.injEq, Fin.ext_iff]
  omega

theorem ext_dportMask_eq_iff (e : Endian) (x y : CspId) :
    x.ext e &&& dportMask = y.ext e &&& dportMask ↔ x.dport = y.dport := by
  have hx := x.flags.toNat_lt
  have hy := y.flags.toNat_lt
  rw [dportMask_eq, and_mask_eq_iff, CspId.ext_eq, CspId.ext_eq e y, CspId.ext_big, CspId.ext_big]
  simp only [field, Fin.ext_iff]
  omega

inductive Err where
  | none
  | nomem
  | inval
  | timedout
  | notsup
  | again
  | tx
  | driver
  deriving DecidableEq, Repr

def Err.code : Err → Int
  | .none => 0
  | .nomem => -1
  | .inval => -2
  | .timedout => -3
  | .notsup => -5
  | .tx => -10
  | .driver => -11
  | .again => -12

/- Flags of the identifier. -/
def fhmac : UInt8 := 0x08
def fxtea : UInt8 := 0x04
def frdp : UInt8 := 0x02
def fcrc32 : UInt8 := 0x01

end UhfGs.Csp
