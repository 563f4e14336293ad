import UhfGs.Clients.Configs

/-! The functions that send a configuration record to a subsystem. -/
namespace UhfGs.Clients
open Csp Bytes Packed

/-- The static variables that tell the clients whom to address and how long to wait. -/
structure Peers where
  (comNode nodeGatoss gssbCspNode i2cAddr nodeHub epsNode : UInt8)
  (comTimeout timeoutGatoss epsTimeout : UInt32)
  (gssbCspTimeout i2cTimeoutMs : UInt16)
  deriving Inhabited

/-- What a setter hands to `csp_transaction`, what comes of it, and the caller's record
afterwards. -/
structure Upload (ρ : Type) where
  call : Call
  exchange : Exchange
  record : ρ

def upload {ρ : Type} (link : Link) (call : Call) (record : ρ) : Upload ρ :=
  ⟨call, cspTransaction link call, record⟩

/- `gssb_csp_cmd2_t`. -/
structure GssbCspCmd2 where
  (cmdId i2cAddr : UInt8)
  i2cTimeoutMs : UInt16
  deriving DecidableEq, Repr

def GssbCspCmd2.packed : Packed GssbCspCmd2 :=
  Fields.packed (Fields.start mk |>.field u8 cmdId |>.field u8 i2cAddr |>.field u16 i2cTimeoutMs)
    fun _ => rfl

def Peers.gssbCmd (peers : Peers) (e : Endian) (cmdId : UInt8) : GssbCspCmd2 :=
  ⟨cmdId, peers.i2cAddr, cspHton16 e peers.i2cTimeoutMs⟩

section Setters
variable (peers : Peers) (e : Endian) (link : Link)

def comSetConf (config : NanocomConf) : Upload NanocomConf :=
  let config := config.convert (cspHton16 e)
  upload link
    ⟨1, peers.comNode, 7, peers.comTimeout, NanocomConf.packed.store e config, 0⟩ config

def gatossConfSet (taskPassive : Bool) (config : GatossConf) : Upload GatossConf :=
  let config := config.convert taskPassive (cspHton16 e) (cspHton32Word e)
  upload link
    ⟨1, peers.nodeGatoss, 16, peers.timeoutGatoss, GatossConf.packed.store e config, 0⟩ config

def gssbInterstageSettingsSet (settings : IstageBurnSettings) : Upload IstageBurnSettings :=
  let settings := settings.convert (cspHton16 e)
  upload link
    ⟨2, peers.gssbCspNode, 15, peers.gssbCspTimeout.toUInt32,
      GssbCspCmd2.packed.store e (peers.gssbCmd e 113) ++
        IstageBurnSettings.packed.store e settings, 0⟩ settings

def hubSetConf (globalconf : NanohubConf) : Upload NanohubConf :=
  let conf := globalconf.convert (cspHton16 e) (cspHton32Word e)
  upload link ⟨2, peers.nodeHub, 13, 1000, NanohubConf.packed.store e conf, 0⟩ globalconf

def epsConfigSet (pconfig : EpsConfig) : Upload EpsConfig :=
  let config := pconfig.convert (cspHton16 e)
  upload link ⟨1, peers.epsNode, 19, peers.epsTimeout, EpsConfig.packed.store e config, 0⟩ pconfig

def epsConfig2Set (pconfig2 : EpsConfig2) : Upload EpsConfig2 :=
  let config2 := pconfig2.convert (cspHton16 e)
  upload link
    ⟨1, peers.epsNode, 23, peers.epsTimeout, EpsConfig2.packed.store e config2, 0⟩ pconfig2

def EpsConfig3.withHeader (c : EpsConfig3) (cmd : UInt8) : EpsConfig3 :=
  { c with version := 1, cmd, length := UInt8.ofNat EpsConfig3.packed.size, flags := 0 }

def epsConfig3Set (pconfig3 : EpsConfig3) : Upload EpsConfig3 :=
  let config3 := (pconfig3.withHeader 4).convert (cspHton16 e)
  upload link
    ⟨1, peers.epsNode, 25, peers.epsTimeout, EpsConfig3.packed.store e config3, 0⟩ pconfig3

end Setters

section Consecutive
variable {ρ : Type} (set : Link → ρ → Upload ρ)

def consecutive : List Link → ρ → List (Upload ρ) × ρ
  | [], r => ([], r)
  | link :: links, r =>
      let rest := consecutive links (set link r).record
      (set link r :: rest.1, rest.2)

/-- All calls hand over the same bytes, and the record is what it was. -/
def Repeatable (links : List Link) (r : ρ) : Prop :=
  (∃ bytes, ∀ u ∈ (consecutive set links r).1, u.call.out = bytes) ∧
    (consecutive set links r).2 = r

variable {set} {links : List Link} {r : ρ}

theorem repeatable_of_kept (bytes : List UInt8) (hrecord : ∀ link, (set link r).record = r)
    (hout : ∀ link, (set link r).call.out = bytes) : Repeatable set links r := by
  induction links with
  | nil => exact ⟨⟨[], fun u hu => absurd hu List.not_mem_nil⟩, rfl⟩
  | cons link links ih =>
      obtain ⟨⟨bytes', hall⟩, hlast⟩ := ih
      have hstep : consecutive set (link :: links) r =
          (set link r :: (consecutive set links r).1, (consecutive set links r).2) := by
        rw [consecutive, hrecord]
      have hsame : ∀ u ∈ (consecutive set links r).1, u.call.out = bytes := by
        intro u hu
        rw [hall u hu]
        cases links with
        | nil => exact absurd hu List.not_mem_nil
        | cons link' links' => rw [← hall _ List.mem_cons_self, hout]
      rw [Repeatable, hstep]
      refine ⟨⟨bytes, fun u hu => ?_⟩, hlast⟩
      obtain rfl | hu := List.mem_cons.mp hu
      · exact hout link
      · exact hsame u hu

structure InPlace (set : Link → ρ → Upload ρ) (conv : ρ → ρ) (image : ρ → List UInt8) : Prop where
  record : ∀ link r, (set link r).record = conv r
  out : ∀ link r, (set link r).call.out = image (conv r)
  image_inj : ∀ a b, image a = image b → a = b
  conv_conv : ∀ r, conv (conv r) = r

/-- It can be repeated only where the conversion changes nothing: a second call converts back. -/
theorem InPlace.repeatable_iff {conv : ρ → ρ} {image : ρ → List UInt8}
    (h : InPlace set conv image) (hne : links ≠ []) : Repeatable set links r ↔ conv r = r := by
  constructor
  · rintro ⟨⟨bytes, hall⟩, hlast⟩
    match links, hne with
    | [link], _ =>
        rw [← h.record link r]
        exact hlast
    | link :: link' :: links', _ =>
        have h₁ : image (conv r) = bytes := by
          rw [← h.out link r]
          exact hall _ List.mem_cons_self
        have h₂ : image (conv (conv r)) = bytes := by
          rw [← h.out link' (conv r), ← h.record link r]
          exact hall _ (List.mem_cons_of_mem _ List.mem_cons_self)
        have heq := h.image_inj _ _ (h₁.trans h₂.symm)
        rw [h.conv_conv] at heq
        exact heq
  · intro hr
    refine repeatable_of_kept (image (conv r)) (fun link => ?_) fun link => h.out link r
    rw [h.record, hr]

end Consecutive

inductive Setter where
  | com
  | gatoss (taskPassive : Bool)
  | interstage
  | hub
  | eps
  | eps2
  | eps3

namespace Setter

def Record : Setter → Type
  | .com => NanocomConf
  | .gatoss _ => GatossConf
  | .interstage => IstageBurnSettings
  | .hub => NanohubConf
  | .eps => EpsConfig
  | .eps2 => EpsConfig2
  | .eps3 => EpsConfig3

def set (peers : Peers) (e : Endian) : (s : Setter) → Link → s.Record → Upload s.Record
  | .com => comSetConf peers e
  | .gatoss taskPassive => fun link => gatossConfSet peers e link taskPassive
  | .interstage => gssbInterstageSettingsSet peers e
  | .hub => hubSetConf peers e
  | .eps => epsConfigSet peers e
  | .eps2 => epsConfig2Set peers e
  | .eps3 => epsConfig3Set peers e

/-- The setter works on a copy, or no field that it converts changes thereby. -/
def Steady (e : Endian) : (s : Setter) → s.Record → Prop
  | .com, r => e = .big ∨ NanocomConf.Mirrored r
  | .gatoss taskPassive, r => e = .big ∨ GatossConf.Mirrored taskPassive r
  | .interstage, r => e = .big ∨ IstageBurnSettings.Mirrored r
  | .hub, _ | .eps, _ | .eps2, _ | .eps3, _ => True

end Setter

theorem inPlace_com (peers : Peers) (e : Endian) :
    InPlace (comSetConf peers e) (NanocomConf.convert (cspHton16 e))
      (NanocomConf.packed.store e) where
  record _ _ := rfl
  out _ _ := rfl
  image_inj _ _ := NanocomConf.packed.store_inj.mp
  conv_conv := NanocomConf.convert_convert e

theorem inPlace_gatoss (peers : Peers) (e : Endian) (taskPassive : Bool) :
    InPlace (fun link => gatossConfSet peers e link taskPassive)
      (GatossConf.convert taskPassive (cspHton16 e) (cspHton32Word e))
      (GatossConf.packed.store e) where
  record _ _ := rfl
  out _ _ := rfl
  image_inj _ _ := GatossConf.packed.store_inj.mp
  conv_conv := GatossConf.convert_convert taskPassive e

theorem inPlace_interstage (peers : Peers) (e : Endian) :
    InPlace (gssbInterstageSettingsSet peers e) (IstageBurnSettings.convert (cspHton16 e))
      (fun r => GssbCspCmd2.packed.store e (peers.gssbCmd e 113) ++
        IstageBurnSettings.packed.store e r) where
  record _ _ := rfl
  out _ _ := rfl
  image_inj _ _ h := IstageBurnSettings.packed.store_inj.mp (List.append_cancel_left h)
  conv_conv := IstageBurnSettings.convert_convert e

/-- An upload can be repeated, once or more often, exactly where the setter leaves the record as
it is. -/
theorem repeatable_iff_steady (s : Setter) (peers : Peers) (e : Endian) (link : Link)
    (links : List Link) (r : s.Record) :
    Repeatable (s.set peers e) (link :: links) r ↔ s.Steady e r := by
  have hne := List.cons_ne_nil link links
  cases s with
  | com =>
      exact ((inPlace_com peers e).repeatable_iff hne).trans (NanocomConf.convert_eq_self_iff e r)
  | gatoss taskPassive =>
      exact ((inPlace_gatoss peers e taskPassive).repeatable_iff hne).trans
        (GatossConf.convert_eq_self_iff taskPassive e r)
  | interstage =>
      exact ((inPlace_interstage peers e).repeatable_iff hne).trans
        (IstageBurnSettings.convert_eq_self_iff e r)
  | hub =>
      have hkept : Repeatable (hubSetConf peers e) (link :: links) r :=
        repeatable_of_kept
          (NanohubConf.packed.store e (NanohubConf.convert (cspHton16 e) (cspHton32Word e) r))
          (fun _ => rfl) fun _ => rfl
      exact iff_of_true hkept trivial
  | eps => exact iff_of_true (repeatable_of_kept _ (fun _ => rfl) fun _ => rfl) trivial
  | eps2 => exact iff_of_true (repeatable_of_kept _ (fun _ => rfl) fun _ => rfl) trivial
  | eps3 => exact iff_of_true (repeatable_of_kept _ (fun _ => rfl) fun _ => rfl) trivial

/-- The battery level 500 goes out as it should, then with its bytes swapped. -/
theorem com_not_repeatable :
    ¬ Repeatable (comSetConf default .little)
      [⟨true, some fun _ => 0, true, none⟩, ⟨true, some fun _ => 0, true, none⟩]
      { (default : NanocomConf) with morseBatLevel := 500 } := by
  rw [(inPlace_com default .little).repeatable_iff (by simp)]
  decide

end UhfGs.Clients
