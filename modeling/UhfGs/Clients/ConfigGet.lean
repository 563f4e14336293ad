import UhfGs.Clients.ConfigSet

/-! The functions that ask a subsystem for its configuration. -/
namespace UhfGs.Clients
open Csp Bytes Packed

def Exchange.into {ρ : Type} (x : Exchange) (p : Packed ρ) (e : Endian) (record : ρ) : ρ :=
  match x.received with
  | none => record
  | some data => p.load e data

section Getters
variable (peers : Peers) (e : Endian) (link : Link)

def comGetConf (config : NanocomConf) : Int × NanocomConf :=
  let x := cspTransaction link
    ⟨1, peers.comNode, 7, peers.comTimeout, [], NanocomConf.packed.size⟩
  let config := x.into NanocomConf.packed e config
  if x.status = 0 then (0, config) else (x.status, config.convert (cspNtoh16 e))

def gatossConfGet (taskPassive : Bool) (config : GatossConf) : Int × GatossConf :=
  let x := cspTransaction link
    ⟨1, peers.nodeGatoss, 16, peers.timeoutGatoss, [], GatossConf.packed.size⟩
  let config := x.into GatossConf.packed e config
  if x.status = 0 then (0, config)
  else (x.status, config.convert taskPassive (cspNtoh16 e) (cspNtoh32Word e))

/-- The conversion does not wait for a reply. -/
def gssbInterstageSettingsGet (settings : IstageBurnSettings) : Int × IstageBurnSettings :=
  let x := cspTransaction link
    ⟨2, peers.gssbCspNode, 15, peers.gssbCspTimeout.toUInt32,
      GssbCspCmd2.packed.store e (peers.gssbCmd e 112), IstageBurnSettings.packed.size⟩
  let settings := x.into IstageBurnSettings.packed e settings
  (x.status, settings.convert (cspNtoh16 e))

def hubGetConf (conf : NanohubConf) : Int × NanohubConf :=
  let x := cspTransaction link ⟨2, peers.nodeHub, 13, 1000, [], NanohubConf.packed.size⟩
  let conf := x.into NanohubConf.packed e conf
  (x.status, conf.convert (cspNtoh16 e) (cspNtoh32Word e))

def epsConfigGet (config : EpsConfig) : Int × EpsConfig :=
  let x := cspTransaction link
    ⟨1, peers.epsNode, 18, peers.epsTimeout, [], EpsConfig.packed.size⟩
  let config := x.into EpsConfig.packed e config
  if 0 < x.status then (x.status, config.convert (cspNtoh16 e)) else (-1, config)

def epsConfig2Get (config2 : EpsConfig2) : Int × EpsConfig2 :=
  let x := cspTransaction link
    ⟨1, peers.epsNode, 22, peers.epsTimeout, [], EpsConfig2.packed.size⟩
  let config2 := x.into EpsConfig2.packed e config2
  if 0 < x.status then (x.status, config2.convert (cspNtoh16 e)) else (-1, config2)

def epsConfig3Get (pconfig3 : EpsConfig3) : Int × EpsConfig3 :=
  let pconfig3 := pconfig3.withHeader 3
  let x := cspTransaction link
    ⟨1, peers.epsNode, 25, peers.epsTimeout, (EpsConfig3.packed.store e pconfig3).take 4,
      EpsConfig3.packed.size⟩
  let pconfig3 := x.into EpsConfig3.packed e pconfig3
  if 0 < x.status then (x.status, pconfig3.convert (cspNtoh16 e)) else (-1, pconfig3)

end Getters

inductive Getter where
  | hub
  | com
  | gatoss (taskPassive : Bool)
  | interstage
  | eps
  | eps2

namespace Getter

def Record : Getter → Type
  | .hub => NanohubConf
  | .com => NanocomConf
  | .gatoss _ => GatossConf
  | .interstage => IstageBurnSettings
  | .eps => EpsConfig
  | .eps2 => EpsConfig2

def get (peers : Peers) (e : Endian) (link : Link) : (g : Getter) → g.Record → Int × g.Record
  | .hub => hubGetConf peers e link
  | .com => comGetConf peers e link
  | .gatoss taskPassive => gatossConfGet peers e link taskPassive
  | .interstage => gssbInterstageSettingsGet peers e link
  | .eps => epsConfigGet peers e link
  | .eps2 => epsConfig2Get peers e link

def inlen : Getter → Nat
  | .hub => NanohubConf.packed.size
  | .com => NanocomConf.packed.size
  | .gatoss _ => GatossConf.packed.size
  | .interstage => IstageBurnSettings.packed.size
  | .eps => EpsConfig.packed.size
  | .eps2 => EpsConfig2.packed.size

/-- The getter converts only what it received, or the conversion changes nothing. -/
def Steady (e : Endian) : (g : Getter) → g.Record → Prop
  | .hub, r => e = .big ∨ NanohubConf.Mirrored r
  | .interstage, r => e = .big ∨ IstageBurnSettings.Mirrored r
  | .com, _ | .gatoss _, _ | .eps, _ | .eps2, _ => True

/-- A failed call says so and leaves the record as it was. -/
def Atomic (g : Getter) (peers : Peers) (e : Endian) (link : Link) (r : g.Record) : Prop :=
  (g.get peers e link r).1 ≤ 0 ∧ (g.get peers e link r).2 = r

end Getter

section Failed
variable {peers : Peers} {e : Endian} {link : Link}

theorem status_failed {n : Int} (h : ¬ link.Succeeds n) (prio : Fin 4) (dest port : UInt8)
    (timeout : UInt32) (out : List UInt8) :
    (cspTransaction link ⟨prio, dest, port, timeout, out, n⟩).status = 0 :=
  (cspTransaction_of_not_succeeds ⟨prio, dest, port, timeout, out, n⟩ h).1

theorem into_failed {ρ : Type} {n : Int} (h : ¬ link.Succeeds n) (prio : Fin 4)
    (dest port : UInt8) (timeout : UInt32) (out : List UInt8) (p : Packed ρ) (record : ρ) :
    (cspTransaction link ⟨prio, dest, port, timeout, out, n⟩).into p e record = record := by
  have hr := (cspTransaction_of_not_succeeds ⟨prio, dest, port, timeout, out, n⟩ h).2
  rw [Exchange.into, hr]

theorem comGetConf_failed (h : ¬ link.Succeeds NanocomConf.packed.size) (config : NanocomConf) :
    comGetConf peers e link config = (0, config) := by
  simp only [comGetConf, status_failed h, if_true, into_failed h]

theorem gatossConfGet_failed (h : ¬ link.Succeeds GatossConf.packed.size) (taskPassive : Bool)
    (config : GatossConf) : gatossConfGet peers e link taskPassive config = (0, config) := by
  simp only [gatossConfGet, status_failed h, if_true, into_failed h]

theorem gssbInterstageSettingsGet_failed (h : ¬ link.Succeeds IstageBurnSettings.packed.size)
    (settings : IstageBurnSettings) :
    gssbInterstageSettingsGet peers e link settings = (0, settings.convert (cspHton16 e)) := by
  simp only [gssbInterstageSettingsGet, status_failed h,
    into_failed h]
  rfl

theorem hubGetConf_failed (h : ¬ link.Succeeds NanohubConf.packed.size) (conf : NanohubConf) :
    hubGetConf peers e link conf = (0, conf.convert (cspHton16 e) (cspHton32Word e)) := by
  simp only [hubGetConf, status_failed h, into_failed h]
  rfl

theorem epsConfigGet_failed (h : ¬ link.Succeeds EpsConfig.packed.size) (config : EpsConfig) :
    epsConfigGet peers e link config = (-1, config) := by
  simp only [epsConfigGet, status_failed h, lt_irrefl, if_false,
    into_failed h]

theorem epsConfig2Get_failed (h : ¬ link.Succeeds EpsConfig2.packed.size)
    (config2 : EpsConfig2) : epsConfig2Get peers e link config2 = (-1, config2) := by
  simp only [epsConfig2Get, status_failed h, lt_irrefl, if_false,
    into_failed h]

end Failed

namespace Getter
variable {peers : Peers} {e : Endian} {link : Link}

theorem atomic_iff {g : Getter} {r r' : g.Record} {status : Int}
    (h : g.get peers e link r = (status, r')) (hs : status ≤ 0) :
    g.Atomic peers e link r ↔ r' = r := by
  rw [Atomic, h]
  exact and_iff_right hs

theorem atomic_of_kept {g : Getter} {r : g.Record} {status : Int}
    (h : g.get peers e link r = (status, r)) (hs : status ≤ 0) : g.Atomic peers e link r :=
  (atomic_iff h hs).mpr rfl

end Getter

/-- A read that fails is atomic exactly where the getter leaves the record as it is. -/
theorem atomic_iff_steady (g : Getter) (peers : Peers) (e : Endian) (link : Link)
    (hfail : ¬ link.Succeeds g.inlen) (r : g.Record) :
    g.Atomic peers e link r ↔ g.Steady e r := by
  cases g with
  | hub =>
      exact (Getter.atomic_iff (g := .hub) (hubGetConf_failed hfail r) le_rfl).trans
        (NanohubConf.convert_eq_self_iff e r)
  | com =>
      exact iff_of_true (Getter.atomic_of_kept (g := .com) (comGetConf_failed hfail r) le_rfl)
        trivial
  | gatoss taskPassive =>
      exact iff_of_true (Getter.atomic_of_kept (g := .gatoss taskPassive)
        (gatossConfGet_failed hfail taskPassive r) le_rfl) trivial
  | interstage =>
      exact (Getter.atomic_iff (g := .interstage) (gssbInterstageSettingsGet_failed hfail r)
        le_rfl).trans (IstageBurnSettings.convert_eq_self_iff e r)
  | eps =>
      exact iff_of_true (Getter.atomic_of_kept (g := .eps) (epsConfigGet_failed hfail r)
        (by decide)) trivial
  | eps2 =>
      exact iff_of_true (Getter.atomic_of_kept (g := .eps2) (epsConfig2Get_failed hfail r)
        (by decide)) trivial

/-- The stored settings of an interstage after one read that timed out. -/
theorem interstage_not_atomic :
    ¬ Getter.Atomic .interstage default .little ⟨true, some fun _ => 0, true, none⟩
      { (default : IstageBurnSettings) with stdTimeMs := 500 } := by
  rw [Getter.atomic_iff (g := .interstage) (gssbInterstageSettingsGet_failed (by decide) _) le_rfl]
  intro h
  exact absurd (congrArg IstageBurnSettings.stdTimeMs h) (by decide)

/-- With equal bytes in each half the same read does no harm. -/
theorem interstage_atomic :
    Getter.Atomic .interstage default .little ⟨true, some fun _ => 0, true, none⟩
      { (default : IstageBurnSettings) with stdTimeMs := 0x0101 } :=
  (atomic_iff_steady .interstage default .little ⟨true, some fun _ => 0, true, none⟩ (by decide)
    _).mpr (.inr (by unfold IstageBurnSettings.Mirrored; decide))

end UhfGs.Clients
