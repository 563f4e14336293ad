import UhfGs.Library.Runs
import UhfGs.Station.Elements

/-! `mcs_sat_sel`: the station turns to another satellite. -/
namespace UhfGs.Station
open Runs TextLines

structure Satellite where
  tx : UInt32
  rx : UInt32
  elementid : UInt32

def lumelite1 : Satellite := ⟨437075000, 437075000, 56309⟩

def lumelite2 : Satellite := ⟨435999500, 435999500, 41168⟩

def lumelite3 : Satellite := ⟨436800500, 436800500, 41170⟩

def maxSatSize : UInt32 := 3

def satellite (satNo : UInt32) : Satellite :=
  if satNo = 2 then lumelite2 else if satNo = 3 then lumelite3 else lumelite1

/-- What the radio makes of a command: it sets the frequency and answers, it does not, or it sets
the frequency and the answer gets lost. -/
inductive SetResult where
  | done
  | refused
  | unanswered
  deriving DecidableEq

structure Tracking where
  satNo : UInt32
  txFreq : UInt32
  rxFreq : UInt32
  radioTx : UInt32
  radioRx : UInt32
  elements : Elements

structure SelCall where
  satNoSel : UInt32
  tle : TleEnv
  tx : SetResult
  rx : SetResult

/-- `ax100_set_tx_freq` and `ax100_set_rx_freq`: the frequency in the radio, and what is
returned. -/
def ax100SetFreq (result : SetResult) (freq radio : UInt32) : UInt32 × Int :=
  if freq = 0 then (radio, 0)
  else
    match result with
    | .done => (freq, 1)
    | .refused => (radio, 0)
    | .unanswered => (freq, 0)

namespace Tracking

def ax100SetTxFreq (s : Tracking) (result : SetResult) (freq : UInt32) : Tracking × Int :=
  let (radio, ret) := ax100SetFreq result freq s.radioTx
  ({ s with radioTx := radio }, ret)

def ax100SetRxFreq (s : Tracking) (result : SetResult) (freq : UInt32) : Tracking × Int :=
  let (radio, ret) := ax100SetFreq result freq s.radioRx
  ({ s with radioRx := radio }, ret)

def start (radioTx radioRx : UInt32) : Tracking :=
  ⟨1, 0, 0, radioTx, radioRx, ⟨[], [], ⟨[], [], 0⟩⟩⟩

/-- `sat_no` after the first test of a call. -/
def chosen (s : Tracking) (satNoSel : UInt32) : UInt32 :=
  if satNoSel ≤ maxSatSize then satNoSel else s.satNo

end Tracking

/-- How a call ends. After an overrun anything can be in the statics. -/
inductive SelRun where
  | returns (code : Int) (s : Tracking)
  | dies
  | overruns

def SelRun.state : SelRun → Option Tracking
  | .returns _ s => some s
  | .dies => none
  | .overruns => none

namespace Tracking

def mcsSatSel (s : Tracking) (call : SelCall) : SelRun :=
  let s := { s with satNo := s.chosen call.satNoSel }
  let sat := satellite s.satNo
  let s := { s with txFreq := sat.tx, rxFreq := sat.rx }
  match tleupdate call.tle sat.elementid s.elements with
  | .dies => .dies
  | .overruns => .overruns
  | .done elements =>
      let s := { s with elements := elements }
      let (s, ret) := s.ax100SetTxFreq call.tx s.txFreq
      if ret = 0 then .returns 0 s
      else
        let (s, ret) := s.ax100SetRxFreq call.rx s.rxFreq
        if ret = 0 then .returns 0 s else .returns 1 s

def step (s : Option Tracking) (call : SelCall) : Option Tracking :=
  s.bind fun s => (s.mcsSatSel call).state

/-- Everything belongs to one satellite. -/
structure Agrees (s : Tracking) (no : UInt32) : Prop where
  satNo : s.satNo = no
  txFreq : s.txFreq = (satellite no).tx
  rxFreq : s.rxFreq = (satellite no).rx
  radioTx : s.radioTx = (satellite no).tx
  radioRx : s.radioRx = (satellite no).rx
  catnum : s.elements.sat.catnum = (satellite no).elementid.toNat

structure Same (s s' : Tracking) : Prop where
  satNo : s'.satNo = s.satNo
  txFreq : s'.txFreq = s.txFreq
  rxFreq : s'.rxFreq = s.rxFreq
  sat : s'.elements.sat = s.elements.sat

end Tracking

def ValidSel (no : UInt32) : Prop := no = 1 ∨ no = 2 ∨ no = 3

/-- What a call promises: 1 for a satellite that everything belongs to from then on, 0 for no
change, and 0 for a number that no satellite has. -/
def SelRun.Meets (run : SelRun) (s : Tracking) (satNoSel : UInt32) : Prop :=
  match run with
  | .returns code s' =>
      (code = 1 → ValidSel satNoSel ∧ s'.Agrees satNoSel) ∧
        (code = 0 ∨ ¬ ValidSel satNoSel → code = 0 ∧ s.Same s')
  | .dies => ValidSel satNoSel
  | .overruns => False

def SelCall.Tunes (call : SelCall) : Prop := call.tx = .done ∧ call.rx = .done

instance (call : SelCall) : Decidable call.Tunes := inferInstanceAs (Decidable (_ ∧ _))

namespace Tracking

def found (s : Tracking) (call : SelCall) : Option Sat :=
  call.tle.found (satellite (s.chosen call.satNoSel)).elementid s.elements

def Tuned (s : Tracking) : Prop :=
  s.txFreq = (satellite s.satNo).tx ∧ s.rxFreq = (satellite s.satNo).rx

/-- What a call needs to keep its promise. Where tle.txt does not open, the number is that of a
satellite. Where it does, no static line is overrun; if the radio answers, the number is that of
a satellite, and the element set found, or else the one tracked, is that of the satellite; if
it does not, the satellite is the one selected already, and nothing new is found. -/
structure Sound (s : Tracking) (call : SelCall) : Prop where
  closed : ¬ call.tle.opens → ValidSel call.satNoSel
  fits : call.tle.opens → call.tle.retrieved →
    ¬ Overruns (satellite (s.chosen call.satNoSel)).elementid (fileLines call.tle.content)
  tuned : call.tle.opens → call.Tunes → ValidSel call.satNoSel ∧
    ((s.found call).getD s.elements.sat).catnum = (satellite call.satNoSel).elementid.toNat
  failed : call.tle.opens → ¬ call.Tunes →
    (call.satNoSel = s.satNo ∨ maxSatSize < call.satNoSel) ∧ s.Tuned ∧
      ∀ sat, s.found call = some sat → sat = s.elements.sat

/-- The process keeps its promise, if it still runs. -/
def Keeps (s : Option Tracking) (call : SelCall) : Prop :=
  ∀ t, s = some t → (t.mcsSatSel call).Meets t call.satNoSel

def SoundIn (s : Option Tracking) (call : SelCall) : Prop := ∀ t, s = some t → t.Sound call

structure Leaves (s : Tracking) (call : SelCall) (s' : Tracking) : Prop where
  satNo : s'.satNo = s.chosen call.satNoSel
  txFreq : s'.txFreq = (satellite (s.chosen call.satNoSel)).tx
  rxFreq : s'.rxFreq = (satellite (s.chosen call.satNoSel)).rx
  sat : s'.elements.sat = (s.found call).getD s.elements.sat
  radioTx : s'.radioTx = s'.txFreq ∨ ¬ call.Tunes ∧ s'.radioTx = s.radioTx
  radioRx : s'.radioRx = s'.rxFreq ∨ ¬ call.Tunes ∧ s'.radioRx = s.radioRx

variable {s s' : Tracking} {call : SelCall}

theorem satellite_cases (no : UInt32) :
    satellite no = lumelite1 ∨ satellite no = lumelite2 ∨ satellite no = lumelite3 := by
  unfold satellite
  split
  · exact Or.inr (Or.inl rfl)
  · split
    · exact Or.inr (Or.inr rfl)
    · exact Or.inl rfl

theorem satellite_ne_zero (no : UInt32) :
    (satellite no).tx ≠ 0 ∧ (satellite no).rx ≠ 0 ∧ (satellite no).elementid ≠ 0 := by
  obtain h | h | h := satellite_cases no
  · rw [h]
    decide
  · rw [h]
    decide
  · rw [h]
    decide

theorem chosen_valid (h : ValidSel call.satNoSel) : s.chosen call.satNoSel = call.satNoSel := by
  refine if_pos ?_
  obtain h | h | h := h
  · rw [h]
    decide
  · rw [h]
    decide
  · rw [h]
    decide

theorem chosen_eq_iff (s : Tracking) (no : UInt32) :
    s.chosen no = s.satNo ↔ no = s.satNo ∨ maxSatSize < no := by
  unfold chosen
  split
  · rename_i hle
    exact (or_iff_left (UInt32.not_lt.mpr hle)).symm
  · rename_i hlt
    exact iff_of_true rfl (Or.inr (UInt32.not_le.mp hlt))

theorem ax100SetFreq_cases {freq : UInt32} (h : freq ≠ 0) (result : SetResult) (radio : UInt32) :
    (result = .done ∧ ax100SetFreq result freq radio = (freq, 1)) ∨
      (result ≠ .done ∧ ∃ r, (r = freq ∨ r = radio) ∧ ax100SetFreq result freq radio = (r, 0)) := by
  unfold ax100SetFreq
  rw [if_neg h]
  cases result with
  | done => exact Or.inl ⟨rfl, rfl⟩
  | refused => exact Or.inr ⟨by decide, radio, Or.inr rfl, rfl⟩
  | unanswered => exact Or.inr ⟨by decide, freq, Or.inl rfl, rfl⟩

theorem mcsSatSel_cases (s : Tracking) (call : SelCall) :
    (¬ call.tle.opens ∧ s.mcsSatSel call = .dies) ∨
    (call.tle.opens ∧ call.tle.retrieved ∧
      Overruns (satellite (s.chosen call.satNoSel)).elementid (fileLines call.tle.content) ∧
      s.mcsSatSel call = .overruns) ∨
    (call.tle.opens ∧
      ¬ (call.tle.retrieved ∧
        Overruns (satellite (s.chosen call.satNoSel)).elementid (fileLines call.tle.content)) ∧
      ∃ s', s.mcsSatSel call = .returns (if call.Tunes then 1 else 0) s' ∧ s.Leaves call s') := by
  obtain ⟨htx, hrx, hid⟩ := satellite_ne_zero (s.chosen call.satNoSel)
  by_cases ho : call.tle.opens = true
  · refine Or.inr ?_
    obtain ⟨hr, hover, heq⟩ | ⟨hfits, tle1, tle2, heq⟩ := tleupdate_cases call.tle hid s.elements ho
    · exact Or.inl ⟨ho, hr, hover, by simp only [mcsSatSel, heq]⟩
    · refine Or.inr ⟨ho, hfits, ?_⟩
      obtain ⟨htune, hset⟩ | ⟨htune, r, hr, hset⟩ := ax100SetFreq_cases htx call.tx s.radioTx
      · obtain ⟨htune', hset'⟩ | ⟨htune', r', hr', hset'⟩ :=
          ax100SetFreq_cases hrx call.rx s.radioRx
        · have hall : call.Tunes := ⟨htune, htune'⟩
          simp only [mcsSatSel, heq, ax100SetTxFreq, hset, ax100SetRxFreq, hset', if_pos hall]
          exact ⟨_, rfl, rfl, rfl, rfl, rfl, Or.inl rfl, Or.inl rfl⟩
        · have hnot : ¬ call.Tunes := fun h => htune' h.2
          simp only [mcsSatSel, heq, ax100SetTxFreq, hset, ax100SetRxFreq, hset', if_neg hnot]
          exact ⟨_, rfl, rfl, rfl, rfl, rfl, Or.inl rfl, hr'.imp_right fun h => ⟨hnot, h⟩⟩
      · have hnot : ¬ call.Tunes := fun h => htune h.1
        simp only [mcsSatSel, heq, ax100SetTxFreq, hset, if_neg hnot]
        exact ⟨_, rfl, rfl, rfl, rfl, rfl, hr.imp_right fun h => ⟨hnot, h⟩, Or.inr ⟨hnot, rfl⟩⟩
  · refine Or.inl ⟨ho, ?_⟩
    have hdies : tleupdate call.tle (satellite (s.chosen call.satNoSel)).elementid s.elements =
        .dies := if_pos ho
    simp only [mcsSatSel, hdies]

theorem meets_tuned_iff (h : s.Leaves call s') (ht : call.Tunes) :
    (SelRun.returns 1 s').Meets s call.satNoSel ↔ ValidSel call.satNoSel ∧
      ((s.found call).getD s.elements.sat).catnum =
        (satellite call.satNoSel).elementid.toNat := by
  have hradioTx := h.radioTx.resolve_right fun hn => hn.1 ht
  have hradioRx := h.radioRx.resolve_right fun hn => hn.1 ht
  constructor
  · rintro ⟨hmeets, -⟩
    obtain ⟨hvalid, hagrees⟩ := hmeets rfl
    exact ⟨hvalid, h.sat ▸ hagrees.catnum⟩
  · rintro ⟨hvalid, hcatnum⟩
    have hchosen := chosen_valid (s := s) hvalid
    have htx := h.txFreq
    have hrx := h.rxFreq
    rw [hchosen] at htx hrx
    refine ⟨fun _ => ⟨hvalid, h.satNo.trans hchosen, htx, hrx, hradioTx.trans htx,
      hradioRx.trans hrx, h.sat ▸ hcatnum⟩, ?_⟩
    rintro (hone | hinvalid)
    · exact absurd hone (by decide)
    · exact absurd hvalid hinvalid

theorem meets_failed_iff (h : s.Leaves call s') :
    (SelRun.returns 0 s').Meets s call.satNoSel ↔
      (call.satNoSel = s.satNo ∨ maxSatSize < call.satNoSel) ∧ s.Tuned ∧
        ∀ sat, s.found call = some sat → sat = s.elements.sat := by
  have hsame : (SelRun.returns 0 s').Meets s call.satNoSel ↔ s.Same s' :=
    ⟨fun hmeets => (hmeets.2 (Or.inl rfl)).2,
      fun hsame => ⟨fun hzero => absurd hzero (by decide), fun _ => ⟨rfl, hsame⟩⟩⟩
  have hfound : (s.found call).getD s.elements.sat = s.elements.sat ↔
      ∀ sat, s.found call = some sat → sat = s.elements.sat := by
    cases s.found call with
    | none => simp
    | some sat => simp
  rw [hsame, ← chosen_eq_iff, ← hfound]
  constructor
  · intro hs
    have hchosen := h.satNo.symm.trans hs.satNo
    have htx := h.txFreq.symm.trans hs.txFreq
    have hrx := h.rxFreq.symm.trans hs.rxFreq
    rw [hchosen] at htx hrx
    exact ⟨hchosen, ⟨htx.symm, hrx.symm⟩, h.sat.symm.trans hs.sat⟩
  · rintro ⟨hchosen, ⟨htx, hrx⟩, hsat⟩
    have htx' := h.txFreq
    have hrx' := h.rxFreq
    rw [hchosen] at htx' hrx'
    exact ⟨h.satNo.trans hchosen, htx'.trans htx.symm, hrx'.trans hrx.symm, h.sat.trans hsat⟩

theorem meets_iff (s : Tracking) (call : SelCall) :
    (s.mcsSatSel call).Meets s call.satNoSel ↔ s.Sound call := by
  obtain ⟨ho, heq⟩ | ⟨ho, hr, hover, heq⟩ | ⟨ho, hfits, s', heq, hleaves⟩ := mcsSatSel_cases s call
  · rw [heq]
    exact ⟨fun hvalid => ⟨fun _ => hvalid, fun h => absurd h ho, fun h => absurd h ho,
      fun h => absurd h ho⟩, fun hsound => hsound.closed ho⟩
  · rw [heq]
    exact ⟨False.elim, fun hsound => hsound.fits ho hr hover⟩
  · rw [heq]
    by_cases ht : call.Tunes
    · rw [if_pos ht, meets_tuned_iff hleaves ht]
      exact ⟨fun h => ⟨fun hn => absurd ho hn, fun _ hr hover => hfits ⟨hr, hover⟩, fun _ _ => h,
        fun _ hn => absurd ht hn⟩, fun hsound => hsound.tuned ho ht⟩
    · rw [if_neg ht, meets_failed_iff hleaves]
      exact ⟨fun h => ⟨fun hn => absurd ho hn, fun _ hr hover => hfits ⟨hr, hover⟩,
        fun _ hn => absurd hn ht, fun _ _ => h⟩, fun hsound => hsound.failed ho ht⟩

/-- A sound call leaves everything with one satellite, if that is how it finds it where the
frequencies have been set. -/
theorem agrees_step (hs : s.Tuned → ∃ no, ValidSel no ∧ s.Agrees no) (hsound : s.Sound call)
    (hstep : (s.mcsSatSel call).state = some s') : ∃ no, ValidSel no ∧ s'.Agrees no := by
  obtain ⟨-, heq⟩ | ⟨-, -, -, heq⟩ | ⟨ho, -, t, heq, hleaves⟩ := mcsSatSel_cases s call
  · rw [heq] at hstep
    cases hstep
  · rw [heq] at hstep
    cases hstep
  · rw [heq] at hstep
    obtain rfl := Option.some.inj hstep
    by_cases ht : call.Tunes
    · have hmeets := (meets_tuned_iff hleaves ht).mpr (hsound.tuned ho ht)
      exact ⟨call.satNoSel, hmeets.1 rfl⟩
    · have hfailed := hsound.failed ho ht
      obtain ⟨no, hvalid, hold⟩ := hs hfailed.2.1
      have hsame := (((meets_failed_iff hleaves).mpr hfailed).2 (Or.inl rfl)).2
      have htx := hsame.txFreq.trans hold.txFreq
      have hrx := hsame.rxFreq.trans hold.rxFreq
      refine ⟨no, hvalid, hsame.satNo.trans hold.satNo, htx, hrx, ?_, ?_, ?_⟩
      · obtain hset | ⟨-, hkept⟩ := hleaves.radioTx
        · exact hset.trans htx
        · exact hkept.trans hold.radioTx
      · obtain hset | ⟨-, hkept⟩ := hleaves.radioRx
        · exact hset.trans hrx
        · exact hkept.trans hold.radioRx
      · rw [hsame.sat]
        exact hold.catnum

theorem foldl_step_none (calls : List SelCall) : calls.foldl step none = none := by
  induction calls with
  | nil => rfl
  | cons call calls ih => exact ih

theorem agrees_foldl {calls : List SelCall} (hs : s.Tuned → ∃ no, ValidSel no ∧ s.Agrees no)
    (h : Along step SoundIn (some s) calls)
    (hne : calls ≠ []) (hrun : calls.foldl step (some s) = some s') :
    ∃ no, ValidSel no ∧ s'.Agrees no := by
  induction calls generalizing s with
  | nil => exact absurd rfl hne
  | cons call calls ih =>
      obtain ⟨hcall, hrest⟩ := h
      cases hnext : step (some s) call with
      | none =>
          rw [List.foldl_cons, hnext, foldl_step_none] at hrun
          cases hrun
      | some t =>
          rw [List.foldl_cons, hnext] at hrun
          rw [hnext] at hrest
          have hagrees := agrees_step hs (hcall s rfl) hnext
          by_cases hlast : calls = []
          · subst hlast
            obtain rfl := Option.some.inj hrun
            exact hagrees
          · exact ih (fun _ => hagrees) hrest hlast hrun

theorem agrees_run {radioTx radioRx : UInt32} {calls : List SelCall}
    (h : Along step SoundIn (some (start radioTx radioRx)) calls)
    (hne : calls ≠ []) (hrun : calls.foldl step (some (start radioTx radioRx)) = some s') :
    ∃ no, ValidSel no ∧ s'.Agrees no :=
  agrees_foldl (fun ht => absurd ht.1.symm (satellite_ne_zero 1).1) h hne hrun

/-- In a run every call keeps its promise exactly when every call is sound in the state it
meets. -/
theorem kept_iff (radioTx radioRx : UInt32) (calls : List SelCall) :
    Along step Keeps (some (start radioTx radioRx)) calls ↔
      Along step SoundIn (some (start radioTx radioRx)) calls :=
  along_congr (fun _ => True) (fun _ _ _ _ => trivial)
    (fun _ call _ => forall_congr' fun t => imp_congr_right fun _ => meets_iff t call) calls _
    trivial

/-- The second satellite is selected while the download fails. -/
def blind : SelCall := ⟨2, ⟨true, false, [], fun _ => 0⟩, .done, .done⟩

theorem not_kept : ¬ ∀ calls, Along step Keeps (some (start 0 0)) calls := by
  intro h
  have hsound := (meets_iff _ _).mp ((h [blind]).1 (start 0 0) rfl)
  have hcatnum := (hsound.tuned rfl ⟨rfl, rfl⟩).2
  revert hcatnum
  decide

end Tracking
end UhfGs.Station
