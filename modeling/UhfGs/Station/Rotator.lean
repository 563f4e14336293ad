import Mathlib.Data.UInt
import UhfGs.Library.CString
import UhfGs.Library.Runs

/-! The antenna rotator: `serial_set_az_el`, the position that it remembers between calls, and the
commands that it writes to the serial port. -/
namespace UhfGs.Station
open CString Runs

def azimmuthAngleOffset : Int32 := 80

def minAngleThreshold : Int32 := 2

def azelTrackCmdLock : Nat := 0

structure Position where
  azi : Int32
  ele : Int32
  deriving DecidableEq, Repr

/-- What a call meets: whether `open` and `set_interface` succeed, and what `write` returns. -/
structure Port where
  opens : Bool
  interfaceSet : Bool
  wr : Int

/-- What a call leaves: the remembered position, the return value, and the string that it formatted
for the port. -/
structure Outcome where
  old : Position
  ret : Nat
  command : Option (List Char)

/-- `abs`. The smallest `int` is its own. -/
def abs32 (x : Int32) : Int32 := if x < 0 then -x else x

/-- The dead-band around the position of an earlier call. -/
def suppresses (old request : Position) : Bool :=
  ¬ (old.azi < 0 ∨ old.ele < 0) ∧ abs32 (request.azi - old.azi) < minAngleThreshold ∧
    abs32 (request.ele - old.ele) < minAngleThreshold

def setAzElCommand (request : Position) : List Char :=
  'W' :: (sprintfZeros 3 (request.azi + azimmuthAngleOffset).toInt ++
    ' ' :: (sprintfZeros 3 request.ele.toInt ++ ['\r']))

def serialSetAzEl (old request : Position) (port : Port) : Outcome :=
  if azelTrackCmdLock = 1 then ⟨old, 1, none⟩
  else if suppresses old request then ⟨old, 0, none⟩
  else
    let old := request
    if ¬ port.opens then ⟨old, 0, none⟩
    else if ¬ port.interfaceSet then ⟨old, 0, none⟩
    else ⟨old, 1, some (setAzElCommand request)⟩

def commandBuffer : Nat := 10

namespace Outcome

def Overruns (o : Outcome) : Prop := ∃ c ∈ o.command, commandBuffer < c.length + 1

def sent (o : Outcome) : Option (List Char) := o.command.map (·.take (commandBuffer - 1))

def taken (o : Outcome) (port : Port) : List Char := (o.sent.getD []).take port.wr.toNat

end Outcome

def setAzel (argv : List (List Char)) : Option Position :=
  if argv.length ≠ 3 then none
  else some ⟨Int32.ofInt (atoi (argv.getD 1 [])), Int32.ofInt (atoi (argv.getD 2 []))⟩

def dopplerRequest (azi eli : Int32) : Option Position := if eli > 90 then none else some ⟨azi, eli⟩

theorem serialSetAzEl_cases (old request : Position) (port : Port) :
    (suppresses old request ∧ serialSetAzEl old request port = ⟨old, 0, none⟩) ∨
      (¬ suppresses old request ∧ ¬ (port.opens ∧ port.interfaceSet) ∧
        serialSetAzEl old request port = ⟨request, 0, none⟩) ∨
      (¬ suppresses old request ∧ (port.opens ∧ port.interfaceSet) ∧
        serialSetAzEl old request port = ⟨request, 1, some (setAzElCommand request)⟩) := by
  unfold serialSetAzEl
  rw [if_neg (by decide)]
  by_cases hs : suppresses old request
  · exact Or.inl ⟨hs, if_pos hs⟩
  · rw [if_neg hs]
    by_cases ho : port.opens
    · by_cases hi : port.interfaceSet
      · exact Or.inr (Or.inr ⟨hs, ⟨ho, hi⟩, by simp [ho, hi]⟩)
      · exact Or.inr (Or.inl ⟨hs, fun h => hi h.2, by simp [ho, hi]⟩)
    · exact Or.inr (Or.inl ⟨hs, fun h => ho h.1, by simp [ho]⟩)

def digits3 (v : Nat) : List Char :=
  [Nat.digitChar (v / 100), Nat.digitChar (v / 10 % 10), Nat.digitChar (v % 10)]

theorem sprintfZeros_three {v : Nat} (h : v < 1000) : sprintfZeros 3 v = digits3 v := by
  have hall : ∀ v < 1000, sprintfZeros 3 (v : Nat) = digits3 v := by decide +kernel
  exact hall v h

/-- The rotator understands the request: 0 to 450 degrees behind the offset, 0 to 180 up. -/
def Expressible (request : Position) : Prop :=
  (0 ≤ request.azi.toInt + 80 ∧ request.azi.toInt + 80 ≤ 450) ∧
    0 ≤ request.ele.toInt ∧ request.ele.toInt ≤ 180

def frame (request : Position) : List Char :=
  'W' :: (digits3 (request.azi.toInt + 80).toNat ++
    ' ' :: (digits3 request.ele.toInt.toNat ++ ['\r']))

/-- What a call owes the rotator: the command of the request and no other bytes, inside the buffer,
and nothing at all of a request that has none. -/
def KeepsFormat (old request : Position) (port : Port) : Prop :=
  let o := serialSetAzEl old request port
  (Expressible request ∧ ¬ o.Overruns ∧ ∀ bytes ∈ o.sent, bytes = frame request) ∨
    (¬ Expressible request ∧ o = ⟨old, 0, none⟩)

theorem toInt_offset {azi : Int32} (h : 0 ≤ azi.toInt + 80) (h' : azi.toInt + 80 ≤ 450) :
    (azi + azimmuthAngleOffset).toInt = (azi.toInt + 80).toNat := by
  have hoffset : azimmuthAngleOffset.toInt = 80 := rfl
  rw [Int32.toInt_add, hoffset, Int.bmod_eq_of_le (by omega) (by omega)]
  omega

theorem setAzElCommand_of_expressible {request : Position} (h : Expressible request) :
    setAzElCommand request = frame request := by
  obtain ⟨⟨hazi, hazi'⟩, hele, hele'⟩ := h
  have helev : request.ele.toInt = (request.ele.toInt.toNat : Int) := by omega
  rw [setAzElCommand, toInt_offset hazi hazi', sprintfZeros_three (by omega), helev,
    sprintfZeros_three (by omega)]
  rfl

theorem length_frame (request : Position) : (frame request).length = 9 := rfl

theorem Outcome.quiet {o : Outcome} (h : o.command = none) (command : List Char) :
    ¬ o.Overruns ∧ ∀ bytes ∈ o.sent, bytes = command := by
  constructor
  · rintro ⟨c, hc, -⟩
    rw [h] at hc
    exact Option.not_mem_none c hc
  · intro bytes hb
    rw [sent, h] at hb
    exact absurd hb (Option.not_mem_none bytes)

theorem keepsFormat_of_expressible {request : Position} (h : Expressible request) (old : Position)
    (port : Port) : KeepsFormat old request port := by
  refine Or.inl ⟨h, ?_⟩
  obtain ⟨-, heq⟩ | ⟨-, -, heq⟩ | ⟨-, -, heq⟩ := serialSetAzEl_cases old request port
  · exact Outcome.quiet (congrArg Outcome.command heq) (frame request)
  · exact Outcome.quiet (congrArg Outcome.command heq) (frame request)
  · have hlen := length_frame request
    rw [heq, setAzElCommand_of_expressible h]
    constructor
    · rintro ⟨c, hc, hlong⟩
      obtain rfl := Option.some.inj hc
      rw [hlen] at hlong
      exact absurd hlong (by decide)
    · intro bytes hb
      obtain rfl := Option.some.inj hb
      exact List.take_of_length_le (le_of_eq hlen)

theorem keepsFormat_iff (old request : Position) (port : Port) :
    KeepsFormat old request port ↔ Expressible request ∨ suppresses old request ∨
      (old = request ∧ ¬ (port.opens ∧ port.interfaceSet)) := by
  by_cases h : Expressible request
  · exact iff_of_true (keepsFormat_of_expressible h old port) (Or.inl h)
  · rw [KeepsFormat, or_iff_right fun hleft => h hleft.1, or_iff_right h, and_iff_right h]
    obtain ⟨hs, heq⟩ | ⟨hs, hport, heq⟩ | ⟨hs, hport, heq⟩ := serialSetAzEl_cases old request port
    · exact iff_of_true heq (Or.inl hs)
    · rw [heq, or_iff_right hs, and_iff_left hport]
      simp [eq_comm]
    · rw [heq, or_iff_right hs]
      simp [hport]

theorem exists_setAzel (request : Position) : ∃ argv, setAzel argv = some request := by
  refine ⟨["set_azel".toList, sprintfD request.azi.toInt, sprintfD request.ele.toInt], ?_⟩
  simp [setAzel]

theorem expressible_dopplerRequest {azi eli : Int32} {request : Position}
    (h : dopplerRequest azi eli = some request) (hazi : 0 ≤ azi) (hazi' : azi ≤ 359) :
    Expressible request ↔ 0 ≤ eli := by
  unfold dopplerRequest at h
  split at h
  · exact absurd h (by simp)
  · rename_i heli
    obtain rfl := Option.some.inj h
    have heli' := Int32.le_iff_toInt_le.mp (Int32.not_lt.mp heli)
    rw [Int32.le_iff_toInt_le] at hazi hazi' ⊢
    have h0 : (0 : Int32).toInt = 0 := rfl
    have h90 : (90 : Int32).toInt = 90 := rfl
    have h359 : (359 : Int32).toInt = 359 := rfl
    simp only [Expressible]
    omega

/-- The format holds for the requests that the rotator understands, and where nothing happens: in
the dead-band, or when a port that fails leaves the remembered position the same. The console can
pass every request. Of the tracking loop those below the horizon have no command. -/
theorem rotator_format_iff (old request : Position) (port : Port) :
    (KeepsFormat old request port ↔ Expressible request ∨ suppresses old request ∨
        (old = request ∧ ¬ (port.opens ∧ port.interfaceSet))) ∧
      (∃ argv, setAzel argv = some request) ∧
      ∀ azi eli : Int32, dopplerRequest azi eli = some request → 0 ≤ azi → azi ≤ 359 →
        (Expressible request ↔ 0 ≤ eli) :=
  ⟨keepsFormat_iff old request port, exists_setAzel request, fun _ _ h hazi hazi' =>
    expressible_dopplerRequest h hazi hazi'⟩

/-- A satellite five degrees below the horizon. -/
theorem rotator_format_horizon : ¬ KeepsFormat ⟨-1, -1⟩ ⟨120, -5⟩ ⟨true, true, 9⟩ := by
  have hformat := rotator_format_iff ⟨-1, -1⟩ ⟨120, -5⟩ ⟨true, true, 9⟩
  have hnot : ¬ Expressible ⟨120, -5⟩ :=
    (hformat.2.2 120 (-5) (by decide) (by decide) (by decide)).not.mpr (by decide)
  rw [hformat.1, not_or, not_or]
  exact ⟨hnot, by decide, by decide⟩

/-- An azimuth of 1000 degrees takes four digits, and the command eleven bytes with its NUL. -/
theorem rotator_overrun :
    ¬ ∀ (old request : Position) (port : Port), KeepsFormat old request port := by
  intro h
  have hlong := (keepsFormat_iff ⟨-1, -1⟩ ⟨1000, 10⟩ ⟨true, true, 9⟩).mp (h _ _ _)
  obtain ⟨⟨-, hazi⟩, -⟩ | hs | ⟨hold, -⟩ := hlong
  · exact absurd hazi (by decide)
  · exact absurd hs (by decide)
  · exact absurd hold (by decide)

structure Call where
  request : Position
  port : Port

def Port.Works (port : Port) : Prop := port.opens ∧ port.interfaceSet ∧ port.wr = 9

instance (port : Port) : Decidable port.Works := inferInstanceAs (Decidable (_ ∧ _ ∧ _))

/-- The remembered position beside the one that the rotator last got, and whether the port failed
the last call outside the dead-band. -/
structure Aiming where
  old : Position
  written : Option Position
  missed : Bool

def startAiming : Aiming := ⟨⟨-1, -1⟩, none, false⟩

def Aiming.outcome (s : Aiming) (c : Call) : Outcome := serialSetAzEl s.old c.request c.port

def Aiming.Delivers (s : Aiming) (c : Call) : Prop :=
  (s.outcome c).taken c.port = setAzElCommand c.request

instance (s : Aiming) (c : Call) : Decidable (s.Delivers c) :=
  inferInstanceAs (Decidable (_ = _))

def Aiming.step (s : Aiming) (c : Call) : Aiming where
  old := (s.outcome c).old
  written := if s.Delivers c then some c.request else s.written
  missed := if suppresses s.old c.request then s.missed else ¬ c.port.Works

def Near (p q : Position) : Prop :=
  |p.azi.toInt - q.azi.toInt| < minAngleThreshold.toInt ∧
    |p.ele.toInt - q.ele.toInt| < minAngleThreshold.toInt

/-- After a call the rotator is near the request, which the call reports, or the call reports a
failure; and the dead-band is that of a position which the rotator got. -/
def Aiming.Honest (s : Aiming) (c : Call) : Prop :=
  (((s.outcome c).ret = 1 ∧ ∃ p ∈ (s.step c).written, Near p c.request) ∨
    (s.outcome c).ret = 0) ∧
    (suppresses s.old c.request → s.written = some s.old)

def Fits (request : Position) : Prop :=
  (-99 ≤ (request.azi + azimmuthAngleOffset).toInt ∧
    (request.azi + azimmuthAngleOffset).toInt ≤ 999) ∧
    -99 ≤ request.ele.toInt ∧ request.ele.toInt ≤ 999

/-- The port did not fail the call whose dead-band a request falls into, and a call that gets to
`write` has a command for the buffer, all of which `write` takes. -/
def Aiming.Obeys (s : Aiming) (c : Call) : Prop :=
  (suppresses s.old c.request → ¬ s.missed) ∧
    (¬ suppresses s.old c.request → c.port.opens ∧ c.port.interfaceSet →
      Fits c.request ∧ c.port.wr = 9)

instance (request : Position) : Decidable (Fits request) :=
  inferInstanceAs (Decidable ((_ ∧ _) ∧ _ ∧ _))

instance (s : Aiming) (c : Call) : Decidable (s.Obeys c) :=
  inferInstanceAs (Decidable ((_ → _) ∧ (_ → _ → _)))

theorem length_sprintfZeros_three {n : Int} (h : -99 ≤ n) (h' : n ≤ 999) :
    (sprintfZeros 3 n).length = 3 := by
  cases n with
  | ofNat n =>
      have hn : (n : Int) ≤ 999 := h'
      exact length_leftpad_toDigits (by decide) (by omega) '0'
  | negSucc n =>
      have hlen := length_leftpad_toDigits (show 0 < 2 by decide) (n := n + 1) (by omega) '0'
      rw [sprintfZeros, List.length_cons, hlen]

theorem length_setAzElCommand {request : Position} (h : Fits request) :
    (setAzElCommand request).length = 9 := by
  simp only [setAzElCommand, List.length_cons, List.length_append, List.length_nil,
    length_sprintfZeros_three h.1.1 h.1.2, length_sprintfZeros_three h.2.1 h.2.2]

/-- The position of a call that the port did not fail was written, but for the one at the
start. -/
def Aiming.Known (s : Aiming) : Prop :=
  s.missed = false → s.old.azi < 0 ∨ s.written = some s.old

theorem near_self (p : Position) : Near p p := by
  rw [Near, sub_self, sub_self, abs_zero]
  decide

theorem Aiming.not_delivers {s : Aiming} {c : Call} (h : (s.outcome c).command = none) :
    ¬ s.Delivers c := by
  rw [Delivers, Outcome.taken, Outcome.sent, h]
  simp [setAzElCommand]

theorem Aiming.delivers {s : Aiming} {c : Call}
    (h : (s.outcome c).command = some (setAzElCommand c.request)) (hfits : Fits c.request)
    (hwr : c.port.wr = 9) : s.Delivers c := by
  have hlen := length_setAzElCommand hfits
  rw [Delivers, Outcome.taken, Outcome.sent, h, hwr, Option.map_some, Option.getD_some,
    List.take_take]
  exact List.take_of_length_le (le_of_eq hlen)

/-- One call keeps what is known of the remembered position, and is honest. -/
theorem Aiming.known_step {s : Aiming} {c : Call} (hs : s.Known) (hc : s.Obeys c) :
    (s.step c).Known ∧ s.Honest c := by
  obtain ⟨hband, heq⟩ | ⟨hband, hport, heq⟩ | ⟨hband, hport, heq⟩ :=
    serialSetAzEl_cases s.old c.request c.port
  · have hnot : ¬ s.Delivers c := not_delivers (congrArg Outcome.command heq)
    have hstep : s.step c = s := by
      rw [step, if_neg hnot, if_pos hband, outcome, heq]
    refine ⟨?_, Or.inr (congrArg Outcome.ret heq), fun _ => ?_⟩
    · rwa [hstep]
    obtain hneg | hwritten := hs (Bool.eq_false_iff.mpr (hc.1 hband))
    · simp [suppresses, hneg] at hband
    · exact hwritten
  · have hnot : ¬ s.Delivers c := not_delivers (congrArg Outcome.command heq)
    refine ⟨fun hmissed => ?_, Or.inr (congrArg Outcome.ret heq), fun h => absurd h hband⟩
    have hworks : ¬ c.port.Works := fun h => hport ⟨h.1, h.2.1⟩
    rw [step, if_neg hband] at hmissed
    simp [hworks] at hmissed
  · obtain ⟨hfits, hwr⟩ := hc.2 hband hport
    have hdelivers : s.Delivers c := delivers (congrArg Outcome.command heq) hfits hwr
    have hwritten : (s.step c).written = some c.request := if_pos hdelivers
    have hold : (s.step c).old = c.request := congrArg Outcome.old heq
    refine ⟨fun _ => Or.inr (hwritten.trans (congrArg some hold.symm)), Or.inl ⟨?_, ?_⟩,
      fun h => absurd h hband⟩
    · exact congrArg Outcome.ret heq
    · exact ⟨c.request, hwritten, near_self c.request⟩

theorem Aiming.known_run {calls : List Call} {s : Aiming} (hs : s.Known)
    (h : Along step Obeys s calls) : (calls.foldl step s).Known := by
  induction calls generalizing s with
  | nil => exact hs
  | cons c calls ih => exact ih (known_step hs h.1).1 h.2

theorem known_startAiming : startAiming.Known := fun _ => Or.inl (by decide)

/-- Every call of a run is honest, if `write` takes the command of each call that gets to it, and
none falls into the dead-band of a call that the port failed. -/
theorem rotator_honest (calls : List Call)
    (h : Along Aiming.step Aiming.Obeys startAiming calls) (pre : List Call) (c : Call)
    (post : List Call) (hsplit : calls = pre ++ c :: post) :
    (pre.foldl Aiming.step startAiming).Honest c := by
  rw [hsplit, along_append] at h
  exact (Aiming.known_step (Aiming.known_run known_startAiming h.1) h.2.1).2

/-- A position written, one missed because the port does not open, and one far from both. -/
theorem rotator_honest_far :
    (([⟨⟨10, 10⟩, ⟨true, true, 9⟩⟩, ⟨⟨40, 10⟩, ⟨false, true, 9⟩⟩].foldl Aiming.step
      startAiming).Honest ⟨⟨80, 10⟩, ⟨true, true, 9⟩⟩) :=
  rotator_honest
    [⟨⟨10, 10⟩, ⟨true, true, 9⟩⟩, ⟨⟨40, 10⟩, ⟨false, true, 9⟩⟩, ⟨⟨80, 10⟩, ⟨true, true, 9⟩⟩]
    ⟨by decide +kernel, by decide +kernel, by decide +kernel, trivial⟩ _ _ [] rfl

/-- A request whose port does not open is remembered, and suppresses the next one. -/
theorem rotator_missed : ¬ ∀ (calls pre : List Call) (c : Call) (post : List Call),
    calls = pre ++ c :: post → (pre.foldl Aiming.step startAiming).Honest c := by
  intro h
  have hband := (h _ [⟨⟨10, 10⟩, ⟨false, true, 9⟩⟩] ⟨⟨10, 10⟩, ⟨true, true, 9⟩⟩ [] rfl).2
  exact absurd (hband (by decide +kernel)) (by decide +kernel)

end UhfGs.Station
