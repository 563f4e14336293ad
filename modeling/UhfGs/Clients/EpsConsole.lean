import UhfGs.Clients.ConfigGet
import UhfGs.Library.Runs

/-! The console commands that get, edit and set the second and third configuration of the power
supply, and what they send to the satellite. -/
namespace UhfGs.Clients
open Csp Bytes Packed Runs

/-- The console prints a warning where one of these fails, and carries on. -/
def EpsConfig2.Safe (c : EpsConfig2) : Prop :=
  c.battNormalvoltage < c.battMaxvoltage ∧ c.battSafevoltage < c.battNormalvoltage ∧
    c.battCriticalvoltage < c.battSafevoltage

def EpsConfig3.Safe (c : EpsConfig3) : Prop :=
  (∀ w ∈ c.curLim, w ≤ 2500) ∧ 10 ≤ c.curEmaGain ∧ c.curEmaGain ≤ 90

instance (c : EpsConfig2) : Decidable c.Safe := by
  unfold EpsConfig2.Safe
  infer_instance

abbrev Typed := Option UInt32

/- A field keeps its value where no number was read; a number is cut to the field. -/
def editValue16 (typed : Typed) (value : UInt16) : UInt16 := (typed.map UInt32.toUInt16).getD value

def editValue8 (typed : Typed) (value : UInt8) : UInt8 := (typed.map UInt32.toUInt8).getD value

structure Prompts2 where
  (max normal safe critical : Typed)
  deriving DecidableEq, Repr

structure Prompts3 where
  curLim : Vector Typed 8
  curEmaGain : Typed
  (cspwdtChannel cspwdtAddress : Vector Typed 2)
  deriving DecidableEq, Repr

inductive Woops where
  | maxVolt
  | normalVolt
  | safeVolt
  | curLim (i : Fin 8)
  | emaGain
  deriving DecidableEq, Repr

def EpsConfig2.edit (c : EpsConfig2) (typed : Prompts2) : EpsConfig2 :=
  { c with
    battMaxvoltage := editValue16 typed.max c.battMaxvoltage
    battNormalvoltage := editValue16 typed.normal c.battNormalvoltage
    battSafevoltage := editValue16 typed.safe c.battSafevoltage
    battCriticalvoltage := editValue16 typed.critical c.battCriticalvoltage }

/-- The warnings at the end of `cmd_eps_config2_edit`. -/
def EpsConfig2.woops (c : EpsConfig2) : List Woops :=
  (if c.battMaxvoltage ≤ c.battNormalvoltage then [.maxVolt] else []) ++
    (if c.battNormalvoltage ≤ c.battSafevoltage then [.normalVolt] else []) ++
    if c.battSafevoltage ≤ c.battCriticalvoltage then [.safeVolt] else []

def EpsConfig3.edit (c : EpsConfig3) (typed : Prompts3) : EpsConfig3 :=
  { c with
    curLim := Vector.zipWith editValue16 typed.curLim c.curLim
    curEmaGain := editValue8 typed.curEmaGain c.curEmaGain
    cspwdtChannel := Vector.zipWith editValue8 typed.cspwdtChannel c.cspwdtChannel
    cspwdtAddress := Vector.zipWith editValue8 typed.cspwdtAddress c.cspwdtAddress }

/-- The warnings at the end of `cmd_eps_config3_edit`. -/
def EpsConfig3.woops (c : EpsConfig3) : List Woops :=
  ((List.finRange 8).filter fun i : Fin 8 => 2500 < c.curLim[i]).map .curLim ++
    if c.curEmaGain < 10 ∨ 90 < c.curEmaGain then [.emaGain] else []

theorem EpsConfig2.woops_eq_nil_iff (c : EpsConfig2) : c.woops = [] ↔ c.Safe := by
  simp only [woops, Safe, List.append_eq_nil_iff, ite_eq_right_iff, List.cons_ne_nil, imp_false,
    UInt16.not_le, and_assoc]

theorem EpsConfig3.woops_eq_nil_iff (c : EpsConfig3) : c.woops = [] ↔ c.Safe := by
  have hlim : (∀ i : Fin 8, c.curLim[i] ≤ 2500) ↔ ∀ w ∈ c.curLim, w ≤ 2500 := by
    constructor
    · intro h w hw
      obtain ⟨i, hi, rfl⟩ := Vector.mem_iff_getElem.mp hw
      exact h ⟨i, hi⟩
    · intro h i
      exact h _ (Vector.getElem_mem i.isLt)
  simp only [woops, Safe, List.append_eq_nil_iff, List.map_eq_nil_iff, List.filter_eq_nil_iff,
    List.mem_finRange, decide_eq_true_eq, UInt16.not_lt, forall_const, ite_eq_right_iff,
    List.cons_ne_nil, imp_false, not_or, UInt8.not_lt, hlim]

theorem EpsConfig2.store_convert (e : Endian) (c : EpsConfig2) :
    packed.store e (c.convert (cspHton16 e)) =
      packed.store .big { c with reserved1 := c.reserved1.map (cspHton32Word e) } := by
  simp only [packed, Fields.packed, Fields.field, Fields.start, convert, store_cspHton16,
    store_bytes e, array_store_map u32 fun w => (store_u32 e w).symm]

theorem EpsConfig2.safe_sent (e : Endian) (c : EpsConfig2) :
    (packed.load .big (packed.store e (c.convert (cspHton16 e)))).Safe ↔ c.Safe := by
  rw [store_convert, packed.load_store_self]
  rfl

theorem EpsConfig3.safe_sent (e : Endian) (c : EpsConfig3) :
    (packed.load .big (packed.store e (c.convert (cspHton16 e)))).Safe ↔ c.Safe := by
  have hstore : packed.store e (c.convert (cspHton16 e)) = packed.store .big c := by
    simp only [packed, Fields.packed, Fields.field, Fields.start, convert, store_u8 e,
      store_bytes e, array_store_map u16 (store_cspHton16 e)]
  rw [hstore, packed.load_store_self]

theorem EpsConfig2.safe_received (e : Endian) {data : List UInt8} (h : data.length = packed.size) :
    ((packed.load e data).convert (cspNtoh16 e)).Safe ↔ (packed.load .big data).Safe := by
  have hsize : packed.size = 20 := rfl
  have hword (i : Nat) (hi : i + 2 ≤ 20) :
      cspNtoh16 e (u16.load e (data.drop i)) = u16.load .big (data.drop i) :=
    cspNtoh16_load_drop e (by rw [h]; exact hi)
  change (cspNtoh16 e (u16.load e (data.drop 6)) < cspNtoh16 e (u16.load e (data.drop 0)) ∧
    cspNtoh16 e (u16.load e (data.drop 2)) < cspNtoh16 e (u16.load e (data.drop 6)) ∧
    cspNtoh16 e (u16.load e (data.drop 4)) < cspNtoh16 e (u16.load e (data.drop 2))) ↔ _
  rw [hword 0 (by decide), hword 2 (by decide), hword 4 (by decide), hword 6 (by decide)]
  rfl

theorem EpsConfig3.safe_received (e : Endian) {data : List UInt8} (h : data.length = packed.size) :
    ((packed.load e data).convert (cspNtoh16 e)).Safe ↔ (packed.load .big data).Safe := by
  have hsize : packed.size = 25 := rfl
  have hlim : ((u16.array 8).load e (data.drop 4)).map (cspNtoh16 e) =
      (u16.array 8).load .big (data.drop 4) := by
    refine array_load_map u16 fun i hi => cspNtoh16_load e ?_
    change 2 ≤ ((data.drop 4).drop (i * 2)).length
    simp only [List.length_drop]
    omega
  have hgain : u8.load e (data.drop 20) = u8.load .big (data.drop 20) := load_u8 e _
  change ((∀ w ∈ ((u16.array 8).load e (data.drop 4)).map (cspNtoh16 e), w ≤ 2500) ∧
    10 ≤ u8.load e (data.drop 20) ∧ u8.load e (data.drop 20) ≤ 90) ↔ _
  rw [hlim, hgain]
  rfl

structure EpsConsole where
  config2 : EpsConfig2
  conf2Valid : Bool
  config3 : EpsConfig3
  conf3Valid : Bool

def EpsConsole.start : EpsConsole := ⟨default, false, default, false⟩

inductive EpsCommand where
  | config2Get (link : Link)
  | config2Edit (typed : Prompts2)
  | config2Set (link : Link)
  | config3Get (link : Link)
  | config3Edit (typed : Prompts3)
  | config3Set (link : Link)

structure EpsReport where
  code : Int
  woops : List Woops
  transmitted : Option (List UInt8)

namespace EpsConsole
variable (peers : Peers) (e : Endian) (s : EpsConsole)

def cmdEpsConfig2Get (link : Link) : EpsConsole × EpsReport :=
  let (status, config2) := epsConfig2Get peers e link s.config2
  if 0 < status then ({ s with config2, conf2Valid := true }, ⟨0, [], none⟩)
  else ({ s with config2 }, ⟨-1, [], none⟩)

/-- The record that is sent is the one edited, not the copy made of it. -/
def cmdEpsConfig2Set (link : Link) : EpsConsole × EpsReport :=
  if ¬ s.conf2Valid then (s, ⟨-1, [], none⟩)
  else
    let u := epsConfig2Set peers e link s.config2
    ({ s with config2 := u.record },
      ⟨if u.exchange.status < 0 then -1 else 0, [], u.exchange.transmitted⟩)

def cmdEpsConfig2Edit (typed : Prompts2) : EpsConsole × EpsReport :=
  let config2 := s.config2.edit typed
  ({ s with config2, conf2Valid := true }, ⟨0, config2.woops, none⟩)

def cmdEpsConfig3Get (link : Link) : EpsConsole × EpsReport :=
  let (status, config3) := epsConfig3Get peers e link s.config3
  if 0 < status then ({ s with config3, conf3Valid := true }, ⟨0, [], none⟩)
  else ({ s with config3 }, ⟨-1, [], none⟩)

def cmdEpsConfig3Set (link : Link) : EpsConsole × EpsReport :=
  if ¬ s.conf3Valid then (s, ⟨-1, [], none⟩)
  else
    let u := epsConfig3Set peers e link s.config3
    ({ s with config3 := u.record },
      ⟨if u.exchange.status < 0 then -1 else 0, [], u.exchange.transmitted⟩)

def cmdEpsConfig3Edit (typed : Prompts3) : EpsConsole × EpsReport :=
  let config3 := s.config3.edit typed
  ({ s with config3, conf3Valid := true }, ⟨0, config3.woops, none⟩)

def command : EpsCommand → EpsConsole × EpsReport
  | .config2Get link => s.cmdEpsConfig2Get peers e link
  | .config2Edit typed => s.cmdEpsConfig2Edit typed
  | .config2Set link => s.cmdEpsConfig2Set peers e link
  | .config3Get link => s.cmdEpsConfig3Get peers e link
  | .config3Edit typed => s.cmdEpsConfig3Edit typed
  | .config3Set link => s.cmdEpsConfig3Set peers e link

def step (c : EpsCommand) : EpsConsole := (s.command peers e c).1

def run (cs : List EpsCommand) : EpsConsole := cs.foldl (step peers e) start

end EpsConsole

namespace EpsCommand

/- A completed edit and a successful get put a record in place. -/
def Enters2 : EpsCommand → Prop
  | .config2Get link => link.Succeeds EpsConfig2.packed.size
  | .config2Edit _ => True
  | _ => False

def Enters3 : EpsCommand → Prop
  | .config3Get link => link.Succeeds EpsConfig3.packed.size
  | .config3Edit _ => True
  | _ => False

/- The values of that record: those received, or those typed and kept. -/
def Leaves2 (s : EpsConsole) : EpsCommand → Prop
  | .config2Get link => ∀ data, link.reply = some data → (EpsConfig2.packed.load .big data).Safe
  | .config2Edit typed => (s.config2.edit typed).Safe
  | _ => True

def Leaves3 (s : EpsConsole) : EpsCommand → Prop
  | .config3Get link => ∀ data, link.reply = some data → (EpsConfig3.packed.load .big data).Safe
  | .config3Edit typed => (s.config3.edit typed).Safe
  | _ => True

/- A set command whose request goes out, if there is one. -/
def Sends2 : EpsCommand → Prop
  | .config2Set link => link.Sends
  | _ => False

def Sends3 : EpsCommand → Prop
  | .config3Set link => link.Sends
  | _ => False

end EpsCommand

section Get
variable {peers : Peers} {e : Endian} {link : Link}

theorem epsConfig2Get_answered {data : List UInt8} (hs : link.Sends) (hr : link.reply = some data)
    (hl : data.length = EpsConfig2.packed.size) (config2 : EpsConfig2) :
    epsConfig2Get peers e link config2 =
      (20, (EpsConfig2.packed.load e data).convert (cspNtoh16 e)) := by
  have hx := cspTransaction_of_answer
    ⟨1, peers.epsNode, 22, peers.epsTimeout, [], EpsConfig2.packed.size⟩ hs
    (show (EpsConfig2.packed.size : Int) ≠ 0 by decide) hr (.inr (by rw [hl]))
  have hlen : (data.length : Int) = 20 := by
    rw [hl]
    rfl
  rw [hlen] at hx
  simp only [epsConfig2Get, hx, Exchange.into, show (0 : Int) < 20 by decide, if_true]

theorem epsConfig3Get_answered {data : List UInt8} (hs : link.Sends) (hr : link.reply = some data)
    (hl : data.length = EpsConfig3.packed.size) (config3 : EpsConfig3) :
    epsConfig3Get peers e link config3 =
      (25, (EpsConfig3.packed.load e data).convert (cspNtoh16 e)) := by
  have hx := cspTransaction_of_answer
    ⟨1, peers.epsNode, 25, peers.epsTimeout,
      (EpsConfig3.packed.store e (config3.withHeader 3)).take 4, EpsConfig3.packed.size⟩ hs
    (show (EpsConfig3.packed.size : Int) ≠ 0 by decide) hr (.inr (by rw [hl]))
  have hlen : (data.length : Int) = 25 := by
    rw [hl]
    rfl
  rw [hlen] at hx
  simp only [epsConfig3Get, hx, Exchange.into, show (0 : Int) < 25 by decide, if_true]

theorem epsConfig3Get_failed (h : ¬ link.Succeeds EpsConfig3.packed.size) (config3 : EpsConfig3) :
    epsConfig3Get peers e link config3 = (-1, config3.withHeader 3) := by
  simp only [epsConfig3Get, status_failed h, lt_irrefl, if_false, into_failed h]

theorem exists_answer {n : Nat} (hn : 0 < n) (h : link.Succeeds n) :
    ∃ data, link.reply = some data ∧ data.length = n := by
  obtain ⟨-, h0 | ⟨data, hr, hl⟩⟩ := h
  · omega
  · exact ⟨data, hr, by omega⟩

end Get

namespace EpsConsole
variable (peers : Peers) (e : Endian)

section
variable {link : Link} (s : EpsConsole)

theorem step_config2Get_answered (h : link.Succeeds 20) :
    ∃ data, link.reply = some data ∧ data.length = 20 ∧
      step peers e s (.config2Get link) =
        { s with
          config2 := (EpsConfig2.packed.load e data).convert (cspNtoh16 e)
          conf2Valid := true } := by
  obtain ⟨data, hr, hl⟩ := exists_answer (by decide) h
  refine ⟨data, hr, hl, ?_⟩
  simp only [step, command, cmdEpsConfig2Get, epsConfig2Get_answered h.1 hr hl,
    show (0 : Int) < 20 by decide, if_true]

theorem step_config3Get_answered (h : link.Succeeds 25) :
    ∃ data, link.reply = some data ∧ data.length = 25 ∧
      step peers e s (.config3Get link) =
        { s with
          config3 := (EpsConfig3.packed.load e data).convert (cspNtoh16 e)
          conf3Valid := true } := by
  obtain ⟨data, hr, hl⟩ := exists_answer (by decide) h
  refine ⟨data, hr, hl, ?_⟩
  simp only [step, command, cmdEpsConfig3Get, epsConfig3Get_answered h.1 hr hl,
    show (0 : Int) < 25 by decide, if_true]

theorem step_config2Get_failed (h : ¬ link.Succeeds 20) :
    step peers e s (.config2Get link) = s := by
  simp only [step, command, cmdEpsConfig2Get, epsConfig2Get_failed h,
    show ¬ (0 : Int) < -1 by decide, if_false]

theorem step_config3Get_failed (h : ¬ link.Succeeds 25) :
    step peers e s (.config3Get link) = { s with config3 := s.config3.withHeader 3 } := by
  simp only [step, command, cmdEpsConfig3Get, epsConfig3Get_failed h,
    show ¬ (0 : Int) < -1 by decide, if_false]

end

theorem slot2 : Slot (step peers e) EpsCommand.Enters2 (·.conf2Valid = true) (·.config2.Safe)
    EpsCommand.Leaves2 where
  enter s c hc := by
    cases c with
    | config2Get link =>
        obtain ⟨data, hr, hl, hstep⟩ := step_config2Get_answered peers e s hc
        rw [hstep, EpsConfig2.safe_received e hl]
        simp [EpsCommand.Leaves2, hr]
    | config2Edit typed => exact ⟨rfl, Iff.rfl⟩
    | config2Set link => exact hc.elim
    | config3Get link => exact hc.elim
    | config3Edit typed => exact hc.elim
    | config3Set link => exact hc.elim
  keep s c hc := by
    cases c with
    | config2Get link =>
        rw [step_config2Get_failed peers e s hc]
        exact ⟨Iff.rfl, Iff.rfl⟩
    | config2Edit typed => exact absurd trivial hc
    | config2Set link =>
        simp only [step, command, cmdEpsConfig2Set]
        split <;> exact ⟨Iff.rfl, Iff.rfl⟩
    | config3Get link =>
        simp only [step, command, cmdEpsConfig3Get]
        split <;> exact ⟨Iff.rfl, Iff.rfl⟩
    | config3Edit typed => exact ⟨Iff.rfl, Iff.rfl⟩
    | config3Set link =>
        simp only [step, command, cmdEpsConfig3Set]
        split <;> exact ⟨Iff.rfl, Iff.rfl⟩

theorem slot3 : Slot (step peers e) EpsCommand.Enters3 (·.conf3Valid = true) (·.config3.Safe)
    EpsCommand.Leaves3 where
  enter s c hc := by
    cases c with
    | config3Get link =>
        obtain ⟨data, hr, hl, hstep⟩ := step_config3Get_answered peers e s hc
        rw [hstep, EpsConfig3.safe_received e hl]
        simp [EpsCommand.Leaves3, hr]
    | config3Edit typed => exact ⟨rfl, Iff.rfl⟩
    | config3Set link => exact hc.elim
    | config2Get link => exact hc.elim
    | config2Edit typed => exact hc.elim
    | config2Set link => exact hc.elim
  keep s c hc := by
    cases c with
    | config3Get link =>
        rw [step_config3Get_failed peers e s hc]
        exact ⟨Iff.rfl, Iff.rfl⟩
    | config3Edit typed => exact absurd trivial hc
    | config3Set link =>
        simp only [step, command, cmdEpsConfig3Set]
        split <;> exact ⟨Iff.rfl, Iff.rfl⟩
    | config2Get link =>
        simp only [step, command, cmdEpsConfig2Get]
        split <;> exact ⟨Iff.rfl, Iff.rfl⟩
    | config2Edit typed => exact ⟨Iff.rfl, Iff.rfl⟩
    | config2Set link =>
        simp only [step, command, cmdEpsConfig2Set]
        split <;> exact ⟨Iff.rfl, Iff.rfl⟩

/- What a set command transmits of either record. -/
def sent2 (s : EpsConsole) : EpsCommand → Option (List UInt8)
  | .config2Set link => (s.cmdEpsConfig2Set peers e link).2.transmitted
  | _ => none

def sent3 (s : EpsConsole) : EpsCommand → Option (List UInt8)
  | .config3Set link => (s.cmdEpsConfig3Set peers e link).2.transmitted
  | _ => none

theorem sent2_eq_some_iff (s : EpsConsole) (c : EpsCommand) (bytes : List UInt8) :
    s.sent2 peers e c = some bytes ↔ c.Sends2 ∧ s.conf2Valid = true ∧
      EpsConfig2.packed.store e (s.config2.convert (cspHton16 e)) = bytes := by
  cases c with
  | config2Set link =>
      cases hv : s.conf2Valid with
      | false => simp [sent2, cmdEpsConfig2Set, hv]
      | true =>
          simp only [sent2, cmdEpsConfig2Set, hv, not_true, if_false, EpsCommand.Sends2, true_and,
            epsConfig2Set, upload]
          by_cases hs : link.Sends
          · simp only [transmitted_of_sends _ hs, Option.some.injEq, hs, true_and]
          · simp [cspTransaction_of_not_sends _ hs, hs]
  | _ => simp [sent2, EpsCommand.Sends2]

theorem sent3_eq_some_iff (s : EpsConsole) (c : EpsCommand) (bytes : List UInt8) :
    s.sent3 peers e c = some bytes ↔ c.Sends3 ∧ s.conf3Valid = true ∧
      EpsConfig3.packed.store e ((s.config3.withHeader 4).convert (cspHton16 e)) = bytes := by
  cases c with
  | config3Set link =>
      cases hv : s.conf3Valid with
      | false => simp [sent3, cmdEpsConfig3Set, hv]
      | true =>
          simp only [sent3, cmdEpsConfig3Set, hv, not_true, if_false, EpsCommand.Sends3, true_and,
            epsConfig3Set, upload]
          by_cases hs : link.Sends
          · simp only [transmitted_of_sends _ hs, Option.some.injEq, hs, true_and]
          · simp [cspTransaction_of_not_sends _ hs, hs]
  | _ => simp [sent3, EpsCommand.Sends3]

/-- Every record that goes out in the run is safe, and was put in place before. -/
def TransmitsSafely (cs : List EpsCommand) : Prop :=
  ∀ pre c post, cs = pre ++ c :: post → ∀ bytes,
    ((run peers e pre).sent2 peers e c = some bytes →
      (EpsConfig2.packed.load .big bytes).Safe ∧ ∃ entry ∈ pre, entry.Enters2) ∧
    ((run peers e pre).sent3 peers e c = some bytes →
      (EpsConfig3.packed.load .big bytes).Safe ∧ ∃ entry ∈ pre, entry.Enters3)

/-- Every get and edit that is the last one before a set goes out leaves safe values. -/
def EntersSafely (cs : List EpsCommand) : Prop :=
  ∀ pre entry mid c post, cs = pre ++ entry :: mid ++ c :: post →
    (entry.Enters2 → (∀ i ∈ mid, ¬ i.Enters2) → c.Sends2 → entry.Leaves2 (run peers e pre)) ∧
    (entry.Enters3 → (∀ i ∈ mid, ¬ i.Enters3) → c.Sends3 → entry.Leaves3 (run peers e pre))

/-- In any run, unsafe values reach the satellite exactly if a get or an edit left them for the
next set. -/
theorem transmitsSafely_iff (cs : List EpsCommand) :
    TransmitsSafely peers e cs ↔ EntersSafely peers e cs := by
  have h2 := (slot2 peers e).taken_iff (fun bytes => (EpsConfig2.packed.load .big bytes).Safe)
    (sent2_eq_some_iff peers e) (fun s => EpsConfig2.safe_sent e s.config2)
    (s := start) (by decide) cs
  have h3 := (slot3 peers e).taken_iff (fun bytes => (EpsConfig3.packed.load .big bytes).Safe)
    (sent3_eq_some_iff peers e) (fun s => EpsConfig3.safe_sent e (s.config3.withHeader 4))
    (s := start) (by decide) cs
  constructor
  · intro h pre entry mid c post heq
    exact ⟨h2.mp (fun pre c post heq bytes => (h pre c post heq bytes).1) pre entry mid c post heq,
      h3.mp (fun pre c post heq bytes => (h pre c post heq bytes).2) pre entry mid c post heq⟩
  · intro h pre c post heq bytes
    exact ⟨h2.mpr (fun pre entry mid c post heq => (h pre entry mid c post heq).1) pre c post heq
        bytes,
      h3.mpr (fun pre entry mid c post heq => (h pre entry mid c post heq).2) pre c post heq bytes⟩

/-- Four voltages in the wrong order: typed, warned of, sent. -/
theorem transmits_unsafe :
    ¬ TransmitsSafely default .little
      [.config2Edit ⟨some 7000, some 7400, some 7200, some 6800⟩,
        .config2Set ⟨true, some fun _ => 0, true, none⟩] := by
  intro h
  obtain ⟨hsafe, -⟩ := (h [.config2Edit ⟨some 7000, some 7400, some 7200, some 6800⟩]
    (.config2Set ⟨true, some fun _ => 0, true, none⟩) [] rfl _).1 rfl
  revert hsafe
  decide

end EpsConsole

end UhfGs.Clients
