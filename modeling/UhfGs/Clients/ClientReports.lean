import UhfGs.Clients.EpsConsole

/-! What the console tells of a camera, power supply or interstage command, and what of that it
took from a reply. -/
namespace UhfGs.Clients
open Csp Bytes Packed

/- `cam_store_t`. -/
structure CamStore where
  (format scale : UInt8)
  reserved : Vector UInt8 2
  flags : UInt32
  filename : Vector UInt8 40
  deriving DecidableEq, Repr, Inhabited

def CamStore.packed : Packed CamStore :=
  Fields.packed
    (Fields.start mk
      |>.field u8 format |>.field u8 scale |>.field (u8.array 2) reserved |>.field u32 flags
      |>.field (u8.array 40) filename)
    fun _ => rfl

/- `cam_store_reply_t`. -/
structure CamStoreReply where
  result : UInt8
  reserved : Vector UInt8 3
  (imagePtr imageSize : UInt32)
  deriving DecidableEq, Repr, Inhabited

def CamStoreReply.packed : Packed CamStoreReply :=
  Fields.packed
    (Fields.start mk
      |>.field u8 result |>.field (u8.array 3) reserved |>.field u32 imagePtr
      |>.field u32 imageSize)
    fun _ => rfl

/- `cam_reg_t`. -/
structure CamReg where
  (result regAddr : UInt8)
  regValue : UInt16
  deriving DecidableEq, Repr, Inhabited

def CamReg.packed : Packed CamReg :=
  Fields.packed (Fields.start mk |>.field u8 result |>.field u8 regAddr |>.field u16 regValue)
    fun _ => rfl

/- `cam_list_flush_t` and `cam_recoverfs_t`. -/
structure CamMagic where
  (flags magic : UInt32)
  deriving DecidableEq, Repr, Inhabited

def CamMagic.packed : Packed CamMagic :=
  Fields.packed (Fields.start mk |>.field u32 flags |>.field u32 magic) fun _ => rfl

/- `cam_list_flush_reply_t` and `cam_recoverfs_reply_t`. -/
structure CamResult where
  result : UInt8
  reserved : Vector UInt8 3
  deriving DecidableEq, Repr, Inhabited

def CamResult.packed : Packed CamResult :=
  Fields.packed (Fields.start mk |>.field u8 result |>.field (u8.array 3) reserved) fun _ => rfl

/- `cam_focus_t`. -/
structure CamFocus where
  algorithm : UInt8
  reserved : Vector UInt8 3
  deriving DecidableEq, Repr, Inhabited

def CamFocus.packed : Packed CamFocus :=
  Fields.packed (Fields.start mk |>.field u8 algorithm |>.field (u8.array 3) reserved) fun _ => rfl

/- `cam_focus_reply_t`. -/
structure CamFocusReply where
  result : UInt8
  reserved : Vector UInt8 3
  focus : UInt32
  deriving DecidableEq, Repr, Inhabited

def CamFocusReply.packed : Packed CamFocusReply :=
  Fields.packed
    (Fields.start mk |>.field u8 result |>.field (u8.array 3) reserved |>.field u32 focus)
    fun _ => rfl

structure Camera where
  (nodeCam camFormat : UInt8)
  camTimeout : UInt32
  deriving Inhabited

/-- A number, and whether it was read from the memory for a reply. -/
structure Datum where
  value : Int
  fromReply : Bool
  deriving DecidableEq, Repr

def Datum.own (value : Int) : Datum := ⟨value, false⟩

def Datum.taken (value : Int) : Datum := ⟨value, true⟩

/- A value of `csp_transaction` in an `unsigned int`, and back in an `int`. -/
def toUnsigned (status : Int) : UInt32 := UInt32.ofInt status

def toSigned (status : UInt32) : Int := status.toInt32.toInt

section Nanocam
variable (cam : Camera) (e : Endian) (link : Link)

def nanocamStore (store : CamStore) (reply : CamStoreReply) (timeout : UInt32) :
    Datum × CamStoreReply :=
  let store :=
    { store with
      flags := cspHton32Word e store.flags
      filename := store.filename.set 39 0
      reserved := #v[0, 0] }
  let x := cspTransaction link
    ⟨2, cam.nodeCam, 21, timeout, CamStore.packed.store e store, CamStoreReply.packed.size⟩
  let reply := x.into CamStoreReply.packed e reply
  let status := toUnsigned x.status
  if status ≠ UInt32.ofNat CamStoreReply.packed.size then
    (.own (toSigned status), reply)
  else
    (.own 0,
      { reply with
        imagePtr := cspNtoh32Word e reply.imagePtr
        imageSize := cspNtoh32Word e reply.imageSize })

/-- `request` and `reply` are on the stack; `value` is the caller's. -/
def nanocamRegRead (request reply : CamReg) (reg : UInt8) (value : Datum) (timeout : UInt32) :
    Datum × Datum :=
  let request := { request with regAddr := reg }
  let x := cspTransaction link
    ⟨1, cam.nodeCam, 24, timeout, CamReg.packed.store e request, CamReg.packed.size⟩
  let reply := x.into CamReg.packed e reply
  if x.status < 0 then (.own (-2), value)
  else (.own 0, .taken (cspNtoh16 e reply.regValue).toNat)

def nanocamRegWrite (request reply : CamReg) (reg : UInt8) (value : UInt16) (timeout : UInt32) :
    Datum :=
  let request := { request with regAddr := reg, regValue := cspHton16 e value }
  let x := cspTransaction link
    ⟨1, cam.nodeCam, 25, timeout, CamReg.packed.store e request, CamReg.packed.size⟩
  let reply := x.into CamReg.packed e reply
  if x.status < 0 then .own (-2) else .taken reply.result.toNat

/-- `nanocam_img_list_flush` and `nanocam_recoverfs`, which differ in port and magic number. -/
def nanocamMagic (port : UInt8) (magic : UInt32) (reply : CamResult) (timeout : UInt32) :
    Datum :=
  let request : CamMagic := ⟨cspHton32Word e 0, cspHton32Word e magic⟩
  let x := cspTransaction link
    ⟨2, cam.nodeCam, port, timeout, CamMagic.packed.store e request, CamResult.packed.size⟩
  let reply := x.into CamResult.packed e reply
  let status := toUnsigned x.status
  if status < UInt32.ofNat CamResult.packed.size then .own (toSigned status)
  else .taken reply.result.toNat

def nanocamImgListFlush (reply : CamResult) (timeout : UInt32) : Datum :=
  nanocamMagic cam e link 23 0xCA11F155 reply timeout

def nanocamRecoverfs (reply : CamResult) (timeout : UInt32) : Datum :=
  nanocamMagic cam e link 28 0xD1EBADF5 reply timeout

def nanocamFocus (reply : CamFocusReply) (algorithm : UInt8) (focus : Datum) (timeout : UInt32) :
    Datum × Datum :=
  let request : CamFocus := ⟨algorithm, #v[0, 0, 0]⟩
  let x := cspTransaction link
    ⟨2, cam.nodeCam, 26, timeout, CamFocus.packed.store e request, CamFocusReply.packed.size⟩
  let reply := x.into CamFocusReply.packed e reply
  let status := toUnsigned x.status
  if status < UInt32.ofNat CamFocusReply.packed.size then (.own (toSigned status), focus)
  else (.own 0, .taken (cspNtoh32Word e reply.focus).toNat)

end Nanocam

/-- What a command returns, what its client function returned, and the numbers it prints. -/
structure Report where
  code : Int
  returned : Option Datum
  printed : List Datum
  deriving DecidableEq, Repr

def Report.syntaxError : Report := ⟨-2, none, []⟩

/-- A value read from the memory for the reply is printed or returned. -/
def Report.UsesReply (r : Report) : Prop := ∃ d ∈ r.returned.toList ++ r.printed, d.fromReply

/-- A command that fails where its client function returned a negative value, printing it, and
otherwise goes on. -/
def Datum.report (result : Datum) (printed : List Datum) : Report :=
  if result.value < 0 then ⟨-1, some result, [result]⟩ else ⟨0, some result, printed⟩

section Commands
variable (cam : Camera) (e : Endian) (link : Link)

def storeFilename (arg : List UInt8) : Vector UInt8 40 :=
  Vector.ofFn fun i => if i.val < 39 then arg.getD i 0 else 0

/-- `filename` and `scale` are the arguments, if they are given; `reserved` and `reply` are on the
stack. -/
def cmdCamStore (filename : Option (List UInt8)) (scale : Option Int) (reserved : Vector UInt8 2)
    (reply : CamStoreReply) : Report :=
  let store : CamStore :=
    ⟨cam.camFormat, UInt8.ofInt (scale.getD 0), reserved, 0, storeFilename (filename.getD [])⟩
  let (result, reply) := nanocamStore cam e link store reply cam.camTimeout
  result.report
    [.taken reply.result.toNat, .taken reply.imagePtr.toNat, .taken reply.imageSize.toNat]

def cmdCamRead (reg : Option UInt8) (request reply : CamReg) (value : UInt16) : Report :=
  match reg with
  | none => .syntaxError
  | some reg =>
      let (ret, value) :=
        nanocamRegRead cam e link request reply reg (.own value.toNat) cam.camTimeout
      ret.report [.own reg.toNat, value]

def cmdCamWrite (args : Option (UInt8 × UInt16)) (request reply : CamReg) : Report :=
  match args with
  | none => .syntaxError
  | some (reg, value) =>
      (nanocamRegWrite cam e link request reply reg value cam.camTimeout).report
        [.own reg.toNat, .own value.toNat]

def cmdCamListFlush (reply : CamResult) : Report :=
  (nanocamImgListFlush cam e link reply cam.camTimeout).report []

def cmdCamFocus (reply : CamFocusReply) (af : UInt32) : Report :=
  let (result, af) := nanocamFocus cam e link reply 0 (.own af.toNat) cam.camTimeout
  result.report [af]

def cmdCamRecoverfs (reply : CamResult) : Report :=
  let timeout := if cam.camTimeout.toInt32.toInt < 120000 then 120000 else cam.camTimeout
  (nanocamRecoverfs cam e link reply timeout).report []

/-- The three set commands of the power supply, with the flag that they ask for. -/
def setReport {ρ : Type} (valid : Bool) (u : Upload ρ) : Report :=
  if ¬ valid then ⟨-1, none, []⟩
  else ⟨if u.exchange.status < 0 then -1 else 0, some (.own u.exchange.status), []⟩

def cmdEpsConfigSet (peers : Peers) (valid : Bool) (config : EpsConfig) : Report :=
  setReport valid (epsConfigSet peers e link config)

def cmdEpsConfig2Set (peers : Peers) (valid : Bool) (config2 : EpsConfig2) : Report :=
  setReport valid (epsConfig2Set peers e link config2)

def cmdEpsConfig3Set (peers : Peers) (valid : Bool) (config3 : EpsConfig3) : Report :=
  setReport valid (epsConfig3Set peers e link config3)

/- The console's own commands return the same. -/
theorem code_cmdEpsConfig2Set (peers : Peers) (s : EpsConsole) :
    (s.cmdEpsConfig2Set peers e link).2.code =
      (cmdEpsConfig2Set e link peers s.conf2Valid s.config2).code := by
  cases hv : s.conf2Valid <;> simp [EpsConsole.cmdEpsConfig2Set, cmdEpsConfig2Set, setReport, hv]

theorem code_cmdEpsConfig3Set (peers : Peers) (s : EpsConsole) :
    (s.cmdEpsConfig3Set peers e link).2.code =
      (cmdEpsConfig3Set e link peers s.conf3Valid s.config3).code := by
  cases hv : s.conf3Valid <;> simp [EpsConsole.cmdEpsConfig3Set, cmdEpsConfig3Set, setReport, hv]

def IstageBurnSettings.shown (s : IstageBurnSettings) : List Datum :=
  [.taken s.status.toNat, .taken s.shortCntDown.toNat, .taken s.stdTimeMs.toNat,
    .taken s.incrementMs.toNat, .taken s.maxRepeat.toNat, .taken s.repTimeS.toNat,
    .taken s.switchPolarity.toNat, .taken s.locked.toNat]

def istageMax : List Int := [65535, 65535, 65535, 255, 255, 1, 255]

def outOfRange (args : List Int) : Option Int :=
  ((args.zip istageMax).find? fun (tmp, max) => max < tmp ∨ tmp < 0).map Prod.fst

/-- `args` are the arguments as `atoi` reads them, `settings` is on the stack. -/
def cmdIstageSettingsCsp (peers : Peers) (args : List Int) (settings : IstageBurnSettings) :
    Report :=
  match args with
  | [] =>
      let (status, settings) := gssbInterstageSettingsGet peers e link settings
      if status < 0 then ⟨-1, some (.own status), []⟩
      else ⟨0, some (.own status), settings.shown⟩
  | [stdTime, increment, cntDown, maxRepeat, repTime, polarity, rebootCnt] =>
      match outOfRange args with
      | some tmp => ⟨-2, none, [.own tmp]⟩
      | none =>
          let settings :=
            { settings with
              stdTimeMs := UInt16.ofInt stdTime
              incrementMs := UInt16.ofInt increment
              shortCntDown := UInt16.ofInt cntDown
              maxRepeat := UInt8.ofInt maxRepeat
              repTimeS := UInt8.ofInt repTime
              switchPolarity := UInt8.ofInt polarity
              rebootDeployCnt := UInt8.ofInt rebootCnt }
          let u := gssbInterstageSettingsSet peers e link settings
          ⟨if u.exchange.status < 0 then -1 else 0, some (.own u.exchange.status), []⟩
  | _ => .syntaxError

end Commands

section Values
variable {cam : Camera} {e : Endian} {link : Link}

theorem status_cases (link : Link) (call : Call) {n : Nat} (hn : 0 < n) (hi : call.inlen = n) :
    (cspTransaction link call).status = 0 ∨ (cspTransaction link call).status = n := by
  obtain ⟨data, -, -, hx⟩ | ⟨-, hs, -⟩ := cspTransaction_cases call hn hi
  · rw [hx]
    exact .inr rfl
  · exact .inl hs

/- No client function of the camera returns a negative value: each returns the 0 of a failed
transaction, or takes it for a success. -/
theorem nanocamStore_nonneg (store : CamStore) (reply : CamStoreReply) (timeout : UInt32) :
    0 ≤ (nanocamStore cam e link store reply timeout).1.value := by
  simp only [nanocamStore]
  obtain hs | hs := status_cases link
    ⟨2, cam.nodeCam, 21, timeout, _, CamStoreReply.packed.size⟩ (by decide) rfl <;>
  · rw [hs]
    exact le_rfl

theorem nanocamRegRead_nonneg (request reply : CamReg) (reg : UInt8) (value : Datum)
    (timeout : UInt32) :
    0 ≤ (nanocamRegRead cam e link request reply reg value timeout).1.value := by
  simp only [nanocamRegRead]
  obtain hs | hs := status_cases link
    ⟨1, cam.nodeCam, 24, timeout, _, CamReg.packed.size⟩ (by decide) rfl <;>
  · rw [hs]
    exact le_rfl

theorem nanocamRegWrite_nonneg (request reply : CamReg) (reg : UInt8) (value : UInt16)
    (timeout : UInt32) : 0 ≤ (nanocamRegWrite cam e link request reply reg value timeout).value := by
  simp only [nanocamRegWrite]
  obtain hs | hs := status_cases link
    ⟨1, cam.nodeCam, 25, timeout, _, CamReg.packed.size⟩ (by decide) rfl <;>
  · rw [hs]
    exact Int.natCast_nonneg _

theorem nanocamMagic_nonneg (port : UInt8) (magic : UInt32) (reply : CamResult)
    (timeout : UInt32) : 0 ≤ (nanocamMagic cam e link port magic reply timeout).value := by
  simp only [nanocamMagic]
  obtain hs | hs := status_cases link
    ⟨2, cam.nodeCam, port, timeout, _, CamResult.packed.size⟩ (by decide) rfl
  · rw [hs]
    exact le_rfl
  · rw [hs]
    exact Int.natCast_nonneg _

theorem nanocamFocus_nonneg (reply : CamFocusReply) (algorithm : UInt8) (focus : Datum)
    (timeout : UInt32) : 0 ≤ (nanocamFocus cam e link reply algorithm focus timeout).1.value := by
  simp only [nanocamFocus]
  obtain hs | hs := status_cases link
    ⟨2, cam.nodeCam, 26, timeout, _, CamFocusReply.packed.size⟩ (by decide) rfl <;>
  · rw [hs]
    exact le_rfl

theorem report_code {result : Datum} (h : 0 ≤ result.value) (printed : List Datum) :
    (result.report printed).code = 0 := by
  rw [Datum.report, if_neg (Int.not_lt.mpr h)]

end Values

/-- The commands, with what `sscanf` or `atoi` made of their arguments, the flags and records that
they find, and what lies on the stack where they keep a request, a reply or a value. -/
inductive ClientCommand where
  | camStore (filename : Option (List UInt8)) (scale : Option Int) (reserved : Vector UInt8 2)
      (reply : CamStoreReply)
  | camRead (reg : Option UInt8) (request reply : CamReg) (value : UInt16)
  | camWrite (args : Option (UInt8 × UInt16)) (request reply : CamReg)
  | camFlush (reply : CamResult)
  | camFocus (reply : CamFocusReply) (af : UInt32)
  | camRecoverfs (reply : CamResult)
  | epsConfSet (valid : Bool) (config : EpsConfig)
  | epsConf2Set (valid : Bool) (config2 : EpsConfig2)
  | epsConf3Set (valid : Bool) (config3 : EpsConfig3)
  | istageConf (args : List Int) (settings : IstageBurnSettings)

namespace ClientCommand

def report (cam : Camera) (peers : Peers) (e : Endian) (link : Link) : ClientCommand → Report
  | .camStore filename scale reserved reply => cmdCamStore cam e link filename scale reserved reply
  | .camRead reg request reply value => cmdCamRead cam e link reg request reply value
  | .camWrite args request reply => cmdCamWrite cam e link args request reply
  | .camFlush reply => cmdCamListFlush cam e link reply
  | .camFocus reply af => cmdCamFocus cam e link reply af
  | .camRecoverfs reply => cmdCamRecoverfs cam e link reply
  | .epsConfSet valid config => cmdEpsConfigSet e link peers valid config
  | .epsConf2Set valid config2 => cmdEpsConfig2Set e link peers valid config2
  | .epsConf3Set valid config3 => cmdEpsConfig3Set e link peers valid config3
  | .istageConf args settings => cmdIstageSettingsCsp e link peers args settings

/-- The command gets as far as its transaction: its arguments can be read and are in range, a
configuration is there. -/
def Attempts : ClientCommand → Prop
  | .camRead reg _ _ _ => reg.isSome
  | .camWrite args _ _ => args.isSome
  | .epsConfSet valid _ | .epsConf2Set valid _ | .epsConf3Set valid _ => valid
  | .istageConf args _ => args = [] ∨ args.length = 7 ∧ outOfRange args = none
  | _ => True

def inlen : ClientCommand → Nat
  | .camStore .. => CamStoreReply.packed.size
  | .camRead .. | .camWrite .. => CamReg.packed.size
  | .camFlush _ | .camRecoverfs _ => CamResult.packed.size
  | .camFocus .. => CamFocusReply.packed.size
  | .epsConfSet .. | .epsConf2Set .. | .epsConf3Set .. => 0
  | .istageConf args _ => if args = [] then IstageBurnSettings.packed.size else 0

/-- Success is told only of a transaction that went through, and only then is anything told of a
reply. -/
def Truthful (c : ClientCommand) (link : Link) (r : Report) : Prop :=
  (r.code = 0 → c.Attempts ∧ link.Succeeds c.inlen) ∧ (r.UsesReply → link.Succeeds c.inlen)

variable (cam : Camera) (peers : Peers) (e : Endian) (link : Link)

theorem setReport_code {ρ : Type} {u : Upload ρ} (h : 0 ≤ u.exchange.status) :
    (setReport true u).code = 0 := by
  simp [setReport, Int.not_lt.mpr h]

theorem status_nonneg (link : Link) (call : Call) {n : Nat} (hi : call.inlen = n) :
    0 ≤ (cspTransaction link call).status := by
  obtain rfl | hn := Nat.eq_zero_or_pos n
  · by_cases hs : link.Sends
    · rw [cspTransaction_of_sends_only call hs hi]
      exact Int.one_nonneg
    · rw [cspTransaction_of_not_sends call hs]
  · obtain hs | hs := status_cases link call hn hi
    · rw [hs]
    · rw [hs]
      exact Int.natCast_nonneg n

theorem eq_of_length_seven {α : Type} {l : List α} (h : l.length = 7) :
    ∃ a b c d f g k, l = [a, b, c, d, f, g, k] := by
  match l, h with
  | [a, b, c, d, f, g, k], _ => exact ⟨a, b, c, d, f, g, k, rfl⟩

theorem code_of_attempts (c : ClientCommand) (h : c.Attempts) :
    (c.report cam peers e link).code = 0 := by
  cases c with
  | camStore filename scale reserved reply => exact report_code (nanocamStore_nonneg ..) _
  | camRead reg request reply value =>
      obtain ⟨reg, rfl⟩ := Option.isSome_iff_exists.mp h
      exact report_code (nanocamRegRead_nonneg ..) _
  | camWrite args request reply =>
      obtain ⟨⟨reg, value⟩, rfl⟩ := Option.isSome_iff_exists.mp h
      exact report_code (nanocamRegWrite_nonneg ..) _
  | camFlush reply => exact report_code (nanocamMagic_nonneg ..) _
  | camFocus reply af => exact report_code (nanocamFocus_nonneg ..) _
  | camRecoverfs reply => exact report_code (nanocamMagic_nonneg ..) _
  | epsConfSet valid config =>
      obtain rfl : valid = true := h
      exact setReport_code (status_nonneg (n := 0) _ _ rfl)
  | epsConf2Set valid config2 =>
      obtain rfl : valid = true := h
      exact setReport_code (status_nonneg (n := 0) _ _ rfl)
  | epsConf3Set valid config3 =>
      obtain rfl : valid = true := h
      exact setReport_code (status_nonneg (n := 0) _ _ rfl)
  | istageConf args settings =>
      obtain rfl | ⟨hlen, hrange⟩ := h
      · have hs := status_nonneg (n := IstageBurnSettings.packed.size) link
          ⟨2, peers.gssbCspNode, 15, peers.gssbCspTimeout.toUInt32,
            GssbCspCmd2.packed.store e (peers.gssbCmd e 112), IstageBurnSettings.packed.size⟩ rfl
        simp [report, cmdIstageSettingsCsp, gssbInterstageSettingsGet, Int.not_lt.mpr hs]
      · obtain ⟨a, b, c, d, f, g, k, rfl⟩ := eq_of_length_seven hlen
        simp only [report, cmdIstageSettingsCsp, hrange]
        exact if_neg (Int.not_lt.mpr (status_nonneg (n := 0) _ _ rfl))

theorem report_of_not_attempts (c : ClientCommand) (h : ¬ c.Attempts) :
    (c.report cam peers e link).code ≠ 0 ∧ ¬ (c.report cam peers e link).UsesReply := by
  cases c with
  | camStore filename scale reserved reply => exact absurd trivial h
  | camRead reg request reply value =>
      cases reg with
      | none => simp [report, cmdCamRead, Report.syntaxError, Report.UsesReply]
      | some reg => exact absurd rfl h
  | camWrite args request reply =>
      cases args with
      | none => simp [report, cmdCamWrite, Report.syntaxError, Report.UsesReply]
      | some args => exact absurd rfl h
  | camFlush reply => exact absurd trivial h
  | camFocus reply af => exact absurd trivial h
  | camRecoverfs reply => exact absurd trivial h
  | epsConfSet valid config =>
      obtain rfl : valid = false := by simpa [Attempts] using h
      simp [report, cmdEpsConfigSet, setReport, Report.UsesReply]
  | epsConf2Set valid config2 =>
      obtain rfl : valid = false := by simpa [Attempts] using h
      simp [report, cmdEpsConfig2Set, setReport, Report.UsesReply]
  | epsConf3Set valid config3 =>
      obtain rfl : valid = false := by simpa [Attempts] using h
      simp [report, cmdEpsConfig3Set, setReport, Report.UsesReply]
  | istageConf args settings =>
      simp only [Attempts, not_or, not_and] at h
      simp only [report, cmdIstageSettingsCsp]
      split
      · exact absurd rfl h.1
      · split
        · simp [Report.UsesReply, Datum.own]
        · rename_i hrange
          exact absurd hrange (h.2 rfl)
      · simp [Report.syntaxError, Report.UsesReply]

/-- A command is truthful exactly when its transaction, if it gets so far, goes through. -/
theorem truthful_iff (c : ClientCommand) :
    c.Truthful link (c.report cam peers e link) ↔ (c.Attempts → link.Succeeds c.inlen) := by
  constructor
  · rintro ⟨hcode, -⟩ hattempts
    exact (hcode (c.code_of_attempts cam peers e link hattempts)).2
  · intro h
    by_cases ha : c.Attempts
    · exact ⟨fun _ => ⟨ha, h ha⟩, fun _ => h ha⟩
    · obtain ⟨hcode, htaken⟩ := c.report_of_not_attempts cam peers e link ha
      exact ⟨fun h0 => absurd h0 hcode, fun hu => absurd hu htaken⟩

/-- A camera that does not answer: the register is printed all the same, as the stack has it. -/
theorem camRead_not_truthful :
    (camRead (some 0x10) default ⟨0, 0, 0xBEEF⟩ 0).report default default .little
      ⟨true, some fun _ => 0, true, none⟩ =
        ⟨0, some (.own 0), [.own 0x10, .taken 0xEFBE]⟩ ∧
    ¬ (camRead (some 0x10) default ⟨0, 0, 0xBEEF⟩ 0).Truthful ⟨true, some fun _ => 0, true, none⟩
      ((camRead (some 0x10) default ⟨0, 0, 0xBEEF⟩ 0).report default default .little
        ⟨true, some fun _ => 0, true, none⟩) := by
  refine ⟨by decide, fun h => ?_⟩
  have hs := (h.1 (by decide)).2
  revert hs
  decide

end ClientCommand

end UhfGs.Clients
