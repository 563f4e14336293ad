import UhfGs.Library.Runs
import UhfGs.Station.TcpServer
import UhfGs.Station.Uplink

/-! When the process and the loop of `tcp_server` survive an event. -/
namespace UhfGs.Station
open Bytes Csp Runs TextLines

/-- What a command needs of tle.txt: that it opens, and that a satellite selected finds no line
that is too long for the static ones. -/
def SendEnv.TleSafe (env : SendEnv) : Command → Prop
  | .mcsSatSel no => env.tle.opens ∧ (env.tle.retrieved →
      ¬ Overruns (satellite (env.tracking.chosen no)).elementid (fileLines env.tle.content))
  | .updateTle => env.tle.opens
  | .mcsSatRead => True
  | .setRxFreq _ => True
  | .setTxFreq _ => True

/-- A call that gets as far as the backup comes back only if its file opens and its name fits;
nobody writes a time string for a command. -/
def OpenFile.Safe (file : OpenFile) (env : SendEnv) (packet : Packet) : Prop :=
  env.backupOpens ∧
    (15 < (file.params env.stack).toHeader.dstAddr →
      env.timeStringSent.length ≤ 148 ∧
        ∀ c, commandOf (file.data packet.data) = some c → env.TleSafe c)

def SendEnv.Safe (env : SendEnv) : Prop :=
  ∀ packet, env.buffer = some packet →
    ∃ file, env.mcsUplinkFile = some file ∧ (file.Readable → file.Safe env packet)

theorem length_backupName (timeString : List Char) :
    (backupName timeString).length = timeString.length + 51 := by
  have hd : backupDir.length = 47 := by decide
  have hb : ".bin".toList.length = 4 := by decide
  simp only [backupName, List.length_append, hd, hb]
  omega

theorem saveBackup_returned (run : SendRun) (env : SendEnv) (timeString : List Char)
    (data : Nat → UInt8) (length : Int) :
    (run.saveBackup env timeString data length).returned ↔
      timeString.length ≤ 148 ∧ env.backupOpens := by
  have h : (backupName timeString).length + 1 ≤ 200 ↔ timeString.length ≤ 148 := by
    rw [length_backupName]
    omega
  rw [← h]
  simp only [SendRun.saveBackup, SendRun.returned]
  by_cases hs : (backupName timeString).length + 1 ≤ 200 ∧ env.backupOpens = true
  · simp only [hs, and_self, decide_true, if_true]
  · simp only [hs, decide_false, Bool.false_eq_true, if_false]

theorem cspSendto_code_ne (node : Node) (prio dest dport srcPort : UInt8) (opts : UInt32)
    (packet : Packet) : (cspSendto node prio dest dport srcPort opts packet).1.code ≠ -1 := by
  unfold cspSendto
  split
  · decide
  · simp only
    split
    · exact show Err.none.code ≠ -1 by decide
    · exact show Err.notsup.code ≠ -1 by decide

theorem uplink_returned (env : SendEnv) (header : Header) (packet : Packet) :
    (uplink env header packet).returned ↔ env.backupOpens := by
  simp only [uplink, cspSendto_code_ne, if_false, saveBackup_returned, env.now.length_eq]
  simp

theorem mcsSatSel_comesBack_iff (s : Tracking) (call : SelCall) :
    (s.mcsSatSel call).state.isSome ↔ call.tle.opens ∧ (call.tle.retrieved →
      ¬ Overruns (satellite (s.chosen call.satNoSel)).elementid (fileLines call.tle.content)) := by
  obtain ⟨ho, heq⟩ | ⟨ho, hr, hover, heq⟩ | ⟨ho, hfits, s', heq, -⟩ := s.mcsSatSel_cases call
  · rw [heq]
    exact iff_of_false (by decide) fun h => ho h.1
  · rw [heq]
    exact iff_of_false (by decide) fun h => h.2 hr hover
  · rw [heq]
    exact iff_of_true rfl ⟨ho, fun hr hover => hfits ⟨hr, hover⟩⟩

theorem tleupdate_zero_comesBack_iff (tle : TleEnv) (e : Elements) :
    (tleupdate tle 0 e).elements.isSome ↔ tle.opens := by
  unfold tleupdate
  by_cases ho : tle.opens = true
  · rw [if_neg (not_not.mpr ho)]
    simp only [if_true, ite_self, TleRun.elements, Option.isSome_some, ho]
  · rw [if_pos ho]
    exact iff_of_false (by decide) ho

theorem comesBack_iff (env : SendEnv) (c : Command) : env.comesBack c ↔ env.TleSafe c := by
  cases c with
  | mcsSatSel no => exact mcsSatSel_comesBack_iff env.tracking (env.selCall no)
  | updateTle => exact tleupdate_zero_comesBack_iff env.tle env.tracking.elements
  | mcsSatRead => exact iff_of_true rfl trivial
  | setRxFreq freq => exact iff_of_true rfl trivial
  | setTxFreq freq => exact iff_of_true rfl trivial

theorem carryOut_returned (env : SendEnv) (header : Header) (packet : Packet) :
    (carryOut env header packet).returned ↔
      env.backupOpens ∧ env.timeStringSent.length ≤ 148 ∧
        ∀ c, commandOf packet.data = some c → env.TleSafe c := by
  have hall : (commandOf packet.data).all env.comesBack = true ↔
      ∀ c, commandOf packet.data = some c → env.TleSafe c := by
    simp only [Option.all_eq_true, comesBack_iff]
  simp only [carryOut]
  split
  · rename_i h
    rw [saveBackup_returned]
    exact ⟨fun hs => ⟨hs.2, hs.1, hall.mp h⟩, fun hs => ⟨hs.2.1, hs.1⟩⟩
  · rename_i h
    refine iff_of_false ?_ fun hs => h (hall.mpr hs.2.2)
    simp [SendRun.returned]

theorem sendPacket_returned (env : SendEnv) : (sendPacket env).returned ↔ env.Safe := by
  cases hb : env.buffer with
  | none => simp [sendPacket, hb, SendRun.returned, SendEnv.Safe]
  | some packet =>
      cases hf : env.mcsUplinkFile with
      | none => simp [sendPacket, hb, hf, processMcsFile, SendRun.returned, SendEnv.Safe]
      | some file =>
          have hsafe : env.Safe ↔ (file.Readable → file.Safe env packet) := by
            simp [SendEnv.Safe, hb, hf]
          rw [hsafe]
          by_cases hr : file.Readable
          · rw [sendPacket_readable hb hf hr]
            simp only [hr, true_imp_iff, OpenFile.Safe]
            by_cases hd : (file.params env.stack).toHeader.dstAddr ≤ 15
            · simp only [hd, if_true, uplink_returned, Int.not_lt.mpr hd, false_imp_iff, and_true]
            · simp only [hd, if_false, carryOut_returned, Int.not_le.mp hd, true_imp_iff]
          · rw [sendPacket_unreadable hb hf hr]
            simp [SendRun.returned, hr]

def Event.call (s : Server) : Event → Option SendEnv
  | .recv env chunk =>
      if env.opens then
        some { env.send with
          mcsUplinkFile := reopenFile (chunk.bytes.take env.written) env.reopen }
      else none
  | .retransmit reopen env =>
      some { env with mcsUplinkFile := s.saved.bind fun content => reopenFile content reopen }
  | _ => none

/-- The server goes on, and a file that cannot be opened, is too short or cannot be read is
rejected with an error result. -/
def Survives (s : Server) (e : Event) : Prop :=
  (s.step e).running ∧ ∀ env, e.call s = some env →
    (∀ file, env.mcsUplinkFile = some file → ¬ file.Readable) →
      (sendPacket env).fate = .returns (-1)

def Event.Safe (s : Server) (e : Event) : Prop :=
  match e with
  | .select ok => ok
  | .accept ok => ok
  | .hangup => True
  | .recv env chunk => env.opens ∧ ∀ call, Event.call s (.recv env chunk) = some call → call.Safe
  | .retransmit reopen env =>
      ∀ call, Event.call s (.retransmit reopen env) = some call → call.Safe
  | .downlink env headerValues length data client =>
      env.opens → env.headerWritten ≠ 0 →
        (s.ret = 1 → client.socketOk ∧ client.ptonOk ∧ client.connectOk) → client.opens →
          hitsClosed client.results 0
            (((cspHeader headerValues length).take env.headerWritten ++ data).toChunks 32768) =
              false

theorem rejected_of_returned {env : SendEnv} (h : (sendPacket env).returned)
    (hu : ∀ file, env.mcsUplinkFile = some file → ¬ file.Readable) :
    (sendPacket env).fate = .returns (-1) := by
  cases hb : env.buffer with
  | none => simp [sendPacket, hb]
  | some packet =>
      cases hf : env.mcsUplinkFile with
      | none => simp [sendPacket, hb, hf, processMcsFile, SendRun.returned] at h
      | some file => rw [sendPacket_unreadable hb hf (hu file hf)]

theorem downlinkClient_alive (env : DownlinkEnv) (ret : Int) (file : List UInt8) :
    (downlinkClient env ret file).alive ↔
      ((ret = 1 → env.socketOk ∧ env.ptonOk ∧ env.connectOk) → env.opens →
        hitsClosed env.results 0 (file.toChunks 32768) = false) := by
  unfold downlinkClient
  split
  · rename_i h
    simp [h]
  · rename_i h
    have hc : ret = 1 → env.socketOk ∧ env.ptonOk ∧ env.connectOk := by
      intro hr
      by_contra hn
      exact h ⟨hr, hn⟩
    split
    · rename_i ho
      simp [ho]
    · rename_i ho
      have ho' : env.opens = true := by simpa using ho
      simp only [sendBlocks_alive, Bool.not_eq_true', ho', true_imp_iff]
      exact ⟨fun h _ => h, fun h => h hc⟩

/-- One event: a running server survives it exactly when it is safe. -/
theorem survives_iff_safe (s : Server) (e : Event) (hs : s.running) :
    Survives s e ↔ e.Safe s := by
  cases e with
  | select ok => simp [Survives, Event.Safe, Server.step, Event.call, hs]
  | accept ok => simp [Survives, Event.Safe, Server.step, Event.call, hs]
  | hangup => simp [Survives, Event.Safe, Server.step, Event.call, hs]
  | recv env chunk =>
      by_cases ho : env.opens = true
      · simp only [Survives, Event.Safe, Server.step, Event.call, ho, hs, not_true_eq_false,
          if_false, if_true, Bool.true_and, Option.some.injEq, forall_eq', true_and,
          ← sendPacket_returned]
        exact ⟨fun h => h.1, fun h => ⟨h, rejected_of_returned h⟩⟩
      · simp [Survives, Event.Safe, Server.step, ho]
  | retransmit reopen env =>
      simp only [Survives, Event.Safe, Server.step, Event.call, hs, Bool.true_and,
        Option.some.injEq, forall_eq', ← sendPacket_returned]
      exact ⟨fun h => h.1, fun h => ⟨h, rejected_of_returned h⟩⟩
  | downlink env headerValues length data client =>
      have hcall : Event.call s (.downlink env headerValues length data client) = none := rfl
      simp only [Survives, hcall, Event.Safe, Server.step, receivePacket]
      by_cases ho : env.opens = true
      · by_cases hw : env.headerWritten = 0
        · simp [ho, hw, hs]
        · simp only [ho, hw, hs, ne_eq, not_true_eq_false, not_false_eq_true, if_false,
            Bool.true_and, true_imp_iff, downlinkClient_alive]
          simp
      · simp [ho, hs]

/-- The server lives through a run, and rejects what it cannot use, exactly when every event is
safe in the state it meets. -/
theorem run_survives_iff (events : List Event) :
    Along Server.step Survives .init events ↔
      Along Server.step (fun s e => e.Safe s) .init events :=
  along_congr (fun s => s.running = true) (fun _ _ _ h => h.1)
    (fun s e hs => survives_iff_safe s e hs) events .init rfl

/-- The console command before the first message ends the process. -/
theorem not_run_survives : ¬ ∀ events, Along Server.step Survives .init events := by
  intro h
  have hr := (h [.retransmit none (callWith .little usedBuffer [])]).1.1
  exact absurd hr (by decide)

end UhfGs.Station
