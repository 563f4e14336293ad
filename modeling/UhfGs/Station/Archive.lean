import UhfGs.Library.Ledger
import UhfGs.Station.Backup
import UhfGs.Station.Timestamp

/-! The files that the station keeps of what MCS sends: the chunks as they were received, and
the backups of `send_packet`. -/
namespace UhfGs.Station
open Bytes Csp Runs

def mcsDataDir : List Char := "/home/rai/Desktop/GS_Server_Folder/Received_From_MCS/".toList

/-- What `tcp_server` puts into `fr_name`. -/
def receivedName (timeDataGet : List Char) : List Char :=
  mcsDataDir ++ timeDataGet ++ ".bin".toList

inductive Message where
  | recv (now : TimeString) (env : RecvEnv) (chunk : Chunk)
  | retransmit (reopen : Option (Nat × Nat)) (env : SendEnv)

def Message.event : Message → Event
  | .recv _ env chunk => .recv env chunk
  | .retransmit reopen env => .retransmit reopen env

/-- The content that a backup shall have: the payload, if it was transmitted. -/
def SendRun.wanted (run : SendRun) (saved : List UInt8) : List UInt8 :=
  match run.sendto, run.act with
  | some .none, some (.sendto _ _ _ _ packet) => packet.payload
  | _, _ => saved

abbrev Files := Ledger (List Char) (List UInt8)

def Files.saveChunk (l : Files) (now : TimeString) (env : RecvEnv) (chunk : Chunk) : Files :=
  l.record (receivedName now.chars) (fun _ => chunk.bytes.take env.written) chunk.bytes

def Files.saveBackup (l : Files) (run : SendRun) : Files :=
  match run.backup with
  | none => l
  | some (name, saved) => l.record name (fun old => old.getD [] ++ saved) (run.wanted saved)

structure Archive where
  server : Server
  frName : Option (List Char)
  files : Files

namespace Archive

def init : Archive := ⟨.init, none, .empty⟩

def receive (s : Archive) : Message → Files
  | .recv now env chunk => if env.opens then s.files.saveChunk now env chunk else s.files
  | .retransmit _ _ => s.files

def step (s : Archive) (m : Message) : Archive :=
  if s.server.running then
    { server := s.server.step m.event
      frName :=
        match m with
        | .recv now env _ => if env.opens then some (receivedName now.chars) else s.frName
        | .retransmit _ _ => s.frName
      files :=
        match Event.call s.server m.event with
        | none => s.receive m
        | some call => (s.receive m).saveBackup (sendPacket call) }
  else s

end Archive

def SendEnv.backupTime (env : SendEnv) : Option (List Char) :=
  env.buffer.bind fun packet =>
    match processMcsFile env.stack env.mcsUplinkFile packet.data with
    | .exits => none
    | .rejected => none
    | .accepted params data =>
        if params.toHeader.dstAddr ≤ 15 then
          if env.backupOpens then some env.now.chars else none
        else if ¬ (commandOf data).all env.comesBack then none
        else if env.timeStringSent.length ≤ 148 ∧ env.backupOpens then some env.timeStringSent
        else none

/-- What is transmitted is still in its buffer when it is backed up. -/
def SendEnv.Undisturbed (env : SendEnv) : Prop :=
  ∀ call, sendtoCall env = some call → call.Transmittable env.node →
    readMem call.packet.length.toNat env.recycled = call.packet.payload

/-- What a call keeps: nothing, or under a time string some content, which is the wanted one
exactly when nothing has disturbed the buffer. -/
def SendRun.Keeps (run : SendRun) (time : Option (List Char)) (undisturbed : Prop) : Prop :=
  (run.backup = none ∧ time = none) ∨
    ∃ t saved, run.backup = some (backupName t, saved) ∧ time = some t ∧
      (saved = run.wanted saved ↔ undisturbed)

theorem uplink_wanted (env : SendEnv) (header : Header) (packet : Packet) (saved : List UInt8) :
    (uplink env header packet).wanted saved =
      if ((uplinkCall header packet).run env.node).1 = .none then packet.payload else saved := by
  rw [uplink_eq]
  simp only [SendRun.wanted, SendRun.saveBackup]
  generalize ((uplinkCall header packet).run env.node).1 = err
  cases err <;> rfl

theorem carryOut_wanted (env : SendEnv) (header : Header) (packet : Packet)
    (saved : List UInt8) : (carryOut env header packet).wanted saved = saved := by
  have h : (carryOut env header packet).sendto = none := by
    simp only [carryOut, SendRun.saveBackup]
    split
    · rfl
    · rfl
  simp only [SendRun.wanted, h]

theorem uplink_keeps (env : SendEnv) (header : Header) {packet : Packet}
    (hlen : header.dataLength.toNat = packet.length.toNat) :
    (uplink env header packet).Keeps (if env.backupOpens then some env.now.chars else none)
      ((uplinkCall header packet).Transmittable env.node →
        readMem packet.length.toNat env.recycled = packet.payload) := by
  rw [SendRun.Keeps, uplink_backup]
  by_cases ho : env.backupOpens = true
  · refine Or.inr ⟨env.now.chars, _, if_pos ho, if_pos ho, ?_⟩
    rw [uplink_wanted, ← SendtoCall.run_none_iff, hlen]
    by_cases herr : ((uplinkCall header packet).run env.node).1 = .none
    · simp only [herr, if_true, true_imp_iff]
    · simp only [herr, if_false, false_imp_iff]
  · exact Or.inl ⟨if_neg ho, if_neg ho⟩

theorem carryOut_keeps (env : SendEnv) (header : Header) (packet : Packet) :
    (carryOut env header packet).Keeps
      (if ¬ (commandOf packet.data).all env.comesBack then none
        else if env.timeStringSent.length ≤ 148 ∧ env.backupOpens then some env.timeStringSent
        else none) True := by
  simp only [SendRun.Keeps, carryOut_wanted]
  simp only [carryOut]
  by_cases hc : (commandOf packet.data).all env.comesBack = true
  · rw [if_pos hc, if_neg (not_not.mpr hc), saveBackup_backup]
    by_cases ho : env.timeStringSent.length ≤ 148 ∧ env.backupOpens = true
    · exact Or.inr ⟨_, _, if_pos ho, if_pos ho, by simp⟩
    · exact Or.inl ⟨if_neg ho, if_neg ho⟩
  · rw [if_neg hc, if_pos hc]
    exact Or.inl ⟨rfl, rfl⟩

theorem sendPacket_keeps (env : SendEnv) :
    (sendPacket env).Keeps env.backupTime env.Undisturbed := by
  cases hb : env.buffer with
  | none =>
      refine Or.inl ⟨?_, ?_⟩
      · simp only [sendPacket, hb]
      · rw [SendEnv.backupTime, hb, Option.bind_none]
  | some packet =>
      cases hf : env.mcsUplinkFile with
      | none =>
          refine Or.inl ⟨?_, ?_⟩
          · simp only [sendPacket, hb, hf, processMcsFile]
          · simp only [SendEnv.backupTime, hb, Option.bind_some, hf, processMcsFile]
      | some file =>
          by_cases hr : file.Readable
          · rw [sendPacket_readable hb hf hr]
            simp only [SendEnv.backupTime, hb, Option.bind_some, hf,
              processMcsFile_readable _ _ _ hr]
            by_cases hd : (file.params env.stack).toHeader.dstAddr ≤ 15
            · simp only [hd, if_true]
              have hundisturbed : env.Undisturbed ↔
                  ((uplinkCall (file.params env.stack).toHeader
                    (file.packet env.stack packet)).Transmittable env.node →
                  readMem (file.packet env.stack packet).length.toNat env.recycled =
                    (file.packet env.stack packet).payload) := by
                rw [SendEnv.Undisturbed, sendtoCall_readable hb hf hr hd]
                simp only [Option.some.injEq, forall_eq']
                rfl
              rw [hundisturbed]
              exact uplink_keeps env _ (file.packet_length env.stack packet).symm
            · simp only [hd, if_false]
              have hundisturbed : env.Undisturbed ↔ True := by
                refine iff_true_intro fun call hcall => ?_
                simp only [sendtoCall, hb, Option.bind_some, hf, processMcsFile_readable _ _ _ hr,
                  hd, if_false] at hcall
                cases hcall
              rw [hundisturbed]
              exact carryOut_keeps env _ _
          · refine Or.inl ⟨?_, ?_⟩
            · rw [sendPacket_unreadable hb hf hr]
            · simp only [SendEnv.backupTime, hb, Option.bind_some, hf,
                processMcsFile_unreadable _ _ _ hr]

theorem receivedName_ne_backupName (s t : List Char) : receivedName s ≠ backupName t := by
  intro h
  have hr : mcsDataDir[35]? = some 'R' := by decide
  have hs : backupDir[35]? = some 'S' := by decide
  have hlr : 35 < mcsDataDir.length := by decide
  have hls : 35 < backupDir.length := by decide
  have h35 := congrArg (fun name : List Char => name[35]?) h
  simp only [receivedName, backupName, List.append_assoc, List.getElem?_append_left hlr,
    List.getElem?_append_left hls, hr, hs] at h35
  exact absurd h35 (by decide)

theorem receivedName_eq_iff {t u : Timestamp} (ht : t.InRange) (hu : u.InRange) :
    receivedName (t.string ht).chars = receivedName (u.string hu).chars ↔ t.tvSec = u.tvSec := by
  constructor
  · intro h
    exact getTime_inj ht hu (List.append_cancel_left (List.append_cancel_right h))
  · intro h
    have htime : getTime t = getTime u := by
      rw [getTime, getFormatTimestamp, ht.toInt32_eq, h, ← hu.toInt32_eq]
      rfl
    simp only [Timestamp.string, htime]

/-- What a message needs to leave every file alone: a chunk is written whole, and both files it
makes are new; what is backed up is what was transmitted. -/
def Message.Apart (s : Archive) (m : Message) : Prop :=
  s.server.running →
    (match m with
      | .recv now env chunk =>
          env.opens → receivedName now.chars ∉ s.files.names ∧ chunk.bytes.length ≤ env.written
      | .retransmit _ _ => True) ∧
    ∀ call, Event.call s.server m.event = some call → ∀ time, call.backupTime = some time →
      backupName time ∉ s.files.names ∧ call.Undisturbed

section
variable {l : Files}

theorem closed_saveChunk (h : l.Closed) (now : TimeString) (env : RecvEnv) (chunk : Chunk) :
    (l.saveChunk now env chunk).Closed := h.record

theorem intact_saveChunk_iff (h : l.Closed) (now : TimeString) (env : RecvEnv) (chunk : Chunk) :
    (l.saveChunk now env chunk).Intact ↔
      l.Intact ∧ receivedName now.chars ∉ l.names ∧ chunk.bytes.length ≤ env.written := by
  rw [Files.saveChunk, Ledger.intact_record_iff h, List.take_eq_self_iff]

theorem closed_saveBackup (h : l.Closed) (run : SendRun) : (l.saveBackup run).Closed := by
  unfold Files.saveBackup
  split
  · exact h
  · exact h.record

theorem intact_saveBackup_iff (h : l.Closed) {run : SendRun} {time : Option (List Char)}
    {undisturbed : Prop} (hkeeps : run.Keeps time undisturbed) :
    (l.saveBackup run).Intact ↔
      l.Intact ∧ ∀ t, time = some t → backupName t ∉ l.names ∧ undisturbed := by
  obtain ⟨hnone, rfl⟩ | ⟨t, saved, hsome, rfl, hwanted⟩ := hkeeps
  · simp [Files.saveBackup, hnone]
  · simp only [Files.saveBackup, hsome, Ledger.intact_record_iff h, Option.getD_none,
      List.nil_append, hwanted, Option.some.injEq, forall_eq']

end

namespace Archive
variable {s : Archive}

theorem closed_receive (h : s.files.Closed) (m : Message) : (s.receive m).Closed := by
  cases m with
  | recv now env chunk =>
      simp only [receive]
      split
      · exact closed_saveChunk h now env chunk
      · exact h
  | retransmit reopen env => exact h

theorem closed_step (h : s.files.Closed) (m : Message) : (s.step m).files.Closed := by
  unfold step
  split
  · simp only
    split
    · exact closed_receive h m
    · exact closed_saveBackup (closed_receive h m) _
  · exact h

theorem backupName_mem_receive (m : Message) (time : List Char) :
    backupName time ∈ (s.receive m).names ↔ backupName time ∈ s.files.names := by
  cases m with
  | recv now env chunk =>
      simp only [receive]
      split
      · rw [Files.saveChunk, Ledger.names_record, List.mem_cons]
        exact or_iff_right (receivedName_ne_backupName _ _).symm
      · exact Iff.rfl
  | retransmit reopen env => exact Iff.rfl

/-- One message: it leaves the archive intact exactly when it keeps apart. -/
theorem intact_step_iff (h : s.files.Closed) (m : Message) :
    (s.step m).files.Intact ↔ s.files.Intact ∧ m.Apart s := by
  by_cases hr : s.server.running = true
  · have hreceive : (s.receive m).Intact ↔ s.files.Intact ∧
        match m with
        | .recv now env chunk =>
            env.opens → receivedName now.chars ∉ s.files.names ∧ chunk.bytes.length ≤ env.written
        | .retransmit _ _ => True := by
      cases m with
      | recv now env chunk =>
          by_cases ho : env.opens = true
          · simp only [receive, ho, if_true, intact_saveChunk_iff h, true_imp_iff]
          · simp [receive, ho]
      | retransmit reopen env => simp [receive]
    simp only [step, hr, if_true, Message.Apart, true_imp_iff, ← and_assoc, ← hreceive]
    cases hc : Event.call s.server m.event with
    | none => simp
    | some call =>
        simp only [intact_saveBackup_iff (closed_receive h m) (sendPacket_keeps call),
          backupName_mem_receive, Option.some.injEq, forall_eq']
  · have hstay : s.step m = s := if_neg hr
    simp [hstay, Message.Apart, hr]

/-- After a run every accepted chunk and every transmitted uplink is intact in a file of its own
exactly when every message kept apart from those before it. -/
theorem intact_iff (ms : List Message) :
    (ms.foldl step init).files.Intact ↔ Along step (fun s m => m.Apart s) init ms := by
  have h := @marked_foldl_iff _ _ step (fun s m => m.Apart s) (fun s => ¬ s.files.Intact)
    (fun s => s.files.Closed) (fun s m hc => closed_step hc m)
    (fun s m hc => by rw [intact_step_iff hc, not_and_or]) init ms Ledger.closed_empty
  have hinit : init.files.Intact := Ledger.intact_empty
  simp only [hinit, not_true_eq_false, false_or] at h
  exact not_iff_not.mp h

def oneByteEnv : RecvEnv := ⟨true, 1024, some (6, 1), callWith .little usedBuffer []⟩

def oneByte (b : UInt8) : Chunk := ⟨[b], Nat.one_pos, Nat.succ_le_succ (Nat.zero_le 1023)⟩

theorem step_oneByte (h : s.server.running = true) (now : TimeString) (b : UInt8) :
    (s.step (.recv now oneByteEnv (oneByte b))).server.running = true ∧
      (s.step (.recv now oneByteEnv (oneByte b))).files.names =
        receivedName now.chars :: s.files.names := by
  have hreject : sendPacket { oneByteEnv.send with
      mcsUplinkFile := reopenFile ((oneByte b).bytes.take oneByteEnv.written)
        oneByteEnv.reopen } = { fate := .returns (-1) } := by
    have hsize : toInt32 [b].length ≤ 6 := by
      rw [toInt32_of_lt (by simp)]
      simp
    exact @sendPacket_rejects { oneByteEnv.send with
      mcsUplinkFile := some (.regular [b]) } usedBuffer [b] rfl rfl hsize
  have hopens : oneByteEnv.opens = true := rfl
  simp only [step, h, if_true, Message.event, Server.step, Event.call, hopens, not_true_eq_false,
    if_false, hreject, receive, Files.saveBackup, Files.saveChunk, Ledger.names_record,
    Bool.true_and, and_true]
  rfl

/-- Two chunks within a second: the second one truncates the file of the first. -/
theorem not_intact : ¬ ∀ ms : List Message, (ms.foldl step init).files.Intact := by
  intro h
  let now : TimeString := ⟨"22-05-2025 12:00:00".toList, by decide⟩
  let first : Message := .recv now oneByteEnv (oneByte 1)
  let second : Message := .recv now oneByteEnv (oneByte 2)
  obtain ⟨hrun, hnames⟩ := step_oneByte (s := init) rfl now 1
  have hclosed : (init.step first).files.Closed := closed_step Ledger.closed_empty first
  have hapart := ((intact_step_iff hclosed second).mp (h [first, second])).2
  obtain ⟨hnew, -⟩ := (hapart hrun).1 rfl
  exact hnew (hnames ▸ List.mem_cons_self)

/-- `fr_name` names the chunk that the server keeps for a retransmission, as it was written. -/
def NamesSaved (s : Archive) : Prop :=
  s.server.saved = s.frName.bind s.files.files ∧
    ∀ name ∈ s.frName, ∃ time, name = receivedName time

theorem namesSaved_saveBackup {saved : Option (List UInt8)} {frName : Option (List Char)}
    {l : Files} (h : saved = frName.bind l.files)
    (hname : ∀ name ∈ frName, ∃ time, name = receivedName time) {run : SendRun}
    {time : Option (List Char)} {undisturbed : Prop} (hkeeps : run.Keeps time undisturbed) :
    saved = frName.bind (l.saveBackup run).files := by
  obtain ⟨hnone, -⟩ | ⟨t, bytes, hsome, -, -⟩ := hkeeps
  · simpa [Files.saveBackup, hnone] using h
  · cases hfr : frName with
    | none => rw [h, hfr]; rfl
    | some name =>
        obtain ⟨u, rfl⟩ := hname name hfr
        have hother := receivedName_ne_backupName u t
        simp only [Files.saveBackup, hsome, Option.bind_some, Ledger.record_files_of_ne hother]
        rw [h, hfr]
        rfl

theorem namesSaved_step (h : s.NamesSaved) (m : Message) : (s.step m).NamesSaved := by
  by_cases hr : s.server.running = true
  · cases m with
    | recv now env chunk =>
        by_cases ho : env.opens = true
        · refine ⟨?_, ?_⟩
          · simp only [step, hr, if_true, Message.event, Server.step, Event.call, ho,
              not_true_eq_false, if_false, receive]
            refine namesSaved_saveBackup ?_ ?_ (sendPacket_keeps _)
            · rw [Option.bind_some, Files.saveChunk, Ledger.record_files_self]
            · intro name hname
              exact ⟨now.chars, (Option.mem_some.mp hname).symm⟩
          · intro name hname
            simp only [step, hr, if_true, ho] at hname
            exact ⟨now.chars, (Option.mem_some.mp hname).symm⟩
        · simp only [step, hr, if_true, Message.event, Server.step, Event.call, ho,
            not_false_eq_true, receive, Bool.false_eq_true, if_false]
          exact h
    | retransmit reopen env =>
        simp only [step, hr, if_true, Message.event, Server.step, Event.call, receive]
        exact ⟨namesSaved_saveBackup h.1 h.2 (sendPacket_keeps _), h.2⟩
  · have hstay : s.step m = s := if_neg hr
    rw [hstay]
    exact h

theorem namesSaved (ms : List Message) : (ms.foldl step init).NamesSaved := by
  have hinit : init.NamesSaved := ⟨rfl, fun _ hname => nomatch hname⟩
  induction ms using List.reverseRecOn with
  | nil => exact hinit
  | append_singleton ms m ih =>
      rw [List.foldl_append]
      exact namesSaved_step ih m

end Archive
end UhfGs.Station
