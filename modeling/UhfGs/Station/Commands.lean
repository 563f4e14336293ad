import UhfGs.Station.Uplink

/-! What a message to the station itself makes `send_packet` do, and what of it comes from
the message. -/
namespace UhfGs.Station
open Bytes Csp

def OpenFile.body (file : OpenFile) : List UInt8 :=
  ((file.content.drop (min file.headerRead 6)).take
    (toInt32 file.content.length - 6).toNat).take file.bodyRead

/-- The number of payload bytes that the branch of an opcode reads behind it. -/
def argumentCount (opcode : UInt8) : Nat :=
  if opcode = 0x01 then 1 else if opcode = 0x02 ∨ opcode = 0x03 then 4 else 0

/-- The command that a payload asks for; none where its arguments are missing. -/
def requested : List UInt8 → Option Command
  | [] => none
  | opcode :: arguments =>
      if arguments.length < argumentCount opcode then none
      else if opcode = 0x00 then some .mcsSatRead
      else if opcode = 0x01 then some (.mcsSatSel (arguments.headD 0).toUInt32)
      else if opcode = 0x02 then some (.setRxFreq (UInt32.ofNat (beWord (arguments.take 4))))
      else if opcode = 0x03 then some (.setTxFreq (UInt32.ofNat (beWord (arguments.take 4))))
      else if opcode = 0x06 then some .updateTle
      else none

def actWith (env : SendEnv) (packet : Packet) : Option Act :=
  (sendPacket { env with buffer := some packet }).act

/-- Whatever the buffer held, the same command is carried out: the one that the payload asks
for. -/
structure Noninterfering (env : SendEnv) (file : OpenFile) : Prop where
  same : ∀ packet packet', actWith env packet = actWith env packet'
  carriesOut : file.Readable →
    ∀ packet, actWith env packet = (requested file.body).map .command

/-- The payload is as long as its opcode needs. -/
def ArgumentsPresent : List UInt8 → Prop
  | [] => True
  | opcode :: arguments => argumentCount opcode ≤ arguments.length

instance : DecidablePred ArgumentsPresent
  | [] => instDecidableTrue
  | _ :: _ => inferInstanceAs (Decidable (_ ≤ _))

theorem OpenFile.data_eq (file : OpenFile) (mem : Nat → UInt8) (i : Nat) :
    file.data mem i = file.body.getD i (mem i) := by
  simp only [OpenFile.data, OpenFile.body, writeMem, Nat.zero_le, if_true, Nat.sub_zero]

theorem OpenFile.Readable.body_ne_nil {file : OpenFile} (h : file.Readable) :
    file.body ≠ [] := by
  obtain ⟨hs, hh, hb⟩ := h
  have hle := toInt32_le file.content.length
  rw [← List.length_pos_iff, OpenFile.body]
  simp only [List.length_take, List.length_drop]
  generalize toInt32 file.content.length = size at hs hle ⊢
  omega

theorem freqAt_eq (data : Nat → UInt8) :
    freqAt data = UInt32.ofNat (beWord [data 1, data 2, data 3, data 4]) := by
  have h1 := (data 1).toNat_lt
  have h2 := (data 2).toNat_lt
  have h3 := (data 3).toNat_lt
  have h4 := (data 4).toNat_lt
  have hword : beWord [data 1, data 2, data 3, data 4] =
      (data 1).toNat * 2 ^ 24 + (data 2).toNat * 2 ^ 16 + (data 3).toNat * 2 ^ 8 +
        (data 4).toNat := by
    simp only [beWord, List.foldl]
    omega
  rw [← UInt32.toNat_inj, hword]
  simp only [freqAt, UInt32.toNat_add, UInt32.toNat_shiftLeft, UInt8.toNat_toUInt32,
    UInt32.reduceToNat, UInt32.toNat_ofNat', Nat.shiftLeft_eq, Nat.reducePow, Nat.reduceMod]
  omega

theorem commandOf_present {body : List UInt8} {data mem : Nat → UInt8}
    (hdata : ∀ i, data i = body.getD i (mem i)) (hne : body ≠ []) (h : ArgumentsPresent body) :
    commandOf data = requested body := by
  obtain ⟨opcode, arguments, rfl⟩ := List.exists_cons_of_ne_nil hne
  have h0 : data 0 = opcode := hdata 0
  have hlong : ¬ arguments.length < argumentCount opcode := Nat.not_lt.mpr h
  have hfreq (hfour : argumentCount opcode = 4) :
      freqAt data = UInt32.ofNat (beWord (arguments.take 4)) := by
    obtain ⟨b1, b2, b3, b4, rest, rfl⟩ : ∃ b1 b2 b3 b4 rest,
        arguments = b1 :: b2 :: b3 :: b4 :: rest := by
      have hl : 4 ≤ arguments.length := hfour ▸ h
      match arguments, hl with
      | b1 :: b2 :: b3 :: b4 :: rest, _ => exact ⟨b1, b2, b3, b4, rest, rfl⟩
    rw [freqAt_eq, hdata 1, hdata 2, hdata 3, hdata 4]
    rfl
  rw [commandOf, requested, if_neg hlong, h0]
  by_cases hsel : opcode = 0x01
  · subst hsel
    obtain ⟨no, rest, rfl⟩ := List.exists_cons_of_length_pos (Nat.lt_of_lt_of_le Nat.one_pos h)
    have h1 : data 1 = no := hdata 1
    rw [h1]
    rfl
  · by_cases hrx : opcode = 0x02
    · subst hrx
      rw [hfreq rfl]
      rfl
    · by_cases htx : opcode = 0x03
      · subst htx
        rw [hfreq rfl]
        rfl
      · simp only [hsel, hrx, htx, if_false]

theorem commandOf_short {body : List UInt8} {data mem : Nat → UInt8}
    (hdata : ∀ i, data i = body.getD i (mem i)) (h : ¬ ArgumentsPresent body) :
    (commandOf data).isSome ∧ requested body = none := by
  cases body with
  | nil => exact absurd trivial h
  | cons opcode arguments =>
      have h0 : data 0 = opcode := hdata 0
      have hshort : arguments.length < argumentCount opcode := Nat.not_le.mp h
      refine ⟨?_, if_pos hshort⟩
      rw [commandOf, h0]
      by_cases hsel : opcode = 0x01
      · simp [hsel]
      · by_cases hrx : opcode = 0x02
        · simp [hrx]
        · by_cases htx : opcode = 0x03
          · simp [htx]
          · have hzero : argumentCount opcode = 0 := by simp [argumentCount, hsel, hrx, htx]
            omega

section
variable {env : SendEnv} {file : OpenFile}

theorem actWith_unreadable (hf : env.mcsUplinkFile = some file) (h : ¬ file.Readable)
    (packet : Packet) : actWith env packet = none := by
  rw [actWith, @sendPacket_unreadable { env with buffer := some packet } packet file rfl hf h]

theorem actWith_readable (hf : env.mcsUplinkFile = some file)
    (hd : 15 < (file.params env.stack).toHeader.dstAddr) (h : file.Readable) (packet : Packet) :
    actWith env packet = (commandOf (file.data packet.data)).map .command := by
  rw [actWith, @sendPacket_readable { env with buffer := some packet } packet file rfl hf h]
  simp only [if_neg (Int.not_le.mpr hd)]
  exact carryOut_act _ _ _

theorem Noninterfering.argumentsPresent (h : Noninterfering env file)
    (hf : env.mcsUplinkFile = some file) (hd : 15 < (file.params env.stack).toHeader.dstAddr)
    (hr : file.Readable) : ArgumentsPresent file.body := by
  by_contra hshort
  obtain ⟨hsome, hnone⟩ := commandOf_short (file.data_eq usedBuffer.data) hshort
  have hact := h.carriesOut hr usedBuffer
  rw [actWith_readable hf hd hr, hnone, Option.map_none, Option.map_eq_none_iff] at hact
  simp [hact] at hsome

/-- The buffer does not interfere with a command exactly when the file is rejected or brings
all the arguments of its opcode. -/
theorem noninterfering_iff (hf : env.mcsUplinkFile = some file)
    (hd : 15 < (file.params env.stack).toHeader.dstAddr) :
    Noninterfering env file ↔ (file.Readable → ArgumentsPresent file.body) := by
  constructor
  · intro h hr
    exact h.argumentsPresent hf hd hr
  · intro h
    by_cases hr : file.Readable
    · have hact (packet : Packet) : actWith env packet = (requested file.body).map .command := by
        rw [actWith_readable hf hd hr,
          commandOf_present (file.data_eq packet.data) hr.body_ne_nil (h hr)]
      exact ⟨fun packet packet' => (hact packet).trans (hact packet').symm, fun _ => hact⟩
    · refine ⟨fun packet packet' => ?_, fun hr' => absurd hr' hr⟩
      rw [actWith_unreadable hf hr, actWith_unreadable hf hr]

end

/-- A message to station 16 that selects satellite 2. -/
theorem noninterfering_iff_select :
    Noninterfering (callWith .little usedBuffer [1, 0, 0, 0, 0, 2, 0x01, 2])
      (.regular [1, 0, 0, 0, 0, 2, 0x01, 2]) := by
  refine (noninterfering_iff rfl ?_).mpr fun _ => ?_
  · rw [OpenFile.toHeader_regular (by decide), headerOf_eq]
    decide
  · rw [OpenFile.body, toInt32_of_lt (by decide)]
    decide

/-- The selection without a number takes the number that the last packet left behind. -/
theorem not_noninterfering : ¬ ∀ (env : SendEnv) (file : OpenFile),
    env.mcsUplinkFile = some file → 15 < (file.params env.stack).toHeader.dstAddr →
      Noninterfering env file := by
  intro h
  have hd : 15 < ((OpenFile.regular [1, 0, 0, 0, 0, 1, 0x01]).params
      (callWith .little usedBuffer [1, 0, 0, 0, 0, 1, 0x01]).stack).toHeader.dstAddr := by
    rw [OpenFile.toHeader_regular (by decide), headerOf_eq]
    decide
  have hr : (OpenFile.regular [1, 0, 0, 0, 0, 1, 0x01]).Readable :=
    OpenFile.readable_of_length (by decide) (by decide)
  have hp := (h (callWith .little usedBuffer [1, 0, 0, 0, 0, 1, 0x01]) _ rfl hd).argumentsPresent
    rfl hd hr
  rw [OpenFile.body, toInt32_of_lt (by decide)] at hp
  exact absurd hp (by decide)

end UhfGs.Station
