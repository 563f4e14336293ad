import UhfGs.Station.Survival

/-! TCP segmentation: `tcp_server` takes every chunk that `recv` returns for one
message. -/
namespace UhfGs.Station
open Bytes Csp

inductive Output where
  | packet (prio dest dport srcPort : UInt8) (payload : List UInt8)
  | command (c : Command)
  deriving DecidableEq

def Act.output : Act → Output
  | .sendto prio dest dport srcPort packet => .packet prio dest dport srcPort packet.payload
  | .command c => .command c

def served (env : SendEnv) (buffer : Packet) (chunk : List UInt8) : SendRun :=
  sendPacket { env with buffer := some buffer, mcsUplinkFile := some (.regular chunk) }

/-- The outputs of the calls for successive chunks, as long as they come back. The pool gives call
`i` the buffer `buffers i`. -/
def serve (env : SendEnv) : (Nat → Packet) → List (List UInt8) → List Output
  | _, [] => []
  | buffers, chunk :: chunks =>
      let run := served env (buffers 0) chunk
      (run.act.map Act.output).toList ++
        if run.returned then serve env (fun i => buffers (i + 1)) chunks else []

theorem serve_cons (env : SendEnv) (buffer : Packet) (chunk : List UInt8)
    (chunks : List (List UInt8)) : serve env (fun _ => buffer) (chunk :: chunks) =
      ((served env buffer chunk).act.map Act.output).toList ++
        if (served env buffer chunk).returned then serve env (fun _ => buffer) chunks else [] :=
  rfl

/-- A message as its header describes it. -/
def WellFormed (m : List UInt8) : Prop :=
  byteAt m 4 = 0 ∧ 1 ≤ (byteAt m 5).toNat ∧ m.length = 6 + (byteAt m 5).toNat

/-- The pieces in which TCP can deliver a byte stream to a `recv` of 1024 bytes. -/
def Chunking (stream : List UInt8) (chunks : List (List UInt8)) : Prop :=
  chunks.flatten = stream ∧ ∀ c ∈ chunks, c ≠ [] ∧ c.length ≤ 1024

/-- The first seven bytes make `send_packet` do something. -/
def Acts (f : List UInt8) : Prop :=
  6 < f.length ∧ ((headerOf f).dstAddr ≤ 15 ∨ byteAt f 6 ∈ [0x00, 0x01, 0x02, 0x03, 0x06])

section
variable (env : SendEnv) (buffer : Packet) {f : List UInt8}

theorem served_short (h : f.length ≤ 6) : served env buffer f = { fate := .returns (-1) } := by
  refine sendPacket_rejects rfl rfl ?_
  have hle := toInt32_le f.length
  omega

theorem served_long (h : 6 < f.length) (hf : f.length ≤ 1024) :
    served env buffer f =
      if (headerOf f).dstAddr ≤ 15 then uplink env (headerOf f) (fillPacket f buffer)
      else carryOut env (headerOf f) (fillPacket f buffer) := by
  refine sendPacket_accepts rfl rfl ?_
  rw [toInt32_of_lt (by omega)]
  omega

end

theorem fillPacket_data_zero {f : List UInt8} (h : 6 < f.length) (hf : f.length ≤ 1024)
    (buffer : Packet) : (fillPacket f buffer).data 0 = byteAt f 6 := by
  have hn : (toInt32 f.length - 6).toNat = f.length - 6 := by
    rw [toInt32_of_lt (by omega)]
    omega
  have htake : (f.drop 6).take (f.length - 6) = f.drop 6 := List.take_of_length_le (by simp)
  simp [fillPacket, hn, htake, writeMem, byteAt, List.getD, h]

theorem commandOf_isSome (data : Nat → UInt8) :
    (commandOf data).isSome ↔ data 0 ∈ [0x00, 0x01, 0x02, 0x03, 0x06] := by
  unfold commandOf
  split_ifs <;> simp_all

theorem served_act_isSome (env : SendEnv) (buffer : Packet) {f : List UInt8}
    (hf : f.length ≤ 1024) : (served env buffer f).act.isSome ↔ Acts f := by
  by_cases h : 6 < f.length
  · rw [served_long env buffer h hf]
    by_cases hd : (headerOf f).dstAddr ≤ 15
    · simp [hd, h, Acts, uplink, SendRun.saveBackup]
    · simp [hd, h, Acts, carryOut_act, commandOf_isSome, fillPacket_data_zero h hf]
  · rw [served_short env buffer (Nat.not_lt.mp h)]
    simp [Acts, h]

theorem acts_append {f : List UInt8} (h : Acts f) (rest : List UInt8) : Acts (f ++ rest) := by
  obtain ⟨hl, ha⟩ := h
  have hb (i : Nat) (hi : i < 7) : byteAt (f ++ rest) i = byteAt f i := by
    have hlt : i < f.length := by omega
    simp [byteAt, List.getD, List.getElem?_append_left hlt]
  refine ⟨by simp; omega, ?_⟩
  rw [headerOf_eq] at ha ⊢
  simpa only [hb 0 (by decide), hb 1 (by decide), hb 6 (by decide)] using ha

theorem acts_take {f : List UInt8} (h : Acts f) : Acts (f.take 7) := by
  obtain ⟨hl, ha⟩ := h
  have hb (i : Nat) (hi : i < 7) : byteAt (f.take 7) i = byteAt f i := by
    simp [byteAt, List.getD, hi]
  refine ⟨by simp; omega, ?_⟩
  rw [headerOf_eq] at ha ⊢
  simpa only [hb 0 (by decide), hb 1 (by decide), hb 6 (by decide)] using ha

theorem serve_eq_nil (env : SendEnv) (chunks : List (List UInt8))
    (h : ∀ c ∈ chunks, c.length ≤ 1024 ∧ ¬ Acts c) (buffers : Nat → Packet) :
    serve env buffers chunks = [] := by
  induction chunks generalizing buffers with
  | nil => rfl
  | cons chunk chunks ih =>
      obtain ⟨hlen, hacts⟩ := h chunk List.mem_cons_self
      have hnone : (served env (buffers 0) chunk).act = none := by
        rw [← Option.not_isSome_iff_eq_none, served_act_isSome env _ hlen]
        exact hacts
      have hrest := ih (fun c hc => h c (List.mem_cons_of_mem _ hc)) fun i => buffers (i + 1)
      simp [serve, hnone, hrest]

theorem serve_singles (env : SendEnv) (bs : List UInt8) (chunks : List (List UInt8))
    (buffers : Nat → Packet) : ∃ buffers',
      serve env buffers (bs.map (fun b => [b]) ++ chunks) = serve env buffers' chunks := by
  induction bs generalizing buffers with
  | nil => exact ⟨buffers, rfl⟩
  | cons b bs ih =>
      obtain ⟨buffers', h⟩ := ih fun i => buffers (i + 1)
      refine ⟨buffers', ?_⟩
      have hs : served env (buffers 0) [b] = { fate := .returns (-1) } :=
        served_short env _ (by simp)
      simp [serve, hs, SendRun.returned, h]

theorem flatten_singles (bs : List UInt8) : (bs.map fun b => [b]).flatten = bs := by
  induction bs with
  | nil => rfl
  | cons b bs ih => simp [ih]

theorem chunking_singles (bs : List UInt8) : Chunking bs (bs.map fun b => [b]) := by
  refine ⟨flatten_singles bs, ?_⟩
  intro c hc
  obtain ⟨b, -, rfl⟩ := List.mem_map.mp hc
  simp

theorem not_acts_of_mem {chunks : List (List UInt8)} (h : ∀ i, ¬ Acts (chunks.flatten.drop i))
    {c : List UInt8} (hc : c ∈ chunks) : ¬ Acts c := by
  intro hacts
  obtain ⟨pre, post, rfl⟩ := List.append_of_mem hc
  refine h pre.flatten.length ?_
  have hdrop : (pre ++ c :: post).flatten.drop pre.flatten.length = c ++ post.flatten := by simp
  rw [hdrop]
  exact acts_append hacts post.flatten

theorem wellFormed_length {m : List UInt8} (h : WellFormed m) : 6 < m.length ∧ m.length ≤ 1024 := by
  obtain ⟨-, h1, hl⟩ := h
  have h5 := (byteAt m 5).toNat_lt
  omega

/-- If a window acts, the chunking that delivers it in one piece and all other bytes singly gives an
output. -/
theorem serve_window (env : SendEnv) {stream : List UInt8} {i : Nat}
    (hacts : Acts (stream.drop i)) : ∃ chunks, Chunking stream chunks ∧
      ∀ buffers, serve env buffers chunks ≠ [] := by
  let window := (stream.drop i).take 7
  let later := (stream.drop i).drop 7
  have hwin : Acts window := acts_take hacts
  have hlen : window.length ≤ 1024 := by
    simp only [window, List.length_take]
    omega
  obtain ⟨hflat1, hlen1⟩ := chunking_singles (stream.take i)
  obtain ⟨hflat2, hlen2⟩ := chunking_singles later
  refine ⟨(stream.take i).map (fun b => [b]) ++ window :: later.map (fun b => [b]), ⟨?_, ?_⟩, ?_⟩
  · simp only [List.flatten_append, List.flatten_cons, hflat1, hflat2, window, later,
      List.take_append_drop]
  · intro c hc
    obtain hc | hc := List.mem_append.mp hc
    · exact hlen1 c hc
    · obtain rfl | hc := List.mem_cons.mp hc
      · refine ⟨?_, hlen⟩
        intro hnil
        rw [hnil] at hwin
        exact absurd hwin.1 (by decide)
      · exact hlen2 c hc
  · intro buffers
    obtain ⟨buffers', h⟩ := serve_singles env (stream.take i)
      (window :: later.map fun b => [b]) buffers
    have hsome := (served_act_isSome env (buffers' 0) hlen).mpr hwin
    obtain ⟨act, hact⟩ := Option.isSome_iff_exists.mp hsome
    rw [h]
    simp [serve, hact]

theorem segmentation_iff_window (env : SendEnv) {msgs : List (List UInt8)}
    (hm : ∀ m ∈ msgs, WellFormed m) :
    (∀ chunks, Chunking msgs.flatten chunks → ∀ buffers,
      serve env buffers chunks = serve env buffers msgs) ↔
      ∀ i, ¬ Acts (msgs.flatten.drop i) := by
  constructor
  · intro h i hacts
    obtain ⟨chunks, hchunks, hne⟩ := serve_window env hacts
    have hone := h _ (chunking_singles msgs.flatten) fun _ => ⟨0, .zero, fun _ => 0⟩
    have hnil := serve_eq_nil env (msgs.flatten.map fun b => [b]) (by
      intro c hc
      obtain ⟨b, -, rfl⟩ := List.mem_map.mp hc
      exact ⟨by simp, fun h => absurd h.1 (by simp)⟩) fun _ => ⟨0, .zero, fun _ => 0⟩
    refine hne (fun _ => ⟨0, .zero, fun _ => 0⟩) ?_
    rw [h chunks hchunks, ← hone, hnil]
  · intro h chunks ⟨hflat, hlen⟩ buffers
    rw [← hflat] at h
    rw [serve_eq_nil env chunks fun c hc => ⟨(hlen c hc).2, not_acts_of_mem h hc⟩]
    rw [hflat] at h
    rw [serve_eq_nil env msgs fun m hmem =>
      ⟨(wellFormed_length (hm m hmem)).2, not_acts_of_mem h hmem⟩]

/- Telecommands: here only the messages themselves are good chunks. -/

def Output.size : Output → Nat
  | .packet _ _ _ _ payload => 6 + payload.length
  | .command _ => 0

def telecommand (m : List UInt8) : Output :=
  .packet (UInt8.ofInt (headerOf m).pri) (UInt8.ofInt (headerOf m).dstAddr)
    (UInt8.ofInt (headerOf m).dstPort) (UInt8.ofInt (headerOf m).srcPort) (m.drop 6)

section
variable {env : SendEnv}

theorem served_uplink (buffer : Packet) {f : List UInt8} (hb : env.backupOpens)
    (h : 6 < f.length) (hf : f.length ≤ 1024) (hd : (headerOf f).dstAddr ≤ 15) :
    (served env buffer f).act.map Act.output =
        some (.packet (UInt8.ofInt (headerOf f).pri) (UInt8.ofInt (headerOf f).dstAddr)
          (UInt8.ofInt (headerOf f).dstPort) (UInt8.ofInt (headerOf f).srcPort)
          (fillPacket f buffer).payload) ∧
      (served env buffer f).returned := by
  have hrun : served env buffer f = uplink env (headerOf f) (fillPacket f buffer) := by
    rw [served_long env buffer h hf, if_pos hd]
  rw [hrun]
  exact ⟨rfl, (uplink_returned env _ _).mpr hb⟩

theorem served_command (env : SendEnv) (buffer : Packet) {f : List UInt8} (hacts : Acts f)
    (hf : f.length ≤ 1024) (hd : 15 < (headerOf f).dstAddr) :
    ∃ c, (served env buffer f).act = some (.command c) := by
  have hsome := (served_act_isSome env buffer hf).mpr hacts
  rw [served_long env buffer hacts.1 hf, if_neg (Int.not_le.mpr hd), carryOut_act] at hsome ⊢
  obtain ⟨c, hc⟩ := Option.isSome_iff_exists.mp (Option.isSome_map.symm.trans hsome)
  exact ⟨c, by rw [hc]; rfl⟩

theorem serve_telecommands (hb : env.backupOpens) {msgs : List (List UInt8)}
    (hm : ∀ m ∈ msgs, WellFormed m ∧ (headerOf m).dstAddr ≤ 15) (buffers : Nat → Packet) :
    serve env buffers msgs = msgs.map telecommand := by
  induction msgs generalizing buffers with
  | nil => rfl
  | cons m msgs ih =>
      obtain ⟨hw, hd⟩ := hm m List.mem_cons_self
      obtain ⟨hlt, hle⟩ := wellFormed_length hw
      obtain ⟨hact, hret⟩ := served_uplink (buffers 0) hb hlt hle hd
      have hpay := fillPacket_payload hlt (by have := hw.2.2; omega) (buffers 0)
      have hrest := ih (fun x hx => hm x (List.mem_cons_of_mem _ hx)) fun i => buffers (i + 1)
      simp [serve, hact, hret, hrest, hpay, telecommand]

def zeros : Packet := ⟨0, .zero, fun _ => 0⟩
def ones : Packet := ⟨0, .zero, fun _ => 1⟩

theorem length_le_of_payload_eq {f : List UInt8} (h : 6 < f.length) (hf : f.length ≤ 1024)
    (heq : (fillPacket f zeros).payload = (fillPacket f ones).payload) :
    6 + (fillPacket f zeros).payload.length ≤ f.length := by
  have hn : (toInt32 f.length - 6).toNat = f.length - 6 := by
    rw [toInt32_of_lt (by omega)]
    omega
  have htake : (f.drop 6).take (f.length - 6) = f.drop 6 := List.take_of_length_le (by simp)
  have hpay (buffer : Packet) : (fillPacket f buffer).payload =
      (f.drop 6).take (byteAt f 5).toNat ++
        (readMem (byteAt f 5).toNat buffer.data).drop (f.length - 6) := by
    rw [Packet.payload, fillPacket_length]
    simp only [fillPacket, hn, htake, readMem_writeMem_zero, List.length_drop]
  rw [hpay, hpay] at heq
  have hdrop := List.append_cancel_left heq
  have hlen : (fillPacket f zeros).payload.length = (byteAt f 5).toNat := by
    rw [Packet.payload, length_readMem, fillPacket_length]
  rw [hlen]
  by_contra hlt
  have hat := congrArg (fun bs => bs[0]?) hdrop
  have hpos : f.length - 6 < (byteAt f 5).toNat := by omega
  simp [readMem, zeros, ones, hpos] at hat

/- Sizes accounted for, against sizes that have arrived. -/
def Accounted (sizes lengths : List Nat) : Prop :=
  sizes.sum ≤ lengths.sum ∧ (sizes.sum = lengths.sum → sizes = lengths)

theorem Accounted.cons {size length : Nat} {sizes lengths : List Nat} (h : size ≤ length)
    (hrest : Accounted sizes lengths) : Accounted (size :: sizes) (length :: lengths) := by
  obtain ⟨hsum, heq⟩ := hrest
  simp only [Accounted, List.sum_cons]
  refine ⟨by omega, ?_⟩
  intro htotal
  have hfirst : size = length := by omega
  rw [heq (by omega), hfirst]

theorem Accounted.skip {length : Nat} {sizes lengths : List Nat} (h : 0 < length)
    (hsum : sizes.sum ≤ lengths.sum) : Accounted sizes (length :: lengths) := by
  simp only [Accounted, List.sum_cons]
  exact ⟨by omega, fun htotal => absurd htotal (by omega)⟩

/-- Outputs that do not depend on the buffers account for no more bytes than have arrived, and for
all of them only if there is one for each chunk. -/
theorem accounted_of_serve (hb : env.backupOpens) {chunks : List (List UInt8)}
    (hc : ∀ c ∈ chunks, c ≠ [] ∧ c.length ≤ 1024) {outs : List Output}
    (ho : ∀ c, .command c ∉ outs) (h0 : serve env (fun _ => zeros) chunks = outs)
    (h1 : serve env (fun _ => ones) chunks = outs) :
    Accounted (outs.map Output.size) (chunks.map List.length) := by
  induction chunks generalizing outs with
  | nil =>
      subst h0
      exact ⟨Nat.le_refl _, fun _ => rfl⟩
  | cons c cs ih =>
      obtain ⟨hne, hlen⟩ := hc c List.mem_cons_self
      have hpos : 0 < c.length := List.length_pos_iff.mpr hne
      have hcs : ∀ c ∈ cs, c ≠ [] ∧ c.length ≤ 1024 := fun x hx => hc x (List.mem_cons_of_mem _ hx)
      by_cases hacts : Acts c
      · by_cases hd : (headerOf c).dstAddr ≤ 15
        · obtain ⟨hact0, hret0⟩ := served_uplink zeros hb hacts.1 hlen hd
          obtain ⟨hact1, hret1⟩ := served_uplink ones hb hacts.1 hlen hd
          rw [serve_cons, hact0, if_pos hret0] at h0
          rw [serve_cons, hact1, if_pos hret1] at h1
          subst h0
          simp only [Option.toList_some, List.singleton_append, List.cons.injEq,
            Output.packet.injEq, true_and] at h1
          obtain ⟨hpay, hrest⟩ := h1
          have hcmd : ∀ x, Output.command x ∉ serve env (fun _ => zeros) cs := by
            intro x hx
            exact ho x (List.mem_cons_of_mem _ hx)
          exact (ih hcs hcmd rfl hrest).cons (length_le_of_payload_eq hacts.1 hlen hpay.symm)
        · obtain ⟨x, hx⟩ := served_command env zeros hacts hlen (Int.not_le.mp hd)
          rw [serve_cons, hx, Option.map_some, Option.toList_some, List.singleton_append] at h0
          have hmem : Output.command x ∈ outs := by
            rw [← h0]
            exact List.mem_cons_self
          exact absurd hmem (ho x)
      · have hnone (buffer : Packet) : (served env buffer c).act = none := by
          rw [← Option.not_isSome_iff_eq_none, served_act_isSome env _ hlen]
          exact hacts
        rw [serve_cons, hnone, Option.map_none, Option.toList_none, List.nil_append] at h0 h1
        have hstop : outs = [] ∨ serve env (fun _ => zeros) cs = outs ∧
            serve env (fun _ => ones) cs = outs := by
          cases hr0 : (served env zeros c).returned with
          | false =>
              simp only [hr0, Bool.false_eq_true, if_false] at h0
              exact Or.inl h0.symm
          | true =>
              cases hr1 : (served env ones c).returned with
              | false =>
                  simp only [hr1, Bool.false_eq_true, if_false] at h1
                  exact Or.inl h1.symm
              | true =>
                  simp only [hr0, if_true] at h0
                  simp only [hr1, if_true] at h1
                  exact Or.inr ⟨h0, h1⟩
        obtain rfl | ⟨h0, h1⟩ := hstop
        · exact Accounted.skip hpos (Nat.zero_le _)
        · exact Accounted.skip hpos (ih hcs ho h0 h1).1

theorem size_telecommand {m : List UInt8} (h : WellFormed m) :
    (telecommand m).size = m.length := by
  have hl := wellFormed_length h
  simp only [telecommand, Output.size, List.length_drop]
  omega

theorem serve_telecommands_iff (hb : env.backupOpens) {msgs chunks : List (List UInt8)}
    (hm : ∀ m ∈ msgs, WellFormed m ∧ (headerOf m).dstAddr ≤ 15)
    (hc : Chunking msgs.flatten chunks) :
    (∀ buffers, serve env buffers chunks = serve env buffers msgs) ↔ chunks = msgs := by
  constructor
  · intro h
    obtain ⟨hflat, hchunks⟩ := hc
    have hsize : (msgs.map telecommand).map Output.size = msgs.map List.length := by
      rw [List.map_map]
      exact List.map_congr_left fun m hmem => size_telecommand (hm m hmem).1
    have hcmd : ∀ x, Output.command x ∉ msgs.map telecommand := by
      intro x hx
      obtain ⟨m, -, hx⟩ := List.mem_map.mp hx
      simp [telecommand] at hx
    obtain ⟨-, heq⟩ := accounted_of_serve hb hchunks hcmd
      ((h _).trans (serve_telecommands hb hm _)) ((h _).trans (serve_telecommands hb hm _))
    have hlens : chunks.map List.length = msgs.map List.length := by
      rw [← hsize]
      refine (heq ?_).symm
      rw [hsize, ← List.length_flatten, ← List.length_flatten, hflat]
    exact List.eq_iff_flatten_eq.mpr ⟨hflat, hlens⟩
  · rintro rfl buffers
    rfl

end

/-- Segmentation makes no difference for a stream exactly when none of its windows would make
`send_packet` do something; and of the chunkings of telecommands exactly the messages themselves
give the messages' outputs whatever the buffers hold. -/
theorem segmentation_independent_iff (env : SendEnv) {msgs : List (List UInt8)}
    (hm : ∀ m ∈ msgs, WellFormed m) :
    ((∀ chunks, Chunking msgs.flatten chunks → ∀ buffers,
      serve env buffers chunks = serve env buffers msgs) ↔
        ∀ i, ¬ Acts (msgs.flatten.drop i)) ∧
      (env.backupOpens → (∀ m ∈ msgs, (headerOf m).dstAddr ≤ 15) →
        ∀ chunks, Chunking msgs.flatten chunks →
          ((∀ buffers, serve env buffers chunks = serve env buffers msgs) ↔ chunks = msgs)) :=
  ⟨segmentation_iff_window env hm, fun hb hd _ hc =>
    serve_telecommands_iff hb (fun m hmem => ⟨hm m hmem, hd m hmem⟩) hc⟩

def ping : List UInt8 := [0, 0x10, 0, 0, 0, 1, 0xAA]

theorem wellFormed_ping : WellFormed ping := by
  refine ⟨rfl, ?_, ?_⟩ <;> decide

theorem dstAddr_ping : (headerOf ping).dstAddr ≤ 15 := by
  rw [headerOf_eq]
  decide

/-- The first of two pings is cut behind its fourth byte, and its rest comes with the second. -/
theorem segmentation_independent_iff_ping :
    (¬ ∀ buffers, serve (callWith .little usedBuffer []) buffers [ping.take 4, ping.drop 4 ++ ping] =
      serve (callWith .little usedBuffer []) buffers [ping, ping]) ∧
    ∃ i, Acts ([ping, ping].flatten.drop i) := by
  obtain ⟨hall, hexact⟩ := @segmentation_independent_iff (callWith .little usedBuffer [])
    [ping, ping] (by simp [wellFormed_ping])
  have hcut : Chunking [ping, ping].flatten [ping.take 4, ping.drop 4 ++ ping] :=
    ⟨rfl, by simp [ping]⟩
  have hdiffer := hexact rfl (by simp [dstAddr_ping]) _ hcut
  refine ⟨hdiffer.not.mpr (by decide), ?_⟩
  by_contra hnone
  rw [not_exists] at hnone
  have hsame := hall.mpr hnone _ hcut
  exact absurd (hdiffer.mp hsame) (by decide)

/-- Two pings that arrive together give one packet. -/
theorem not_segmentation_independent : ¬ ∀ (env : SendEnv) (msgs : List (List UInt8)),
    (∀ m ∈ msgs, WellFormed m) → ∀ chunks, Chunking msgs.flatten chunks → ∀ buffers,
      serve env buffers chunks = serve env buffers msgs := by
  intro h
  have hw : ∀ m ∈ [ping, ping], WellFormed m := by simp [wellFormed_ping]
  have hd : ∀ m ∈ [ping, ping], WellFormed m ∧ (headerOf m).dstAddr ≤ 15 := by
    simp [wellFormed_ping, dstAddr_ping]
  have hc : Chunking [ping, ping].flatten [ping ++ ping] := ⟨rfl, by simp [ping]⟩
  have hb : (callWith .little usedBuffer []).backupOpens := rfl
  have heq := (serve_telecommands_iff hb hd hc).mp (h _ _ hw _ hc)
  exact absurd heq (by decide)

end UhfGs.Station
