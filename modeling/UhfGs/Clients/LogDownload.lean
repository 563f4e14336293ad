import UhfGs.Clients.Transaction
import UhfGs.Library.Stores

/-! The logs of the radio, which the client lays into an array of its caller. -/
namespace UhfGs.Clients
open Csp Bytes

def convertField {α : Type} (p : Packed α) (ntoh : α → α) (e : Endian) (off : Nat) : Update where
  off := off
  width := p.size
  value bs := p.store e (ntoh (p.load e bs))
  length_value _ := p.length_store e _

def convert16 (e : Endian) : Nat → Update := convertField Packed.u16 (cspNtoh16 e) e

def convert32 (e : Endian) : Nat → Update := convertField Packed.u32 (cspNtoh32Word e) e

section
variable (e : Endian) (off : Nat)

@[simp] theorem off_convert16 : (convert16 e off).off = off := rfl

@[simp] theorem width_convert16 : (convert16 e off).width = 2 := rfl

@[simp] theorem off_convert32 : (convert32 e off).off = off := rfl

@[simp] theorem width_convert32 : (convert32 e off).width = 4 := rfl

end

/-- What a download returns, `*count` behind it, and its stores into `data`. -/
structure Download where
  code : Int
  count : UInt8
  stores : List Store

def Download.memory (d : Download) (m : Int → UInt8) : Int → UInt8 := d.stores.foldl Store.apply m

/-- `com_get_log_rssi` and `com_get_hk`, which differ in their port and entries. -/
def comDownload (link : Link) (node port : UInt8) (timeout : UInt32) (size : Nat)
    (entry : Nat → List Update) (data : Int → UInt8) (count : UInt8) : Download :=
  let x := cspTransaction link ⟨2, node, port, timeout, [], -1⟩
  let copied := x.received.toList.map fun bytes => ⟨0, bytes⟩
  if x.status = 0 then ⟨0, count, copied⟩
  else if x.status.toNat % size ≠ 0 then ⟨0, count, copied⟩
  else
    let entries := x.status.toNat / size
    let converted :=
      Update.stores ((List.range entries).flatMap entry) (copied.foldl Store.apply data)
    ⟨1, UInt8.ofNat entries, copied ++ converted⟩

/- `nanocom_rssi_t`: the time, the measured RSSI and RF error. -/
def rssiEntry (e : Endian) (i : Nat) : List Update :=
  [convert32 e (8 * i), convert16 e (8 * i + 4), convert16 e (8 * i + 6)]

/- `nanocom_hk_t`: the time, two temperatures and the battery voltage. -/
def hkEntry (e : Endian) (i : Nat) : List Update :=
  [convert16 e (10 * i + 8), convert16 e (10 * i + 4), convert16 e (10 * i + 6),
    convert32 e (10 * i)]

section
variable (e : Endian) (link : Link)

def comGetLogRssi (data : Int → UInt8) (count node : UInt8) (timeout : UInt32) : Download :=
  comDownload link node 10 timeout 8 (rssiEntry e) data count

def comGetHk (data : Int → UInt8) (count node : UInt8) (timeout : UInt32) : Download :=
  comDownload link node 9 timeout 10 (hkEntry e) data count

def cmdComGetLogRssi (logd : Int → UInt8) (comNode : UInt8) (comTimeout : UInt32) :
    Int × List (UInt32 × Int16 × Int16) :=
  let d := comGetLogRssi e link logd 10 comNode comTimeout
  let m := d.memory logd
  if d.code = 0 then (-1, [])
  else
    (0, (List.range d.count.toNat).map fun i =>
      (Packed.u32.load e (bytesAt m (8 * i) 4), (Packed.u16.load e (bytesAt m (8 * i + 4) 2)).toInt16,
        (Packed.u16.load e (bytesAt m (8 * i + 6) 2)).toInt16))

def cmdComGetLogHk (hkd : Int → UInt8) (comNode : UInt8) (comTimeout : UInt32) :
    Int × List (UInt32 × Int16 × Int16 × UInt16) :=
  let d := comGetHk e link hkd 10 comNode comTimeout
  let m := d.memory hkd
  if d.code = 0 then (-1, [])
  else
    (0, (List.range d.count.toNat).map fun i =>
      (Packed.u32.load e (bytesAt m (10 * i) 4),
        (Packed.u16.load e (bytesAt m (10 * i + 4) 2)).toInt16,
        (Packed.u16.load e (bytesAt m (10 * i + 6) 2)).toInt16,
        Packed.u16.load e (bytesAt m (10 * i + 8) 2)))

end

inductive RadioLog where
  | rssi
  | hk
  deriving DecidableEq, Repr

namespace RadioLog

def size : RadioLog → Nat
  | .rssi => 8
  | .hk => 10

def get (e : Endian) (link : Link) : RadioLog → (Int → UInt8) → UInt8 → UInt8 → UInt32 → Download
  | .rssi => comGetLogRssi e link
  | .hk => comGetHk e link

end RadioLog

/-- What the callers, whose arrays have ten entries, may ask of a download: it writes to no other
place, counts the entries that it writes, and refuses what is no part of a log of that length. -/
structure Bounded (size : Nat) (link : Link) (data : Int → UInt8) (d : Download) : Prop where
  inside : ∀ s ∈ d.stores, s.Inside 0 (10 * size)
  counted : d.code = 1 → d.count.toNat ≤ 10 ∧
    ∀ i, Store.Touches d.stores i ↔ 0 ≤ i ∧ i < d.count.toNat * size
  refused : link.Sends → ∀ reply, link.reply = some reply →
    reply = [] ∨ ¬ size ∣ reply.length ∨ 10 * size < reply.length →
      d.code = 0 ∧ d.count = 10 ∧ ∀ i : Int, 0 ≤ i → i < 10 * size → d.memory data i = data i

/-- The statements for an entry write to that entry, each to another place. -/
structure InEntry (size : Nat) (entry : Nat → List Update) : Prop where
  inside : ∀ i, ∀ u ∈ entry i, size * i ≤ u.off ∧ u.off + u.width ≤ size * i + size
  disjoint : ∀ i, (entry i).Pairwise Update.Disjoint

theorem inEntry_rssiEntry (e : Endian) : InEntry 8 (rssiEntry e) where
  inside i u hu := by
    simp only [rssiEntry, List.mem_cons, List.not_mem_nil, or_false] at hu
    obtain rfl | rfl | rfl := hu <;> simp
  disjoint i := by
    simp [rssiEntry, Update.Disjoint]

theorem inEntry_hkEntry (e : Endian) : InEntry 10 (hkEntry e) where
  inside i u hu := by
    simp only [hkEntry, List.mem_cons, List.not_mem_nil, or_false] at hu
    obtain rfl | rfl | rfl | rfl := hu <;> simp
  disjoint i := by
    simp [hkEntry, Update.Disjoint]

section
variable {link : Link} {node port : UInt8} {timeout : UInt32} {size : Nat}
  {entry : Nat → List Update} {data : Int → UInt8} {count : UInt8}
  {reply : List UInt8}

theorem entry_le {i n : Nat} (h : i < n) : size * i + size ≤ size * n := by
  rw [← Nat.mul_succ]
  exact Nat.mul_le_mul_left size h

theorem inside_entries (h : InEntry size entry) (n : Nat) (m : Int → UInt8) :
    ∀ s ∈ Update.stores ((List.range n).flatMap entry) m, s.Inside 0 (size * n : Nat) := by
  refine Update.forall_mem_stores (fun u hu m => ?_) m
  obtain ⟨i, hi, hu⟩ := List.mem_flatMap.mp hu
  have hend := @entry_le size i n (List.mem_range.mp hi)
  obtain ⟨hlo, hhi⟩ := u.inside_store m
  have hu' := (h.inside i u hu).2
  exact ⟨by omega, by omega⟩

theorem disjoint_entries (h : InEntry size entry) (n : Nat) :
    ((List.range n).flatMap entry).Pairwise Update.Disjoint := by
  refine List.pairwise_flatMap.mpr ⟨fun i _ => h.disjoint i, ?_⟩
  refine List.pairwise_lt_range.imp fun {i j} hij u hu v hv => .inl ?_
  have hu' := (h.inside i u hu).2
  have hv' := (h.inside j v hv).1
  have hstep := @entry_le size i j hij
  omega

theorem comDownload_silent (h : ¬ link.Succeeds (-1)) :
    comDownload link node port timeout size entry data count = ⟨0, count, []⟩ := by
  obtain ⟨hstatus, hreceived⟩ :=
    cspTransaction_of_not_succeeds ⟨2, node, port, timeout, [], -1⟩ h
  simp only [comDownload, hstatus, hreceived]
  rfl

theorem comDownload_refused (hs : link.Sends) (hr : link.reply = some reply)
    (h : reply = [] ∨ ¬ size ∣ reply.length) :
    comDownload link node port timeout size entry data count = ⟨0, count, [⟨0, reply⟩]⟩ := by
  have hx := cspTransaction_of_answer ⟨2, node, port, timeout, [], -1⟩ hs (by simp) hr (.inl rfl)
  simp only [comDownload, hx, Option.toList_some, List.map_cons, List.map_nil]
  split
  · rfl
  · rename_i hstatus
    have hmod : reply.length % size ≠ 0 := fun hmod => by
      obtain rfl | hdvd := h
      · exact hstatus rfl
      · exact hdvd (Nat.dvd_of_mod_eq_zero hmod)
    rw [if_pos]
    exact hmod

theorem comDownload_taken (hs : link.Sends) (hr : link.reply = some reply) (hne : reply ≠ [])
    (h : size ∣ reply.length) :
    comDownload link node port timeout size entry data count =
      ⟨1, UInt8.ofNat (reply.length / size), ⟨0, reply⟩ ::
        Update.stores ((List.range (reply.length / size)).flatMap entry)
          (Store.apply data ⟨0, reply⟩)⟩ := by
  have hx := cspTransaction_of_answer ⟨2, node, port, timeout, [], -1⟩ hs (by simp) hr (.inl rfl)
  have hstatus : ¬ (reply.length : Int) = 0 := by
    have hpos := List.length_pos_of_ne_nil hne
    omega
  have hmod : ¬ (reply.length : Int).toNat % size ≠ 0 :=
    not_not.mpr (Nat.mod_eq_zero_of_dvd h)
  simp only [comDownload, hx, Option.toList_some, List.map_cons, List.map_nil, hstatus, hmod,
    if_false]
  rfl

theorem toNat_count (hlen : reply.length ≤ 10 * size) :
    (UInt8.ofNat (reply.length / size)).toNat = reply.length / size := by
  have hentries : reply.length / size ≤ 10 := Nat.div_le_of_le_mul (by omega)
  rw [toNat_ofNat, Nat.mod_eq_of_lt (Nat.lt_of_le_of_lt hentries (by decide))]

theorem bounded_taken (hentry : InEntry size entry) (hs : link.Sends)
    (hr : link.reply = some reply) (hne : reply ≠ []) (h : size ∣ reply.length)
    (hlen : reply.length ≤ 10 * size) :
    Bounded size link data (comDownload link node port timeout size entry data count) := by
  have hlength : size * (reply.length / size) = reply.length := Nat.mul_div_cancel' h
  have hpos := List.length_pos_of_ne_nil hne
  have hentries : reply.length / size ≤ 10 := Nat.div_le_of_le_mul (by omega)
  rw [comDownload_taken hs hr hne h]
  have hinside : ∀ s ∈ (⟨0, reply⟩ : Store) ::
      Update.stores ((List.range (reply.length / size)).flatMap entry)
        (Store.apply data ⟨0, reply⟩), s.Inside 0 reply.length := by
    refine List.forall_mem_cons.mpr ⟨⟨le_rfl, by simp⟩, fun s hs => ?_⟩
    have hrun := inside_entries hentry _ _ s hs
    rwa [hlength] at hrun
  refine ⟨fun s hs => ⟨(hinside s hs).1, (hinside s hs).2.trans (by omega)⟩, fun _ => ?_, ?_⟩
  · rw [toNat_count hlen]
    refine ⟨hentries, fun i => ?_⟩
    have hend : ((reply.length / size : Nat) : Int) * size = reply.length := by
      rw [mul_comm]
      exact_mod_cast hlength
    rw [hend]
    exact ⟨fun hi => hi.inside hinside,
      fun hi => ⟨_, List.mem_cons_self, by simpa using hi⟩⟩
  · intro _ reply' hr' hbad
    obtain rfl : reply = reply' := Option.some.inj (hr.symm.trans hr')
    obtain hbad | hbad | hbad := hbad
    · exact absurd hbad hne
    · exact absurd h hbad
    · omega

theorem bytesAt_taken (hentry : InEntry size entry) (hs : link.Sends) (hr : link.reply = some reply)
    (hne : reply ≠ []) (h : size ∣ reply.length) {i : Nat} (hi : i < reply.length / size)
    {u : Update} (hu : u ∈ entry i) :
    bytesAt ((comDownload link node port timeout size entry data count).memory data) u.off u.width =
      u.value ((reply.drop u.off).take u.width) ∧ u.off + u.width ≤ reply.length := by
  have hmem : u ∈ (List.range (reply.length / size)).flatMap entry :=
    List.mem_flatMap.mpr ⟨i, List.mem_range.mpr hi, hu⟩
  have hend : u.off + u.width ≤ reply.length := by
    have hlength : size * (reply.length / size) = reply.length := Nat.mul_div_cancel' h
    have hstep := @entry_le size i _ hi
    have hu' := (hentry.inside i u hu).2
    omega
  refine ⟨?_, hend⟩
  rw [comDownload_taken hs hr hne h, Download.memory, List.foldl_cons,
    Update.bytesAt_stores (disjoint_entries hentry _) hmem, bytesAt_apply_front data hend]

theorem load_taken {α : Type} {p : Packed α} {ntoh : α → α} {e : Endian} {i off : Nat}
    (hlocal : p.Local)
    (hntoh : ∀ bs : List UInt8, p.size ≤ bs.length → ntoh (p.load e bs) = p.load .big bs)
    (hentry : InEntry size entry) (hs : link.Sends) (hr : link.reply = some reply) (hne : reply ≠ [])
    (h : size ∣ reply.length) (hi : i < reply.length / size)
    (hu : convertField p ntoh e off ∈ entry i) :
    p.load e (bytesAt
        ((comDownload link node port timeout size entry data count).memory data) off p.size) =
      p.load .big (reply.drop off) := by
  obtain ⟨hbytes, hend⟩ :=
    @bytesAt_taken link node port timeout size entry data count reply hentry hs hr hne h i hi _ hu
  have hlen : p.size ≤ ((reply.drop off).take p.size).length := by
    simp only [convertField] at hend
    rw [List.length_take, List.length_drop]
    omega
  refine (congrArg (p.load e) hbytes).trans ?_
  change p.load e (p.store e _) = _
  rw [p.load_store_self]
  exact (hntoh _ hlen).trans (hlocal .big _ p.size le_rfl)

theorem load16_taken {e : Endian} {i off : Nat} (hentry : InEntry size entry) (hs : link.Sends)
    (hr : link.reply = some reply) (hne : reply ≠ []) (h : size ∣ reply.length)
    (hi : i < reply.length / size) (hu : convert16 e off ∈ entry i) :
    Packed.u16.load e
        (bytesAt ((comDownload link node port timeout size entry data count).memory data) off 2) =
      Packed.u16.load .big (reply.drop off) :=
  load_taken Packed.u16_local (fun _ hlen => cspNtoh16_load e hlen) hentry hs hr hne h hi hu

theorem load32_taken {e : Endian} {i off : Nat} (hentry : InEntry size entry) (hs : link.Sends)
    (hr : link.reply = some reply) (hne : reply ≠ []) (h : size ∣ reply.length)
    (hi : i < reply.length / size) (hu : convert32 e off ∈ entry i) :
    Packed.u32.load e
        (bytesAt ((comDownload link node port timeout size entry data count).memory data) off 4) =
      Packed.u32.load .big (reply.drop off) :=
  load_taken Packed.u32_local (fun _ hlen => cspNtoh32Word_load e hlen) hentry hs hr hne h hi hu

theorem bounded_refused (hs : link.Sends) (hr : link.reply = some reply)
    (h : reply = [] ∨ ¬ size ∣ reply.length) :
    Bounded size link data (comDownload link node port timeout size entry data 10) ↔
      reply.length ≤ 10 * size ∧ reply = bytesAt data 0 reply.length := by
  rw [comDownload_refused hs hr h]
  constructor
  · intro hb
    have hlen := (hb.inside ⟨0, reply⟩ List.mem_cons_self).2
    simp only at hlen
    obtain ⟨-, -, hmem⟩ := hb.refused hs reply hr (h.imp_right .inl)
    exact ⟨by omega, eq_bytesAt fun i hi => hmem i (by omega) (by omega)⟩
  · rintro ⟨hlen, heq⟩
    refine ⟨fun s hs => ?_, fun hcode => absurd hcode (by simp), fun _ _ _ _ => ⟨rfl, rfl, ?_⟩⟩
    · obtain rfl := List.mem_singleton.mp hs
      exact ⟨le_rfl, by simp only; omega⟩
    · intro i _ _
      change Store.apply data ⟨0, reply⟩ i = data i
      rw [heq, apply_bytesAt]

theorem bounded_comDownload_iff (hentry : InEntry size entry) :
    Bounded size link data (comDownload link node port timeout size entry data 10) ↔
      (link.Sends → ∀ reply, link.reply = some reply → reply.length ≤ 10 * size ∧
        (size ∣ reply.length ∨ reply = bytesAt data 0 reply.length)) := by
  by_cases h : link.Succeeds (-1)
  · obtain ⟨hs, h0 | ⟨reply, hr, -⟩⟩ := h
    · cases h0
    · have hone (p : List UInt8 → Prop) :
          (link.Sends → ∀ reply, link.reply = some reply → p reply) ↔ p reply :=
        ⟨fun hp => hp hs reply hr, fun hp _ reply' hr' => Option.some.inj (hr.symm.trans hr') ▸ hp⟩
      rw [hone]
      by_cases hbad : reply = [] ∨ ¬ size ∣ reply.length
      · rw [bounded_refused hs hr hbad]
        refine and_congr_right fun _ => ⟨.inr, ?_⟩
        rintro (hdvd | heq)
        · obtain rfl | hnot := hbad
          · rfl
          · exact absurd hdvd hnot
        · exact heq
      · obtain ⟨hne, hdvd⟩ := not_or.mp hbad
        have hdvd := not_not.mp hdvd
        refine ⟨fun hb => ⟨?_, .inl hdvd⟩, fun hlen => bounded_taken hentry hs hr hne hdvd hlen.1⟩
        rw [comDownload_taken hs hr hne hdvd] at hb
        have hlen := (hb.inside ⟨0, reply⟩ List.mem_cons_self).2
        simp only at hlen
        omega
  · have hno (reply : List UInt8) (hs : link.Sends) (hr : link.reply = some reply) : False :=
      h ⟨hs, .inr ⟨reply, hr, .inl rfl⟩⟩
    rw [comDownload_silent h]
    refine iff_of_true ?_ fun hs reply hr => (hno reply hs hr).elim
    exact ⟨List.forall_mem_nil _, fun hcode => absurd hcode (by simp),
      fun hs reply hr => (hno reply hs hr).elim⟩

end

section
variable {e : Endian} {link : Link} {comNode : UInt8} {comTimeout : UInt32} {reply : List UInt8}

theorem cmdComGetLogRssi_answered (logd : Int → UInt8) (hs : link.Sends)
    (hr : link.reply = some reply) (hne : reply ≠ []) (h : 8 ∣ reply.length)
    (hlen : reply.length ≤ 80) :
    cmdComGetLogRssi e link logd comNode comTimeout =
      (0, (List.range (reply.length / 8)).map fun i =>
        (Packed.u32.load .big (reply.drop (8 * i)),
          (Packed.u16.load .big (reply.drop (8 * i + 4))).toInt16,
          (Packed.u16.load .big (reply.drop (8 * i + 6))).toInt16)) := by
  have hentry := inEntry_rssiEntry e
  have hd := @comDownload_taken link comNode 10 comTimeout 8 (rssiEntry e) logd 10 reply hs hr hne h
  have hcode : ¬ (comGetLogRssi e link logd 10 comNode comTimeout).code = 0 := by
    rw [comGetLogRssi, hd]
    exact one_ne_zero
  have hcount : (comGetLogRssi e link logd 10 comNode comTimeout).count.toNat = reply.length / 8 := by
    rw [comGetLogRssi, hd, toNat_count hlen]
  simp only [cmdComGetLogRssi, hcode, hcount, if_false]
  refine Prod.ext rfl (List.map_congr_left fun i hi => ?_)
  have hi := List.mem_range.mp hi
  exact Prod.ext (load32_taken hentry hs hr hne h hi (by simp [rssiEntry]))
    (Prod.ext
      (congrArg UInt16.toInt16 (load16_taken hentry hs hr hne h hi (by simp [rssiEntry])))
      (congrArg UInt16.toInt16 (load16_taken hentry hs hr hne h hi (by simp [rssiEntry]))))

theorem cmdComGetLogHk_answered (hkd : Int → UInt8) (hs : link.Sends)
    (hr : link.reply = some reply) (hne : reply ≠ []) (h : 10 ∣ reply.length)
    (hlen : reply.length ≤ 100) :
    cmdComGetLogHk e link hkd comNode comTimeout =
      (0, (List.range (reply.length / 10)).map fun i =>
        (Packed.u32.load .big (reply.drop (10 * i)),
          (Packed.u16.load .big (reply.drop (10 * i + 4))).toInt16,
          (Packed.u16.load .big (reply.drop (10 * i + 6))).toInt16,
          Packed.u16.load .big (reply.drop (10 * i + 8)))) := by
  have hentry := inEntry_hkEntry e
  have hd := @comDownload_taken link comNode 9 comTimeout 10 (hkEntry e) hkd 10 reply hs hr hne h
  have hcode : ¬ (comGetHk e link hkd 10 comNode comTimeout).code = 0 := by
    rw [comGetHk, hd]
    exact one_ne_zero
  have hcount : (comGetHk e link hkd 10 comNode comTimeout).count.toNat = reply.length / 10 := by
    rw [comGetHk, hd, toNat_count hlen]
  simp only [cmdComGetLogHk, hcode, hcount, if_false]
  refine Prod.ext rfl (List.map_congr_left fun i hi => ?_)
  have hi := List.mem_range.mp hi
  exact Prod.ext (load32_taken hentry hs hr hne h hi (by simp [hkEntry]))
    (Prod.ext
      (congrArg UInt16.toInt16 (load16_taken hentry hs hr hne h hi (by simp [hkEntry])))
      (Prod.ext
        (congrArg UInt16.toInt16 (load16_taken hentry hs hr hne h hi (by simp [hkEntry])))
        (load16_taken hentry hs hr hne h hi (by simp [hkEntry]))))

end

/-- The array is safe from every reply but those that are longer, or that are no whole number of
entries and do not happen to be what the array holds. -/
theorem bounded_get_iff (log : RadioLog) (e : Endian) (link : Link) (data : Int → UInt8)
    (node : UInt8) (timeout : UInt32) :
    Bounded log.size link data (log.get e link data 10 node timeout) ↔
      (link.Sends → ∀ reply, link.reply = some reply → reply.length ≤ 10 * log.size ∧
        (log.size ∣ reply.length ∨ reply = bytesAt data 0 reply.length)) := by
  cases log with
  | rssi => exact bounded_comDownload_iff (inEntry_rssiEntry e)
  | hk => exact bounded_comDownload_iff (inEntry_hkEntry e)

/-- Eleven entries end behind the array. -/
theorem get_overruns :
    ¬ ∀ (log : RadioLog) (e : Endian) (link : Link) (data : Int → UInt8) (node : UInt8)
      (timeout : UInt32), Bounded log.size link data (log.get e link data 10 node timeout) := by
  intro h
  let link : Link := ⟨true, some fun _ => 0, true, some (List.replicate 88 0)⟩
  have hb := h .rssi .little link (fun _ => 0) 5 2000
  have hlen := (bounded_comDownload_iff (inEntry_rssiEntry .little)).mp hb ⟨rfl, rfl, rfl⟩ _ rfl
  exact absurd hlen.1 (by simp)

end UhfGs.Clients
