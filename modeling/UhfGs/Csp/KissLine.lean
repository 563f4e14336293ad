import UhfGs.Csp.KissRx
import UhfGs.Csp.ByteOrder

/-! From one KISS interface to another over a line: what `csp_kiss_rx` makes of the frames that
`csp_kiss_tx` sends. -/
namespace UhfGs.Csp
open Bytes

/-- The bytes of a frame between its delimiters, escapes undone: identifier, payload, checksum. -/
def frameBytes (p : Packet) : List UInt8 :=
  beBytes (p.id.ext .big) ++ (p.payload ++ checksum p.payload)

theorem length_frameBytes (p : Packet) : (frameBytes p).length = p.length.toNat + 8 := by
  simp only [frameBytes, List.length_append, length_beBytes, length_payload, length_checksum]
  omega

theorem cspKissTx_line (e : Endian) {p : Packet} (h : p.length.toNat + 8 < 2 ^ 16) :
    (cspKissTx e true p).2 = FEND :: TNC_DATA :: (kiss.stuff (frameBytes p) ++ [FEND]) := by
  have hlen : (cspCrc32Append e p).length.toNat = p.length.toNat + 4 := by
    change (p.length + 4).toNat = _
    rw [UInt16.toNat_add]
    exact Nat.mod_eq_of_lt (by simp only [UInt16.reduceToNat]; omega)
  have hall : ((cspCrc32Append e p).length + 4).toNat = 4 + (cspCrc32Append e p).length.toNat := by
    rw [UInt16.toNat_add, hlen]
    simp only [UInt16.reduceToNat]
    omega
  have hdata (m : Nat → UInt8) (n : Nat) :
      (readMem (4 + n) fun i => m (i - 4)).drop 4 = readMem n m := by
    rw [readMem_add, List.drop_left' (length_readMem _ _)]
    simp
  have hbytes : readMem ((cspCrc32Append e p).length + 4).toNat (idAndData e (cspCrc32Append e p)) =
      frameBytes p := by
    rw [hall, idAndData, readMem_writeMem_zero, bytes_cspHton32, CspId.ext_eq, length_beBytes,
      hdata, List.take_of_length_le (by simp), frameBytes, cspCrc32Append_id]
    exact congrArg (beBytes _ ++ ·) (cspCrc32Append_payload e (by omega))
  simp only [cspKissTx, if_true, hbytes]

theorem store_big_four (w : Nat) : Endian.big.store 4 w = beBytes w := by
  have h1 : w / 256 = w / 2 ^ 8 := rfl
  have h2 : w / 2 ^ 8 / 256 = w / 2 ^ 16 := by omega
  have h3 : w / 2 ^ 16 / 256 = w / 2 ^ 24 := by omega
  simp only [Endian.store, leBytes, beBytes, List.reverse_cons, List.reverse_nil, List.nil_append,
    List.cons_append, h1, h2, h3]

namespace KissRx

theorem framed_length {e : Endian} {bs : List UInt8} (hlen : bs.length < 2 ^ 16)
    (m : Nat → UInt8) :
    (framed e bs.length (writeMem 0 bs m)).length.toNat = bs.length - 4 := by
  have hlt : bs.length - 4 < UInt16.size := by
    change _ < 2 ^ 16
    omega
  rw [framed, UInt16.toNat_ofNat_of_lt' hlt]

theorem framed_payload {e : Endian} {bs : List UInt8} (h4 : 4 ≤ bs.length)
    (hlen : bs.length < 2 ^ 16) (m : Nat → UInt8) :
    (framed e bs.length (writeMem 0 bs m)).payload = bs.drop 4 := by
  have hread := readMem_writeMem_zero bs.length bs m
  rw [List.take_length, List.drop_of_length_le (by simp), List.append_nil] at hread
  have hsplit := readMem_add 4 (bs.length - 4) (writeMem 0 bs m)
  rw [show 4 + (bs.length - 4) = bs.length by omega, hread] at hsplit
  rw [Packet.payload, framed_length hlen]
  calc readMem (bs.length - 4) (fun i => writeMem 0 bs m (i + 4))
      = readMem (bs.length - 4) (fun i => writeMem 0 bs m (4 + i)) := by simp only [Nat.add_comm]
    _ = bs.drop 4 := by
      have hdrop := congrArg (List.drop 4) hsplit
      rw [List.drop_left' (length_readMem _ _)] at hdrop
      exact hdrop.symm

theorem framed_id {e : Endian} (id : CspId) (body : List UInt8) (m : Nat → UInt8) (n : Nat) :
    (framed e n (writeMem 0 (beBytes (id.ext .big) ++ body) m)).id = id := by
  have hread : readMem 4 (writeMem 0 (beBytes (id.ext .big) ++ body) m) =
      Endian.big.store 4 (id.ext .big) := by
    rw [readMem_writeMem_zero, List.drop_of_length_le (by simp), List.append_nil,
      List.take_left' (length_beBytes _), store_big_four]
  have hlt : id.ext .big < 256 ^ 4 := id.ext_lt .big
  have hload := Endian.big.load_store hlt []
  rw [List.append_nil] at hload
  rw [framed, hread, cspHton32_eq_network, e.network_load (by simp), hload, CspId.ofExt_ext]

section
variable {e : Endian} {s : KissRx} {n : Nat} {m : Nat → UInt8}

def receiving (s : KissRx) (n : Nat) (m : Nat → UInt8) : KissRx :=
  s.withHandle ⟨n, .started, false, some m⟩

theorem rxByte_receiving (hn : n ≤ 256) (x : UInt8 × Option (Nat → UInt8)) :
    rxByte e (s.receiving n m) x = (s.receiving n m).input e x.2 x.1 := by
  rw [rxByte, overflow_of_le (by exact hn)]

theorem cspKissRx_stuffOne (hn : n ≤ 256) {x : UInt8} {line : Line}
    (hline : line.map Prod.fst = kiss.stuffOne x) :
    cspKissRx e (s.receiving n m) line =
      some (s.receiving (n + 1) (Function.update m n x)) := by
  have hescaped {c d : UInt8} (hc : kiss.stuffOne x = [FESC, c]) (hstore : ∀ get,
      (s.withHandle ⟨n, .escaped, false, some m⟩).input e get c =
        some (s.receiving (n + 1) (Function.update m n d))) :
      cspKissRx e (s.receiving n m) line =
        some (s.receiving (n + 1) (Function.update m n d)) := by
    rw [hc] at hline
    obtain ⟨y, line, rfl, hy, hline⟩ := List.map_eq_cons_iff.mp hline
    obtain ⟨z, line, rfl, hz, hline⟩ := List.map_eq_cons_iff.mp hline
    obtain rfl := List.map_eq_nil_iff.mp hline
    have hfirst : rxByte e (s.receiving n m) y =
        some (s.withHandle ⟨n, .escaped, false, some m⟩) := by
      rw [rxByte_receiving hn, hy]
      rfl
    have hsecond : rxByte e (s.withHandle ⟨n, .escaped, false, some m⟩) z =
        some (s.receiving (n + 1) (Function.update m n d)) := by
      rw [rxByte, overflow_of_le (by exact hn), hz]
      exact hstore z.2
    rw [cspKissRx_cons, hfirst, Option.bind_some, cspKissRx_cons, hsecond]
    rfl
  by_cases hflag : x = FEND
  · subst hflag
    exact hescaped (c := TFEND) rfl fun _ => rfl
  · by_cases hesc : x = FESC
    · subst hesc
      exact hescaped (c := TFESC) rfl fun _ => rfl
    · have hone : kiss.stuffOne x = [x] := by
        rw [Stuffing.Alphabet.stuffOne, if_neg (by exact hflag), if_neg (by exact hesc)]
      rw [hone] at hline
      obtain ⟨y, line, rfl, hy, hline⟩ := List.map_eq_cons_iff.mp hline
      obtain rfl := List.map_eq_nil_iff.mp hline
      have hbyte : rxByte e (s.receiving n m) y =
          some (s.receiving (n + 1) (Function.update m n x)) := by
        rw [rxByte_receiving hn, hy]
        simp only [input, receiving, withHandle, hesc, hflag, if_false]
        rfl
      rw [cspKissRx_cons, hbyte]
      rfl

theorem cspKissRx_stuff {bs : List UInt8} {line : Line} (hfit : n + bs.length ≤ 257)
    (hline : line.map Prod.fst = kiss.stuff bs) :
    cspKissRx e (s.receiving n m) line =
      some (s.receiving (n + bs.length) (writeMem n bs m)) := by
  induction bs generalizing n m line with
  | nil =>
      obtain rfl := List.map_eq_nil_iff.mp hline
      have hnil : writeMem n [] m = m := by
        funext i
        simp [writeMem]
      rw [hnil]
      rfl
  | cons b bs ih =>
      rw [List.length_cons] at hfit
      rw [Stuffing.Alphabet.stuff, List.flatMap_cons] at hline
      obtain ⟨first, rest, rfl, hfirst, hrest⟩ := List.map_eq_append_iff.mp hline
      rw [cspKissRx_append, cspKissRx_stuffOne (by omega) hfirst, Option.bind_some,
        ih (by omega) hrest, ← writeMem_cons, List.length_cons, Nat.add_right_comm, Nat.add_assoc]

theorem accept_receiving (hn : 8 ≤ n) : (s.receiving n m).accept e = some
    (match cspCrc32Verify e (framed e n m) with
      | none =>
          { s with
            frame := s.frame + 1
            rxError := s.rxError + 1
            handle := ⟨n, .notStarted, false,
              some (writeMem 0 (e.bytes (cspHton32 e (e.load 4 (readMem 4 m)))) m)⟩ }
      | some packet =>
          { s.enqueue packet with
            frame := s.frame + 1
            handle := ⟨n, .notStarted, false, none⟩ }) := by
  have hshort : ¬ (s.receiving n m).handle.rxLength < 8 := Nat.not_lt.mpr hn
  rw [accept, if_neg hshort]
  cases h : cspCrc32Verify e (framed e n m) with
  | none => simp only [receiving, withHandle, Option.map_some, h]
  | some packet =>
      simp only [receiving, enqueue_withHandle]
      simp only [withHandle, Option.map_some, h]

/-- What was given to the router's queues so far: identifiers and payloads. -/
def contents (s : KissRx) : List (CspId × List UInt8) :=
  s.written.map fun w => (w.1.id, w.1.payload)

theorem enqueue_contents (s : KissRx) (p : Packet) :
    (s.enqueue p).contents = s.contents ++ [(p.id, p.payload)] := by
  rw [contents, enqueue_written, List.map_append, contents]
  rfl

theorem accept_checked {id : CspId} {data bs : List UInt8}
    (hbs : bs = beBytes (id.ext .big) ++ (data ++ checksum data)) (hlen : bs.length ≤ 256) :
    ∃ s', (s.receiving bs.length (writeMem 0 bs m)).accept e = some s' ∧
      s'.handle.rxMode = .notStarted ∧ s'.handle.rxPacket = none ∧
      s'.contents = s.contents ++ [(id, data)] := by
  have h8 : bs.length = data.length + 8 := by
    rw [hbs]
    simp only [List.length_append, length_beBytes, length_checksum]
    omega
  have hpay : (framed e bs.length (writeMem 0 bs m)).payload = data ++ checksum data := by
    rw [framed_payload (by omega) (by omega), hbs]
    exact List.drop_left' (length_beBytes _)
  have hl : (framed e bs.length (writeMem 0 bs m)).length.toNat = bs.length - 4 :=
    framed_length (by omega) m
  let q : Packet := { framed e bs.length (writeMem 0 bs m) with
    length := (framed e bs.length (writeMem 0 bs m)).length - 4 }
  have hqlen : q.length.toNat = data.length := by
    change ((framed e bs.length (writeMem 0 bs m)).length - 4).toNat = _
    rw [UInt16.toNat_sub_of_le]
    · simp only [hl, UInt16.reduceToNat]
      omega
    · simp only [UInt16.le_iff_toNat_le, hl, UInt16.reduceToNat]
      omega
  have hq : q.payload = data := by
    have htake := congrArg (List.take data.length) hpay
    rw [List.take_left' rfl, Packet.payload, hl, show bs.length - 4 = data.length + 4 by omega,
      readMem_add, List.take_left' (length_readMem _ _)] at htake
    rw [Packet.payload, hqlen]
    exact htake
  have hok : cspCrc32Verify e (framed e bs.length (writeMem 0 bs m)) = some q := by
    refine cspCrc32Verify_eq_some.mpr ⟨?_, rfl, ?_⟩
    · rw [hl]
      omega
    · rw [hq, hpay]
  have hid : q.id = id := by
    have h := framed_id (e := e) id (data ++ checksum data) m bs.length
    rwa [← hbs] at h
  rw [accept_receiving (by omega), hok]
  refine ⟨_, rfl, rfl, rfl, ?_⟩
  change (s.enqueue q).contents = _
  rw [enqueue_contents, hid, hq]

theorem accept_damaged (bs : List UInt8) (hlen : bs.length ≤ 256)
    (hbad : ∀ data, bs.drop 4 ≠ data ++ checksum data) :
    ∃ s', (s.receiving bs.length (writeMem 0 bs m)).accept e = some s' ∧
      s'.handle.rxMode = .notStarted ∧ s'.contents = s.contents ∧ s'.rxError = s.rxError + 1 := by
  by_cases hshort : bs.length < 8
  · exact ⟨_, if_pos hshort, rfl, rfl, rfl⟩
  · have hcrc : cspCrc32Verify e (framed e bs.length (writeMem 0 bs m)) = none := by
      rw [Option.eq_none_iff_forall_ne_some]
      intro q hq
      obtain ⟨-, -, hpay⟩ := cspCrc32Verify_eq_some.mp hq
      rw [framed_payload (by omega) (by omega)] at hpay
      exact hbad _ hpay
    rw [accept_receiving (by omega), hcrc]
    exact ⟨_, rfl, rfl, rfl, rfl⟩

/-- Between two frames, or at the first character of one. -/
def Ready (s : KissRx) : Prop :=
  s.handle.rxMode = .notStarted ∨
    s.handle.rxMode = .started ∧ s.handle.rxLength = 0 ∧ s.handle.rxFirst = true ∧
      s.handle.rxPacket.isSome

theorem rxByte_open (h : s.Ready) {x : UInt8 × Option (Nat → UInt8)} (hx : x.1 = FEND)
    (hbuf : s.handle.rxPacket.isSome ∨ x.2.isSome) :
    ∃ (s₁ : KissRx) (m : Nat → UInt8), rxByte e s x = some (s₁.withHandle ⟨0, .started, true, some m⟩) ∧
      s₁.contents = s.contents := by
  obtain hmode | ⟨hmode, hlen, hfirst, hp⟩ := h
  · have hover : s.overflow.handle.rxMode = .notStarted ∧
        s.overflow.handle.rxPacket = s.handle.rxPacket ∧ s.overflow.contents = s.contents := by
      unfold overflow
      split
      · exact ⟨rfl, rfl, rfl⟩
      · exact ⟨hmode, rfl, rfl⟩
    obtain ⟨hmode', hp', hc⟩ := hover
    have hsome : (s.handle.rxPacket.or x.2).isSome := by
      rw [Option.isSome_or, Bool.or_eq_true]
      exact hbuf
    obtain ⟨m, hmem⟩ := Option.isSome_iff_exists.mp hsome
    refine ⟨s.overflow, m, ?_, hc⟩
    simp only [rxByte, input, hmode', hx, hp', hmem, ne_eq, not_true_eq_false, if_false]
    rfl
  · obtain ⟨m, hmem⟩ := Option.isSome_iff_exists.mp hp
    have hzero : ¬ s.handle.rxLength > 0 := by omega
    have hne : ¬ FEND = FESC := by decide
    refine ⟨s, m, ?_, rfl⟩
    rw [rxByte, overflow_of_le (by omega)]
    simp only [input, hmode, hx, hne, if_false, if_true, hzero]
    obtain ⟨⟨n, mode, first, packet⟩, rest⟩ := s
    simp only at hmode hlen hfirst hmem
    subst hmode hlen hfirst hmem
    rfl

theorem cspKissRx_frame (h : s.Ready) {bs : List UInt8} {line : Line}
    (hline : line.map Prod.fst = FEND :: TNC_DATA :: kiss.stuff bs) (hfit : bs.length ≤ 257)
    (hbuf : s.handle.rxPacket.isSome ∨ ∃ x ∈ line.head?, x.2.isSome) :
    ∃ (s₁ : KissRx) (m : Nat → UInt8), cspKissRx e s line = some (s₁.receiving bs.length (writeMem 0 bs m)) ∧
      s₁.contents = s.contents := by
  obtain ⟨x, line, rfl, hx, hline⟩ := List.map_eq_cons_iff.mp hline
  obtain ⟨y, line, rfl, hy, hline⟩ := List.map_eq_cons_iff.mp hline
  have hbuf' : s.handle.rxPacket.isSome ∨ x.2.isSome := by
    obtain hp | ⟨x', hx', hg⟩ := hbuf
    · exact .inl hp
    · cases Option.mem_def.mp hx'
      exact .inr hg
  obtain ⟨s₁, m, hopen, hc⟩ := rxByte_open (e := e) h hx hbuf'
  have htnc : rxByte e (s₁.withHandle ⟨0, .started, true, some m⟩) y =
      some (s₁.receiving 0 m) := by
    rw [rxByte, overflow_of_le (by exact Nat.zero_le _), hy]
    rfl
  refine ⟨s₁, m, ?_, hc⟩
  rw [cspKissRx_cons, hopen, Option.bind_some, cspKissRx_cons, htnc, Option.bind_some,
    cspKissRx_stuff (by omega) hline, Nat.zero_add]

theorem rxByte_close (hn : 0 < n) (hn' : n ≤ 256) {x : UInt8 × Option (Nat → UInt8)}
    (hx : x.1 = FEND) : rxByte e (s.receiving n m) x = (s.receiving n m).accept e := by
  rw [rxByte_receiving hn', hx]
  change (if n > 0 then (s.receiving n m).accept e else some (s.receiving n m)) = _
  exact if_pos hn

theorem overflow_notStarted (hmode : s.handle.rxMode = .notStarted) :
    s.overflow.handle.rxMode = .notStarted ∧ s.overflow.handle.rxPacket = s.handle.rxPacket ∧
      s.overflow.handle.rxLength ≤ 256 ∧ s.overflow.contents = s.contents := by
  unfold overflow
  split
  · exact ⟨rfl, rfl, Nat.zero_le _, rfl⟩
  · rename_i hle
    exact ⟨hmode, rfl, Nat.not_lt.mp hle, rfl⟩

theorem cspKissRx_noise (hmode : s.handle.rxMode = .notStarted) {noise : Line}
    (hnoise : ∀ x ∈ noise, x.1 ≠ FEND) :
    ∃ s', cspKissRx e s noise = some s' ∧ s'.handle.rxMode = .notStarted ∧
      s'.handle.rxPacket = s.handle.rxPacket ∧ s'.contents = s.contents := by
  induction noise generalizing s with
  | nil => exact ⟨s, rfl, hmode, rfl, rfl⟩
  | cons x noise ih =>
      obtain ⟨hmode₁, hp₁, -, hc₁⟩ := overflow_notStarted hmode
      have hx : x.1 ≠ FEND := hnoise x List.mem_cons_self
      have hbyte : rxByte e s x =
          some { s.overflow with discarded := s.overflow.discarded ++ [x.1] } := by
        simp only [rxByte, input, hmode₁, hx, ne_eq, not_false_eq_true, if_true]
      obtain ⟨s', hs', hmode', hp', hc'⟩ :=
        ih (s := { s.overflow with discarded := s.overflow.discarded ++ [x.1] }) hmode₁
          fun y hy => hnoise y (List.mem_cons_of_mem x hy)
      refine ⟨s', ?_, hmode', hp'.trans hp₁, hc'.trans hc₁⟩
      rw [cspKissRx_cons, hbyte, Option.bind_some, hs']

theorem cspKissRx_skip (hmode : s.handle.rxMode = .skipFrame) (hlen : s.handle.rxLength ≤ 256)
    {rest : Line} (hrest : ∀ x ∈ rest, x.1 ≠ FEND) : cspKissRx e s rest = some s := by
  induction rest with
  | nil => rfl
  | cons x rest ih =>
      have hx : x.1 ≠ FEND := hrest x List.mem_cons_self
      have hbyte : rxByte e s x = some s := by
        rw [rxByte, overflow_of_le hlen]
        simp only [input, hmode, hx, if_false]
      rw [cspKissRx_cons, hbyte, Option.bind_some]
      exact ih fun y hy => hrest y (List.mem_cons_of_mem x hy)

theorem cspKissRx_unbuffered (hmode : s.handle.rxMode = .notStarted)
    (hp : s.handle.rxPacket = none) {bs : List UInt8} {line : Line}
    (hline : line.map Prod.fst = FEND :: TNC_DATA :: (kiss.stuff bs ++ [FEND]))
    (hbuf : ∀ x ∈ line.head?, x.2 = none) :
    ∃ s', cspKissRx e s line = some s' ∧ s'.handle.rxMode = .notStarted ∧
      s'.handle.rxPacket = none ∧ s'.contents = s.contents := by
  obtain ⟨hmode₁, hp₁, hlen₁, hc₁⟩ := overflow_notStarted hmode
  rw [← List.cons_append] at hline
  obtain ⟨x, line, rfl, hx, hline⟩ := List.map_eq_cons_iff.mp hline
  obtain ⟨inner, last, rfl, hinner, hlast⟩ := List.map_eq_append_iff.mp hline
  obtain ⟨z, last, rfl, hz, hlast⟩ := List.map_eq_cons_iff.mp hlast
  obtain rfl := List.map_eq_nil_iff.mp hlast
  have hget : x.2 = none := hbuf x rfl
  let skipping : KissRx := s.overflow.withHandle
    { s.overflow.handle with rxMode := .skipFrame, rxPacket := none }
  have hopen : rxByte e s x = some skipping := by
    simp only [rxByte, input, hmode₁, hx, hp₁, hp, hget, Option.or_none, ne_eq,
      not_true_eq_false, if_false]
    rfl
  have hfree : ∀ y ∈ inner, y.1 ≠ FEND := by
    intro y hy hflag
    have hmem : FEND ∈ TNC_DATA :: kiss.stuff bs := by
      rw [← hinner, ← hflag]
      exact List.mem_map_of_mem hy
    obtain h | h := List.mem_cons.mp hmem
    · exact absurd h (by decide)
    · exact kiss.flag_notMem_stuff bs h
  have hclose : rxByte e skipping z = some (skipping.withHandle
      { skipping.handle with rxMode := .notStarted }) := by
    rw [rxByte, overflow_of_le (by exact hlen₁), hz]
    rfl
  refine ⟨skipping.withHandle { skipping.handle with rxMode := .notStarted }, ?_, rfl, rfl, hc₁⟩
  rw [cspKissRx_cons, hopen, Option.bind_some, cspKissRx_append,
    cspKissRx_skip (by rfl) (by exact hlen₁) hfree, Option.bind_some, cspKissRx_cons, hclose]
  rfl

end

/-- Noise on the line, and a frame behind it as it comes in. -/
structure Transmission where
  noise : Line
  sender : Endian
  packet : Packet
  frame : Line

namespace Transmission

/-- There is no flag in the noise, and the packet is one that the receiver has room for. -/
structure Sent (t : Transmission) : Prop where
  noise : ∀ x ∈ t.noise, x.1 ≠ FEND
  short : t.packet.length ≤ 248
  frame : t.frame.map Prod.fst = (cspKissTx t.sender true t.packet).2

def buffered (t : Transmission) : Bool := t.frame.head?.any fun x => x.2.isSome

theorem buffered_iff (t : Transmission) :
    t.buffered = true ↔ ∃ x ∈ t.frame.head?, x.2.isSome := by
  unfold buffered
  cases t.frame.head? <;> simp

end Transmission

theorem cspKissRx_packet {e sender : Endian} {s : KissRx} (h : s.Ready) {p : Packet}
    (hshort : p.length ≤ 248) {frame : Line}
    (hframe : frame.map Prod.fst = (cspKissTx sender true p).2)
    (hbuf : s.handle.rxPacket.isSome ∨ ∃ x ∈ frame.head?, x.2.isSome) :
    ∃ s', cspKissRx e s frame = some s' ∧ s'.handle.rxMode = .notStarted ∧
      s'.handle.rxPacket = none ∧ s'.contents = s.contents ++ [(p.id, p.payload)] := by
  have hlen : p.length.toNat ≤ 248 := UInt16.le_iff_toNat_le.mp hshort
  have hbytes := length_frameBytes p
  rw [cspKissTx_line sender (by omega), ← List.cons_append, ← List.cons_append] at hframe
  obtain ⟨body, last, rfl, hbody, hlast⟩ := List.map_eq_append_iff.mp hframe
  obtain ⟨z, last, rfl, hz, hlast⟩ := List.map_eq_cons_iff.mp hlast
  obtain rfl := List.map_eq_nil_iff.mp hlast
  have hbuf' : s.handle.rxPacket.isSome ∨ ∃ x ∈ body.head?, x.2.isSome := by
    obtain ⟨x, body, rfl, -, -⟩ := List.map_eq_cons_iff.mp hbody
    exact hbuf
  obtain ⟨s₁, m, hrun, hc⟩ := cspKissRx_frame (e := e) h hbody (by omega) hbuf'
  obtain ⟨s', haccept, hmode, hnone, hc'⟩ :=
    accept_checked (e := e) (s := s₁) (m := m) (rfl : frameBytes p = _) (by omega)
  refine ⟨s', ?_, hmode, hnone, by rw [hc', hc]⟩
  rw [cspKissRx_append, hrun, Option.bind_some, cspKissRx_cons,
    rxByte_close (by omega) (by omega) hz, haccept]
  rfl

theorem Transmission.run {e : Endian} {s : KissRx} (hmode : s.handle.rxMode = .notStarted)
    (hp : s.handle.rxPacket = none) {t : Transmission} (ht : t.Sent) :
    ∃ s', cspKissRx e s (t.noise ++ t.frame) = some s' ∧ s'.handle.rxMode = .notStarted ∧
      s'.handle.rxPacket = none ∧ s'.contents = s.contents ++
        if t.buffered then [(t.packet.id, t.packet.payload)] else [] := by
  obtain ⟨s₁, hs₁, hmode₁, hp₁, hc₁⟩ := cspKissRx_noise (e := e) hmode ht.noise
  rw [hp] at hp₁
  have hrun : cspKissRx e s (t.noise ++ t.frame) = cspKissRx e s₁ t.frame := by
    rw [cspKissRx_append, hs₁, Option.bind_some]
  rw [hrun, ← hc₁]
  by_cases hb : t.buffered = true
  · rw [if_pos hb]
    exact cspKissRx_packet (.inl hmode₁) ht.short ht.frame (.inr (t.buffered_iff.mp hb))
  · have hlen : t.packet.length.toNat ≤ 248 := UInt16.le_iff_toNat_le.mp ht.short
    have hnone : ∀ x ∈ t.frame.head?, x.2 = none := by
      intro x hx
      rw [← Option.not_isSome_iff_eq_none]
      exact fun hsome => hb (t.buffered_iff.mpr ⟨x, hx, hsome⟩)
    have hframe := ht.frame
    rw [cspKissTx_line t.sender (by omega)] at hframe
    rw [if_neg hb, List.append_nil]
    exact cspKissRx_unbuffered hmode₁ hp₁ hframe hnone

/-- From senders and to a receiver of any byte order, with noise between the frames: exactly the
packets for which there was a buffer go on to the router, in order and unchanged. -/
theorem cspKissRx_transmissions {e : Endian} {s : KissRx} {ts : List Transmission}
    (hmode : s.handle.rxMode = .notStarted) (hp : s.handle.rxPacket = none)
    (hts : ∀ t ∈ ts, t.Sent) :
    ∃ s', cspKissRx e s (ts.flatMap fun t => t.noise ++ t.frame) = some s' ∧
      s'.contents = s.contents ++
        (ts.filter Transmission.buffered).map fun t => (t.packet.id, t.packet.payload) := by
  induction ts generalizing s with
  | nil => exact ⟨s, rfl, by simp⟩
  | cons t ts ih =>
      obtain ⟨s₁, hs₁, hmode₁, hp₁, hc₁⟩ :=
        Transmission.run (e := e) hmode hp (hts t List.mem_cons_self)
      obtain ⟨s', hs', hc'⟩ := ih hmode₁ hp₁ fun u hu => hts u (List.mem_cons_of_mem t hu)
      refine ⟨s', ?_, ?_⟩
      · rw [List.flatMap_cons, cspKissRx_append, hs₁, Option.bind_some, hs']
      · rw [hc', hc₁]
        by_cases hb : t.buffered = true
        · simp [hb]
        · simp [hb]

def supplied (bytes : List UInt8) : Line := bytes.map fun b => (b, some fun _ => 0)

theorem map_fst_supplied (bytes : List UInt8) : (supplied bytes).map Prod.fst = bytes := by
  simp only [supplied, List.map_map, Function.comp_def, List.map_id']

theorem isSome_supplied {bytes : List UInt8} : ∀ x ∈ supplied bytes, x.2.isSome := by
  intro x hx
  obtain ⟨b, -, rfl⟩ := List.mem_map.mp hx
  rfl

def escaped : Packet := ⟨3, ⟨2, 1, 10, 25, 12, 0⟩, fun _ => FEND⟩

/- A receiver in any state that a line can bring it to. -/
theorem keeps_any : Keeps fun _ => True := fun _ _ _ _ _ => trivial

section
variable {e : Endian} {s : KissRx} {n : Nat} {m : Nat → UInt8}

theorem overflow_contents : s.overflow.contents = s.contents := by
  unfold overflow
  split <;> rfl

theorem accept_any (hp : s.handle.rxPacket.isSome) : ∃ s', s.accept e = some s' ∧
    s'.handle.rxMode = .notStarted ∧ ∃ extra, extra.length ≤ 1 ∧
      s'.contents = s.contents ++ extra := by
  obtain ⟨m, hmem⟩ := Option.isSome_iff_exists.mp hp
  unfold accept
  by_cases hshort : s.handle.rxLength < 8
  · rw [if_pos hshort]
    exact ⟨_, rfl, rfl, [], by simp, by simp [contents]⟩
  · rw [if_neg hshort, hmem, Option.map_some]
    refine ⟨_, rfl, ?_⟩
    cases cspCrc32Verify e (framed e s.handle.rxLength m) with
    | none => exact ⟨rfl, [], by simp, by simp [contents]⟩
    | some q => exact ⟨rfl, [(q.id, q.payload)], by simp, enqueue_contents s q⟩

theorem rxByte_flag (h : s.Ok fun _ => True) {x : UInt8 × Option (Nat → UInt8)} (hx : x.1 = FEND)
    (hget : x.2.isSome) : ∃ s', rxByte e s x = some s' ∧
      (s'.handle.rxMode = .started ∧ s'.contents = s.contents ∨
        s'.handle.rxMode = .notStarted ∧ ∃ extra, extra.length ≤ 1 ∧
          s'.contents = s.contents ++ extra) := by
  obtain ⟨hok, hlen⟩ := h.overflow
  have hc := overflow_contents (s := s)
  have hne : ¬ FEND = FESC ∧ ¬ FEND = TFESC ∧ ¬ FEND = TFEND := by decide
  obtain ⟨hne₁, hne₂, hne₃⟩ := hne
  rw [rxByte, hx, ← hc]
  cases hmode : s.overflow.handle.rxMode with
  | notStarted =>
      obtain ⟨m, hmem⟩ := Option.isSome_iff_exists.mp hget
      have hor : ∃ m, s.overflow.handle.rxPacket.or x.2 = some m := by
        rw [hmem]
        cases s.overflow.handle.rxPacket with
        | none => exact ⟨m, rfl⟩
        | some m => exact ⟨m, rfl⟩
      obtain ⟨m, hm⟩ := hor
      simp only [input, hmode, ne_eq, not_true_eq_false, if_false, hm]
      exact ⟨_, rfl, .inl ⟨rfl, rfl⟩⟩
  | started =>
      simp only [input, hmode, hne₁, if_false, if_true]
      by_cases hpos : s.overflow.handle.rxLength > 0
      · rw [if_pos hpos]
        obtain ⟨s', hs', hm', hextra⟩ := accept_any (e := e) (hok.packet (.inl hmode))
        exact ⟨s', hs', .inr ⟨hm', hextra⟩⟩
      · rw [if_neg hpos]
        exact ⟨_, rfl, .inl ⟨hmode, rfl⟩⟩
  | escaped =>
      simp only [input, hmode, hne₂, hne₃, if_false, Option.map_some]
      exact ⟨_, rfl, .inl ⟨rfl, rfl⟩⟩
  | skipFrame =>
      simp only [input, hmode, if_true]
      exact ⟨_, rfl, .inr ⟨rfl, [], by simp, by simp [contents]⟩⟩

theorem cspKissRx_overlong {line : Line} (hline : line ≠ []) (hfree : ∀ x ∈ line, x.1 ≠ FEND) :
    ∃ s', cspKissRx e (s.receiving 257 m) line = some s' ∧ s'.handle.rxMode = .notStarted ∧
      s'.contents = s.contents ∧ s'.handle.rxPacket.isSome := by
  obtain ⟨x, line, rfl⟩ := List.exists_cons_of_ne_nil hline
  have hx : x.1 ≠ FEND := hfree x List.mem_cons_self
  let s₁ : KissRx := { s with
    rxError := s.rxError + 1
    handle := ⟨0, .notStarted, false, some m⟩
    discarded := s.discarded ++ [x.1] }
  have hbyte : rxByte e (s.receiving 257 m) x = some s₁ := by
    have hover : (s.receiving 257 m).overflow =
        { s with rxError := s.rxError + 1, handle := ⟨0, .notStarted, false, some m⟩ } := rfl
    simp only [rxByte, hover, input, ne_eq, hx, not_false_eq_true, if_true]
    rfl
  obtain ⟨s', hs', hmode, hp, hc⟩ := cspKissRx_noise (e := e) (s := s₁) rfl
    fun y hy => hfree y (List.mem_cons_of_mem x hy)
  refine ⟨s', ?_, hmode, hc, by rw [hp]; rfl⟩
  rw [cspKissRx_cons, hbyte, Option.bind_some, hs']

theorem fst_ne_of_stuff {bs : List UInt8} {line : Line} (hline : line.map Prod.fst = kiss.stuff bs) :
    ∀ x ∈ line, x.1 ≠ FEND := by
  intro x hx hflag
  refine kiss.flag_notMem_stuff bs ?_
  have hmem : x.1 ∈ line.map Prod.fst := List.mem_map_of_mem hx
  rw [hline, hflag] at hmem
  exact hmem

theorem cspKissRx_stuff_any (hn : n ≤ 257) {bs : List UInt8} {line : Line}
    (hline : line.map Prod.fst = kiss.stuff bs) :
    (n + bs.length ≤ 257 ∧ cspKissRx e (s.receiving n m) line =
        some (s.receiving (n + bs.length) (writeMem n bs m))) ∨
      257 < n + bs.length ∧ ∃ s', cspKissRx e (s.receiving n m) line = some s' ∧
        s'.handle.rxMode = .notStarted ∧ s'.contents = s.contents ∧
          s'.handle.rxPacket.isSome := by
  by_cases hfit : n + bs.length ≤ 257
  · exact .inl ⟨hfit, cspKissRx_stuff hfit hline⟩
  · refine .inr ⟨Nat.not_le.mp hfit, ?_⟩
    have hsplit : kiss.stuff bs = kiss.stuff (bs.take (257 - n)) ++ kiss.stuff (bs.drop (257 - n)) := by
      rw [Stuffing.Alphabet.stuff, Stuffing.Alphabet.stuff, Stuffing.Alphabet.stuff,
        ← List.flatMap_append, List.take_append_drop]
    have htake : (bs.take (257 - n)).length = 257 - n := by
      rw [List.length_take]
      omega
    have hline' := hline
    rw [hsplit] at hline'
    obtain ⟨first, rest, rfl, hfirst, hrest⟩ := List.map_eq_append_iff.mp hline'
    have hne : rest ≠ [] := by
      rintro rfl
      have hdrop : 0 < (bs.drop (257 - n)).length := by
        rw [List.length_drop]
        omega
      obtain ⟨b, tail, htail⟩ := List.exists_cons_of_ne_nil (List.ne_nil_of_length_pos hdrop)
      rw [htail, Stuffing.Alphabet.stuff, List.flatMap_cons, List.map_nil] at hrest
      exact kiss.stuffOne_ne_nil b (List.append_eq_nil_iff.mp hrest.symm).1
    obtain ⟨s', hs', hmode, hc, hp⟩ := cspKissRx_overlong (e := e) (s := s)
      (m := writeMem n (bs.take (257 - n)) m) hne (fst_ne_of_stuff hrest)
    refine ⟨s', ?_, hmode, hc, hp⟩
    rw [cspKissRx_append, cspKissRx_stuff (by omega) hfirst, htake, Option.bind_some,
      show n + (257 - n) = 257 by omega, hs']

theorem rxByte_command (h : s.Ok fun _ => True) (hmode : s.handle.rxMode = .started)
    {x : UInt8 × Option (Nat → UInt8)} (hx : x.1 = TNC_DATA) :
    ∃ s', rxByte e s x = some s' ∧ s'.contents = s.contents ∧
      (s'.handle.rxMode = .notStarted ∨
        ∃ (s₀ : KissRx) (n : Nat) (m : Nat → UInt8), n ≤ 257 ∧ s' = s₀.receiving n m) := by
  obtain ⟨m, hmem⟩ := Option.isSome_iff_exists.mp (h.packet (.inl hmode))
  have hne : ¬ TNC_DATA = FEND ∧ ¬ TNC_DATA = FESC := by decide
  by_cases hlong : s.handle.rxLength > kissMtu
  · have hover : s.overflow = { s with
        rxError := s.rxError + 1
        handle := { s.handle with rxMode := .notStarted, rxLength := 0 } } := if_pos hlong
    simp only [rxByte, hover, input, hx, ne_eq, hne, not_false_eq_true, if_true]
    exact ⟨_, rfl, rfl, .inl rfl⟩
  · have hle : s.handle.rxLength ≤ 256 := Nat.not_lt.mp hlong
    rw [rxByte, overflow_of_le hle]
    simp only [input, hmode, hx, hne, if_false]
    by_cases hfirst : s.handle.rxFirst = true
    · rw [if_pos hfirst]
      refine ⟨_, rfl, rfl, .inr ⟨s, s.handle.rxLength, m, by omega, ?_⟩⟩
      simp only [receiving, withHandle, hmem]
    · rw [if_neg hfirst, store, hmem, Option.map_some]
      refine ⟨_, rfl, rfl, .inr ⟨s, s.handle.rxLength + 1,
        Function.update m s.handle.rxLength TNC_DATA, by omega, ?_⟩⟩
      simp only [receiving, withHandle, hmode, Bool.not_eq_true _ ▸ hfirst]

theorem rxByte_last (hn : 0 < n) (hn' : n ≤ 257) {x : UInt8 × Option (Nat → UInt8)}
    (hx : x.1 = FEND) : ∃ s', rxByte e (s.receiving n m) x = some s' ∧ s'.Ready ∧
      ∃ extra, extra.length ≤ 1 ∧ s'.contents = s.contents ++ extra ∧ (n = 257 → extra = []) := by
  obtain hle | rfl := Nat.le_or_eq_of_le_succ hn'
  · obtain ⟨s', hs', hmode, extra, hlen, hc⟩ :=
      accept_any (e := e) (s := s.receiving n m) rfl
    refine ⟨s', by rw [rxByte_close hn hle hx, hs'], .inl hmode, extra, hlen, hc, ?_⟩
    rintro rfl
    exact absurd hle (by decide)
  · have hover : (s.receiving 257 m).overflow =
        { s with rxError := s.rxError + 1, handle := ⟨0, .notStarted, false, some m⟩ } := rfl
    have hbyte : rxByte e (s.receiving 257 m) x =
        some { s with rxError := s.rxError + 1, handle := ⟨0, .started, true, some m⟩ } := by
      rw [rxByte, hover, hx]
      rfl
    exact ⟨_, hbyte, .inr ⟨rfl, rfl, rfl, rfl⟩, [], by simp, by simp [contents], fun _ => rfl⟩

theorem rxByte_ready (hmode : s.handle.rxMode = .notStarted) {x : UInt8 × Option (Nat → UInt8)}
    (hx : x.1 = FEND) (hget : x.2.isSome) :
    ∃ s', rxByte e s x = some s' ∧ s'.Ready ∧ s'.contents = s.contents := by
  obtain ⟨s₁, m, hs₁, hc⟩ := rxByte_open (e := e) (.inl hmode) hx (.inr hget)
  exact ⟨_, hs₁, .inr ⟨rfl, rfl, rfl, rfl⟩, hc⟩

theorem frame_parts {sender : Endian} {p : Packet} (hp : p.length ≤ 256) {frame : Line}
    (hframe : frame.map Prod.fst = (cspKissTx sender true p).2) :
    ∃ x y inner z, frame = x :: y :: (inner ++ [z]) ∧ x.1 = FEND ∧ y.1 = TNC_DATA ∧
      inner.map Prod.fst = kiss.stuff (frameBytes p) ∧ z.1 = FEND := by
  have hlen : p.length.toNat ≤ 256 := UInt16.le_iff_toNat_le.mp hp
  rw [cspKissTx_line sender (by omega)] at hframe
  obtain ⟨x, frame, rfl, hx, hframe⟩ := List.map_eq_cons_iff.mp hframe
  obtain ⟨y, frame, rfl, hy, hframe⟩ := List.map_eq_cons_iff.mp hframe
  obtain ⟨inner, last, rfl, hinner, hlast⟩ := List.map_eq_append_iff.mp hframe
  obtain ⟨z, last, rfl, hz, hlast⟩ := List.map_eq_cons_iff.mp hlast
  obtain rfl := List.map_eq_nil_iff.mp hlast
  exact ⟨x, y, inner, z, rfl, hx, hy, hinner, hz⟩

/-- A whole frame leaves the receiver ready, whatever state it was in before. -/
theorem cspKissRx_frame_any (h : s.Ok fun _ => True) {sender : Endian} {p : Packet}
    (hp : p.length ≤ 256) {frame : Line} (hframe : frame.map Prod.fst = (cspKissTx sender true p).2)
    (hget : ∀ x ∈ frame, x.2.isSome) :
    ∃ s', cspKissRx e s frame = some s' ∧ s'.Ready ∧
      ∃ extra, extra.length ≤ 1 ∧ s'.contents = s.contents ++ extra := by
  obtain ⟨x, y, inner, z, rfl, hx, hy, hinner, hz⟩ := frame_parts hp hframe
  have hfree := fst_ne_of_stuff hinner
  have hz' : z.2.isSome := hget z (by simp)
  -- what remains once the receiver is outside of a frame
  have hidle {s₁ : KissRx} (hmode : s₁.handle.rxMode = .notStarted) {rest : Line}
      (hrest : ∀ w ∈ rest, w.1 ≠ FEND) : ∃ s', cspKissRx e s₁ (rest ++ [z]) = some s' ∧ s'.Ready ∧
        s'.contents = s₁.contents := by
    obtain ⟨s₂, hs₂, hmode₂, -, hc₂⟩ := cspKissRx_noise (e := e) hmode hrest
    obtain ⟨s', hs', hready, hc'⟩ := rxByte_ready (e := e) hmode₂ hz hz'
    refine ⟨s', ?_, hready, hc'.trans hc₂⟩
    rw [cspKissRx_append, hs₂, Option.bind_some, cspKissRx_cons, hs']
    rfl
  have hyfree : y.1 ≠ FEND := by
    rw [hy]
    decide
  obtain ⟨s₁, hs₁, hopen⟩ := rxByte_flag (e := e) h hx (hget x List.mem_cons_self)
  have hok₁ : s₁.Ok fun _ => True := by
    obtain ⟨s₁', hs₁', hok₁⟩ := h.rxByte (e := e) keeps_any (x := x) (by simp)
    rw [hs₁] at hs₁'
    cases hs₁'
    exact hok₁
  rw [cspKissRx_cons, hs₁, Option.bind_some]
  obtain ⟨hmode, hc⟩ | ⟨hmode, extra, hextra, hc⟩ := hopen
  · obtain ⟨s₂, hs₂, hc₂, hmode₂ | ⟨s₀, n, m, hn, rfl⟩⟩ := rxByte_command (e := e) hok₁ hmode hy
    · obtain ⟨s', hs', hready, hc'⟩ := hidle hmode₂ hfree
      refine ⟨s', ?_, hready, [], by simp, by rw [hc', hc₂, hc, List.append_nil]⟩
      rw [cspKissRx_cons, hs₂, Option.bind_some, hs']
    · have hc₀ : s₀.contents = s.contents := hc₂.trans hc
      have hbytes := length_frameBytes p
      rw [cspKissRx_cons, hs₂, Option.bind_some, cspKissRx_append]
      obtain ⟨hfit, hrun⟩ | ⟨-, s₃, hrun, hmode₃, hc₃, -⟩ :=
        cspKissRx_stuff_any (e := e) (s := s₀) (m := m) hn hinner
      · obtain ⟨s', hs', hready, extra, hlen, hc', -⟩ := rxByte_last (e := e) (s := s₀)
          (n := n + (frameBytes p).length) (m := writeMem n (frameBytes p) m) (by omega) hfit hz
        refine ⟨s', ?_, hready, extra, hlen, by rw [hc', hc₀]⟩
        rw [hrun, Option.bind_some, cspKissRx_cons, hs']
        rfl
      · obtain ⟨s', hs', hready, hc'⟩ := rxByte_ready (e := e) hmode₃ hz hz'
        refine ⟨s', ?_, hready, [], by simp, by rw [hc', hc₃, hc₀, List.append_nil]⟩
        rw [hrun, Option.bind_some, cspKissRx_cons, hs']
        rfl
  · obtain ⟨s', hs', hready, hc'⟩ := hidle hmode (List.forall_mem_cons.mpr ⟨hyfree, hfree⟩)
    exact ⟨s', hs', hready, extra, hextra, by rw [hc', hc]⟩

end
/-- A frame of more than 256 bytes does not get through, and does no harm. -/
theorem cspKissRx_long {e sender : Endian} {s : KissRx} (h : s.Ready) {p : Packet}
    (hlong : 248 < p.length) (hp : p.length ≤ 256) {frame : Line}
    (hframe : frame.map Prod.fst = (cspKissTx sender true p).2)
    (hget : ∀ x ∈ frame, x.2.isSome) :
    ∃ s', cspKissRx e s frame = some s' ∧ s'.Ready ∧ s'.contents = s.contents := by
  have hlt : 248 < p.length.toNat := UInt16.lt_iff_toNat_lt.mp hlong
  have hbytes := length_frameBytes p
  obtain ⟨x, y, inner, z, rfl, hx, hy, hinner, hz⟩ := frame_parts hp hframe
  obtain ⟨s₁, m, hopen, hc⟩ :=
    rxByte_open (e := e) h hx (.inr (hget x List.mem_cons_self))
  have htnc : rxByte e (s₁.withHandle ⟨0, .started, true, some m⟩) y =
      some (s₁.receiving 0 m) := by
    rw [rxByte, overflow_of_le (by exact Nat.zero_le _), hy]
    rfl
  rw [cspKissRx_cons, hopen, Option.bind_some, cspKissRx_cons, htnc, Option.bind_some,
    cspKissRx_append]
  obtain ⟨hfit, hrun⟩ | ⟨-, s₂, hrun, hmode, hc₂, -⟩ :=
    cspKissRx_stuff_any (e := e) (s := s₁) (m := m) (Nat.zero_le _) hinner
  · obtain ⟨s', hs', hready, extra, -, hc', hextra⟩ := rxByte_last (e := e) (s := s₁)
      (n := 0 + (frameBytes p).length) (m := writeMem 0 (frameBytes p) m) (by omega) hfit hz
    refine ⟨s', ?_, hready, by rw [hc', hextra (by omega), List.append_nil, hc]⟩
    rw [hrun, Option.bind_some, cspKissRx_cons, hs']
    rfl
  · obtain ⟨s', hs', hready, hc'⟩ := rxByte_ready (e := e) hmode hz (hget z (by simp))
    refine ⟨s', ?_, hready, by rw [hc', hc₂, hc]⟩
    rw [hrun, Option.bind_some, cspKissRx_cons, hs']
    rfl

/-- A packet that `csp_send_direct` passes to the interface, and buffers whenever they are asked
for. -/
structure Transmission.Whole (t : Transmission) : Prop where
  fits : t.packet.length ≤ 256
  frame : t.frame.map Prod.fst = (cspKissTx t.sender true t.packet).2
  buffers : ∀ x ∈ t.frame, x.2.isSome

theorem Transmission.Whole.head {t : Transmission} (h : t.Whole) :
    ∃ x ∈ t.frame.head?, x.2.isSome := by
  obtain ⟨x, y, inner, z, hparts, -⟩ := frame_parts h.fits h.frame
  have hx := h.buffers x (by simp [hparts])
  exact ⟨x, by simp [hparts], hx⟩

/-- Frames one behind the other, with noise between them but for that behind a frame of more than
256 bytes. `long` tells whether there was such a frame just before. -/
def Whole : Bool → List Transmission → Prop
  | _, [] => True
  | long, t :: ts =>
      t.Whole ∧ (if long then t.noise = [] else ∀ x ∈ t.noise, x.1 ≠ FEND) ∧
        Whole (248 < t.packet.length) ts

theorem cspKissRx_ready {e : Endian} {s : KissRx} {ts : List Transmission} {long : Bool}
    (h : if long then s.Ready else s.handle.rxMode = .notStarted) (hts : Whole long ts) :
    ∃ s', cspKissRx e s (ts.flatMap fun t => t.noise ++ t.frame) = some s' ∧
      s'.contents = s.contents ++
        (ts.filter fun t => t.packet.length ≤ 248).map fun t => (t.packet.id, t.packet.payload) := by
  induction ts generalizing s long with
  | nil => exact ⟨s, rfl, by simp⟩
  | cons t ts ih =>
      obtain ⟨ht, hnoise, hrest⟩ := hts
      obtain ⟨s₀, hs₀, hready, hc₀⟩ : ∃ s₀, cspKissRx e s t.noise = some s₀ ∧ s₀.Ready ∧
          s₀.contents = s.contents := by
        cases long with
        | true => exact ⟨s, by rw [show t.noise = [] from hnoise]; rfl, h, rfl⟩
        | false =>
            obtain ⟨s₀, hs₀, hmode, -, hc₀⟩ := cspKissRx_noise (e := e) h hnoise
            exact ⟨s₀, hs₀, .inl hmode, hc₀⟩
      have hrun {s₁ : KissRx} (hs₁ : cspKissRx e s₀ t.frame = some s₁) :
          cspKissRx e s ((t :: ts).flatMap fun t => t.noise ++ t.frame) =
            cspKissRx e s₁ (ts.flatMap fun t => t.noise ++ t.frame) := by
        rw [List.flatMap_cons, cspKissRx_append, cspKissRx_append, hs₀, Option.bind_some, hs₁,
          Option.bind_some]
      by_cases hlong : 248 < t.packet.length
      · obtain ⟨s₁, hs₁, hready₁, hc₁⟩ :=
          cspKissRx_long (e := e) hready hlong ht.fits ht.frame ht.buffers
        rw [decide_eq_true hlong] at hrest
        obtain ⟨s', hs', hc'⟩ := @ih _ true hready₁ hrest
        refine ⟨s', (hrun hs₁).trans hs', ?_⟩
        rw [hc', hc₁, hc₀]
        simp [UInt16.not_le.mpr hlong]
      · have hshort := UInt16.not_lt.mp hlong
        obtain ⟨s₁, hs₁, hmode₁, -, hc₁⟩ :=
          cspKissRx_packet (e := e) hready hshort ht.frame (.inr ht.head)
        rw [decide_eq_false hlong] at hrest
        obtain ⟨s', hs', hc'⟩ := @ih _ false hmode₁ hrest
        refine ⟨s', (hrun hs₁).trans hs', ?_⟩
        rw [hc', hc₁, hc₀]
        simp [hshort]

/-- Whatever was on the line before, one frame is enough for the receiver to find its way back: at
most one packet comes out up to its end, and from then on exactly those of up to 248 bytes. -/
theorem cspKissRx_resync {e : Endian} {s : KissRx} (hs : s.Ok fun _ => True) {t : Transmission}
    {ts : List Transmission} (ht : t.Whole) (hts : Whole true ts) :
    ∃ s' extra, cspKissRx e s (t.frame ++ ts.flatMap fun u => u.noise ++ u.frame) = some s' ∧
      extra.length ≤ 1 ∧ s'.contents = s.contents ++ (extra ++
        (ts.filter fun u => u.packet.length ≤ 248).map
          fun u => (u.packet.id, u.packet.payload)) := by
  obtain ⟨s₁, hs₁, hready, extra, hlen, hc₁⟩ :=
    cspKissRx_frame_any (e := e) hs ht.fits ht.frame ht.buffers
  obtain ⟨s', hs', hc'⟩ := @cspKissRx_ready e _ _ true hready hts
  refine ⟨s', extra, ?_, hlen, by rw [hc', hc₁, List.append_assoc]⟩
  rw [cspKissRx_append, hs₁, Option.bind_some, hs']

/-- A frame whose payload was damaged within four bytes, or whose checksum was damaged, does not
reach the router, whatever became of its identifier. -/
theorem cspKissRx_damaged {e : Endian} {s : KissRx} (h : s.Ready) {p : Packet}
    (hp : p.length ≤ 248) {header pre u v post crc : List UInt8} (hpay : p.payload = pre ++ u ++ post)
    (hid : header.length = 4) (hlen : u.length = v.length) (hcrc : crc.length = 4)
    (hdamage : crc = checksum p.payload ∧ u.length ≤ 4 ∧ u ≠ v ∨ crc ≠ checksum p.payload ∧ u = v)
    {frame : Line} (hframe : frame.map Prod.fst =
      FEND :: TNC_DATA :: (kiss.stuff (header ++ (pre ++ v ++ post ++ crc)) ++ [FEND]))
    (hbuf : ∃ x ∈ frame.head?, x.2.isSome) :
    ∃ s', cspKissRx e s frame = some s' ∧ s'.handle.rxMode = .notStarted ∧
      s'.contents = s.contents := by
  have hn : p.length.toNat ≤ 248 := UInt16.le_iff_toNat_le.mp hp
  have hdata : p.payload.length = (pre ++ v ++ post).length := by
    rw [hpay]
    simp only [List.length_append, hlen]
  rw [length_payload] at hdata
  have hsize : (header ++ (pre ++ v ++ post ++ crc)).length = p.length.toNat + 8 := by
    have hbody : (pre ++ v ++ post ++ crc).length = p.length.toNat + 4 := by
      rw [List.length_append, ← hdata, hcrc]
    rw [List.length_append, hbody, hid]
    omega
  rw [← List.cons_append, ← List.cons_append] at hframe
  obtain ⟨body, last, rfl, hbody, hlast⟩ := List.map_eq_append_iff.mp hframe
  obtain ⟨z, last, rfl, hz, hlast⟩ := List.map_eq_cons_iff.mp hlast
  obtain rfl := List.map_eq_nil_iff.mp hlast
  have hbuf' : ∃ x ∈ body.head?, x.2.isSome := by
    obtain ⟨x, body, rfl, -, -⟩ := List.map_eq_cons_iff.mp hbody
    exact hbuf
  obtain ⟨s₁, m, hrun, hc⟩ := cspKissRx_frame (e := e) h hbody (by omega) (.inr hbuf')
  rw [hpay] at hdamage
  obtain ⟨s', haccept, hmode, hc', -⟩ := accept_damaged (e := e) (s := s₁) (m := m)
    (header ++ (pre ++ v ++ post ++ crc)) (by omega) fun data => by
      rw [List.drop_left' hid]
      exact damaged_ne hlen hcrc hdamage data
  refine ⟨s', ?_, hmode, hc'.trans hc⟩
  rw [cspKissRx_append, hrun, Option.bind_some, cspKissRx_cons,
    rxByte_close (by omega) (by omega) hz, haccept]
  rfl

theorem cspKissRx_damaged_escaped : ∃ s',
    cspKissRx .little init (supplied (FEND :: TNC_DATA :: (kiss.stuff ([1, 2, 3, 4] ++
      ([FEND] ++ [0] ++ [FEND] ++ checksum escaped.payload)) ++ [FEND]))) = some s' ∧
      s'.handle.rxMode = .notStarted ∧ s'.contents = init.contents := by
  have hpay : escaped.payload = [FEND] ++ [FEND] ++ [FEND] := rfl
  refine cspKissRx_damaged (v := [0]) (.inl rfl) (by decide) hpay rfl rfl (length_checksum _)
    (.inl ⟨rfl, by decide, by decide⟩) (map_fst_supplied _) ?_
  exact ⟨(FEND, some fun _ => 0), rfl, rfl⟩

end KissRx
end UhfGs.Csp
