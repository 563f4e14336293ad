import UhfGs.Library.Packed
import UhfGs.Csp.Crc
import UhfGs.Csp.Output
import UhfGs.Csp.Qfifo

/-! The receiving side of the KISS interface: `csp_kiss_rx`. -/
namespace UhfGs.Csp
open Bytes

inductive KissMode where
  | notStarted
  | started
  | escaped
  | skipFrame
  deriving DecidableEq, Repr

/-- The part of `csp_kiss_handle_t` that receives. A packet is the memory from its identifier
on. -/
structure KissHandle where
  rxLength : Nat
  rxMode : KissMode
  rxFirst : Bool
  rxPacket : Option (Nat → UInt8)

/-- The handle, the counters of the interface, the queues to the router and the characters sent back
to the usart driver. `written` records the packets given to `csp_qfifo_write`, and whether there was
room for them. -/
structure KissRx where
  handle : KissHandle
  rxError : UInt32
  frame : UInt32
  drop : UInt32
  rx : UInt32
  rxBytes : UInt32
  fifo : Qfifo
  written : List (Packet × Bool)
  discarded : List UInt8

def kissMtu : Nat := 256

namespace KissRx

def init : KissRx := ⟨⟨0, .notStarted, false, none⟩, 0, 0, 0, 0, 0, .empty, [], []⟩

/-- A data character goes to the packet. There is none behind a null pointer. -/
def store (s : KissRx) (b : UInt8) : Option KissRx :=
  s.handle.rxPacket.map fun mem =>
    { s with
      handle := { s.handle with
        rxPacket := some (Function.update mem s.handle.rxLength b)
        rxLength := s.handle.rxLength + 1 } }

def framed (e : Endian) (n : Nat) (mem : Nat → UInt8) : Packet where
  length := UInt16.ofNat (n - 4)
  id := .ofExt (cspHton32 e (e.load 4 (readMem 4 mem)))
  data := fun i => mem (i + 4)

def enqueue (s : KissRx) (packet : Packet) : KissRx :=
  match s.fifo.cspQfifoWrite packet with
  | (fifo, true) =>
      { s with
        fifo := fifo
        rx := s.rx + 1
        rxBytes := s.rxBytes + packet.length.toUInt32
        written := s.written ++ [(packet, true)] }
  | (fifo, false) =>
      { s with
        fifo := fifo
        drop := s.drop + 1
        written := s.written ++ [(packet, false)] }

def accept (e : Endian) (s : KissRx) : Option KissRx :=
  if s.handle.rxLength < 8 then
    some { s with rxError := s.rxError + 1, handle := { s.handle with rxMode := .notStarted } }
  else
    s.handle.rxPacket.map fun mem =>
      match cspCrc32Verify e (framed e s.handle.rxLength mem) with
      | none =>
          -- the identifier stays behind in host order
          let ext := cspHton32 e (e.load 4 (readMem 4 mem))
          { s with
            frame := s.frame + 1
            rxError := s.rxError + 1
            handle := { s.handle with
              rxMode := .notStarted
              rxPacket := some (writeMem 0 (e.bytes ext) mem) } }
      | some packet =>
          { s.enqueue packet with
            frame := s.frame + 1
            handle := { s.handle with rxMode := .notStarted, rxPacket := none } }

/-- The check that comes before every character. -/
def overflow (s : KissRx) : KissRx :=
  if s.handle.rxLength > kissMtu then
    { s with
      rxError := s.rxError + 1
      handle := { s.handle with rxMode := .notStarted, rxLength := 0 } }
  else s

/-- What the modes make of a character. `get` is what `csp_buffer_get` answers if it is asked. -/
def input (e : Endian) (get : Option (Nat → UInt8)) (s : KissRx) (b : UInt8) : Option KissRx :=
  match s.handle.rxMode with
  | .notStarted =>
      if b ≠ FEND then some { s with discarded := s.discarded ++ [b] }
      else
        match s.handle.rxPacket.or get with
        | none => some { s with handle := { s.handle with rxMode := .skipFrame, rxPacket := none } }
        | some mem => some { s with handle := ⟨0, .started, true, some mem⟩ }
  | .started =>
      if b = FESC then some { s with handle := { s.handle with rxMode := .escaped } }
      else if b = FEND then if s.handle.rxLength > 0 then s.accept e else some s
      else if s.handle.rxFirst then some { s with handle := { s.handle with rxFirst := false } }
      else s.store b
  | .escaped =>
      (if b = TFESC then s.store FESC else if b = TFEND then s.store FEND else some s).map fun s =>
        { s with handle := { s.handle with rxMode := .started } }
  | .skipFrame =>
      if b = FEND then some { s with handle := { s.handle with rxMode := .notStarted } } else some s

def rxByte (e : Endian) (s : KissRx) (x : UInt8 × Option (Nat → UInt8)) : Option KissRx :=
  s.overflow.input e x.2 x.1

/-- Characters as they come in, each with what `csp_buffer_get` would answer at it. -/
abbrev Line := List (UInt8 × Option (Nat → UInt8))

/-- `csp_kiss_rx`. Nothing comes out once a null pointer is written through. -/
def cspKissRx (e : Endian) (s : KissRx) (line : Line) : Option KissRx := line.foldlM (rxByte e) s

theorem cspKissRx_cons (e : Endian) (s : KissRx) (x : UInt8 × Option (Nat → UInt8)) (line : Line) :
    cspKissRx e s (x :: line) = (rxByte e s x).bind fun s => cspKissRx e s line := List.foldlM_cons

theorem cspKissRx_append (e : Endian) (s : KissRx) (line rest : Line) :
    cspKissRx e s (line ++ rest) = (cspKissRx e s line).bind fun s => cspKissRx e s rest :=
  List.foldlM_append

def withHandle (s : KissRx) (h : KissHandle) : KissRx := { s with handle := h }

theorem enqueue_withHandle (s : KissRx) (h : KissHandle) (packet : Packet) :
    (s.withHandle h).enqueue packet = (s.enqueue packet).withHandle h := by
  have hfifo : (s.withHandle h).fifo = s.fifo := rfl
  unfold enqueue
  rw [hfifo]
  split <;> rfl

theorem enqueue_handle (s : KissRx) (packet : Packet) : (s.enqueue packet).handle = s.handle := by
  unfold enqueue
  split
  · rfl
  · rfl

theorem enqueue_fifo (s : KissRx) (packet : Packet) :
    (s.enqueue packet).fifo = (s.fifo.cspQfifoWrite packet).1 := by
  unfold enqueue
  split <;> rename_i hwrite <;> rw [hwrite]

theorem enqueue_written (s : KissRx) (packet : Packet) : (s.enqueue packet).written =
    s.written ++ [(packet, (s.fifo.cspQfifoWrite packet).2)] := by
  unfold enqueue
  split <;> rename_i hwrite <;> rw [hwrite]

theorem overflow_of_le {s : KissRx} (h : s.handle.rxLength ≤ 256) : s.overflow = s :=
  if_neg (Nat.not_lt.mpr h)

/-- A property of buffers that no byte of a frame can spoil. -/
def Keeps (P : (Nat → UInt8) → Prop) : Prop :=
  ∀ mem, P mem → ∀ n ≤ 256, ∀ b, P (Function.update mem n b)

theorem Keeps.writeMem {P : (Nat → UInt8) → Prop} (hP : Keeps P) {bs : List UInt8} {off : Nat}
    (hfit : off + bs.length ≤ 257) {mem : Nat → UInt8} (h : P mem) : P (writeMem off bs mem) := by
  induction bs generalizing off mem with
  | nil =>
      have hnil : Bytes.writeMem off [] mem = mem := by
        funext i
        simp [Bytes.writeMem]
      rwa [hnil]
  | cons b bs ih =>
      rw [List.length_cons] at hfit
      rw [writeMem_cons]
      exact ih (by omega) (hP mem h off (by omega) b)

/-- A packet is there while a frame comes in, and has room for it. -/
structure Ok (P : (Nat → UInt8) → Prop) (s : KissRx) : Prop where
  length_le : s.handle.rxLength ≤ 257
  packet : s.handle.rxMode = .started ∨ s.handle.rxMode = .escaped → s.handle.rxPacket.isSome
  buffer : ∀ mem ∈ s.handle.rxPacket, P mem
  written : ∀ w ∈ s.written, ∃ mem, P mem ∧ w.1.data = fun i => mem (i + 4)

section
variable {e : Endian} {s : KissRx} {P : (Nat → UInt8) → Prop}

theorem init_ok : init.Ok P :=
  ⟨by decide, fun h => by simp [init] at h, by simp [init], by simp [init]⟩

theorem Ok.overflow (h : s.Ok P) : s.overflow.Ok P ∧ s.overflow.handle.rxLength ≤ 256 := by
  unfold KissRx.overflow
  by_cases hlong : s.handle.rxLength > kissMtu
  · rw [if_pos hlong]
    exact ⟨⟨by simp, fun h => by simp at h, h.buffer, h.written⟩, by simp⟩
  · rw [if_neg hlong]
    exact ⟨h, Nat.not_lt.mp hlong⟩

theorem Ok.store (hP : Keeps P) (h : s.Ok P) {mem : Nat → UInt8}
    (hmem : s.handle.rxPacket = some mem) (hlen : s.handle.rxLength ≤ 256) (b : UInt8) :
    ∃ s', s.store b = some s' ∧ s'.Ok P ∧ s'.handle.rxPacket.isSome := by
  rw [KissRx.store, hmem, Option.map_some]
  refine ⟨_, rfl, ⟨?_, fun _ => rfl, ?_, h.written⟩, rfl⟩
  · exact Nat.succ_le_succ hlen
  · intro mem' hmem'
    cases Option.mem_def.mp hmem'
    exact hP mem (h.buffer mem hmem) _ hlen b

theorem Ok.accept (hP : Keeps P) (h : s.Ok P) {mem : Nat → UInt8}
    (hmem : s.handle.rxPacket = some mem) :
    ∃ s', s.accept e = some s' ∧ s'.Ok P ∧ s'.handle.rxMode = .notStarted := by
  unfold KissRx.accept
  by_cases hshort : s.handle.rxLength < 8
  · rw [if_pos hshort]
    exact ⟨_, rfl, ⟨h.length_le, fun h => by simp at h, h.buffer, h.written⟩, rfl⟩
  · rw [if_neg hshort, hmem, Option.map_some]
    refine ⟨_, rfl, ?_⟩
    cases hcrc : cspCrc32Verify e (framed e s.handle.rxLength mem) with
    | none =>
        refine ⟨⟨h.length_le, fun h => by simp at h, ?_, h.written⟩, rfl⟩
        intro mem' hmem'
        cases Option.mem_def.mp hmem'
        exact hP.writeMem (by cases e <;> simp [Endian.bytes]) (h.buffer mem hmem)
    | some q =>
        refine ⟨⟨h.length_le, fun h => by simp at h, by simp, ?_⟩, rfl⟩
        intro w hw
        dsimp only at hw
        rw [enqueue_written] at hw
        obtain hw | hw := List.mem_append.mp hw
        · exact h.written w hw
        · rw [List.mem_singleton.mp hw, (cspCrc32Verify_eq_some.mp hcrc).2.1]
          exact ⟨mem, h.buffer mem hmem, rfl⟩

theorem Ok.input (hP : Keeps P) (h : s.Ok P) (hlen : s.handle.rxLength ≤ 256)
    {get : Option (Nat → UInt8)} (hget : ∀ mem ∈ get, P mem) (b : UInt8) :
    ∃ s', s.input e get b = some s' ∧ s'.Ok P := by
  unfold KissRx.input
  cases hmode : s.handle.rxMode with
  | notStarted =>
      simp only
      split
      · exact ⟨_, rfl, h.length_le, h.packet, h.buffer, h.written⟩
      · cases hor : s.handle.rxPacket.or get with
        | none =>
            exact ⟨_, rfl, h.length_le, fun hm => by simp at hm, by simp, h.written⟩
        | some mem =>
            refine ⟨_, rfl, Nat.zero_le _, fun _ => rfl, fun mem' hmem' => ?_, h.written⟩
            cases Option.mem_def.mp hmem'
            obtain hp | ⟨-, hp⟩ := Option.or_eq_some_iff.mp hor
            · exact h.buffer mem hp
            · exact hget mem hp
  | started =>
      obtain ⟨mem, hmem⟩ := Option.isSome_iff_exists.mp (h.packet (.inl hmode))
      have hsome : s.handle.rxPacket.isSome := h.packet (.inl hmode)
      simp only
      split
      · exact ⟨_, rfl, h.length_le, fun _ => hsome, h.buffer, h.written⟩
      · split
        · split
          · obtain ⟨s', hs', hok, -⟩ := h.accept (e := e) hP hmem
            exact ⟨s', hs', hok⟩
          · exact ⟨s, rfl, h⟩
        · split
          · exact ⟨_, rfl, h.length_le, fun _ => hsome, h.buffer, h.written⟩
          · obtain ⟨s', hs', hok, -⟩ := h.store hP hmem hlen b
            exact ⟨s', hs', hok⟩
  | escaped =>
      obtain ⟨mem, hmem⟩ := Option.isSome_iff_exists.mp (h.packet (.inr hmode))
      have hstored (c : UInt8) : ∃ s', ((s.store c).map fun s =>
          { s with handle := { s.handle with rxMode := .started } }) = some s' ∧ s'.Ok P := by
        obtain ⟨s', hs', hok, hp⟩ := h.store hP hmem hlen c
        refine ⟨s'.withHandle { s'.handle with rxMode := .started }, ?_, ?_⟩
        · rw [hs', Option.map_some]
          rfl
        · exact ⟨hok.length_le, fun _ => hp, hok.buffer, hok.written⟩
      simp only
      split
      · exact hstored FESC
      · split
        · exact hstored FEND
        · exact ⟨_, rfl, h.length_le, fun _ => h.packet (.inr hmode), h.buffer, h.written⟩
  | skipFrame =>
      simp only
      split
      · exact ⟨_, rfl, h.length_le, fun hm => by simp at hm, h.buffer, h.written⟩
      · exact ⟨s, rfl, h⟩

theorem Ok.rxByte (hP : Keeps P) (h : s.Ok P) {x : UInt8 × Option (Nat → UInt8)}
    (hx : ∀ mem ∈ x.2, P mem) : ∃ s', rxByte e s x = some s' ∧ s'.Ok P :=
  h.overflow.1.input hP h.overflow.2 hx x.1

theorem Ok.cspKissRx (hP : Keeps P) (h : s.Ok P) {line : Line}
    (hline : ∀ x ∈ line, ∀ mem ∈ x.2, P mem) :
    ∃ s', cspKissRx e s line = some s' ∧ s'.Ok P := by
  induction line generalizing s with
  | nil => exact ⟨s, rfl, h⟩
  | cons x line ih =>
      obtain ⟨s₁, hs₁, h₁⟩ := h.rxByte (e := e) hP (hline x List.mem_cons_self)
      obtain ⟨s', hs', h'⟩ := ih h₁ fun y hy => hline y (List.mem_cons_of_mem x hy)
      exact ⟨s', by rw [cspKissRx_cons, hs₁, Option.bind_some, hs'], h'⟩

end

/-- The buffer is one of those that there were on the line, as it was behind its first 257 bytes. -/
def Supplied (line : Line) (mem : Nat → UInt8) : Prop :=
  ∃ x ∈ line, ∃ buffer ∈ x.2, ∀ i, 257 ≤ i → mem i = buffer i

theorem keeps_supplied (line : Line) : Keeps (Supplied line) := by
  rintro mem ⟨x, hx, buffer, hbuffer, htail⟩ n hn b
  refine ⟨x, hx, buffer, hbuffer, fun i hi => ?_⟩
  rw [Function.update_of_ne (by omega)]
  exact htail i hi

/-- Whatever comes in on the line and whenever buffers run out, the receiver never writes through
a null pointer, and no buffer changes behind its first 257 bytes from the identifier on. -/
theorem cspKissRx_safe (e : Endian) (line : Line) :
    ∃ s, cspKissRx e init line = some s ∧ (∀ mem ∈ s.handle.rxPacket, Supplied line mem) ∧
      ∀ w ∈ s.written, ∃ mem, Supplied line mem ∧ w.1.data = fun i => mem (i + 4) := by
  have hsupplied : ∀ x ∈ line, ∀ mem ∈ x.2, Supplied line mem :=
    fun x hx buffer hbuffer => ⟨x, hx, buffer, hbuffer, fun _ _ => rfl⟩
  obtain ⟨s, hs, hok⟩ := init_ok.cspKissRx (e := e) (keeps_supplied line) hsupplied
  exact ⟨s, hs, hok.buffer, hok.written⟩

end KissRx
end UhfGs.Csp
