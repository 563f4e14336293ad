import UhfGs.Library.BlockHash
import UhfGs.Library.Bytes

/-! The SHA-1 of `csp_sha1.c`: what comes in piece by piece is hashed as one message. -/
namespace UhfGs.Csp
open BlockHash

structure Sha1Words where
  a : UInt32
  b : UInt32
  c : UInt32
  d : UInt32
  e : UInt32
  deriving DecidableEq, Repr

/- The macros. -/
def ROL (x y : UInt32) : UInt32 := x <<< y ||| x >>> (32 - y)

def load32H : List UInt8 → UInt32
  | [y₀, y₁, y₂, y₃] =>
      y₀.toUInt32 <<< 24 ||| y₁.toUInt32 <<< 16 ||| y₂.toUInt32 <<< 8 ||| y₃.toUInt32
  | _ => 0

def store32H (x : UInt32) : List UInt8 :=
  [(x >>> 24).toUInt8, (x >>> 16).toUInt8, (x >>> 8).toUInt8, x.toUInt8]

def store64H (x : UInt64) : List UInt8 :=
  [(x >>> 56).toUInt8, (x >>> 48).toUInt8, (x >>> 40).toUInt8, (x >>> 32).toUInt8,
    (x >>> 24).toUInt8, (x >>> 16).toUInt8, (x >>> 8).toUInt8, x.toUInt8]

def f0 (x y z : UInt32) : UInt32 := z ^^^ (x &&& (y ^^^ z))

def f1 (x y z : UInt32) : UInt32 := x ^^^ y ^^^ z

def f2 (x y z : UInt32) : UInt32 := (x &&& y) ||| (z &&& (x ||| y))

def f3 (x y z : UInt32) : UInt32 := x ^^^ y ^^^ z

/-- `FF_0` to `FF_3`. The source turns the names of the variables from call to call, here the
values turn. -/
def ff (f : UInt32 → UInt32 → UInt32 → UInt32) (k w : UInt32) (s : Sha1Words) : Sha1Words where
  a := ROL s.a 5 + f s.b s.c s.d + s.e + w + k
  b := s.a
  c := ROL s.b 30
  d := s.c
  e := s.d

/-- `W[80]`: the words of the block, and what they are expanded to. -/
def sha1Expand (buf : List UInt8) : List UInt32 :=
  (List.range 64).foldl
    (fun w _ =>
      let i := w.length
      w ++ [ROL (w.getD (i - 3) 0 ^^^ w.getD (i - 8) 0 ^^^ w.getD (i - 14) 0 ^^^
        w.getD (i - 16) 0) 1])
    ((List.range 16).map fun i => load32H ((buf.drop (4 * i)).take 4))

def cspSha1Compress (s : Sha1Words) (buf : List UInt8) : Sha1Words :=
  let w := sha1Expand buf
  let r := (w.take 20).foldl (fun r w => ff f0 0x5a827999 w r) s
  let r := ((w.drop 20).take 20).foldl (fun r w => ff f1 0x6ed9eba1 w r) r
  let r := ((w.drop 40).take 20).foldl (fun r w => ff f2 0x8f1bbcdc w r) r
  let r := (w.drop 60).foldl (fun r w => ff f3 0xca62c1d6 w r) r
  ⟨s.a + r.a, s.b + r.b, s.c + r.c, s.d + r.d, s.e + r.e⟩

/-- `csp_sha1_state`. The buffer is the part of `buf` that `curlen` says is in use. -/
structure Sha1State where
  length : UInt64
  state : Sha1Words
  buf : List UInt8
  room : buf.length < 64

def cspSha1Init : Sha1State where
  length := 0
  state := ⟨0x67452301, 0xefcdab89, 0x98badcfe, 0x10325476, 0xc3d2e1f0⟩
  buf := []
  room := by decide

/-- One turn of the loop of `csp_sha1_process`, and what is left of the input. -/
def Sha1State.turn (s : Sha1State) (input : List UInt8) : Sha1State × List UInt8 :=
  if s.buf.length = 0 ∧ 64 ≤ input.length then
    ({ s with state := cspSha1Compress s.state (input.take 64), length := s.length + 512 },
      input.drop 64)
  else
    let n := min input.length (64 - s.buf.length)
    let buf := s.buf ++ input.take n
    if h : buf.length = 64 then
      (⟨s.length + 512, cspSha1Compress s.state buf, [], by decide⟩, input.drop n)
    else
      (⟨s.length, s.state, buf, by
        have hroom := s.room
        have hlen : buf.length = s.buf.length + n := by
          rw [List.length_append, List.length_take_of_le (Nat.min_le_left _ _)]
        omega⟩, input.drop n)

theorem Sha1State.length_turn_lt (s : Sha1State) {input : List UInt8} (h : input ≠ []) :
    (s.turn input).2.length < input.length := by
  have hpos : 0 < input.length := List.length_pos_of_ne_nil h
  have hroom := s.room
  unfold turn
  split
  · rw [List.length_drop]
    omega
  · dsimp only
    split
    · rw [List.length_drop]
      omega
    · rw [List.length_drop]
      omega

def cspSha1Process (s : Sha1State) (input : List UInt8) : Sha1State :=
  if _ : input = [] then s else cspSha1Process (s.turn input).1 (s.turn input).2
termination_by input.length
decreasing_by exact s.length_turn_lt ‹_›

def bitCount (bytes : Nat) : UInt64 := bytes.toUInt64 * 8

/-- The one bit at the end of the message, and a block of its own if the length does not fit
behind it. -/
def Sha1State.mark (s : Sha1State) : Sha1Words × List UInt8 :=
  let buf := s.buf ++ [0x80]
  if 56 < buf.length then
    (cspSha1Compress s.state (buf ++ List.replicate (64 - buf.length) 0), [])
  else (s.state, buf)

def Sha1Words.digest (r : Sha1Words) : List UInt8 :=
  store32H r.a ++ store32H r.b ++ store32H r.c ++ store32H r.d ++ store32H r.e

def cspSha1Done (s : Sha1State) : List UInt8 :=
  let length := s.length + bitCount s.buf.length
  let buf := s.mark.2 ++ List.replicate (56 - s.mark.2.length) 0
  (cspSha1Compress s.mark.1 (buf ++ store64H length)).digest

@[simp] theorem length_cspSha1Done (s : Sha1State) : (cspSha1Done s).length = 20 := rfl

def cspSha1Memory (msg : List UInt8) : List UInt8 :=
  cspSha1Done (cspSha1Process cspSha1Init msg)

/-- The padding of a message: a one bit, zeros, and the length in bits. -/
def sha1Padding (len : Nat) : List UInt8 :=
  0x80 :: (List.replicate ((119 - len % 64) % 64) 0 ++ store64H (bitCount len))

/-- The hash of a message, as the standard defines it: all blocks of the padded message in turn. -/
def sha1 (msg : List UInt8) : List UInt8 :=
  (absorb 64 cspSha1Compress cspSha1Init.state (msg ++ sha1Padding msg.length)).1.digest

theorem bitCount_add (m n : Nat) : bitCount (m + n) = bitCount m + bitCount n := by
  simp only [bitCount, Nat.toUInt64_eq, UInt64.ofNat_add, UInt64.add_mul]

def Sha1State.bits (s : Sha1State) : UInt64 := s.length + bitCount s.buf.length

theorem Sha1State.absorb_turn (s : Sha1State) (input : List UInt8) :
    absorb 64 cspSha1Compress (s.turn input).1.state ((s.turn input).1.buf ++ (s.turn input).2) =
      absorb 64 cspSha1Compress s.state (s.buf ++ input) := by
  unfold turn
  split
  · rename_i hblock
    have hempty : s.buf = [] := List.length_eq_zero_iff.mp hblock.1
    have hlen : (input.take 64).length = 64 := List.length_take_of_le hblock.2
    dsimp only
    rw [hempty, List.nil_append, List.nil_append, ← absorb_block (by decide) hlen,
      List.take_append_drop]
  · dsimp only
    split
    · rename_i hfull
      dsimp only
      rw [List.nil_append, ← absorb_block (by decide) hfull, List.append_assoc,
        List.take_append_drop]
    · dsimp only
      rw [List.append_assoc, List.take_append_drop]

theorem Sha1State.bits_turn (s : Sha1State) (input : List UInt8) :
    (s.turn input).1.bits + bitCount (s.turn input).2.length = s.bits + bitCount input.length := by
  have hblock (length : UInt64) (m : Nat) :
      length + 512 + bitCount 0 + bitCount m = length + bitCount (64 + m) := by
    rw [bitCount_add 64, UInt64.add_assoc, UInt64.add_assoc, ← bitCount_add, Nat.zero_add]
    rfl
  have hsum : s.bits + bitCount input.length =
      s.length + bitCount (s.buf.length + input.length) := by
    rw [bits, UInt64.add_assoc, bitCount_add]
  rw [hsum]
  unfold turn
  split
  · rename_i hfull
    simp only [bits, hfull.1]
    rw [hblock, List.length_drop, Nat.add_sub_cancel' hfull.2, Nat.zero_add]
  · dsimp only
    split
    · rename_i hfull
      simp only [bits, List.length_nil]
      have htotal : 64 + (input.drop (min input.length (64 - s.buf.length))).length =
          s.buf.length + input.length := by
        rw [List.length_append, List.length_take] at hfull
        rw [List.length_drop]
        omega
      rw [hblock, htotal]
    · simp only [bits]
      rw [UInt64.add_assoc, ← bitCount_add, ← List.length_append, List.append_assoc,
        List.take_append_drop, List.length_append]

theorem absorb_cspSha1Process (s : Sha1State) (input : List UInt8) :
    ((cspSha1Process s input).state, (cspSha1Process s input).buf) =
      absorb 64 cspSha1Compress s.state (s.buf ++ input) ∧
      (cspSha1Process s input).bits = s.bits + bitCount input.length := by
  induction s, input using cspSha1Process.induct with
  | case1 s =>
      rw [cspSha1Process, dif_pos rfl, List.append_nil, absorb_of_lt s.room]
      exact ⟨rfl, (UInt64.add_zero _).symm⟩
  | case2 s input h ih =>
      rw [cspSha1Process, dif_neg h, ih.1, ih.2, s.absorb_turn, s.bits_turn]
      exact ⟨rfl, rfl⟩

theorem absorb_foldl_cspSha1Process (parts : List (List UInt8)) (s : Sha1State) :
    ((parts.foldl cspSha1Process s).state, (parts.foldl cspSha1Process s).buf) =
      absorb 64 cspSha1Compress s.state (s.buf ++ parts.flatten) ∧
      (parts.foldl cspSha1Process s).bits = s.bits + bitCount parts.flatten.length := by
  induction parts generalizing s with
  | nil =>
      rw [List.flatten_nil, List.append_nil, absorb_of_lt s.room]
      exact ⟨rfl, (UInt64.add_zero _).symm⟩
  | cons part parts ih =>
      obtain ⟨hpart, hbits⟩ := absorb_cspSha1Process s part
      obtain ⟨hrest, hbits'⟩ := ih (cspSha1Process s part)
      have hwhole : absorb 64 cspSha1Compress s.state (s.buf ++ part ++ parts.flatten) =
          absorb 64 cspSha1Compress (absorb 64 cspSha1Compress s.state (s.buf ++ part)).1
            ((absorb 64 cspSha1Compress s.state (s.buf ++ part)).2 ++ parts.flatten) :=
        absorb_append
      rw [← hpart] at hwhole
      rw [List.foldl_cons, hrest, hbits', hbits, List.flatten_cons, ← List.append_assoc, hwhole,
        List.length_append, bitCount_add, UInt64.add_assoc]
      exact ⟨rfl, rfl⟩

theorem cspSha1Done_eq (s : Sha1State) : cspSha1Done s =
    (absorb 64 cspSha1Compress s.state (s.buf ++
      0x80 :: (List.replicate ((119 - s.buf.length) % 64) 0 ++ store64H s.bits))).1.digest := by
  have hroom := s.room
  have hblock (state : Sha1Words) {buf : List UInt8} (h : buf.length = 64) :
      (absorb 64 cspSha1Compress state buf).1 = cspSha1Compress state buf := by
    have hfull : absorb 64 cspSha1Compress state (buf ++ []) =
        absorb 64 cspSha1Compress (cspSha1Compress state buf) [] :=
      absorb_block (by decide) h []
    have hnil : absorb 64 cspSha1Compress (cspSha1Compress state buf) [] =
        (cspSha1Compress state buf, []) :=
      absorb_of_lt (by decide)
    rw [← List.append_nil buf, hfull, hnil, List.append_nil]
  have hlast (state : Sha1Words) {buf : List UInt8} (h : buf.length ≤ 56) :
      (absorb 64 cspSha1Compress state
        (buf ++ List.replicate (56 - buf.length) 0 ++ store64H s.bits)).1 =
        cspSha1Compress state
          (buf ++ List.replicate (56 - buf.length) 0 ++ store64H s.bits) := by
    refine hblock state ?_
    rw [List.length_append, List.length_append, List.length_replicate]
    simp only [store64H, List.length_cons, List.length_nil]
    omega
  have hlen : (s.buf ++ [(0x80 : UInt8)]).length = s.buf.length + 1 := List.length_append
  by_cases hlong : 56 < (s.buf ++ [(0x80 : UInt8)]).length
  · -- the length does not fit into the block of the one bit
    have hzeros : (119 - s.buf.length) % 64 = 64 - (s.buf.length + 1) + 56 := by omega
    have hsplit : s.buf ++ 0x80 ::
        (List.replicate ((119 - s.buf.length) % 64) 0 ++ store64H s.bits) =
          (s.buf ++ [0x80] ++ List.replicate (64 - (s.buf.length + 1)) 0) ++
            ([] ++ List.replicate (56 - ([] : List UInt8).length) 0 ++ store64H s.bits) := by
      rw [hzeros, List.replicate_add]
      simp
    have hfull : (s.buf ++ [0x80] ++
        List.replicate (64 - (s.buf.length + 1)) (0 : UInt8)).length = 64 := by
      rw [List.length_append, hlen, List.length_replicate]
      omega
    have hnil : ([] : List UInt8).length ≤ 56 := Nat.zero_le 56
    have hmark : s.mark = (cspSha1Compress s.state
        (s.buf ++ [0x80] ++ List.replicate (64 - (s.buf.length + 1)) 0), []) := by
      rw [Sha1State.mark, if_pos hlong, hlen]
    rw [hsplit, absorb_block (by decide) hfull, hlast _ hnil, cspSha1Done, hmark]
    rfl
  · have hzeros : (119 - s.buf.length) % 64 = 56 - (s.buf ++ [(0x80 : UInt8)]).length := by omega
    have hsplit : s.buf ++ 0x80 ::
        (List.replicate ((119 - s.buf.length) % 64) 0 ++ store64H s.bits) =
          s.buf ++ [0x80] ++ List.replicate (56 - (s.buf ++ [(0x80 : UInt8)]).length) 0 ++
            store64H s.bits := by
      rw [hzeros]
      simp
    have hmark : s.mark = (s.state, s.buf ++ [0x80]) := by
      rw [Sha1State.mark, if_neg hlong]
    rw [hsplit, hlast _ (Nat.not_lt.mp hlong), cspSha1Done, hmark]
    rfl

theorem cspSha1_pieces (parts : List (List UInt8)) :
    cspSha1Done (parts.foldl cspSha1Process cspSha1Init) = sha1 parts.flatten := by
  obtain ⟨hstate, hbits⟩ := absorb_foldl_cspSha1Process parts cspSha1Init
  have hinit : cspSha1Init.bits = 0 := rfl
  have hempty : cspSha1Init.buf = [] := rfl
  rw [hempty, List.nil_append] at hstate
  rw [hinit, UInt64.zero_add] at hbits
  have hlen : (parts.foldl cspSha1Process cspSha1Init).buf.length = parts.flatten.length % 64 := by
    have hmod := @length_absorb_mod _ _ 64 cspSha1Compress cspSha1Init.state parts.flatten
    rw [← hstate, Nat.mod_eq_of_lt (Sha1State.room _)] at hmod
    exact hmod
  have hwhole : absorb 64 cspSha1Compress cspSha1Init.state
      (parts.flatten ++ sha1Padding parts.flatten.length) = _ := absorb_append
  rw [← hstate] at hwhole
  rw [cspSha1Done_eq, sha1, hwhole, hlen, hbits, sha1Padding]

theorem cspSha1Memory_eq (msg : List UInt8) : cspSha1Memory msg = sha1 msg := by
  have hpieces := cspSha1_pieces [msg]
  rwa [List.flatten_singleton] at hpieces

example : cspSha1Memory [0x61, 0x62, 0x63] =
    [0xa9, 0x99, 0x3e, 0x36, 0x47, 0x06, 0x81, 0x6a, 0xba, 0x3e, 0x25, 0x71, 0x78, 0x50, 0xc2, 0x6c,
      0x9c, 0xd0, 0xd8, 0x9d] := by
  decide +kernel

end UhfGs.Csp
