import UhfGs.Csp.Crc
import UhfGs.Csp.Sha1

/-! The message authentication of `csp_hmac.c`. -/
namespace UhfGs.Csp
open Bytes

structure HmacState where
  md : Sha1State
  key : List UInt8

def cspHmacInit (key : List UInt8) : Option HmacState :=
  if key.length < 1 then none
  else
    let key := if 64 < key.length then cspSha1Memory key else key
    let key := key ++ List.replicate (64 - key.length) 0
    some ⟨cspSha1Process cspSha1Init (key.map (· ^^^ 0x36)), key⟩

def cspHmacProcess (hmac : HmacState) (input : List UInt8) : HmacState :=
  { hmac with md := cspSha1Process hmac.md input }

def cspHmacDone (hmac : HmacState) : List UInt8 :=
  let isha := cspSha1Done hmac.md
  let md := cspSha1Process cspSha1Init (hmac.key.map (· ^^^ 0x5C))
  cspSha1Done (cspSha1Process md isha)

def cspHmacMemory (key data : List UInt8) : Option (List UInt8) :=
  (cspHmacInit key).map fun hmac => cspHmacDone (cspHmacProcess hmac data)

def blockKey (key : List UInt8) : List UInt8 :=
  let short := if 64 < key.length then sha1 key else key
  short ++ List.replicate (64 - short.length) 0

/-- The keyed hash of a message, as the standard defines it. -/
def hmacSha1 (key msg : List UInt8) : List UInt8 :=
  sha1 ((blockKey key).map (· ^^^ 0x5C) ++ sha1 ((blockKey key).map (· ^^^ 0x36) ++ msg))

theorem cspHmacInit_eq {key : List UInt8} (h : key ≠ []) : cspHmacInit key =
    some ⟨cspSha1Process cspSha1Init ((blockKey key).map (· ^^^ 0x36)), blockKey key⟩ := by
  have hpos : ¬ key.length < 1 := Nat.not_lt.mpr (List.length_pos_of_ne_nil h)
  rw [cspHmacInit, if_neg hpos, cspSha1Memory_eq]
  rfl

theorem foldl_cspHmacProcess (parts : List (List UInt8)) (hmac : HmacState) :
    parts.foldl cspHmacProcess hmac = { hmac with md := parts.foldl cspSha1Process hmac.md } := by
  induction parts generalizing hmac with
  | nil => rfl
  | cons part parts ih => rw [List.foldl_cons, List.foldl_cons, ih, cspHmacProcess]

/-- However a message is cut into pieces, it has the keyed hash of the standard; only the empty
key is turned down. -/
theorem cspHmac_pieces (key : List UInt8) (parts : List (List UInt8)) :
    (cspHmacInit key).map (fun hmac => cspHmacDone (parts.foldl cspHmacProcess hmac)) =
      if key = [] then none else some (hmacSha1 key parts.flatten) := by
  by_cases h : key = []
  · rw [if_pos h, h]
    rfl
  · have hinner := cspSha1_pieces ((blockKey key).map (· ^^^ 0x36) :: parts)
    have houter := cspSha1_pieces [(blockKey key).map (· ^^^ 0x5C),
      sha1 ((blockKey key).map (· ^^^ 0x36) ++ parts.flatten)]
    rw [List.foldl_cons, List.flatten_cons] at hinner
    rw [List.foldl_cons, List.foldl_cons, List.foldl_nil, List.flatten_cons,
      List.flatten_singleton] at houter
    rw [if_neg h, cspHmacInit_eq h, Option.map_some, foldl_cspHmacProcess, cspHmacDone, hinner,
      houter, hmacSha1]

theorem cspHmacMemory_eq {key : List UInt8} (h : key ≠ []) (data : List UInt8) :
    cspHmacMemory key data = some (hmacSha1 key data) := by
  have hpieces := cspHmac_pieces key [data]
  rwa [if_neg h, List.flatten_singleton] at hpieces

/-- A key of `HMAC_KEY_LENGTH`, which is that of XTEA as well. -/
abbrev Key := { key : List UInt8 // key.length = 16 }

theorem Key.ne_nil (key : Key) : key.val ≠ [] := by
  intro h
  have hlen := key.property
  rw [h] at hlen
  exact absurd hlen (by decide)

structure Tag where
  of : List UInt8 → List UInt8
  length_of : ∀ data, (of data).length = 4

attribute [simp] Tag.length_of

def Tag.append (tag : Tag) (packet : Packet) : Packet :=
  { packet with
    data := writeMem packet.length.toNat (tag.of packet.payload) packet.data
    length := packet.length + 4 }

/-- The packet that is accepted has lost the tag. It has to have room for one. -/
def Tag.verify (tag : Tag) (packet : Packet) : Option Packet :=
  let n := packet.length.toNat - 4
  if readMem 4 (fun i => packet.data (n + i)) ≠ tag.of (readMem n packet.data) then none
  else some { packet with length := packet.length - 4 }

/-- The keyed hash cut down to `CSP_HMAC_LENGTH`. The key is not empty, so that there is one. -/
def authenticator (key : Key) : Tag where
  of data := ((cspHmacMemory key.val data).getD []).take 4
  length_of data := by
    rw [cspHmacMemory_eq key.ne_nil, Option.getD_some, hmacSha1, ← cspSha1Memory_eq, cspSha1Memory,
      List.length_take, length_cspSha1Done]
    rfl

/-- `csp_hmac_append` without the header. -/
def cspHmacAppend (key : Key) (packet : Packet) : Packet := (authenticator key).append packet

/-- `csp_hmac_verify` without the header. -/
def cspHmacVerify (key : Key) (packet : Packet) : Option Packet := (authenticator key).verify packet

def crcTag : Tag := ⟨checksum, length_checksum⟩

theorem cspCrc32Append_eq (e : Endian) (packet : Packet) :
    cspCrc32Append e packet = crcTag.append packet := by
  have hbytes : e.bytes (cspHton32 e (cspCrc32Memory packet.payload).toNat) =
      crcTag.of packet.payload :=
    bytes_cspHton32 e _
  rw [cspCrc32Append, hbytes, Tag.append]

theorem cspCrc32Verify_eq (e : Endian) (packet : Packet) :
    cspCrc32Verify e packet = if packet.length < 4 then none else crcTag.verify packet := by
  simp only [cspCrc32Verify, bytes_cspHton32]
  rfl

theorem Tag.payload_append (tag : Tag) {p : Packet} (h : p.length.toNat + 4 < 2 ^ 16) :
    (tag.append p).payload = p.payload ++ tag.of p.payload := by
  have hlen : (p.length + 4).toNat = p.length.toNat + 4 := by
    rw [UInt16.toNat_add]
    exact Nat.mod_eq_of_lt h
  have hend := readMem_writeMem_end p.length.toNat (tag.of p.payload) p.data
  rw [tag.length_of] at hend
  simp only [append, Packet.payload, hlen]
  exact hend

theorem toNat_sub_four {n : UInt16} (h : 4 ≤ n.toNat) : (n - 4).toNat = n.toNat - 4 := by
  have hle : (4 : UInt16) ≤ n := UInt16.le_iff_toNat_le.mpr h
  rw [UInt16.toNat_sub_of_le _ _ hle]
  rfl

theorem Tag.verify_eq_some (tag : Tag) {p q : Packet} (h : 4 ≤ p.length.toNat) :
    tag.verify p = some q ↔
      q = { p with length := p.length - 4 } ∧ p.payload = q.payload ++ tag.of q.payload := by
  have hsplit : p.payload = readMem (p.length.toNat - 4) p.data ++
      readMem 4 fun i => p.data (p.length.toNat - 4 + i) := by
    rw [Packet.payload, ← readMem_add, Nat.sub_add_cancel h]
  have hshort : ({ p with length := p.length - 4 } : Packet).payload =
      readMem (p.length.toNat - 4) p.data := by
    rw [Packet.payload, toNat_sub_four h]
  unfold verify
  constructor
  · intro hq
    dsimp only at hq
    split at hq
    · cases hq
    · rename_i heq
      cases hq
      refine ⟨rfl, ?_⟩
      rw [hshort, hsplit, not_not.mp heq]
  · rintro ⟨rfl, hq⟩
    rw [hshort, hsplit] at hq
    have heq := List.append_cancel_left hq
    dsimp only
    rw [if_neg (not_not.mpr heq)]

end UhfGs.Csp
