import UhfGs.Csp.Output
import UhfGs.Csp.Xtea

/-! What the router checks of a packet, and takes off again of what the sender put around it. -/
namespace UhfGs.Csp
open Bytes Keystream

/-- The error codes of `csp_route_security_check`. -/
inductive Refusal where
  | inval
  | xtea
  | crc32
  | hmac
  deriving DecidableEq, Repr

/-- How a check ends. At a fault it accesses bytes that are not of the packet. -/
inductive Checked (α : Type) where
  | fault
  | refused (e : Refusal)
  | passed (a : α)
  deriving DecidableEq, Repr

namespace Checked
variable {α β : Type}

def bind (x : Checked α) (f : α → Checked β) : Checked β :=
  match x with
  | fault => fault
  | refused e => refused e
  | passed a => f a

instance : Monad Checked where
  pure := passed
  bind := bind

def ofOption (e : Refusal) : Option α → Checked α
  | none => refused e
  | some a => passed a

theorem bind_eq_passed {x : Checked α} {f : α → Checked β} {b : β} :
    x >>= f = passed b ↔ ∃ a, x = passed a ∧ f a = passed b := by
  change bind x f = passed b ↔ _
  cases x with
  | fault => simp [bind]
  | refused e => simp [bind]
  | passed a => simp [bind]

theorem bind_eq_fault {x : Checked α} {f : α → Checked β} :
    x >>= f = fault ↔ x = fault ∨ ∃ a, x = passed a ∧ f a = fault := by
  change bind x f = fault ↔ _
  cases x with
  | fault => simp [bind]
  | refused e => simp [bind]
  | passed a => simp [bind]

theorem ofOption_eq_passed {e : Refusal} {x : Option α} {a : α} :
    ofOption e x = passed a ↔ x = some a := by
  cases x with
  | none => simp [ofOption]
  | some a => simp [ofOption]

theorem ofOption_ne_fault (e : Refusal) (x : Option α) : ofOption e x ≠ fault := by
  cases x with
  | none => simp [ofOption]
  | some a => simp [ofOption]

end Checked

structure Keys where
  hmac : Key
  xtea : Key

/-- What `csp_send_direct` does under `CSP_FXTEA`: the nonce is put behind the text, and the text
encrypted. -/
def xteaSeal (e : Endian) (key : Key) (nonce : UInt32) (packet : Packet) : Packet :=
  let nonceN := Packed.u32.store e (cspHton32Word e nonce)
  let data := writeMem packet.length.toNat nonceN packet.data
  let text := cspXteaEncrypt e key nonce 1 (readMem packet.length.toNat data)
  { packet with
    data := writeMem 0 text data
    length := packet.length + 4 }

def keyedNode (node : Node) (keys : Keys) (nonce : UInt32) : Node :=
  { node with
    cspHmacAppend := fun packet => some (cspHmacAppend keys.hmac packet)
    cspXteaEncrypt := fun packet => some (xteaSeal node.endian keys.xtea nonce packet) }

def xteaOpen (e : Endian) (key : Key) (packet : Packet) : Checked Packet :=
  if packet.length < 4 then .fault
  else
    let n := packet.length.toNat - 4
    let nonce := cspNtoh32Word e (Packed.u32.load e (readMem 4 fun i => packet.data (n + i)))
    let packet := { packet with length := packet.length - 4 }
    .passed { packet with data := writeMem 0 (cspXteaEncrypt e key nonce 1 packet.payload) packet.data }

/-- `csp_hmac_verify` reads up to four bytes in front of a packet that is too short for a hash, and
hashes as many as a negative length says. -/
def hmacOpen (key : Key) (packet : Packet) : Checked Packet :=
  if packet.length < 4 then .fault else .ofOption .hmac (cspHmacVerify key packet)

/-- `csp_route_security_check`, which takes the options of the socket. Where they ask for a
checksum, packets without one are still taken. -/
def cspRouteSecurityCheck (e : Endian) (keys : Keys) (securityOpts : UInt32) (packet : Packet) :
    Checked Packet := do
  let packet ←
    (if packet.id.flags &&& fxtea ≠ 0 then xteaOpen e keys.xtea packet
    else if securityOpts &&& optXtea ≠ 0 then .refused .xtea
    else .passed packet)
  let packet ←
    (if packet.id.flags &&& fcrc32 ≠ 0 then .ofOption .crc32 (cspCrc32Verify e packet)
    else .passed packet)
  let packet ←
    (if packet.id.flags &&& fhmac ≠ 0 then hmacOpen keys.hmac packet
    else if securityOpts &&& optHmac ≠ 0 then .refused .hmac
    else .passed packet)
  if packet.id.flags &&& frdp = 0 ∧ securityOpts &&& optRdp ≠ 0 then .refused .inval
  else .passed packet

def tagged (keys : Keys) (flags : UInt8) (msg : List UInt8) : List UInt8 :=
  let msg := if flags &&& fhmac ≠ 0 then msg ++ (authenticator keys.hmac).of msg else msg
  if flags &&& fcrc32 ≠ 0 then msg ++ checksum msg else msg

def enciphered (key : Key) (nonce : UInt32) (text : List UInt8) : List UInt8 :=
  cspXteaEncrypt .big key nonce 1 text ++ Packed.u32.store .big nonce

def sealed (keys : Keys) (flags : UInt8) (nonce : UInt32) (msg : List UInt8) : List UInt8 :=
  if flags &&& fxtea ≠ 0 then enciphered keys.xtea nonce (tagged keys flags msg)
  else tagged keys flags msg

/-- The flags do what the options ask for. -/
def Meets (securityOpts : UInt32) (flags : UInt8) : Prop :=
  (securityOpts &&& optXtea ≠ 0 → flags &&& fxtea ≠ 0) ∧
    (securityOpts &&& optHmac ≠ 0 → flags &&& fhmac ≠ 0) ∧
    (securityOpts &&& optRdp ≠ 0 → flags &&& frdp ≠ 0)

instance (securityOpts : UInt32) (flags : UInt8) : Decidable (Meets securityOpts flags) :=
  inferInstanceAs (Decidable (_ ∧ _))

/-- What a step of the check makes of a payload under the flags: which ones it turns into which, and
which are too short for it. -/
structure Undoes (step : Packet → Checked Packet) (turns : UInt8 → List UInt8 → List UInt8 → Prop)
    (short : UInt8 → List UInt8 → Prop) : Prop where
  passed : ∀ p q, step p = .passed q → q.id = p.id ∧ turns p.id.flags p.payload q.payload
  passes : ∀ p m, turns p.id.flags p.payload m →
    ∃ q, step p = .passed q ∧ q.id = p.id ∧ q.payload = m
  fault : ∀ p, step p = .fault ↔ short p.id.flags p.payload

namespace Undoes
variable {step next : Packet → Checked Packet} {turns turns' : UInt8 → List UInt8 → List UInt8 → Prop}
  {short short' : UInt8 → List UInt8 → Prop}

theorem bind (h : Undoes step turns short) (h' : Undoes next turns' short') :
    Undoes (fun p => step p >>= next) (fun f x m => ∃ y, turns f x y ∧ turns' f y m)
      fun f x => short f x ∨ ∃ y, turns f x y ∧ short' f y where
  passed p q hpq := by
    obtain ⟨r, hr, hq⟩ := Checked.bind_eq_passed.mp hpq
    obtain ⟨hid, hturns⟩ := h.passed p r hr
    obtain ⟨hid', hturns'⟩ := h'.passed r q hq
    rw [hid] at hid' hturns'
    exact ⟨hid', r.payload, hturns, hturns'⟩
  passes p m hm := by
    obtain ⟨y, hy, hm⟩ := hm
    obtain ⟨r, hr, hid, hpay⟩ := h.passes p y hy
    rw [← hid, ← hpay] at hm
    obtain ⟨q, hq, hid', hpay'⟩ := h'.passes r m hm
    exact ⟨q, Checked.bind_eq_passed.mpr ⟨r, hr, hq⟩, hid'.trans hid, hpay'⟩
  fault p := by
    rw [Checked.bind_eq_fault, h.fault]
    refine or_congr_right ?_
    constructor
    · rintro ⟨r, hr, hq⟩
      obtain ⟨hid, hturns⟩ := h.passed p r hr
      rw [h'.fault, hid] at hq
      exact ⟨r.payload, hturns, hq⟩
    · rintro ⟨y, hy, hshort⟩
      obtain ⟨r, hr, hid, hpay⟩ := h.passes p y hy
      refine ⟨r, hr, ?_⟩
      rw [h'.fault, hid, hpay]
      exact hshort

theorem congr (h : Undoes step turns short) (hturns : ∀ f x m, turns f x m ↔ turns' f x m)
    (hshort : ∀ f x, short f x ↔ short' f x) : Undoes step turns' short' where
  passed p q hpq := by
    rw [← hturns]
    exact h.passed p q hpq
  passes p m hm := h.passes p m ((hturns _ _ _).mpr hm)
  fault p := (h.fault p).trans (hshort _ _)

theorem flagged (h : Undoes step turns short) (flag : UInt8) (asked : Prop) [Decidable asked]
    (e : Refusal) :
    Undoes (fun p => if p.id.flags &&& flag ≠ 0 then step p else if asked then .refused e else .passed p)
      (fun f x m => if f &&& flag ≠ 0 then turns f x m else ¬ asked ∧ m = x)
      fun f x => f &&& flag ≠ 0 ∧ short f x where
  passed p q hpq := by
    split at hpq
    · rename_i hflag
      rw [if_pos hflag]
      exact h.passed p q hpq
    · rename_i hflag
      rw [if_neg hflag]
      split at hpq
      · cases hpq
      · rename_i hasked
        cases hpq
        exact ⟨rfl, hasked, rfl⟩
  passes p m hm := by
    split at hm
    · rename_i hflag
      simp only [if_pos hflag]
      exact h.passes p m hm
    · rename_i hflag
      obtain ⟨hasked, rfl⟩ := hm
      simp only [if_neg hflag, if_neg hasked]
      exact ⟨p, rfl, rfl, rfl⟩
  fault p := by
    split
    · rename_i hflag
      rw [h.fault, and_iff_right hflag]
    · rename_i hflag
      refine iff_of_false ?_ fun h => hflag h.1
      split
      · simp
      · simp

end Undoes

theorem Tag.passes (tag : Tag) {p : Packet} {m : List UInt8} (h : p.payload = m ++ tag.of m) :
    4 ≤ p.length.toNat ∧ ∃ q, tag.verify p = some q ∧ q.id = p.id ∧ q.payload = m := by
  have hlen := congrArg List.length h
  rw [length_payload, List.length_append, tag.length_of] at hlen
  have h4 : 4 ≤ p.length.toNat := by omega
  let q : Packet := { p with length := p.length - 4 }
  have hq : q.payload = m := by
    have hsum : p.length.toNat = m.length + 4 := hlen
    rw [Packet.payload, hsum, readMem_add] at h
    have hshort : q.length.toNat = m.length := by
      rw [toNat_sub_four h4]
      omega
    rw [Packet.payload, hshort]
    exact (List.append_inj' h (by simp)).1
  refine ⟨h4, q, (tag.verify_eq_some h4).mpr ⟨rfl, ?_⟩, rfl, hq⟩
  rw [hq, h]

theorem not_short_iff (p : Packet) : ¬ p.length < 4 ↔ 4 ≤ p.length.toNat := by
  rw [UInt16.lt_iff_toNat_lt, Nat.not_lt]
  rfl

theorem short_iff (p : Packet) : p.length < 4 ↔ p.payload.length < 4 := by
  rw [length_payload, UInt16.lt_iff_toNat_lt]
  rfl

theorem undoes_hmacOpen (key : Key) : Undoes (hmacOpen key)
    (fun _ x m => x = m ++ (authenticator key).of m) fun _ x => x.length < 4 where
  passed p q h := by
    unfold hmacOpen at h
    split at h
    · cases h
    · rename_i hlong
      obtain ⟨rfl, hpay⟩ := ((authenticator key).verify_eq_some ((not_short_iff p).mp hlong)).mp
        (Checked.ofOption_eq_passed.mp h)
      exact ⟨rfl, hpay⟩
  passes p m h := by
    obtain ⟨hlong, q, hq, hid, hpay⟩ := (authenticator key).passes h
    rw [hmacOpen, if_neg ((not_short_iff p).mpr hlong), cspHmacVerify, hq]
    exact ⟨q, rfl, hid, hpay⟩
  fault p := by
    rw [hmacOpen, ← short_iff]
    split
    · rename_i h
      exact iff_of_true rfl h
    · rename_i h
      exact iff_of_false (Checked.ofOption_ne_fault _ _) h

theorem undoes_cspCrc32Verify (e : Endian) :
    Undoes (fun p => .ofOption .crc32 (cspCrc32Verify e p)) (fun _ x m => x = m ++ checksum m)
      fun _ _ => False where
  passed p q h := by
    obtain ⟨-, rfl, hpay⟩ := cspCrc32Verify_eq_some.mp (Checked.ofOption_eq_passed.mp h)
    exact ⟨rfl, hpay⟩
  passes p m h := by
    obtain ⟨hlong, q, hq, hid, hpay⟩ := crcTag.passes h
    rw [cspCrc32Verify_eq, if_neg ((not_short_iff p).mpr hlong), hq]
    exact ⟨q, rfl, hid, hpay⟩
  fault p := iff_of_false (Checked.ofOption_ne_fault _ _) id

theorem cspXteaEncrypt_host (e : Endian) (key : Key) (iv0 iv1 : UInt32) (plain : List UInt8) :
    cspXteaEncrypt e key iv0 iv1 plain = cspXteaEncrypt .big key iv0 iv1 plain := by
  rw [cspXteaEncrypt_loop, cspXteaEncrypt_loop .big]

theorem cspXteaEncrypt_inj {key : Key} {iv0 iv1 : UInt32} {x y : List UInt8}
    (h : cspXteaEncrypt .big key iv0 iv1 x = cspXteaEncrypt .big key iv0 iv1 y) : x = y := by
  have hback := congrArg (cspXteaEncrypt .big key iv0 iv1) h
  rwa [cspXteaEncrypt_cspXteaEncrypt, cspXteaEncrypt_cspXteaEncrypt] at hback

theorem enciphered_inj {key : Key} {nonce nonce' : UInt32} {x y : List UInt8}
    (h : enciphered key nonce x = enciphered key nonce' y) : x = y := by
  obtain ⟨htext, hnonce⟩ := List.append_inj' h (by rw [Packed.length_store, Packed.length_store])
  rw [Packed.u32.store_inj.mp hnonce] at htext
  exact cspXteaEncrypt_inj htext

theorem xteaOpen_passed (e : Endian) (key : Key) {p : Packet} (h : 4 ≤ p.length.toNat) :
    ∃ q nonce, xteaOpen e key p = .passed q ∧ q.id = p.id ∧
      p.payload = enciphered key nonce q.payload := by
  let n := p.length.toNat - 4
  let text := readMem n p.data
  let last := readMem 4 fun i => p.data (n + i)
  let nonce := Packed.u32.load .big last
  have hlast : last.length = 4 := length_readMem _ _
  have hnonce : cspNtoh32Word e (Packed.u32.load e last) = nonce := cspNtoh32Word_load e hlast.ge
  have hstore : Packed.u32.store .big nonce = last := by
    change Endian.big.store 4 (UInt32.ofNat (Endian.big.load 4 last)).toNat = last
    rw [UInt32.toNat_ofNat_of_lt' (Endian.big.load_lt hlast.ge), Endian.big.store_load hlast]
  let q : Packet := { p with
    length := p.length - 4
    data := writeMem 0 (cspXteaEncrypt e key nonce 1 text) p.data }
  have hlen : q.length.toNat = n := toNat_sub_four h
  have hq : q.payload = cspXteaEncrypt .big key nonce 1 text := by
    have htext : (cspXteaEncrypt .big key nonce 1 text).length = n := by
      rw [length_cspXteaEncrypt, length_readMem]
    rw [Packet.payload, hlen]
    simp only [q, cspXteaEncrypt_host e]
    rw [readMem_writeMem_zero, htext, List.drop_eq_nil_of_le (length_readMem n p.data).le,
      List.append_nil, List.take_of_length_le htext.le]
  refine ⟨q, nonce, ?_, rfl, ?_⟩
  · have hread : ({ p with length := p.length - 4 } : Packet).payload = text := by
      rw [Packet.payload, toNat_sub_four h]
    rw [xteaOpen, if_neg ((not_short_iff p).mpr h)]
    simp only [n, last] at hnonce
    simp only [hnonce, hread]
    rfl
  · rw [enciphered, hq, cspXteaEncrypt_cspXteaEncrypt, hstore, Packet.payload, ← readMem_add,
      Nat.sub_add_cancel h]

theorem undoes_xteaOpen (e : Endian) (key : Key) : Undoes (xteaOpen e key)
    (fun _ x m => ∃ nonce, x = enciphered key nonce m) fun _ x => x.length < 4 where
  passed p q h := by
    by_cases hshort : p.length < 4
    · rw [xteaOpen, if_pos hshort] at h
      cases h
    · obtain ⟨r, nonce, hr, hid, hpay⟩ := xteaOpen_passed e key
        ((not_short_iff p).mp hshort)
      rw [h] at hr
      cases hr
      exact ⟨hid, nonce, hpay⟩
  passes p m h := by
    obtain ⟨nonce, hm⟩ := h
    have hlong : 4 ≤ p.length.toNat := by
      rw [← length_payload, hm, enciphered, List.length_append, Packed.length_store]
      exact Nat.le_add_left _ _
    obtain ⟨q, nonce', hq, hid, hpay⟩ := xteaOpen_passed e key hlong
    exact ⟨q, hq, hid, enciphered_inj (hpay.symm.trans hm)⟩
  fault p := by
    rw [← short_iff]
    by_cases hshort : p.length < 4
    · exact iff_of_true (by rw [xteaOpen, if_pos hshort]) hshort
    · refine iff_of_false ?_ hshort
      obtain ⟨q, -, hq, -⟩ := xteaOpen_passed e key ((not_short_iff p).mp hshort)
      rw [hq]
      simp

theorem undoes_rdpCheck (securityOpts : UInt32) :
    Undoes (fun p => if p.id.flags &&& frdp = 0 ∧ securityOpts &&& optRdp ≠ 0 then .refused .inval
        else .passed p)
      (fun f x m => ¬ (f &&& frdp = 0 ∧ securityOpts &&& optRdp ≠ 0) ∧ m = x) fun _ _ => False where
  passed p q h := by
    split at h
    · cases h
    · rename_i hmet
      cases h
      exact ⟨rfl, hmet, rfl⟩
  passes p m h := by
    obtain ⟨hmet, rfl⟩ := h
    exact ⟨p, if_neg hmet, rfl, rfl⟩
  fault p := by
    split
    · simp
    · simp

theorem tagged_iff {keys : Keys} {securityOpts : UInt32} {f : UInt8} {y m : List UInt8} :
    (∃ z, (if f &&& fcrc32 ≠ 0 then y = z ++ checksum z else ¬ False ∧ z = y) ∧
      ∃ w, (if f &&& fhmac ≠ 0 then z = w ++ (authenticator keys.hmac).of w
        else ¬ securityOpts &&& optHmac ≠ 0 ∧ w = z) ∧
        ¬ (f &&& frdp = 0 ∧ securityOpts &&& optRdp ≠ 0) ∧ m = w) ↔
      (securityOpts &&& optHmac ≠ 0 → f &&& fhmac ≠ 0) ∧
        (securityOpts &&& optRdp ≠ 0 → f &&& frdp ≠ 0) ∧ y = tagged keys f m := by
  unfold tagged
  by_cases hc : f &&& fcrc32 ≠ 0
  · by_cases hh : f &&& fhmac ≠ 0
    · simp only [if_pos hc, if_pos hh]
      constructor
      · rintro ⟨_, rfl, _, rfl, hrdp, rfl⟩
        exact ⟨fun _ => hh, by tauto, rfl⟩
      · rintro ⟨-, hrdp, rfl⟩
        exact ⟨_, rfl, _, rfl, by tauto, rfl⟩
    · simp only [if_pos hc, if_neg hh]
      constructor
      · rintro ⟨_, rfl, _, ⟨hopt, rfl⟩, hrdp, rfl⟩
        exact ⟨by tauto, by tauto, rfl⟩
      · rintro ⟨hopt, hrdp, rfl⟩
        exact ⟨_, rfl, _, ⟨by tauto, rfl⟩, by tauto, rfl⟩
  · by_cases hh : f &&& fhmac ≠ 0
    · simp only [if_neg hc, if_pos hh]
      constructor
      · rintro ⟨_, ⟨-, rfl⟩, _, rfl, hrdp, rfl⟩
        exact ⟨fun _ => hh, by tauto, rfl⟩
      · rintro ⟨-, hrdp, rfl⟩
        exact ⟨_, ⟨not_false, rfl⟩, _, rfl, by tauto, rfl⟩
    · simp only [if_neg hc, if_neg hh]
      constructor
      · rintro ⟨_, ⟨-, rfl⟩, _, ⟨hopt, rfl⟩, hrdp, rfl⟩
        exact ⟨by tauto, by tauto, rfl⟩
      · rintro ⟨hopt, hrdp, rfl⟩
        exact ⟨_, ⟨not_false, rfl⟩, _, ⟨by tauto, rfl⟩, by tauto, rfl⟩

/-- The payloads on which the check goes out of the packet: shorter than a nonce, or once opened
shorter than a hash. -/
def Short (keys : Keys) (securityOpts : UInt32) (flags : UInt8) (payload : List UInt8) : Prop :=
  flags &&& fxtea ≠ 0 ∧ payload.length < 4 ∨
    flags &&& fhmac ≠ 0 ∧ (securityOpts &&& optXtea ≠ 0 → flags &&& fxtea ≠ 0) ∧
      ∃ nonce m, m.length < 4 ∧ payload = sealed keys (flags &&& ~~~fhmac) nonce m

theorem flags_without (f : UInt8) : f &&& ~~~fhmac &&& fhmac = 0 ∧
    f &&& ~~~fhmac &&& fcrc32 = f &&& fcrc32 ∧ f &&& ~~~fhmac &&& fxtea = f &&& fxtea := by
  simp only [UInt8.and_assoc]
  exact ⟨UInt8.and_zero, rfl, rfl⟩

/-- The whole check undoes the whole protection. -/
theorem undoes_cspRouteSecurityCheck (e : Endian) (keys : Keys) (securityOpts : UInt32) :
    Undoes (cspRouteSecurityCheck e keys securityOpts)
      (fun f x m => Meets securityOpts f ∧ ∃ nonce, x = sealed keys f nonce m)
      (Short keys securityOpts) := by
  have hxtea := (undoes_xteaOpen e keys.xtea).flagged fxtea (securityOpts &&& optXtea ≠ 0) .xtea
  have hcrc := (undoes_cspCrc32Verify e).flagged fcrc32 False .inval
  have hhmac := (undoes_hmacOpen keys.hmac).flagged fhmac (securityOpts &&& optHmac ≠ 0) .hmac
  have hall := hxtea.bind (hcrc.bind (hhmac.bind (undoes_rdpCheck securityOpts)))
  simp only [if_false] at hall
  refine hall.congr ?_ ?_
  · intro f x m
    simp only [tagged_iff, Meets, sealed]
    by_cases hx : f &&& fxtea ≠ 0
    · simp only [if_pos hx]
      constructor
      · rintro ⟨_, ⟨nonce, rfl⟩, hh, hr, rfl⟩
        exact ⟨⟨fun _ => hx, hh, hr⟩, nonce, rfl⟩
      · rintro ⟨⟨-, hh, hr⟩, nonce, rfl⟩
        exact ⟨_, ⟨nonce, rfl⟩, hh, hr, rfl⟩
    · simp only [if_neg hx]
      constructor
      · rintro ⟨_, ⟨hopt, rfl⟩, hh, hr, rfl⟩
        exact ⟨⟨fun h => absurd h hopt, hh, hr⟩, 0, rfl⟩
      · rintro ⟨⟨hopt, hh, hr⟩, -, rfl⟩
        exact ⟨_, ⟨fun h => hx (hopt h), rfl⟩, hh, hr, rfl⟩
  · intro f x
    obtain ⟨hhmac, hcrc, hxtea⟩ := flags_without f
    have htagged (m : List UInt8) : tagged keys (f &&& ~~~fhmac) m =
        if f &&& fcrc32 ≠ 0 then m ++ checksum m else m := by
      rw [tagged, hhmac, hcrc]
      rfl
    have hopened (y : List UInt8) :
        (∃ z, (if f &&& fcrc32 ≠ 0 then y = z ++ checksum z else ¬ False ∧ z = y) ∧
          f &&& fhmac ≠ 0 ∧ z.length < 4) ↔
        f &&& fhmac ≠ 0 ∧ ∃ m, m.length < 4 ∧ y = tagged keys (f &&& ~~~fhmac) m := by
      simp only [htagged]
      split
      · constructor
        · rintro ⟨z, rfl, hflag, hlen⟩
          exact ⟨hflag, z, hlen, rfl⟩
        · rintro ⟨hflag, z, hlen, rfl⟩
          exact ⟨z, rfl, hflag, hlen⟩
      · constructor
        · rintro ⟨z, ⟨-, rfl⟩, hflag, hlen⟩
          exact ⟨hflag, z, hlen, rfl⟩
        · rintro ⟨hflag, z, hlen, rfl⟩
          exact ⟨_, ⟨not_false, rfl⟩, hflag, hlen⟩
    simp only [Short, sealed, hxtea, and_false, exists_false, or_false, false_or, hopened]
    refine or_congr_right ?_
    by_cases hx : f &&& fxtea ≠ 0
    · simp only [if_pos hx]
      constructor
      · rintro ⟨_, ⟨nonce, rfl⟩, hflag, m, hlen, rfl⟩
        exact ⟨hflag, fun _ => hx, nonce, m, hlen, rfl⟩
      · rintro ⟨hflag, -, nonce, m, hlen, rfl⟩
        exact ⟨_, ⟨nonce, rfl⟩, hflag, m, hlen, rfl⟩
    · simp only [if_neg hx]
      constructor
      · rintro ⟨_, ⟨hopt, rfl⟩, hflag, m, hlen, rfl⟩
        exact ⟨hflag, fun h => absurd h hopt, 0, m, hlen, rfl⟩
      · rintro ⟨hflag, hopt, -, m, hlen, rfl⟩
        exact ⟨_, ⟨fun h => hx (hopt h), rfl⟩, hflag, m, hlen, rfl⟩

/-- A packet passes the check exactly when its payload is a message sealed with the same keys under
its flags, and the flags do what the options ask for; what passes is the message. The check leaves
the packet on short payloads, and on no others. -/
theorem cspRouteSecurityCheck_iff (e : Endian) (keys : Keys) (securityOpts : UInt32) (p : Packet)
    (m : List UInt8) :
    ((∃ q, cspRouteSecurityCheck e keys securityOpts p = .passed q ∧ q.payload = m) ↔
      Meets securityOpts p.id.flags ∧ ∃ nonce, p.payload = sealed keys p.id.flags nonce m) ∧
    (cspRouteSecurityCheck e keys securityOpts p = .fault ↔
      Short keys securityOpts p.id.flags p.payload) := by
  have hall := undoes_cspRouteSecurityCheck e keys securityOpts
  refine ⟨?_, hall.fault p⟩
  constructor
  · rintro ⟨q, hq, rfl⟩
    exact (hall.passed p q hq).2
  · intro h
    obtain ⟨q, hq, -, hpay⟩ := hall.passes p m h
    exact ⟨q, hq, hpay⟩

theorem Tag.toNat_length_append (tag : Tag) {p : Packet} (h : p.length.toNat + 4 < 2 ^ 16) :
    (tag.append p).length.toNat = p.length.toNat + 4 := by
  have hlen := congrArg List.length (tag.payload_append h)
  rwa [length_payload, List.length_append, length_payload, tag.length_of] at hlen

theorem payload_xteaSeal (e : Endian) (key : Key) (nonce : UInt32) {p : Packet}
    (h : p.length.toNat + 4 < 2 ^ 16) :
    (xteaSeal e key nonce p).payload = enciphered key nonce p.payload := by
  have hnonce : Packed.u32.store e (cspHton32Word e nonce) = Packed.u32.store .big nonce :=
    store_cspHton32Word e nonce
  have hfour : (Packed.u32.store .big nonce).length = 4 := Packed.length_store _ _ _
  have hlen : (p.length + 4).toNat = p.length.toNat + 4 := by
    rw [UInt16.toNat_add]
    exact Nat.mod_eq_of_lt h
  have hend := readMem_writeMem_end p.length.toNat (Packed.u32.store .big nonce) p.data
  rw [hfour] at hend
  have hfront : readMem p.length.toNat
      (writeMem p.length.toNat (Packed.u32.store .big nonce) p.data) = p.payload := by
    have htake := congrArg (List.take p.length.toNat) hend
    rwa [readMem_add, List.take_left' (length_readMem _ _), List.take_left' (length_readMem _ _)]
      at htake
  have htext : (cspXteaEncrypt .big key nonce 1 p.payload).length = p.length.toNat := by
    rw [length_cspXteaEncrypt, length_payload]
  rw [xteaSeal, Packet.payload]
  simp only [hlen, hnonce, hfront, cspXteaEncrypt_host e]
  rw [readMem_writeMem_zero, hend, htext, List.take_of_length_le (by omega),
    List.drop_left' (length_readMem _ _), enciphered]

theorem protect_sealed (node : Node) (keys : Keys) (nonce : UInt32) (flags : UInt8) {p : Packet}
    (h : p.length.toNat + 12 < 2 ^ 16) :
    ∃ sent, protect (keyedNode node keys nonce) flags p = some sent ∧ sent.id = p.id ∧
      sent.payload = sealed keys flags nonce p.payload := by
  obtain ⟨p₁, hp₁, hid₁, hpay₁, hlen₁⟩ : ∃ p₁, (if flags &&& fhmac ≠ 0 then
      (keyedNode node keys nonce).cspHmacAppend p else some p) = some p₁ ∧ p₁.id = p.id ∧
      p₁.payload = (if flags &&& fhmac ≠ 0 then
        p.payload ++ (authenticator keys.hmac).of p.payload else p.payload) ∧
      p₁.length.toNat ≤ p.length.toNat + 4 := by
    split
    · exact ⟨_, rfl, rfl, Tag.payload_append _ (by omega),
        (Tag.toNat_length_append (authenticator keys.hmac) (by omega)).le⟩
    · exact ⟨p, rfl, rfl, rfl, Nat.le_add_right _ _⟩
  obtain ⟨p₂, hp₂, hid₂, hpay₂, hlen₂⟩ : ∃ p₂, (if flags &&& fcrc32 ≠ 0 then
      cspCrc32Append node.endian p₁ else p₁) = p₂ ∧ p₂.id = p₁.id ∧
      p₂.payload = (if flags &&& fcrc32 ≠ 0 then p₁.payload ++ checksum p₁.payload
        else p₁.payload) ∧
      p₂.length.toNat ≤ p₁.length.toNat + 4 := by
    refine ⟨_, rfl, ?_⟩
    split
    · rw [cspCrc32Append_eq]
      exact ⟨rfl, Tag.payload_append _ (by omega), (Tag.toNat_length_append crcTag (by omega)).le⟩
    · exact ⟨rfl, rfl, Nat.le_add_right _ _⟩
  have htagged : p₂.payload = tagged keys flags p.payload := by
    rw [hpay₂, hpay₁]
    rfl
  have hprotect : protect (keyedNode node keys nonce) flags p =
      if flags &&& fxtea ≠ 0 then (keyedNode node keys nonce).cspXteaEncrypt p₂ else some p₂ := by
    rw [protect, ← hp₂]
    by_cases hflag : flags &&& fhmac ≠ 0
    · rw [if_pos hflag] at hp₁ ⊢
      rw [hp₁]
      rfl
    · rw [if_neg hflag] at hp₁ ⊢
      rw [hp₁]
      rfl
  rw [hprotect, sealed, ← htagged]
  split
  · exact ⟨_, rfl, hid₂.trans hid₁, payload_xteaSeal _ _ _ (by omega)⟩
  · exact ⟨p₂, rfl, hid₂.trans hid₁, rfl⟩

theorem checksum_window {pre u v post x : List UInt8} (h : x ++ checksum x = pre ++ u ++ post)
    (hlen : u.length = v.length) (hfit : u.length ≤ 4) (hne : u ≠ v)
    (hplace : 4 ≤ post.length ∨ u.length + post.length ≤ 4) (y : List UInt8) :
    pre ++ v ++ post ≠ y ++ checksum y := by
  intro heq
  obtain hpost | hpost := hplace
  · -- in the text
    have hsplit : post = post.take (post.length - 4) ++ post.drop (post.length - 4) :=
      (List.take_append_drop _ _).symm
    have hcrc : (post.drop (post.length - 4)).length = 4 := by
      rw [List.length_drop]
      omega
    rw [hsplit, ← List.append_assoc] at h heq
    obtain ⟨rfl, hsum⟩ := List.append_inj' h (by rw [hcrc, length_checksum])
    exact damaged_ne hlen hcrc (.inl ⟨hsum.symm, hfit, hne⟩) y heq
  · -- in the checksum
    have htotal := congrArg List.length h
    have htotal' := congrArg List.length heq
    simp only [List.length_append, length_checksum] at htotal htotal'
    have hpre : pre = x ++ pre.drop x.length := by
      have htake := congrArg (List.take x.length) h
      rw [List.take_left' rfl, List.append_assoc,
        List.take_append_of_le_length (by omega)] at htake
      calc pre = pre.take x.length ++ pre.drop x.length := (List.take_append_drop _ _).symm
        _ = x ++ pre.drop x.length := by rw [← htake]
    rw [hpre, List.append_assoc, List.append_assoc] at h heq
    have hsum := List.append_cancel_left h
    obtain ⟨rfl, hsum'⟩ := List.append_inj heq (by omega)
    rw [hsum] at hsum'
    exact hne (List.append_cancel_right (List.append_cancel_left hsum')).symm

theorem enciphered_window {key : Key} {nonce nonce' : UInt32} {pre u v post trailer x z : List UInt8}
    (h : enciphered key nonce x = pre ++ u ++ post ++ trailer)
    (h' : pre ++ v ++ post ++ trailer = enciphered key nonce' z) (htrailer : trailer.length = 4)
    (hlen : u.length = v.length) (hsize : (pre ++ v ++ post).length < 2 ^ 16) (hne : u ≠ v) :
    ∃ pre' u' v' post', u'.length = u.length ∧ v'.length = u.length ∧
      post'.length = post.length ∧ u' ≠ v' ∧ x = pre' ++ u' ++ post' ∧ z = pre' ++ v' ++ post' := by
  obtain ⟨htext, hnonce⟩ := List.append_inj' h (by rw [Packed.length_store, htrailer]; rfl)
  obtain ⟨htext', hnonce'⟩ := List.append_inj' h' (by rw [Packed.length_store, htrailer]; rfl)
  obtain rfl := Packed.u32.store_inj.mp (hnonce.trans hnonce')
  have hback {w t : List UInt8} (ht : t.length < 2 ^ 16)
      (hw : cspXteaEncrypt .big key nonce 1 w = t) :
      w = cipher 8 (· ^^^ ·) (xteaKeystream key nonce 1) 0 t := by
    rw [← cspXteaEncrypt_eq .big key nonce 1 (by omega), ← hw, cspXteaEncrypt_cspXteaEncrypt]
  have hsize' : (pre ++ u ++ post).length < 2 ^ 16 := by
    simpa only [List.length_append, hlen] using hsize
  rw [hback hsize' htext, hback hsize htext'.symm]
  exact cipher_window (by decide) (length_xteaKeystream key nonce 1) xor_xor_self 0 pre post hlen hne

/-- A packet that was sealed with a checksum, plain or encrypted, is refused when up to four bytes
of its text, or of its checksum, came in changed. -/
theorem cspRouteSecurityCheck_damaged (e : Endian) (keys : Keys) (securityOpts : UInt32) {p : Packet}
    {nonce : UInt32} {m pre u v post trailer : List UInt8}
    (hcrc : p.id.flags &&& fcrc32 ≠ 0)
    (hsealed : sealed keys p.id.flags nonce m = pre ++ u ++ post ++ trailer)
    (hpay : p.payload = pre ++ v ++ post ++ trailer)
    (htrailer : trailer.length = if p.id.flags &&& fxtea ≠ 0 then 4 else 0)
    (hlen : u.length = v.length) (hfit : u.length ≤ 4) (hne : u ≠ v)
    (hplace : 4 ≤ post.length ∨ u.length + post.length ≤ 4) :
    ∃ r, cspRouteSecurityCheck e keys securityOpts p = .refused r := by
  have hall := undoes_cspRouteSecurityCheck e keys securityOpts
  have htagged {f : UInt8} (hf : f &&& fcrc32 ≠ 0) (m : List UInt8) :
      ∃ x, tagged keys f m = x ++ checksum x := by
    rw [tagged, if_pos hf]
    exact ⟨_, rfl⟩
  -- under no flags with a checksum is it a sealed message
  have hnot {f : UInt8} (hf : f &&& fcrc32 ≠ 0) (hx : f &&& fxtea = p.id.flags &&& fxtea)
      (nonce' : UInt32) (m' : List UInt8) : p.payload ≠ sealed keys f nonce' m' := by
    intro heq
    obtain ⟨x, hx₁⟩ := htagged hcrc m
    obtain ⟨y, hy₁⟩ := htagged hf m'
    rw [sealed, hx₁] at hsealed
    rw [hpay, sealed, hy₁, hx] at heq
    by_cases hxtea : p.id.flags &&& fxtea ≠ 0
    · rw [if_pos hxtea] at hsealed heq htrailer
      have hsize : (pre ++ v ++ post).length < 2 ^ 16 := by
        have hbound := p.length.toNat_lt
        rw [← length_payload p, hpay, List.length_append] at hbound
        omega
      obtain ⟨pre', u', v', post', hu, hv, hpost, hne', hwas, his⟩ :=
        enciphered_window hsealed heq htrailer hlen hsize hne
      exact checksum_window hwas (hu.trans hv.symm) (hu ▸ hfit) hne'
        (by rwa [hu, hpost]) y his.symm
    · rw [if_neg hxtea] at hsealed heq htrailer
      rw [List.length_eq_zero_iff.mp htrailer, List.append_nil] at hsealed heq
      exact checksum_window hsealed hlen hfit hne hplace y heq
  cases hresult : cspRouteSecurityCheck e keys securityOpts p with
  | refused r => exact ⟨r, rfl⟩
  | passed q =>
      obtain ⟨-, -, nonce', hq⟩ := hall.passed p q hresult
      exact absurd hq (hnot hcrc rfl nonce' _)
  | fault =>
      obtain ⟨hxtea, hshort⟩ | ⟨-, -, nonce', m', -, hm⟩ := (hall.fault p).mp hresult
      · obtain ⟨x, hx₁⟩ := htagged hcrc m
        have hsize := congrArg List.length hsealed
        rw [sealed, if_pos hxtea, hx₁, enciphered] at hsize
        rw [hpay] at hshort
        simp only [List.length_append, length_cspXteaEncrypt, length_checksum,
          Packed.length_store] at hsize hshort
        omega
      · obtain ⟨-, hcrc', hxtea'⟩ := flags_without p.id.flags
        exact absurd hm (hnot (hcrc' ▸ hcrc) hxtea' nonce' m')

def zeroKeys : Keys := ⟨zeroKey, zeroKey⟩

/-- The checksum of 1, 2, 3 behind 1, 7, 3. -/
def changed : Packet :=
  ⟨7, ⟨2, 1, 10, 25, 12, fcrc32⟩, fun i => ([1, 7, 3] ++ checksum [1, 2, 3]).getD i 0⟩

theorem cspRouteSecurityCheck_changed :
    ∃ r, cspRouteSecurityCheck .little zeroKeys 0 changed = .refused r := by
  have hsealed : sealed zeroKeys changed.id.flags 0 [1, 2, 3] =
      [1] ++ [2] ++ ([3] ++ checksum [1, 2, 3]) ++ [] := by
    rw [sealed, tagged]
    rfl
  have hpay : changed.payload = [1] ++ [7] ++ ([3] ++ checksum [1, 2, 3]) ++ [] := by
    decide +kernel
  refine cspRouteSecurityCheck_damaged .little zeroKeys 0 (by decide) hsealed hpay rfl rfl (by decide)
    (by decide) (.inl ?_)
  rw [List.length_append, length_checksum]
  decide

end UhfGs.Csp
