import UhfGs.Csp.ByteOrder

/-! `csp_transaction` of `csp_io.c` as its callers see it. -/
namespace UhfGs.Clients
open Csp Bytes

structure Link where
  conn : Bool
  /-- The data area of the buffer that `csp_buffer_get` gives, as its last user left it. -/
  buffer : Option (Nat → UInt8)
  sent : Bool
  reply : Option (List UInt8)

/-- The arguments of a call, with `out` for the `outlen` bytes of `outbuf`. -/
structure Call where
  prio : Fin 4
  dest : UInt8
  port : UInt8
  timeout : UInt32
  out : List UInt8
  inlen : Int
  deriving DecidableEq, Repr

/-- The value of the call, the data of the packet that was sent, and what `inbuf` was
overwritten with. -/
structure Exchange where
  status : Int
  transmitted : Option (List UInt8)
  received : Option (List UInt8)
  deriving DecidableEq, Repr

def Call.packet (call : Call) (mem : Nat → UInt8) : List UInt8 :=
  readMem call.out.length (if 0 < call.out.length then writeMem 0 call.out mem else mem)

def cspTransactionPersistent (link : Link) (call : Call) : Exchange :=
  match link.buffer with
  | none => ⟨0, none, none⟩
  | some mem =>
      if ¬ link.sent then ⟨0, none, none⟩
      else if call.inlen = 0 then ⟨1, some (call.packet mem), none⟩
      else
        match link.reply with
        | none => ⟨0, some (call.packet mem), none⟩
        | some data =>
            if call.inlen ≠ -1 ∧ (data.length : Int) ≠ call.inlen then
              ⟨0, some (call.packet mem), none⟩
            else ⟨data.length, some (call.packet mem), some data⟩

def cspTransaction (link : Link) (call : Call) : Exchange :=
  if link.conn then cspTransactionPersistent link call else ⟨0, none, none⟩

def Link.Sends (link : Link) : Prop := link.conn ∧ link.buffer.isSome ∧ link.sent

instance (link : Link) : Decidable link.Sends := by
  unfold Link.Sends
  infer_instance

def Link.Answers (link : Link) (inlen : Int) : Prop :=
  ∃ data, link.reply = some data ∧ (inlen = -1 ∨ data.length = inlen)

instance (link : Link) (inlen : Int) : Decidable (link.Answers inlen) :=
  match h : link.reply with
  | none => .isFalse (by simp [Link.Answers, h])
  | some data => decidable_of_iff (inlen = -1 ∨ data.length = inlen) (by simp [Link.Answers, h])

def Link.Succeeds (link : Link) (inlen : Int) : Prop :=
  link.Sends ∧ (inlen = 0 ∨ link.Answers inlen)

instance (link : Link) (inlen : Int) : Decidable (link.Succeeds inlen) := by
  unfold Link.Succeeds
  infer_instance

variable {link : Link}

@[simp] theorem packet_eq (call : Call) (mem : Nat → UInt8) : call.packet mem = call.out := by
  by_cases h : 0 < call.out.length
  · rw [Call.packet, if_pos h, readMem_writeMem_zero, List.take_length]
    simp
  · have hnil : call.out = [] := List.length_eq_zero_iff.mp (by omega)
    simp [Call.packet, hnil, readMem]

theorem transmitted_of_sends (call : Call) (h : link.Sends) :
    (cspTransaction link call).transmitted = some call.out := by
  obtain ⟨hc, hb, hs⟩ := h
  obtain ⟨mem, hb⟩ := Option.isSome_iff_exists.mp hb
  simp only [cspTransaction, hc, if_true, cspTransactionPersistent, hb, hs, not_true, if_false,
    packet_eq]
  by_cases hi : call.inlen = 0
  · rw [if_pos hi]
  · rw [if_neg hi]
    cases link.reply with
    | none => rfl
    | some data =>
        dsimp only
        split <;> rfl

theorem cspTransaction_of_not_sends (call : Call) (h : ¬ link.Sends) :
    cspTransaction link call = ⟨0, none, none⟩ := by
  cases hc : link.conn with
  | false => simp [cspTransaction, hc]
  | true =>
      cases hb : link.buffer with
      | none => simp [cspTransaction, hc, cspTransactionPersistent, hb]
      | some mem =>
          have hs : ¬ link.sent := fun hs => h ⟨hc, by rw [hb]; rfl, hs⟩
          simp [cspTransaction, hc, cspTransactionPersistent, hb, hs]

theorem cspTransaction_of_sends_only (call : Call) (h : link.Sends) (hi : call.inlen = 0) :
    cspTransaction link call = ⟨1, some call.out, none⟩ := by
  obtain ⟨hc, hb, hs⟩ := h
  obtain ⟨mem, hb⟩ := Option.isSome_iff_exists.mp hb
  simp [cspTransaction, hc, cspTransactionPersistent, hb, hs, hi]

theorem cspTransaction_of_answer (call : Call) {data : List UInt8} (h : link.Sends) (hi : call.inlen ≠ 0)
    (hr : link.reply = some data) (hl : call.inlen = -1 ∨ data.length = call.inlen) :
    cspTransaction link call = ⟨data.length, some call.out, some data⟩ := by
  have hlen : ¬ (call.inlen ≠ -1 ∧ (data.length : Int) ≠ call.inlen) := by
    rintro ⟨hm, hne⟩
    exact hl.elim hm hne
  obtain ⟨hc, hb, hs⟩ := h
  obtain ⟨mem, hb⟩ := Option.isSome_iff_exists.mp hb
  simp only [cspTransaction, hc, if_true, cspTransactionPersistent, hb, hs, not_true, if_false, hi,
    hr, hlen, packet_eq]

theorem cspTransaction_of_not_succeeds (call : Call) (h : ¬ link.Succeeds call.inlen) :
    (cspTransaction link call).status = 0 ∧ (cspTransaction link call).received = none := by
  by_cases hs : link.Sends
  · have hi : call.inlen ≠ 0 := fun hi => h ⟨hs, .inl hi⟩
    have ha : ¬ link.Answers call.inlen := fun ha => h ⟨hs, .inr ha⟩
    obtain ⟨hc, hb, hs⟩ := hs
    obtain ⟨mem, hb⟩ := Option.isSome_iff_exists.mp hb
    simp only [cspTransaction, hc, if_true, cspTransactionPersistent, hb, hs, not_true, if_false,
      hi]
    cases hr : link.reply with
    | none => exact ⟨rfl, rfl⟩
    | some data =>
        have hlen : call.inlen ≠ -1 ∧ (data.length : Int) ≠ call.inlen :=
          ⟨fun hm => ha ⟨data, hr, .inl hm⟩, fun hl => ha ⟨data, hr, .inr hl⟩⟩
        simp only [hlen, ne_eq, not_false_eq_true, and_self, if_true]
  · rw [cspTransaction_of_not_sends call hs]
    exact ⟨rfl, rfl⟩

theorem cspTransaction_cases (call : Call) {n : Nat} (hn : 0 < n) (hi : call.inlen = n) :
    (∃ data, data.length = n ∧ link.Succeeds n ∧
      cspTransaction link call = ⟨n, some call.out, some data⟩) ∨
    (¬ link.Succeeds n ∧ (cspTransaction link call).status = 0 ∧
      (cspTransaction link call).received = none) := by
  by_cases h : link.Succeeds n
  · obtain ⟨hs, h0 | ⟨data, hr, hl⟩⟩ := h
    · omega
    · have hlen : data.length = n := by omega
      have heq := cspTransaction_of_answer call hs (by omega) hr (by omega)
      rw [hlen] at heq
      exact .inl ⟨data, hlen, ⟨hs, .inr ⟨data, hr, hl⟩⟩, heq⟩
  · exact .inr ⟨h, cspTransaction_of_not_succeeds call (by rwa [hi])⟩

end UhfGs.Clients
