import UhfGs.Library.SlidingWindow
import UhfGs.Csp.RdpMoves

/-! One direction of an RDP connection: what the moves of the sender and of the receiver keep true
of the messages that one took and the other passed on. -/
namespace UhfGs.Csp
open Serial SlidingWindow

/-- A property of every segment sent, and of the history before it. -/
def Logged (P : Segment → List RdpEvent → Prop) (h : List RdpEvent) : Prop :=
  ∀ s past, (.transmitted s :: past) <:+ h → P s past

section
variable {P Q : Segment → List RdpEvent → Prop} {h : List RdpEvent} {s : Segment}

theorem Logged.nil : Logged P [] := by
  intro s past hsuffix
  exact absurd (List.suffix_nil.mp hsuffix) (List.cons_ne_nil _ _)

theorem Logged.transmit (hlog : Logged P h) (hs : P s h) : Logged P (.transmitted s :: h) := by
  intro s' past hsuffix
  obtain heq | hold := List.suffix_cons_iff.mp hsuffix
  · obtain ⟨hseg, rfl⟩ := List.cons.inj heq
    obtain rfl := RdpEvent.transmitted.inj hseg
    exact hs
  · exact hlog s' past hold

theorem Logged.cons {e : RdpEvent} (hlog : Logged P h) (he : ∀ s, e ≠ .transmitted s) :
    Logged P (e :: h) := by
  intro s past hsuffix
  obtain heq | hold := List.suffix_cons_iff.mp hsuffix
  · exact absurd (List.cons.inj heq).1.symm (he s)
  · exact hlog s past hold

theorem Logged.of_suffix {h' : List RdpEvent} (hlog : Logged P h) (hsuffix : h' <:+ h) :
    Logged P h' :=
  fun s past hpast => hlog s past (hpast.trans hsuffix)

end

theorem Synced.of_suffix {past h : List RdpEvent} (hs : Synced past) (hsuffix : past <:+ h) :
    Synced h :=
  hsuffix.subset hs

theorem taken_mono {past h : List RdpEvent} (hsuffix : past <:+ h) : taken past <+: taken h := by
  rw [taken, taken, List.reverse_prefix]
  exact hsuffix.filterMap takenMessage

theorem passed_mono {past h : List RdpEvent} (hsuffix : past <:+ h) :
    passed past <+: passed h := by
  rw [passed, passed, List.reverse_prefix]
  exact hsuffix.filterMap passedMessage

/-- No acknowledgement was sent before the sequence numbers of the other side were known. -/
def Punctual : List RdpEvent → Prop := Logged fun s past => s.flags.ack → Synced past

namespace Core

structure Own (W : Nat) (k : Core) : Prop where
  fresh : k.state = .closed → k.alive → k.history = [] ∧ k.tx = [] ∧ k.rx = []
  quiet : k.state = .synSent → ¬ Synced k.history
  waiting : k.state = .synRcvd → passed k.history = []
  unsynced : ¬ Synced k.history → k.state ≠ .opened ∧ k.state ≠ .synRcvd ∧
    taken k.history = [] ∧ passed k.history = [] ∧ k.rx = []
  nxt : k.state ≠ .closed → k.nxt = nth k.iss ((taken k.history).length + 1)
  window : k.state ≠ .closed → k.window = BitVec.ofNat 32 W

variable {W : Nat} {k k' : Core} {a : Option Segment}

theorem Own.synced (h : Own W k) (hst : k.state = .opened ∨ k.state = .synRcvd) :
    Synced k.history := by
  by_contra hsync
  obtain ⟨hopened, hrcvd, -⟩ := h.unsynced hsync
  exact hst.elim hopened hrcvd

/-- A connection keeps what it knows, if the options that come in are the right ones. -/
theorem Own.move (h : Own W k) (hm : Move a k k')
    (hwindow : ∀ s, a = some s → s.flags.syn → k.state = .closed → k.alive →
      data32 s.data 0 = BitVec.ofNat 32 W) : Own W k' := by
  obtain ⟨hfresh, hquiet, hwaiting, hunsynced, hnxt, hwnd⟩ := id h
  cases hm with
  | transmit s hs =>
      refine ⟨fun hst halive => ?_, ?_, hwaiting, ?_, hnxt, hwnd⟩
      · rw [hs.begun hst] at halive
        cases halive
      · simpa using hquiet
      · simpa using hunsynced
  | take m hopen =>
      have hsync := h.synced (.inl hopen)
      refine ⟨?_, ?_, ?_, ?_, ?_, hwnd⟩
      · simp [hopen]
      · simp [hopen]
      · simp [hopen]
      · simp [hsync]
      · simp [hnxt, hopen, nth_succ]
  | acked s => exact ⟨hfresh, hquiet, hwaiting, hunsynced, hnxt, hwnd⟩
  | free tx hst => exact ⟨fun hclosed => absurd hclosed hst, hquiet, hwaiting, hunsynced, hnxt, hwnd⟩
  | swept => exact ⟨hfresh, hquiet, hwaiting, hunsynced, hnxt, hwnd⟩
  | unchecked => exact ⟨hfresh, hquiet, hwaiting, hunsynced, hnxt, hwnd⟩
  | keepSyn e he =>
      refine ⟨fun hst => ?_, hquiet, hwaiting, hunsynced, hnxt, hwnd⟩
      have hopening := he.2.2
      change k.state = .closed at hst
      rw [hst] at hopening
      split at hopening
      · cases hopening
      · cases hopening.1
  | hold s _ _ hopen =>
      have hsync := h.synced (.inl hopen)
      refine ⟨?_, hquiet, hwaiting, ?_, hnxt, hwnd⟩
      · simp [hopen]
      · simp [hsync]
  | turn rx hperm =>
      refine ⟨fun hst halive => ?_, hquiet, hwaiting, fun hsync => ?_, hnxt, hwnd⟩
      · obtain ⟨hhistory, htx, hrx⟩ := hfresh hst halive
        exact ⟨hhistory, htx, (hrx ▸ hperm).eq_nil⟩
      · obtain ⟨hopened, hrcvd, htaken, hpassed, hrx⟩ := hunsynced hsync
        exact ⟨hopened, hrcvd, htaken, hpassed, (hrx ▸ hperm).eq_nil⟩
  | pass s queued _ _ hopen =>
      have hsync := h.synced (.inl hopen)
      refine ⟨?_, ?_, ?_, ?_, hnxt, hwnd⟩ <;> simp [hopen, hsync]
  | release x rx queued _ hopen =>
      have hsync := h.synced (.inl hopen)
      refine ⟨?_, ?_, ?_, ?_, hnxt, hwnd⟩ <;> simp [hopen, hsync]
  | opened hst =>
      have hsync := h.synced (.inr hst)
      have hclosed : k.state ≠ .closed := by simp [hst]
      refine ⟨?_, ?_, ?_, fun hnot => absurd hsync hnot, fun _ => hnxt hclosed,
        fun _ => hwnd hclosed⟩ <;> simp
  | closing hst =>
      refine ⟨by simp, by simp, by simp, fun hsync => ?_, fun _ => hnxt hst, fun _ => hwnd hst⟩
      exact ⟨by simp, by simp, (hunsynced hsync).2.2⟩
  | shut =>
      refine ⟨by simp, by simp, by simp, fun hsync => ?_, by simp, by simp⟩
      obtain ⟨-, -, htaken, hpassed, -⟩ := hunsynced hsync
      exact ⟨by simp, by simp, htaken, hpassed, rfl⟩
  | accept s iss ha hsyn hst halive =>
      obtain ⟨hhistory, -, -⟩ := hfresh hst halive
      refine ⟨?_, ?_, ?_, ?_, ?_, fun _ => hwindow s ha hsyn hst halive⟩
      · simp
      · simp
      · simp [hhistory]
      · simp [hhistory, Synced]
      · simp [hhistory, nth_succ, nth_zero]
  | connect s _ _ _ hst =>
      have hclosed : k.state ≠ .closed := by simp [hst]
      refine ⟨?_, ?_, ?_, ?_, fun _ => hnxt hclosed, fun _ => hwnd hclosed⟩ <;> simp [Synced]

/-- Up to where the sender knows that its messages have arrived. -/
def Acked (k : Core) (a : Nat) : Prop :=
  k.una = nth k.iss (a + 1) ∨ k.una = k.iss ∧ k.state ≠ .opened ∧ taken k.history = []

/-- The messages kept for retransmission, and how far the acknowledgements have got beyond. -/
def Keeps (slack : Nat) (k : Core) (a : Nat) : Prop :=
  ∀ e ∈ k.tx, e.flags.syn = false → ∃ i, (taken k.history)[i]? = some e.data ∧
    e.seqNr = nth k.iss (i + 1) ∧ (k.Active → a ≤ i + if k.checked then 0 else slack)

/-- A segment that the receiver holds back. -/
def Ahead (W : Nat) (X : Core) (m : Nat) (x : Segment) : Prop :=
  ∃ i, m ≤ i ∧ i + 1 ≤ m + 2 * W ∧ x.seqNr = nth X.iss (i + 1) ∧
    (taken X.history)[i]? = some x.data

/-- A segment of the sender, not far behind its latest message. -/
def Recent (far : Nat) (X : Core) (s : Segment) (past : List RdpEvent) : Prop :=
  s.Carries → ∃ i, s.seqNr = nth X.iss (i + 1) ∧ (taken past)[i]? = some s.data ∧
    (taken past).length ≤ i + far

/-- An acknowledgement of the receiver. -/
def Honest (X : Core) (s : Segment) (past : List RdpEvent) : Prop :=
  s.flags.ack → Synced past → s.ackNr = nth X.iss (passed past).length

/-- A list of what the receiver has got out of sequence. -/
def Listed (W : Nat) (X Y : Core) (s : Segment) (past : List RdpEvent) : Prop :=
  s.flags.eak → Synced past → ∀ q ∈ eackNumbers s.data, ∃ j, q = nth X.iss (j + 1) ∧
    (passed past).length ≤ j ∧ j + 1 ≤ (passed past).length + 2 * W ∧
      (j < (passed Y.history).length ∨ ∃ x ∈ Y.rx, x.seqNr = nth X.iss (j + 1))

/-- A segment that comes in: `late` bounds what its sender took and passed on since. -/
def Arrives (late : Nat) (k : Core) (s : Segment) : Prop :=
  ∃ past, (.transmitted s :: past) <:+ k.history ∧
    (taken k.history).length ≤ (taken past).length + late ∧
    (passed k.history).length ≤ (passed past).length + late

end Core

/-- One direction: `X` sends and `Y` receives. -/
structure Stream (late W : Nat) (X Y : Core) : Prop where
  known : Synced Y.history → X.history ≠ [] ∧ Y.irs = X.iss ∧
    Y.cur = nth X.iss (passed Y.history).length
  order : (passed Y.history).map Prod.fst <+: taken X.history
  counts : ∃ a, Inv late (W + 1) ⟨(taken X.history).length, (passed Y.history).length, a⟩ ∧
    (X.alive → X.state ≠ .closed → X.Acked a) ∧ (X.alive → X.Keeps (late + W + 1) a)
  syn : ∀ e ∈ X.tx, e.flags.syn → e.seqNr = X.iss
  ahead : ∀ x ∈ Y.rx, X.Ahead W (passed Y.history).length x
  distinct : (Y.rx.map Segment.seqNr).Nodup
  covered : X.alive → Y.alive → ∀ i, (passed Y.history).length ≤ i →
    i < (taken X.history).length →
      (∃ e ∈ X.tx, e.flags.syn = false ∧ e.seqNr = nth X.iss (i + 1)) ∨
        ∃ x ∈ Y.rx, x.seqNr = nth X.iss (i + 1)
  recent : Logged (X.Recent (late + W + 1)) X.history
  syns : Logged (fun s _ => s.flags.syn → s.seqNr = X.iss) X.history
  honest : Logged X.Honest Y.history
  listed : Y.alive → Logged (X.Listed W Y) Y.history

namespace Stream
variable {late W : Nat} {X Y : Core} {s : Segment}

theorem keeps_acked {a i : Nat} {e : Kept} (h : X.Acked a) (hi : (taken X.history)[i]? = some e.data)
    (hseq : e.seqNr = nth X.iss (i + 1)) (hwindow : (taken X.history).length ≤ a + late + (W + 1))
    (hslack : a ≤ i + (late + W + 1)) (hbound : 2 * late + 4 * W + 8 ≤ 2 ^ 16) :
    before e.seqNr X.una = true ↔ i < a := by
  have hlt : i < (taken X.history).length := (List.getElem?_eq_some_iff.mp hi).1
  obtain huna | ⟨-, -, hnil⟩ := h
  · rw [hseq, huna, before_nth_iff (by omega) (by omega)]
    omega
  · rw [hnil] at hlt
    exact absurd hlt (Nat.not_lt_zero i)

theorem recent_of_sendable (h : Stream late W X Y) (own : X.Own W)
    (hbound : 2 * late + 4 * W + 8 ≤ 2 ^ 16) (hs : X.Sendable s) :
    X.Recent (late + W + 1) s X.history := by
  intro hcarries
  obtain ⟨halive, ⟨hopen, hseq, hlast⟩ | ⟨hactive, e, he, hsyn, hseq, hdata, hbefore⟩⟩ :=
    hs.carries hcarries
  · -- the message that was taken just before
    have hne : taken X.history ≠ [] := by
      intro hnil
      rw [hnil] at hlast
      cases hlast
    have hpos : 0 < (taken X.history).length := List.length_pos_of_ne_nil hne
    refine ⟨(taken X.history).length - 1, ?_, ?_, by omega⟩
    · have hclosed : X.state ≠ .closed := by
        rw [hopen]
        decide
      rw [hseq, own.nxt hclosed, nth_succ_sub_one, Nat.sub_add_cancel hpos]
    · rw [← List.getLast?_eq_getElem?, hlast]
  · -- a message of the retransmission queue
    obtain ⟨a, hinv, hacked, hkeeps⟩ := h.counts
    obtain ⟨i, hi, hnth, hslack⟩ := hkeeps halive e he hsyn
    have hle : a ≤ i + (late + W + 1) := (hslack hactive).trans (by split <;> omega)
    have hnot : ¬ i < a := by
      rw [← keeps_acked (hacked halive hactive.1) hi hnth hinv.behind hle hbound, hbefore]
      decide
    have hsent := hinv.sent_le (Nat.not_lt.mp hnot)
    exact ⟨i, by rw [← hseq, hnth], by rw [hi, hdata], by dsimp only at hsent; omega⟩

theorem transmit (h : Stream late W X Y) (own : X.Own W) (hbound : 2 * late + 4 * W + 8 ≤ 2 ^ 16)
    (hs : X.Sendable s) :
    Stream late W { X with history := .transmitted s :: X.history } Y where
  known hsync := ⟨List.cons_ne_nil _ _, (h.known hsync).2⟩
  order := h.order
  counts := h.counts
  syn := h.syn
  ahead := h.ahead
  distinct := h.distinct
  covered := h.covered
  recent := h.recent.transmit (recent_of_sendable h own hbound hs)
  syns := h.syns.transmit fun hsyn => by
    obtain hopening | hkept := hs.syn hsyn
    · exact hopening.2.1
    · exact h.syn s.kept hkept hsyn
  honest := h.honest
  listed := h.listed

theorem take (h : Stream late W X Y) (own : X.Own W) (hbound : 2 * late + 4 * W + 8 ≤ 2 ^ 16)
    {m : List UInt8} (hopen : X.state = .opened) (halive : X.alive)
    (hwindow : before (X.una + X.window.setWidth 16) X.nxt = false) :
    Stream late W { X with
      history := .taken m :: X.history
      nxt := X.nxt + 1
      tx := X.tx ++ [⟨{ ack := true }, X.nxt, m⟩] } Y where
  known hsync := ⟨List.cons_ne_nil _ _, (h.known hsync).2⟩
  order := by
    rw [taken_taken]
    exact h.order.trans (List.prefix_append _ _)
  counts := by
    have hclosed : X.state ≠ .closed := by
      rw [hopen]
      decide
    obtain ⟨a, hinv, hacked, hkeeps⟩ := h.counts
    have hacked := hacked halive hclosed
    have huna : X.una = nth X.iss (a + 1) := by
      obtain huna | ⟨-, hstate, -⟩ := hacked
      · exact huna
      · exact absurd hopen hstate
    have hroom : (taken X.history).length < a + (W + 1) := by
      have hacked := hinv.acked
      have hpassed := hinv.passed
      have hbehind := hinv.behind
      dsimp only at hacked hpassed hbehind
      rw [huna, own.nxt hclosed, own.window hclosed, BitVec.setWidth_ofNat_of_le (by decide),
        ← nth, nth_add, Bool.eq_false_iff, ne_eq,
        before_nth_iff (by omega) (by omega)] at hwindow
      omega
    refine ⟨a, ?_, ?_, ?_⟩
    · rw [taken_taken, List.length_append]
      exact hinv.step (.send hroom)
    · intro _ _
      exact .inl huna
    · intro _ e he hsyn
      obtain he | he := List.mem_append.mp he
      · obtain ⟨i, hi, hseq, hslack⟩ := hkeeps halive e he hsyn
        refine ⟨i, ?_, hseq, hslack⟩
        rw [taken_taken, List.getElem?_append_left (List.getElem?_eq_some_iff.mp hi).1, hi]
      · obtain rfl := List.mem_singleton.mp he
        refine ⟨(taken X.history).length, ?_, own.nxt hclosed, ?_⟩
        · rw [taken_taken, List.getElem?_concat_length]
        · intro _
          have hacked := hinv.acked.trans hinv.passed
          dsimp only at hacked
          omega
  syn e he hsyn := by
    obtain he | he := List.mem_append.mp he
    · exact h.syn e he hsyn
    · obtain rfl := List.mem_singleton.mp he
      cases hsyn
  ahead x hx := by
    obtain ⟨i, hle, hlt, hseq, hi⟩ := h.ahead x hx
    refine ⟨i, hle, hlt, hseq, ?_⟩
    rw [taken_taken, List.getElem?_append_left (List.getElem?_eq_some_iff.mp hi).1, hi]
  distinct := h.distinct
  covered := by
    intro _ hY i hle hlt
    have hclosed : X.state ≠ .closed := by
      rw [hopen]
      decide
    rw [taken_taken, List.length_append, List.length_singleton] at hlt
    by_cases hi : i < (taken X.history).length
    · obtain ⟨e, he, hkept⟩ | hheld := h.covered halive hY i hle hi
      · exact .inl ⟨e, List.mem_append_left _ he, hkept⟩
      · exact .inr hheld
    · obtain rfl : i = (taken X.history).length := by omega
      exact .inl ⟨_, List.mem_append_right _ (List.mem_singleton_self _), rfl, own.nxt hclosed⟩
  recent := h.recent.cons nofun
  syns := h.syns.cons nofun
  honest := h.honest
  listed := h.listed

theorem acked (h : Stream late W X Y) (hpunct : Punctual Y.history) (harr : Y.Arrives late s)
    (hack : s.flags.ack) (hchecked : X.checked) :
    Stream late W { X with una := s.ackNr + 1, checked := false } Y where
  known := h.known
  order := h.order
  counts := by
    obtain ⟨past, hsuffix, -, hlate⟩ := harr
    have hacknr := h.honest s past hsuffix hack (hpunct s past hsuffix hack)
    have hpast : (passed past).length ≤ (passed Y.history).length :=
      (passed_mono ((List.suffix_cons _ _).trans hsuffix)).length_le
    obtain ⟨a, hinv, -, hkeeps⟩ := h.counts
    refine ⟨(passed past).length, hinv.step (.ack hpast hlate), ?_, ?_⟩
    · intro _ _
      exact .inl (by rw [hacknr, nth_succ])
    · intro halive e he hsyn
      obtain ⟨i, hi, hseq, hslack⟩ := hkeeps halive e he hsyn
      refine ⟨i, hi, hseq, fun hactive => ?_⟩
      have hle := hslack hactive
      rw [if_pos hchecked] at hle
      have hfar := hinv.acked_le hle hpast
      simp only [Bool.false_eq_true, if_false]
      omega
  syn := h.syn
  ahead := h.ahead
  distinct := h.distinct
  covered := h.covered
  recent := h.recent
  syns := h.syns
  honest := h.honest
  listed := h.listed

theorem received_of_listed (h : Stream late W X Y) (hbound : 2 * late + 4 * W + 8 ≤ 2 ^ 16)
    (hpunct : Punctual Y.history) (halive : Y.alive) (harr : Y.Arrives late s)
    (heak : s.flags.eak) (hack : s.flags.ack) {i : Nat}
    (hi : (passed Y.history).length ≤ i) (hi' : i < (taken X.history).length)
    (hmem : nth X.iss (i + 1) ∈ eackNumbers s.data) :
    ∃ x ∈ Y.rx, x.seqNr = nth X.iss (i + 1) := by
  obtain ⟨past, hsuffix, -, hlate⟩ := harr
  have hpast : (passed past).length ≤ (passed Y.history).length :=
    (passed_mono ((List.suffix_cons _ _).trans hsuffix)).length_le
  obtain ⟨j, hq, hle, hlt, hgot⟩ :=
    h.listed halive s past hsuffix heak (hpunct s past hsuffix hack) _ hmem
  obtain ⟨a, hinv, -, -⟩ := h.counts
  have hahead := hinv.ahead
  dsimp only at hahead
  obtain rfl : i = j := by
    have hij := nth_inj hq (by omega) (by omega)
    omega
  obtain hlt | hheld := hgot
  · omega
  · exact hheld

theorem free (h : Stream late W X Y) (hbound : 2 * late + 4 * W + 8 ≤ 2 ^ 16)
    (hpunct : Punctual Y.history) {a : Option Segment} (harr : ∀ s, a = some s → Y.Arrives late s)
    (hclosed : X.state ≠ .closed) {tx : List Kept} (hsub : ∀ e ∈ tx, e ∈ X.tx)
    (hfree : ∀ e ∈ X.tx, e ∈ tx ∨ before e.seqNr X.una ∨
      ∃ s, a = some s ∧ s.flags.eak ∧ s.flags.ack ∧ e.seqNr ∈ eackNumbers s.data) :
    Stream late W { X with tx := tx } Y where
  known := h.known
  order := h.order
  counts := by
    obtain ⟨a, hinv, hacked, hkeeps⟩ := h.counts
    exact ⟨a, hinv, hacked, fun halive e he => hkeeps halive e (hsub e he)⟩
  syn e he := h.syn e (hsub e he)
  ahead := h.ahead
  distinct := h.distinct
  covered := by
    intro hX hY i hle hlt
    obtain ⟨e, he, hsyn, hseq⟩ | hheld := h.covered hX hY i hle hlt
    · obtain hkept | hbefore | ⟨s, ha, heak, hack, hmem⟩ := hfree e he
      · exact .inl ⟨e, hkept, hsyn, hseq⟩
      · -- it is not acknowledged, for it was not passed on
        exfalso
        obtain ⟨a, hinv, hacked, -⟩ := h.counts
        have hacked' := hinv.acked
        have hbehind := hinv.behind
        dsimp only at hacked' hbehind hlt
        obtain huna | ⟨-, -, hnil⟩ := hacked hX hclosed
        · rw [hseq, huna, before_nth_iff (by omega) (by omega)] at hbefore
          omega
        · rw [hnil] at hlt
          exact Nat.not_lt_zero i hlt
      · rw [hseq] at hmem
        exact .inr (received_of_listed h hbound hpunct hY (harr s ha) heak hack hle hlt hmem)
    · exact .inr hheld
  recent := h.recent
  syns := h.syns
  honest := h.honest
  listed := h.listed

theorem of_counts (h : Stream late W X Y) {X' : Core} (hhistory : X'.history = X.history)
    (hiss : X'.iss = X.iss) (htx : X'.tx = X.tx) (halive : X'.alive = X.alive)
    (hcounts : ∀ a, Inv late (W + 1) ⟨(taken X.history).length, (passed Y.history).length, a⟩ →
      (X.alive → X.state ≠ .closed → X.Acked a) → (X.alive → X.Keeps (late + W + 1) a) →
        (X'.alive → X'.state ≠ .closed → X'.Acked a) ∧ (X'.alive → X'.Keeps (late + W + 1) a)) :
    Stream late W X' Y := by
  obtain ⟨history, iss, nxt, una, irs, cur, window, tx, rx, state, alive, checked⟩ := X'
  dsimp only at hhistory hiss htx halive
  subst hhistory hiss htx halive
  obtain ⟨a, hinv, hacked, hkeeps⟩ := h.counts
  exact ⟨h.known, h.order, ⟨a, hinv, hcounts a hinv hacked hkeeps⟩, h.syn, h.ahead, h.distinct,
    h.covered, h.recent, h.syns, h.honest, h.listed⟩

theorem swept (h : Stream late W X Y) (hbound : 2 * late + 4 * W + 8 ≤ 2 ^ 16)
    (hswept : X.Active → ∀ e ∈ X.tx, before e.seqNr X.una = false) :
    Stream late W { X with checked := true } Y := by
  refine h.of_counts rfl rfl rfl rfl fun a hinv hacked hkeeps => ⟨hacked, ?_⟩
  intro halive e he hsyn
  obtain ⟨i, hi, hseq, hslack⟩ := hkeeps halive e he hsyn
  refine ⟨i, hi, hseq, fun hactive => ?_⟩
  have hle : a ≤ i + (late + W + 1) := (hslack hactive).trans (by split <;> omega)
  have hnot : ¬ i < a := by
    rw [← keeps_acked (hacked halive hactive.1) hi hseq hinv.behind hle hbound,
      hswept hactive e he]
    decide
  simp only [if_true]
  omega

theorem unchecked (h : Stream late W X Y) : Stream late W { X with checked := false } Y := by
  refine h.of_counts rfl rfl rfl rfl fun a _ hacked hkeeps => ⟨hacked, ?_⟩
  intro halive e he hsyn
  obtain ⟨i, hi, hseq, hslack⟩ := hkeeps halive e he hsyn
  refine ⟨i, hi, hseq, fun hactive => (hslack hactive).trans ?_⟩
  simp only [Bool.false_eq_true, if_false]
  split <;> omega

theorem opened (h : Stream late W X Y) (hst : X.state = .synRcvd) (huna : X.una = X.iss + 1) :
    Stream late W { X with state := .opened } Y := by
  have hclosed : X.state ≠ .closed := by
    rw [hst]
    decide
  have hactive : X.Active := by
    refine ⟨hclosed, ?_⟩
    rw [hst]
    decide
  refine h.of_counts rfl rfl rfl rfl fun a hinv hacked hkeeps => ⟨?_, ?_⟩
  · intro halive _
    obtain hseq | ⟨hiss, -, -⟩ := hacked halive hclosed
    · exact .inl hseq
    · -- the number behind the initial one is another one
      have hne := @nth_ne 16 X.iss 0 1 (by decide) (by decide)
      rw [nth_zero, nth_succ, nth_zero, ← huna] at hne
      exact absurd hiss hne
  · intro halive e he hsyn
    obtain ⟨i, hi, hseq, hslack⟩ := hkeeps halive e he hsyn
    exact ⟨i, hi, hseq, fun _ => hslack hactive⟩

theorem closing (h : Stream late W X Y) (hst : X.state ≠ .closed) :
    Stream late W { X with state := .closeWait } Y := by
  refine h.of_counts rfl rfl rfl rfl fun a hinv hacked hkeeps => ⟨?_, ?_⟩
  · intro halive _
    obtain hseq | ⟨hiss, -, hnil⟩ := hacked halive hst
    · exact .inl hseq
    · exact .inr ⟨hiss, by simp, hnil⟩
  · intro halive e he hsyn
    obtain ⟨i, hi, hseq, -⟩ := hkeeps halive e he hsyn
    exact ⟨i, hi, hseq, fun hactive => absurd rfl hactive.2⟩

theorem keepSyn (h : Stream late W X Y) {e : Kept} (he : X.Opening e) :
    Stream late W { X with tx := X.tx ++ [e] } Y where
  known := h.known
  order := h.order
  counts := by
    obtain ⟨a, hinv, hacked, hkeeps⟩ := h.counts
    refine ⟨a, hinv, hacked, fun halive e' he' hsyn => ?_⟩
    obtain hold | hnew := List.mem_append.mp he'
    · exact hkeeps halive e' hold hsyn
    · rw [List.mem_singleton.mp hnew, he.1] at hsyn
      cases hsyn
  syn e' he' hsyn := by
    obtain hold | hnew := List.mem_append.mp he'
    · exact h.syn e' hold hsyn
    · rw [List.mem_singleton.mp hnew]
      exact he.2.1
  ahead := h.ahead
  distinct := h.distinct
  covered hX hY i hle hlt := by
    obtain ⟨e', he', hkept⟩ | hheld := h.covered hX hY i hle hlt
    · exact .inl ⟨e', List.mem_append_left _ he', hkept⟩
    · exact .inr hheld
  recent := h.recent
  syns := h.syns
  honest := h.honest
  listed := h.listed

theorem receives (h : Stream late W X Y) (m : List UInt8) (queued : Bool) (rx : List Segment)
    (cur : BitVec 16) :
    Stream late W { X with
      rx := rx
      cur := cur
      history := .passed m queued :: X.history } Y where
  known hsync := ⟨List.cons_ne_nil _ _, (h.known hsync).2⟩
  order := h.order
  counts := h.counts
  syn := h.syn
  ahead := h.ahead
  distinct := h.distinct
  covered := h.covered
  recent := h.recent.cons nofun
  syns := h.syns.cons nofun
  honest := h.honest
  listed := h.listed

theorem shut (h : Stream late W X Y) :
    Stream late W { X with state := .closed, alive := false, tx := [], rx := [] } Y where
  known := h.known
  order := h.order
  counts := by
    obtain ⟨a, hinv, -, -⟩ := h.counts
    exact ⟨a, hinv, nofun, nofun⟩
  syn := nofun
  ahead := h.ahead
  distinct := h.distinct
  covered := nofun
  recent := h.recent
  syns := h.syns
  honest := h.honest
  listed := h.listed

theorem accept (h : Stream late W X Y) (hX : X.Own W) (hY : Y.Own W) (hst : X.state = .closed)
    (halive : X.alive) (iss irs cur : BitVec 16) (window : BitVec 32) :
    Stream late W { X with
      history := .synchronised :: X.history
      iss := iss
      nxt := iss + 1
      una := iss
      irs := irs
      cur := cur
      window := window
      state := .synRcvd } Y := by
  obtain ⟨hhistory, htx, -⟩ := hX.fresh hst halive
  have hunsynced : ¬ Synced Y.history := fun hsync => (h.known hsync).1 hhistory
  obtain ⟨-, -, -, hpassed, hrx⟩ := hY.unsynced hunsynced
  have hpast {s : Segment} {past : List RdpEvent} (hsuffix : (.transmitted s :: past) <:+ Y.history) :
      ¬ Synced past :=
    fun hsync => hunsynced (hsync.of_suffix ((List.suffix_cons _ _).trans hsuffix))
  exact {
    known := fun hsync => absurd hsync hunsynced
    order := by
      rw [hpassed]
      exact List.nil_prefix
    counts := by
      refine ⟨0, ?_, ?_, ?_⟩
      · rw [hpassed, hhistory]
        exact .zero
      · intro _ _
        exact .inr ⟨rfl, by simp, by rw [hhistory]; rfl⟩
      · intro _ e he
        rw [htx] at he
        cases he
    syn := by
      rw [htx]
      nofun
    ahead := by
      rw [hrx]
      nofun
    distinct := h.distinct
    covered := by
      intro _ _ i _ hlt
      rw [hhistory] at hlt
      exact absurd hlt (Nat.not_lt_zero i)
    recent := by
      rw [hhistory]
      exact Logged.nil.cons nofun
    syns := by
      rw [hhistory]
      exact Logged.nil.cons nofun
    honest := fun s past hsuffix _ hsync => absurd hsync (hpast hsuffix)
    listed := fun _ s past hsuffix _ hsync => absurd hsync (hpast hsuffix) }

theorem connect (h : Stream late W X Y) (hX : X.Own W) (hpunct : Punctual Y.history)
    (harr : Y.Arrives late s) (hack : s.flags.ack) (hst : X.state = .synSent)
    (irs cur : BitVec 16) :
    Stream late W { X with
      history := .synchronised :: X.history
      una := s.ackNr + 1
      irs := irs
      cur := cur
      state := .opened
      checked := false } Y where
  known hsync := ⟨List.cons_ne_nil _ _, (h.known hsync).2⟩
  order := h.order
  counts := by
    have htaken := (hX.unsynced (hX.quiet hst)).2.2.1
    obtain ⟨a, hinv, -, -⟩ := h.counts
    obtain ⟨past, hsuffix, -, -⟩ := harr
    have hpast : (passed past).length ≤ (passed Y.history).length :=
      (passed_mono ((List.suffix_cons _ _).trans hsuffix)).length_le
    have hpassed := hinv.passed
    rw [htaken] at hpassed
    have hacknr := h.honest s past hsuffix hack (hpunct s past hsuffix hack)
    have hzero : (passed past).length = 0 := by
      dsimp only [List.length_nil] at hpassed
      omega
    refine ⟨a, hinv, ?_, ?_⟩
    · intro _ _
      have ha : a = 0 := by
        have hacked := hinv.acked
        dsimp only [List.length_nil] at hacked hpassed
        omega
      rw [hacknr, hzero, ha]
      exact .inl (nth_succ _ _).symm
    · intro halive e he hsyn
      exfalso
      obtain ⟨a', -, -, hkeeps⟩ := h.counts
      obtain ⟨i, hi, -, -⟩ := hkeeps halive e he hsyn
      rw [htaken] at hi
      cases hi
  syn := h.syn
  ahead := h.ahead
  distinct := h.distinct
  covered := h.covered
  recent := h.recent.cons nofun
  syns := h.syns.cons nofun
  honest := h.honest
  listed := h.listed

theorem of_receiver (h : Stream late W X Y) {Y' : Core} (hhistory : Y'.history = Y.history)
    (hirs : Y'.irs = Y.irs) (hcur : Y'.cur = Y.cur) (hrx : Y'.rx = Y.rx)
    (halive : Y'.alive = Y.alive) : Stream late W X Y' := by
  obtain ⟨history, iss, nxt, una, irs, cur, window, tx, rx, state, alive, checked⟩ := Y'
  dsimp only at hhistory hirs hcur hrx halive
  subst hhistory hirs hcur hrx halive
  exact ⟨h.known, h.order, h.counts, h.syn, h.ahead, h.distinct, h.covered, h.recent, h.syns,
    h.honest, h.listed⟩

theorem takes (h : Stream late W X Y) (m : List UInt8) (nxt : BitVec 16) (tx : List Kept) :
    Stream late W X { Y with history := .taken m :: Y.history, nxt := nxt, tx := tx } where
  known hsync := h.known ((synced_taken _ _).mp hsync)
  order := h.order
  counts := h.counts
  syn := h.syn
  ahead := h.ahead
  distinct := h.distinct
  covered := h.covered
  recent := h.recent
  syns := h.syns
  honest := h.honest.cons nofun
  listed halive := (h.listed halive).cons nofun

theorem sends (h : Stream late W X Y) (hY : Y.Own W) (hs : Y.Sendable s) :
    Stream late W X { Y with history := .transmitted s :: Y.history } where
  known hsync := h.known ((synced_transmitted _ _).mp hsync)
  order := h.order
  counts := h.counts
  syn := h.syn
  ahead := h.ahead
  distinct := h.distinct
  covered := h.covered
  recent := h.recent
  syns := h.syns
  honest := h.honest.transmit fun hack hsync => by
    obtain ⟨-, hirs, hcur⟩ := h.known hsync
    obtain ⟨-, -, heq | ⟨hst, heq⟩⟩ := hs.ack hack
    · rw [heq, hcur]
    · rw [heq, hirs, hY.waiting hst]
      exact (nth_zero _).symm
  listed halive := (h.listed halive).transmit fun heak _ q hq => by
    rw [hs.eak heak] at hq
    obtain ⟨x, hx, rfl⟩ := List.mem_map.mp hq
    obtain ⟨i, hle, hlt, hseq, -⟩ := h.ahead x hx
    exact ⟨i, hseq, hle, hlt, .inr ⟨x, hx, hseq⟩⟩

theorem message_of_arrives (h : Stream late W X Y) (hbound : 2 * late + 4 * W + 8 ≤ 2 ^ 16)
    (harr : X.Arrives late s) (hs : s.Carries) {j : Nat} (hj : (passed Y.history).length ≤ j)
    (hj' : j + 1 ≤ (passed Y.history).length + 2 * W + 1) (hseq : s.seqNr = nth X.iss (j + 1)) :
    (taken X.history)[j]? = some s.data := by
  obtain ⟨past, hsuffix, hlate, -⟩ := harr
  have hprefix := taken_mono ((List.suffix_cons _ _).trans hsuffix)
  obtain ⟨i, hi, hdata, hfar⟩ := h.recent s past hsuffix hs
  have hlt : i < (taken past).length := (List.getElem?_eq_some_iff.mp hdata).1
  have hle := hprefix.length_le
  obtain ⟨a, hinv, -, -⟩ := h.counts
  have hpassed := hinv.passed
  have hahead := hinv.ahead
  dsimp only at hpassed hahead
  obtain rfl : i = j := by
    have hij := nth_inj (hi.symm.trans hseq) (by omega) (by omega)
    omega
  obtain ⟨rest, hrest⟩ := hprefix
  rw [← hrest, List.getElem?_append_left hlt, hdata]

theorem known_of_opened (h : Stream late W X Y) (hY : Y.Own W) (hopen : Y.state = .opened) :
    Y.cur = nth X.iss (passed Y.history).length := by
  by_cases hsync : Synced Y.history
  · exact (h.known hsync).2.2
  · exact absurd hopen (hY.unsynced hsync).1

theorem hold (h : Stream late W X Y) (hY : Y.Own W) (hW : 0 < W)
    (hbound : 2 * late + 4 * W + 8 ≤ 2 ^ 16) (harr : X.Arrives late s) (hs : s.Carries)
    (hopen : Y.state = .opened)
    (hspan : between s.seqNr (Y.cur + 1) (Y.cur + (Y.window * 2).setWidth 16))
    (hnew : ∀ x ∈ Y.rx, x.seqNr ≠ s.seqNr) : Stream late W X { Y with rx := Y.rx ++ [s] } where
  known := h.known
  order := h.order
  counts := h.counts
  syn := h.syn
  ahead x hx := by
    obtain hold | hnew := List.mem_append.mp hx
    · exact h.ahead x hold
    · obtain rfl := List.mem_singleton.mp hnew
      have hclosed : Y.state ≠ .closed := by
        rw [hopen]
        decide
      have hwindow : (Y.window * 2).setWidth 16 = BitVec.ofNat 16 (2 * W) := by
        change (Y.window * BitVec.ofNat 32 2).setWidth 16 = _
        rw [hY.window hclosed, ← BitVec.ofNat_mul, BitVec.setWidth_ofNat_of_le (by decide),
          Nat.mul_comm]
      have hend : 2 * W = 1 + (2 * W - 1) := by omega
      rw [hwindow, ← nth, h.known_of_opened hY hopen, nth_add, ← nth_succ, hend, ← Nat.add_assoc]
        at hspan
      obtain ⟨j, hle, hlt, hseq⟩ := exists_of_between (by omega) hspan
      obtain ⟨i, rfl⟩ := Nat.exists_eq_add_of_le hle
      rw [Nat.add_right_comm] at hseq
      have hfit : (passed Y.history).length + i + 1 ≤ (passed Y.history).length + 2 * W := by omega
      refine ⟨(passed Y.history).length + i, Nat.le_add_right _ _, hfit, hseq, ?_⟩
      exact h.message_of_arrives hbound harr hs (by omega) (by omega) hseq
  distinct := by
    rw [List.map_append, List.map_singleton]
    refine List.Nodup.append h.distinct (List.nodup_singleton _) ?_
    rw [List.disjoint_singleton]
    intro hmem
    obtain ⟨x, hx, heq⟩ := List.mem_map.mp hmem
    exact hnew x hx heq
  covered hX halive i hle hlt := by
    obtain hkept | ⟨x, hx, hseq⟩ := h.covered hX halive i hle hlt
    · exact .inl hkept
    · exact .inr ⟨x, List.mem_append_left _ hx, hseq⟩
  recent := h.recent
  syns := h.syns
  honest := h.honest
  listed halive s' past hsuffix heak hsync q hq := by
    obtain ⟨j, hj, hle, hlt, hgot | ⟨x, hx, hseq⟩⟩ :=
      h.listed halive s' past hsuffix heak hsync q hq
    · exact ⟨j, hj, hle, hlt, .inl hgot⟩
    · exact ⟨j, hj, hle, hlt, .inr ⟨x, List.mem_append_left _ hx, hseq⟩⟩

theorem turn (h : Stream late W X Y) {rx : List Segment} (hperm : rx.Perm Y.rx) :
    Stream late W X { Y with rx := rx } where
  known := h.known
  order := h.order
  counts := h.counts
  syn := h.syn
  ahead x hx := h.ahead x (hperm.subset hx)
  distinct := (hperm.map Segment.seqNr).nodup_iff.mpr h.distinct
  covered hX halive i hle hlt := by
    obtain hkept | ⟨x, hx, hseq⟩ := h.covered hX halive i hle hlt
    · exact .inl hkept
    · exact .inr ⟨x, hperm.symm.subset hx, hseq⟩
  recent := h.recent
  syns := h.syns
  honest := h.honest
  listed halive s' past hsuffix heak hsync q hq := by
    obtain ⟨j, hj, hle, hlt, hgot | ⟨x, hx, hseq⟩⟩ :=
      h.listed halive s' past hsuffix heak hsync q hq
    · exact ⟨j, hj, hle, hlt, .inl hgot⟩
    · exact ⟨j, hj, hle, hlt, .inr ⟨x, hperm.symm.subset hx, hseq⟩⟩

theorem pass (h : Stream late W X Y) (hY : Y.Own W) (hopen : Y.state = .opened) {rx : List Segment}
    {m : List UInt8} (queued : Bool) (hm : (taken X.history)[(passed Y.history).length]? = some m)
    (hsub : ∀ x ∈ rx, x ∈ Y.rx) (hdistinct : (rx.map Segment.seqNr).Nodup)
    (hnext : ∀ x ∈ rx, x.seqNr ≠ Y.cur + 1)
    (hrest : ∀ x ∈ Y.rx, x ∈ rx ∨ x.seqNr = Y.cur + 1)
    (hbound : 2 * late + 4 * W + 8 ≤ 2 ^ 16) :
    Stream late W X { Y with
      rx := rx
      cur := Y.cur + 1
      history := .passed m queued :: Y.history } := by
  have hcur := h.known_of_opened hY hopen
  have hlt : (passed Y.history).length < (taken X.history).length :=
    (List.getElem?_eq_some_iff.mp hm).1
  -- where a number of the span is the next one, so is what it counts
  have hnumber {i : Nat} (hle : (passed Y.history).length ≤ i)
      (hi : i < (passed Y.history).length + 2 * W + 1) (heq : nth X.iss (i + 1) = Y.cur + 1) :
      i = (passed Y.history).length := by
    rw [hcur, ← nth_succ] at heq
    have hij := nth_inj heq (by omega) (by omega)
    omega
  have hlater {i : Nat} (hle : (passed Y.history).length + 1 ≤ i) {x : Segment} (hx : x ∈ Y.rx)
      (hseq : x.seqNr = nth X.iss (i + 1)) (hi : i < (passed Y.history).length + 2 * W + 1) :
      x ∈ rx := by
    obtain hkept | hgone := hrest x hx
    · exact hkept
    · have heq := hnumber (by omega) hi (hseq.symm.trans hgone)
      omega
  exact {
    known := by
      intro hsync
      obtain ⟨hne, hirs, hcur⟩ := h.known ((synced_passed _ _ _).mp hsync)
      refine ⟨hne, hirs, ?_⟩
      rw [passed_passed, List.length_append, List.length_singleton, nth_succ, ← hcur]
    order := by
      rw [passed_passed, List.map_append, List.map_singleton]
      obtain ⟨rest, hprefix⟩ := h.order
      rw [← hprefix, ← List.length_map (f := Prod.fst),
        List.getElem?_append_right (Nat.le_refl _), Nat.sub_self] at hm
      obtain ⟨tail, rfl⟩ : ∃ tail, rest = m :: tail := by
        cases rest with
        | nil => cases hm
        | cons first tail => exact ⟨tail, by rw [Option.some.inj hm]⟩
      exact ⟨tail, by rw [← hprefix, List.append_assoc, List.singleton_append]⟩
    counts := by
      obtain ⟨a, hinv, hacked, hkeeps⟩ := h.counts
      refine ⟨a, ?_, hacked, hkeeps⟩
      rw [passed_passed, List.length_append]
      exact hinv.step (.pass hlt)
    syn := h.syn
    ahead := by
      intro x hx
      obtain ⟨i, hle, hi, hseq, hdata⟩ := h.ahead x (hsub x hx)
      have hne : i ≠ (passed Y.history).length := by
        rintro rfl
        refine hnext x hx ?_
        rw [hseq, hcur, nth_succ]
      refine ⟨i, ?_, ?_, hseq, hdata⟩
      · rw [passed_passed, List.length_append, List.length_singleton]
        omega
      · rw [passed_passed, List.length_append, List.length_singleton]
        omega
    distinct := hdistinct
    covered := by
      intro hX halive i hle hi
      rw [passed_passed, List.length_append, List.length_singleton] at hle
      obtain hkept | ⟨x, hx, hseq⟩ := h.covered hX halive i (by omega) hi
      · exact .inl hkept
      · obtain ⟨a, hinv, -, -⟩ := h.counts
        obtain ⟨j, hj, hj', hseq', -⟩ := h.ahead x hx
        have hahead := hinv.ahead
        dsimp only at hahead hi
        obtain rfl : i = j := by
          have hij := nth_inj (hseq.symm.trans hseq') (by omega) (by omega)
          omega
        exact .inr ⟨x, hlater hle hx hseq (by omega), hseq⟩
    recent := h.recent
    syns := h.syns
    honest := h.honest.cons nofun
    listed := fun halive => by
      refine Logged.cons ?_ nofun
      intro s' past hsuffix heak hsync q hq
      obtain ⟨j, hj, hle, hj', hgot⟩ := h.listed halive s' past hsuffix heak hsync q hq
      have hpast : (passed past).length ≤ (passed Y.history).length :=
        (passed_mono ((List.suffix_cons _ _).trans hsuffix)).length_le
      refine ⟨j, hj, hle, hj', ?_⟩
      rw [passed_passed, List.length_append, List.length_singleton]
      obtain hgot | ⟨x, hx, hseq⟩ := hgot
      · exact .inl (by omega)
      · by_cases hnew : j < (passed Y.history).length + 1
        · exact .inl hnew
        · exact .inr ⟨x, hlater (by omega) hx hseq (by omega), hseq⟩ }

theorem gone (h : Stream late W X Y) :
    Stream late W X { Y with state := .closed, alive := false, tx := [], rx := [] } where
  known := h.known
  order := h.order
  counts := h.counts
  syn := h.syn
  ahead := nofun
  distinct := List.nodup_nil
  covered _ := nofun
  recent := h.recent
  syns := h.syns
  honest := h.honest
  listed := nofun

theorem synchronised (h : Stream late W X Y) (hY : Y.Own W) (hunsynced : ¬ Synced Y.history)
    (harr : X.Arrives late s) (hsyn : s.flags.syn) {Y' : Core}
    (hhistory : Y'.history = .synchronised :: Y.history) (hirs : Y'.irs = s.seqNr)
    (hcur : Y'.cur = s.seqNr) (hrx : Y'.rx = Y.rx) (halive : Y'.alive = Y.alive) :
    Stream late W X Y' := by
  obtain ⟨history, iss, nxt, una, irs, cur, window, tx, rx, state, alive, checked⟩ := Y'
  dsimp only at hhistory hirs hcur hrx halive
  subst hhistory hirs hcur hrx halive
  obtain ⟨past, hsuffix, -, -⟩ := harr
  have hiss := h.syns s past hsuffix hsyn
  have hpassed := (hY.unsynced hunsynced).2.2.2.1
  refine ⟨fun _ => ⟨?_, hiss, ?_⟩, h.order, h.counts, h.syn, h.ahead, h.distinct, h.covered,
    h.recent, h.syns, h.honest.cons nofun, fun halive => (h.listed halive).cons nofun⟩
  · rintro hnil
    rw [hnil] at hsuffix
    exact absurd (List.suffix_nil.mp hsuffix) (List.cons_ne_nil _ _)
  · rw [passed_synchronised, hpassed, hiss]
    exact (nth_zero _).symm

variable {X' Y' : Core} {a : Option Segment}

/-- Whatever the sender does, to which a segment of the receiver may have come in. -/
theorem sender (h : Stream late W X Y) (hbound : 2 * late + 4 * W + 8 ≤ 2 ^ 16) (hX : X.Own W)
    (hY : Y.Own W) (hpunct : Punctual Y.history) (harr : ∀ s, a = some s → Y.Arrives late s)
    (hm : Move a X X') : Stream late W X' Y := by
  cases hm with
  | transmit s hs => exact h.transmit hX hbound hs
  | take m hopen halive hwindow => exact h.take hX hbound hopen halive hwindow
  | acked s ha hack hchecked => exact h.acked hpunct (harr s ha) hack hchecked
  | free tx hst hsub hfree => exact h.free hbound hpunct harr hst hsub hfree
  | swept hswept => exact h.swept hbound hswept
  | unchecked => exact h.unchecked
  | keepSyn e he => exact h.keepSyn he
  | hold s => exact h.of_counts rfl rfl rfl rfl fun _ _ hacked hkeeps => ⟨hacked, hkeeps⟩
  | turn rx => exact h.of_counts rfl rfl rfl rfl fun _ _ hacked hkeeps => ⟨hacked, hkeeps⟩
  | pass s queued => exact h.receives _ _ _ _
  | release x rx queued => exact h.receives _ _ _ _
  | opened hst huna => exact h.opened hst huna
  | closing hst => exact h.closing hst
  | shut => exact h.shut
  | accept s iss _ _ hst halive => exact h.accept hX hY hst halive _ _ _ _
  | connect s ha _ hack hst => exact h.connect hX hpunct (harr s ha) hack hst _ _

/-- Whatever the receiver does, to which a segment of the sender may have come in. -/
theorem receiver (h : Stream late W X Y) (hW : 0 < W) (hbound : 2 * late + 4 * W + 8 ≤ 2 ^ 16)
    (hY : Y.Own W) (harr : ∀ s, a = some s → X.Arrives late s) (hm : Move a Y Y') :
    Stream late W X Y' := by
  cases hm with
  | transmit s hs => exact h.sends hY hs
  | take m => exact h.takes _ _ _
  | acked s => exact h.of_receiver rfl rfl rfl rfl rfl
  | free tx => exact h.of_receiver rfl rfl rfl rfl rfl
  | swept => exact h.of_receiver rfl rfl rfl rfl rfl
  | unchecked => exact h.of_receiver rfl rfl rfl rfl rfl
  | keepSyn e => exact h.of_receiver rfl rfl rfl rfl rfl
  | hold s ha hs hopen hspan hnew => exact h.hold hY hW hbound (harr s ha) hs hopen hspan hnew
  | turn rx hperm => exact h.turn hperm
  | pass s queued ha hs hopen hseq hnew =>
      rw [h.known_of_opened hY hopen, ← nth_succ] at hseq
      have hm := h.message_of_arrives hbound (harr s ha) hs (Nat.le_refl _) (by omega) hseq
      exact h.pass hY hopen queued hm (fun _ => id) h.distinct hnew (fun _ => .inl) hbound
  | release x rx queued hperm hopen hseq =>
      have hx : x ∈ Y.rx := hperm.symm.subset List.mem_cons_self
      obtain ⟨i, hle, hlt, hi, hdata⟩ := h.ahead x hx
      have hnext : nth X.iss (i + 1) = nth X.iss ((passed Y.history).length + 1) := by
        rw [← hi, hseq, h.known_of_opened hY hopen, nth_succ]
      obtain rfl : i = (passed Y.history).length := by
        have hij := nth_inj hnext (by omega) (by omega)
        omega
      have hdistinct := (hperm.map Segment.seqNr).nodup_iff.mp h.distinct
      rw [List.map_cons, List.nodup_cons] at hdistinct
      refine h.pass hY hopen queued hdata ?_ hdistinct.2 ?_ ?_ hbound
      · intro y hy
        exact hperm.symm.subset (List.mem_cons_of_mem x hy)
      · intro y hy hnumber
        exact hdistinct.1 (List.mem_map.mpr ⟨y, hy, hnumber.trans hseq.symm⟩)
      · intro y hy
        obtain rfl | hrest := List.mem_cons.mp (hperm.subset hy)
        · exact .inr hseq
        · exact .inl hrest
  | opened => exact h.of_receiver rfl rfl rfl rfl rfl
  | closing => exact h.of_receiver rfl rfl rfl rfl rfl
  | shut => exact h.gone
  | accept s iss ha hsyn hst halive =>
      have hunsynced : ¬ Synced Y.history := by
        rw [(hY.fresh hst halive).1]
        exact List.not_mem_nil
      exact h.synchronised hY hunsynced (harr s ha) hsyn rfl rfl rfl rfl rfl
  | connect s ha hsyn _ hst =>
      exact h.synchronised hY (hY.quiet hst) (harr s ha) hsyn rfl rfl rfl rfl rfl

end Stream
end UhfGs.Csp
