import Mathlib.Data.List.TakeWhile
import UhfGs.Csp.RdpStream

/-! Every function of `csp_rdp.c` is a run of moves. -/
namespace UhfGs.Csp
open Serial

theorem host16_cons (x : BitVec 16) (rest : List UInt8) :
    eackNumbers (net16 x ++ rest) = x :: eackNumbers rest := by
  rw [net16, List.cons_append, List.cons_append, eackNumbers, host16_net16, List.nil_append]

theorem eackNumbers_flatMap (rx : List Segment) :
    eackNumbers (rx.flatMap fun s => net16 s.seqNr) = rx.map Segment.seqNr := by
  induction rx with
  | nil => rfl
  | cons s rx ih => rw [List.flatMap_cons, host16_cons, ih, List.map_cons]

namespace Core

/-- The next message is not held back. -/
def Settled (k : Core) : Prop := ∀ x ∈ k.rx, x.seqNr ≠ k.cur + 1

def Plain (k : Core) : Prop := ∀ e ∈ k.tx, e.flags.eak = false

/-- A run of moves that leaves the receiver settled if it was so before. -/
def Runs (a : Option Segment) (k k' : Core) : Prop :=
  k.Plain → Moves a k k' ∧ k'.Plain ∧ (k.Settled → k'.Settled)

variable {a : Option Segment} {k k' k'' : Core}

theorem Runs.refl (k : Core) : Runs a k k := fun h => ⟨.refl, h, id⟩

theorem Runs.trans (h : Runs a k k') (h' : Runs a k' k'') : Runs a k k'' := by
  intro hplain
  obtain ⟨hmoves, hplain, hsettled⟩ := h hplain
  obtain ⟨hmoves', hplain, hsettled'⟩ := h' hplain
  exact ⟨hmoves.trans hmoves', hplain, hsettled' ∘ hsettled⟩

theorem Runs.of_move (hm : Move a k k') (hplain : k.Plain → k'.Plain)
    (hsettled : k.Settled → k'.Settled) : Runs a k k' :=
  fun h => ⟨.single hm, hplain h, hsettled⟩

theorem Runs.transmit {s : Segment} (hs : k.Sendable s) :
    Runs a k { k with history := .transmitted s :: k.history } :=
  .of_move (.transmit s hs) id id

theorem sendable_control {flags : RdpFlags} {data : List UInt8} (hclosed : k.state ≠ .closed)
    (halive : k.alive) (hsyn : flags.syn = false)
    (heak : flags.eak → eackNumbers data = k.rx.map Segment.seqNr)
    (hdata : flags.rst ∨ flags.eak ∨ data = []) (pri : Fin 4) (seqNr : BitVec 16) :
    k.Sendable ⟨pri, flags, seqNr, k.cur, data⟩ where
  begun hst := absurd hst hclosed
  ack _ := ⟨hclosed, halive, .inl rfl⟩
  syn h := by
    rw [hsyn] at h
    cases h
  eak := heak
  carries h := by
    obtain ⟨-, hrst, hneak, hne⟩ := h
    obtain h | h | h := hdata
    · rw [hrst] at h
      cases h
    · rw [hneak] at h
      cases h
    · exact absurd h hne

end Core

namespace RdpConn
open UhfGs.Csp.Core

def core (c : RdpConn) (checked : Bool) : Core where
  history := c.history
  iss := c.sndIss
  nxt := c.sndNxt
  una := c.sndUna
  irs := c.rcvIrs
  cur := c.rcvCur
  window := c.windowSize
  tx := c.txQueue.map fun e => e.segment.kept
  rx := c.rxQueue
  state := c.state
  alive := c.conn.state = .opened
  checked := checked

variable {env : RdpEnv} {c : RdpConn} {ch : Bool} {a : Option Segment}

theorem core_conn {conn : Conn Segment} (hstate : conn.state = c.conn.state)
    (hrdp : conn.rdpState = c.conn.rdpState) (hrx : conn.rdpRx = c.conn.rdpRx) :
    { c with conn := conn }.core ch = c.core ch := by
  simp only [core, state, rxQueue, hstate, hrdp, hrx]

theorem cspConnEnqueuePacket_frame (conn : Conn Segment) (prio : Fin 4) (p : Option Segment) :
    (cspConnEnqueuePacket conn prio p).1.state = conn.state ∧
      (cspConnEnqueuePacket conn prio p).1.rdpState = conn.rdpState ∧
      (cspConnEnqueuePacket conn prio p).1.rdpRx = conn.rdpRx ∧
      (cspConnEnqueuePacket conn prio p).1.idout = conn.idout := by
  unfold cspConnEnqueuePacket Conn.pushRx Conn.pushEvent
  split
  · exact ⟨rfl, rfl, rfl, rfl⟩
  · rename_i conn' hpush
    split at hpush
    · obtain rfl := Option.some.inj hpush
      split <;> rename_i hevent
      · exact ⟨rfl, rfl, rfl, rfl⟩
      · split at hevent
        · obtain rfl := Option.some.inj hevent
          exact ⟨rfl, rfl, rfl, rfl⟩
        · cases hevent
    · cases hpush

theorem core_cspRdpReceiveData (s : Segment) :
    (c.cspRdpReceiveData env s).1.core ch = c.core ch := by
  unfold cspRdpReceiveData
  split
  · rfl
  · obtain ⟨hstate, hrdp, hrx, -⟩ :=
      cspConnEnqueuePacket_frame { c.conn with socket := false } s.pri (some s)
    exact core_conn hstate hrdp hrx

theorem conn_cspRdpSendCmp (env : RdpEnv) (c : RdpConn) (packet : Option (List UInt8))
    (flags : RdpFlags) (seqNr ackNr : BitVec 16) :
    (c.cspRdpSendCmp env packet flags seqNr ackNr).1.conn = c.conn := by
  have hkeep (s : Segment) : (c.enqueueTx env s).conn = c.conn := by
    unfold enqueueTx
    split
    · rfl
    · rfl
  simp only [cspRdpSendCmp, transmit, apply_ite Prod.fst, apply_ite RdpConn.conn, hkeep, ite_self]

theorem history_cspRdpSendCmp (env : RdpEnv) (c : RdpConn) (packet : Option (List UInt8))
    (flags : RdpFlags) (seqNr ackNr : BitVec 16) :
    (c.cspRdpSendCmp env packet flags seqNr ackNr).1.history = c.history ∨
      (c.cspRdpSendCmp env packet flags seqNr ackNr).1.history = .transmitted
        ⟨min c.conn.idout.pri 1, flags, seqNr, ackNr, packet.getD []⟩ :: c.history := by
  have hkeep (s : Segment) : (c.enqueueTx env s).history = c.history := by
    unfold enqueueTx
    split
    · rfl
    · rfl
  unfold cspRdpSendCmp
  split
  · exact .inl rfl
  dsimp only
  split
  · exact .inl rfl
  · have hbase : (if flags.syn then c.enqueueTx env
        ⟨min c.conn.idout.pri 1, flags, seqNr, ackNr, packet.getD []⟩ else c).history =
          c.history := by
      split
      · exact hkeep _
      · rfl
    split
    · refine .inr ?_
      simp only [apply_ite RdpConn.history, transmit, ite_self]
      rw [← apply_ite RdpConn.history, hbase]
    · exact .inl hbase

theorem core_cspRdpSendCmp (env : RdpEnv) (c : RdpConn) (ch : Bool) {flags : RdpFlags}
    (hsyn : flags.syn = false) (packet : Option (List UInt8)) (seqNr ackNr : BitVec 16) :
    (c.cspRdpSendCmp env packet flags seqNr ackNr).1.core ch = c.core ch ∨
      ∃ pri, (c.cspRdpSendCmp env packet flags seqNr ackNr).1.core ch =
        { c.core ch with
          history := .transmitted ⟨pri, flags, seqNr, ackNr, packet.getD []⟩ :: c.history } := by
  simp only [cspRdpSendCmp, hsyn]
  split
  · exact .inl rfl
  · simp only [Bool.false_eq_true, false_and, if_false]
    split
    · refine .inr ⟨min c.conn.idout.pri 1, ?_⟩
      split <;> rfl
    · exact .inl rfl

theorem runs_cspRdpSendCmp {flags : RdpFlags} (hsyn : flags.syn = false)
    {packet : Option (List UInt8)} {seqNr ackNr : BitVec 16}
    (hs : ∀ pri, (c.core ch).Sendable ⟨pri, flags, seqNr, ackNr, packet.getD []⟩) :
    Runs a (c.core ch) ((c.cspRdpSendCmp env packet flags seqNr ackNr).1.core ch) := by
  obtain hsame | ⟨pri, hsent⟩ := core_cspRdpSendCmp env c ch hsyn packet seqNr ackNr
  · rw [hsame]
    exact .refl _
  · rw [hsent]
    exact .transmit (hs pri)

theorem runs_cspRdpSendCmp_syn {flags : RdpFlags} (hsyn : flags.syn) (heak : flags.eak = false)
    {packet : Option (List UInt8)} {seqNr ackNr : BitVec 16}
    (hopening : (c.core ch).Opening ⟨flags, seqNr, packet.getD []⟩)
    (hack : flags.ack → (c.core ch).alive ∧ c.state = .synRcvd ∧
      (ackNr = c.rcvCur ∨ ackNr = c.rcvIrs)) :
    Runs a (c.core ch) ((c.cspRdpSendCmp env packet flags seqNr ackNr).1.core ch) := by
  have hclosed : c.state ≠ .closed := by
    have hstate := hopening.2.2
    change if flags.ack then c.state = .synRcvd else c.state = .synSent ∧ _ at hstate
    split at hstate
    · rw [hstate]
      decide
    · rw [hstate.1]
      decide
  have hkeep (s : Segment) (hs : (c.core ch).Opening s.kept) (hplain : s.flags.eak = false) :
      Runs a (c.core ch) ((c.enqueueTx env s).core ch) := by
    unfold enqueueTx
    split
    · have hcore : { c with txQueue := c.txQueue ++ [(⟨env.now, env.padding, s⟩ : TxElement)] }.core ch =
          { c.core ch with tx := (c.core ch).tx ++ [s.kept] } := by
        simp only [core, state, rxQueue, List.map_append, List.map_singleton]
      rw [hcore]
      refine .of_move (.keepSyn s.kept hs) (fun h e he => ?_) id
      obtain hold | hnew := List.mem_append.mp he
      · exact h e hold
      · rw [List.mem_singleton.mp hnew]
        exact hplain
    · exact .refl _
  have hsend (c' : RdpConn) (hc' : ∃ tx, c' = { c with txQueue := tx }) (pri : Fin 4) :
      (c'.core ch).Sendable ⟨pri, flags, seqNr, ackNr, packet.getD []⟩ := by
    obtain ⟨tx, rfl⟩ := hc'
    refine ⟨fun hst => absurd hst hclosed, fun h => ?_, fun _ => .inl hopening, fun h => ?_,
      fun h => ?_⟩
    · obtain ⟨halive, hst, heq⟩ := hack h
      exact ⟨hclosed, halive, heq.imp id fun heq => ⟨hst, heq⟩⟩
    · rw [heak] at h
      cases h
    · have hnot := h.1
      rw [hsyn] at hnot
      cases hnot
  have htx (s : Segment) : ∃ tx, c.enqueueTx env s = { c with txQueue := tx } := by
    unfold enqueueTx
    split
    · exact ⟨_, rfl⟩
    · exact ⟨_, rfl⟩
  simp only [cspRdpSendCmp, hsyn, if_true, true_and]
  split
  · exact .refl _
  split
  · exact .refl _
  have hkept := hkeep ⟨min c.conn.idout.pri 1, flags, seqNr, ackNr, packet.getD []⟩ hopening heak
  split
  · refine hkept.trans ?_
    refine Runs.trans (.transmit (hsend _ (htx _) (min c.conn.idout.pri 1))) ?_
    split
    · exact .refl _
    · exact .refl _
  · exact hkept

theorem runs_cspRdpSendEack (hclosed : c.state ≠ .closed) (halive : (c.core ch).alive) :
    Runs a (c.core ch) ((c.cspRdpSendEack env).core ch) := by
  unfold cspRdpSendEack
  split
  · refine runs_cspRdpSendCmp rfl fun pri => ?_
    exact sendable_control hclosed halive rfl (fun _ => eackNumbers_flatMap _) (.inr (.inl rfl)) _ _
  · exact .refl _

theorem runs_cspRdpCheckAck (hclosed : c.state ≠ .closed) (halive : (c.core ch).alive) :
    Runs a (c.core ch) ((c.cspRdpCheckAck env).core ch) := by
  unfold cspRdpCheckAck
  split
  · refine runs_cspRdpSendCmp rfl fun pri => ?_
    exact sendable_control hclosed halive rfl (fun h => by cases h) (.inr (.inr rfl)) _ _
  · exact .refl _

theorem runs_shut : Runs a (c.core ch)
    (({ c with conn := { c.conn with rdpState := .closed } }.shut).core ch) :=
  .of_move .shut (fun _ => nofun) fun _ => nofun

theorem runs_cspClose : Runs a (c.core ch) ((c.cspClose env).core ch) := by
  unfold cspClose
  split
  · exact .refl _
  · rename_i hopen
    have halive : (c.core ch).alive := by
      cases h : c.conn.state with
      | closed => exact absurd h hopen
      | opened => simp [core, h]
    have hclosing (h : c.state ≠ .closed) : Runs a (c.core ch)
        ((({ c with
          conn := { c.conn with rdpState := .closeWait }
          timestamp := env.now }.cspRdpSendCmp env none { ack := true, rst := true }
            c.sndNxt c.rcvCur).1).core ch) := by
      refine Runs.trans (.of_move (.closing h) id id) ?_
      refine runs_cspRdpSendCmp (c := { c with
        conn := { c.conn with rdpState := .closeWait }, timestamp := env.now }) rfl fun pri => ?_
      exact sendable_control (k := ({ c with
        conn := { c.conn with rdpState := .closeWait }
        timestamp := env.now } : RdpConn).core ch) (by simp [core, state]) halive rfl
        (fun h => by cases h) (.inl rfl) _ _
    unfold ConnTable.cspRdpClose
    cases hst : c.conn.rdpState with
    | closed =>
        have hsame : c.conn = { c.conn with rdpState := .closed } := by rw [← hst]
        simp only
        rw [hsame]
        exact runs_shut
    | closeWait => exact runs_shut
    | synSent => exact hclosing (by simp [state, hst])
    | synRcvd => exact hclosing (by simp [state, hst])
    | opened => exact hclosing (by simp [state, hst])

theorem state_cspRdpSendCmp (packet : Option (List UInt8)) (flags : RdpFlags)
    (seqNr ackNr : BitVec 16) :
    (c.cspRdpSendCmp env packet flags seqNr ackNr).1.state = c.state := by
  rw [state, conn_cspRdpSendCmp, state]

theorem not_active_cspClose (halive : (c.core ch).alive) : ¬ ((c.cspClose env).core ch).Active := by
  have hopen : ¬ c.conn.state = .closed := by
    intro h
    simp [core, h] at halive
  rintro ⟨hclosed, hwait⟩
  have hclosing (timestamp : BitVec 32) : (({ c with
      conn := { c.conn with rdpState := .closeWait }
      timestamp := timestamp }.cspRdpSendCmp env none { ack := true, rst := true }
        c.sndNxt c.rcvCur).1).state = .closeWait :=
    state_cspRdpSendCmp _ _ _ _
  rw [cspClose, if_neg hopen, ConnTable.cspRdpClose] at hclosed hwait
  cases hst : c.conn.rdpState <;> rw [hst] at hclosed hwait
  · exact hclosed hst
  · exact hwait (hclosing _)
  · exact hwait (hclosing _)
  · exact hwait (hclosing _)
  · exact hclosed rfl

theorem not_alive_cspClose (hst : c.state = .closed) : ((c.cspClose env).core ch).alive = false := by
  have hrdp : c.conn.rdpState = .closed := hst
  unfold cspClose
  split
  · rename_i hclosed
    simp [core, hclosed]
  · rw [ConnTable.cspRdpClose, hrdp]
    rfl

theorem resend_frame (env : RdpEnv) (rest : List TxElement) (k : Nat) (c : RdpConn) :
    (resend env k rest c).conn = c.conn ∧ (resend env k rest c).sndUna = c.sndUna := by
  induction rest generalizing k c with
  | nil => exact ⟨rfl, rfl⟩
  | cons e rest ih =>
      unfold resend
      split
      · exact ih _ _
      · split
        · obtain ⟨hconn, huna⟩ := ih (k + 1) _
          rw [hconn, huna]
          split
          · exact ⟨rfl, rfl⟩
          · exact ⟨rfl, rfl⟩
        · exact ih _ _

theorem resend_kept (env : RdpEnv) (rest : List TxElement) (k : Nat) (c : RdpConn)
    (h : ∀ e ∈ c.txQueue, before e.segment.seqNr c.sndUna = false) :
    ∀ e ∈ (resend env k rest c).txQueue, before e.segment.seqNr c.sndUna = false := by
  induction rest generalizing k c with
  | nil => exact h
  | cons e rest ih =>
      have hkeep (e' : TxElement) (he' : before e'.segment.seqNr c.sndUna = false) :
          ∀ x ∈ c.txQueue ++ [e'], before x.segment.seqNr c.sndUna = false := by
        intro x hx
        obtain hold | hnew := List.mem_append.mp hx
        · exact h x hold
        · rwa [List.mem_singleton.mp hnew]
      unfold resend
      split
      · exact ih _ _ h
      · rename_i hbefore
        rw [Bool.not_eq_true] at hbefore
        split
        · split
          · exact ih (k + 1) _ (hkeep _ hbefore)
          · exact ih (k + 1) _ (hkeep _ hbefore)
        · exact ih (k + 1) _ (hkeep _ hbefore)

theorem resend_history (env : RdpEnv) (rest : List TxElement) (k : Nat) (c : RdpConn) :
    c.history <:+ (resend env k rest c).history := by
  induction rest generalizing k c with
  | nil => exact List.suffix_rfl
  | cons e rest ih =>
      unfold resend
      split
      · exact ih _ _
      · split
        · refine List.IsSuffix.trans ?_ (ih (k + 1) _)
          split
          · exact List.suffix_cons _ _
          · exact List.suffix_rfl
        · exact ih (k + 1) { c with txQueue := c.txQueue ++ [e] }

theorem resend_transmits {env : RdpEnv} (hsent : ∀ k, env.resent k = true) {rest : List TxElement}
    {e : TxElement} (he : e ∈ rest) (k : Nat) (c : RdpConn)
    (hbefore : before e.segment.seqNr c.sndUna = false)
    (htime : before (e.timestamp + c.packetTimeout) env.now = true) :
    ∃ past, .transmitted ⟨c.conn.idout.pri, e.segment.flags, e.segment.seqNr, c.rcvCur,
      e.segment.data⟩ :: past <:+ (resend env k rest c).history ∧ c.history <:+ past := by
  induction rest generalizing k c with
  | nil => cases he
  | cons x rest ih =>
      unfold resend
      obtain rfl | he := List.mem_cons.mp he
      · rw [if_neg (by simp [hbefore]), if_pos htime]
        simp only [hsent, if_true]
        refine ⟨c.history, List.IsSuffix.trans ?_ (resend_history env rest (k + 1) _),
          List.suffix_rfl⟩
        exact List.suffix_rfl
      · split
        · exact ih he (k + 1) c hbefore htime
        · simp only [hsent, if_true]
          split
          · obtain ⟨past, hnew, hold⟩ := ih he (k + 1)
              { c.transmit { x.segment with pri := c.conn.idout.pri, ackNr := c.rcvCur } with
                txQueue := c.txQueue ++
                  [{ x with
                    timestamp := env.now, segment := { x.segment with ackNr := c.rcvCur } }] }
              hbefore htime
            exact ⟨past, hnew, (List.suffix_cons _ _).trans hold⟩
          · exact ih he (k + 1) { c with txQueue := c.txQueue ++ [x] } hbefore htime

theorem runs_resend (env : RdpEnv) (ch : Bool) (rest : List TxElement) (k : Nat) (c : RdpConn)
    (hactive : (c.core ch).Active)
    (halive : (c.core ch).alive) :
    Runs a ({ c with txQueue := c.txQueue ++ rest }.core ch) ((resend env k rest c).core ch) := by
  induction rest generalizing k c with
  | nil =>
      rw [List.append_nil]
      exact .refl _
  | cons e rest ih =>
      have hput (e' : TxElement) (he' : e'.segment.kept = e.segment.kept) (h : List RdpEvent) :
          Runs a (({ c with txQueue := c.txQueue ++ e :: rest, history := h } : RdpConn).core ch)
            (({ c with txQueue := c.txQueue ++ [e'] ++ rest, history := h } : RdpConn).core ch) := by
        have heq : ({ c with txQueue := c.txQueue ++ e :: rest, history := h } : RdpConn).core ch =
            ({ c with txQueue := c.txQueue ++ [e'] ++ rest, history := h } : RdpConn).core ch := by
          simp only [core, state, rxQueue, List.map_append, List.map_cons, he',
            List.append_assoc, List.singleton_append]
        rw [heq]
        exact .refl _
      unfold resend
      split
      · -- acknowledged: the element is freed
        rename_i hbefore
        have hsub : ((c.txQueue ++ rest).map fun e => e.segment.kept) ⊆
            (c.txQueue ++ e :: rest).map fun e => e.segment.kept :=
          (((List.sublist_cons_self e rest).append_left c.txQueue).map _).subset
        refine Runs.trans ?_ (ih (k + 1) c hactive halive)
        refine .of_move (.free _ hactive.1 (fun _ hx => hsub hx) fun x hx => ?_)
          (fun h x hx => h x (hsub hx)) id
        obtain ⟨y, hy, rfl⟩ := List.mem_map.mp hx
        obtain hy | hy := List.mem_append.mp hy
        · exact .inl (List.mem_map_of_mem (List.mem_append_left _ hy))
        · obtain rfl | hy := List.mem_cons.mp hy
          · exact .inr (.inl hbefore)
          · exact .inl (List.mem_map_of_mem (List.mem_append_right _ hy))
      · rename_i hbefore
        rw [Bool.not_eq_true] at hbefore
        split
        · have hmem : e.segment.kept ∈
              ({ c with txQueue := c.txQueue ++ e :: rest }.core ch).tx :=
            List.mem_map_of_mem (List.mem_append_right _ List.mem_cons_self)
          split
          · -- timed out: it is sent again and put back
            refine Runs.trans ?_ (ih (k + 1) _ hactive halive)
            refine Runs.trans ?_ (hput
              { e with timestamp := env.now, segment := { e.segment with ackNr := c.rcvCur } } rfl _)
            intro hplain
            have heak := hplain _ hmem
            refine Runs.transmit (s := { e.segment with
              pri := c.conn.idout.pri, ackNr := c.rcvCur }) ?_ hplain
            refine ⟨fun hst => absurd hst hactive.1, fun _ => ⟨hactive.1, halive, .inl rfl⟩,
              fun _ => .inr hmem, fun h => ?_, fun h => ⟨halive, .inr ⟨hactive, ?_⟩⟩⟩
            · rw [show e.segment.flags.eak = false from heak] at h
              cases h
            · exact ⟨_, hmem, h.1, rfl, rfl, hbefore⟩
          · refine Runs.trans ?_ (ih (k + 1) _ hactive halive)
            exact hput
              { e with timestamp := env.now, segment := { e.segment with ackNr := c.rcvCur } } rfl _
        · refine Runs.trans ?_ (ih (k + 1) _ hactive halive)
          exact hput e rfl _

theorem core_wakeUser (c : RdpConn) (ch : Bool) : c.wakeUser.core ch = c.core ch := by
  unfold wakeUser
  split
  · rfl
  · rfl

theorem history_wakeUser (c : RdpConn) : c.wakeUser.history = c.history := by
  unfold wakeUser
  split
  · rfl
  · rfl

theorem cspRdpCheckTimeouts_transmits {env : RdpEnv} (hsent : ∀ k, env.resent k = true)
    {e : TxElement} (he : e ∈ c.txQueue) (hbefore : before e.segment.seqNr c.sndUna = false)
    (htime : before (e.timestamp + c.packetTimeout) env.now = true)
    (hsocket : c.conn.socket = false) (hwait : c.state ≠ .closeWait) :
    ∃ past, .transmitted ⟨c.conn.idout.pri, e.segment.flags, e.segment.seqNr, c.rcvCur,
      e.segment.data⟩ :: past <:+ (c.cspRdpCheckTimeouts env).history ∧ c.history <:+ past := by
  have hack (d : RdpConn) : d.history <:+ (d.cspRdpCheckAck env).history := by
    unfold cspRdpCheckAck
    split
    · obtain hhistory | hhistory :=
        history_cspRdpSendCmp env d none { ack := true } d.sndNxt d.rcvCur
      · rw [hhistory]
      · rw [hhistory]
        exact List.suffix_cons _ _
    · exact List.suffix_rfl
  obtain ⟨past, hnew, hold⟩ := resend_transmits hsent he 0 { c with txQueue := [] } hbefore htime
  refine ⟨past, ?_, hold⟩
  rw [cspRdpCheckTimeouts, if_neg (by simp [hsocket]), if_neg hwait, history_wakeUser]
  exact hnew.trans (hack _)

theorem runs_cspRdpCheckTimeouts (hclosed : c.state ≠ .closed) (halive : (c.core ch).alive) :
    Runs a (c.core ch) ((c.cspRdpCheckTimeouts env).core true) := by
  have hswept {c' : RdpConn} (h : (c'.core ch).Active →
      ∀ e ∈ (c'.core ch).tx, before e.seqNr c'.sndUna = false) :
      Runs a (c'.core ch) (c'.core true) :=
    .of_move (.swept h) id id
  have hclose : Runs a (c.core ch) ((c.cspClose env).core true) := by
    exact runs_cspClose.trans (hswept fun hactive => absurd hactive (not_active_cspClose halive))
  unfold cspRdpCheckTimeouts
  split
  · exact hclose
  · split
    · rename_i hwait
      split
      · exact hclose
      · exact hswept fun hactive => absurd hwait hactive.2
    · rename_i hwait
      have hframe := resend_frame env c.txQueue 0 { c with txQueue := [] }
      have hkept := resend_kept env c.txQueue 0 { c with txQueue := [] } nofun
      have hrun := runs_resend (a := a) env ch c.txQueue 0 { c with txQueue := [] }
        ⟨hclosed, hwait⟩ halive
      rw [List.nil_append] at hrun
      generalize resend env 0 c.txQueue { c with txQueue := [] } = c' at *
      obtain ⟨hconn, huna⟩ := hframe
      rw [core_wakeUser]
      refine hrun.trans (Runs.trans (hswept fun _ e he => ?_) (runs_cspRdpCheckAck ?_ ?_))
      · obtain ⟨x, hx, rfl⟩ := List.mem_map.mp he
        rw [huna]
        exact hkept x hx
      · rw [state, hconn]
        exact hclosed
      · rw [core, hconn]
        exact halive

theorem segment_foldl_advance (env : RdpEnv) (c : RdpConn) (numbers : List (BitVec 16))
    (e : TxElement) : (numbers.foldl (c.advance env) e).segment = e.segment := by
  induction numbers generalizing e with
  | nil => rfl
  | cons q numbers ih =>
      rw [List.foldl_cons, ih, advance]
      split
      · rfl
      · rfl

theorem runs_cspRdpFlushEack {s : Segment} (hclosed : c.state ≠ .closed) (heak : s.flags.eak)
    (hack : s.flags.ack) :
    Runs (some s) (c.core ch) ((c.cspRdpFlushEack env s.data).core ch) := by
  have htx : ((c.cspRdpFlushEack env s.data).core ch).tx =
      (c.txQueue.filter fun e => e.segment.seqNr ∉ eackNumbers s.data).map
        fun e => e.segment.kept := by
    simp only [core, cspRdpFlushEack, List.map_map, Function.comp_def, segment_foldl_advance]
  have hcore : (c.cspRdpFlushEack env s.data).core ch = { c.core ch with
      tx := (c.txQueue.filter fun e => e.segment.seqNr ∉ eackNumbers s.data).map
        fun e => e.segment.kept } := by
    rw [← htx]
    rfl
  have hsub {e : Kept} (he : e ∈ (c.txQueue.filter fun e =>
      e.segment.seqNr ∉ eackNumbers s.data).map fun e => e.segment.kept) : e ∈ (c.core ch).tx :=
    (List.filter_sublist.map _).subset he
  rw [hcore]
  refine .of_move (.free _ hclosed (fun _ => hsub) fun e he => ?_) (fun h e he => h e (hsub he)) id
  obtain ⟨x, hx, rfl⟩ := List.mem_map.mp he
  by_cases hmem : x.segment.seqNr ∈ eackNumbers s.data
  · exact .inr (.inr ⟨s, rfl, heak, hack, hmem⟩)
  · exact .inl (List.mem_map_of_mem (List.mem_filter.mpr ⟨hx, by simpa using hmem⟩))

theorem core_passed {c' : RdpConn} {rx : List Segment} (h : c'.core ch = (c.withRx rx).core ch)
    (m : List UInt8) (queued : Bool) :
    { c' with rcvCur := c'.rcvCur + 1, history := .passed m queued :: c'.history }.core ch =
      { c.core ch with
        rx := rx, cur := c.rcvCur + 1, history := .passed m queued :: c.history } := by
  change { c'.core ch with
    cur := (c'.core ch).cur + 1, history := .passed m queued :: (c'.core ch).history } = _
  rw [h]
  rfl

theorem moves_release {count : Nat} {s : Segment} {rx : List Segment} (hopen : c.state = .opened)
    (hlen : c.rxQueue.length ≤ count + 1) (hseq : s.seqNr = c.rcvCur + 1)
    (hperm : c.rxQueue.Perm (s :: rx))
    (ih : ∀ c : RdpConn, c.state = .opened → c.rxQueue.length ≤ count →
      Moves a (c.core ch) ((rxQueueFlush env count c).core ch) ∧
        ((rxQueueFlush env count c).core ch).tx = (c.core ch).tx ∧
        ((rxQueueFlush env count c).core ch).Settled)
    (r : RdpConn × Bool) (hr : r.1.core ch = (c.withRx rx).core ch) :
    Moves a (c.core ch) ((rxQueueFlush env count { r.1 with
        rcvCur := r.1.rcvCur + 1, history := .passed s.data r.2 :: r.1.history }).core ch) ∧
      ((rxQueueFlush env count { r.1 with
        rcvCur := r.1.rcvCur + 1, history := .passed s.data r.2 :: r.1.history }).core ch).tx =
          (c.core ch).tx ∧
      ((rxQueueFlush env count { r.1 with
        rcvCur := r.1.rcvCur + 1,
        history := .passed s.data r.2 :: r.1.history }).core ch).Settled := by
  have hnext := core_passed hr s.data r.2
  have hrx : r.1.rxQueue = rx := congrArg Core.rx hr
  have hstate : r.1.state = c.state := congrArg Core.state hr
  have htx : (r.1.core ch).tx = (c.core ch).tx := (congrArg Core.tx hr).trans rfl
  have hsize := hperm.length_eq
  rw [List.length_cons, ← hrx] at hsize
  obtain ⟨hmoves, hkept, hsettled⟩ := ih { r.1 with
    rcvCur := r.1.rcvCur + 1, history := .passed s.data r.2 :: r.1.history }
    (hstate.trans hopen) (by
      change r.1.rxQueue.length ≤ count
      omega)
  refine ⟨Relation.ReflTransGen.trans (.single ?_) hmoves, hkept.trans htx, hsettled⟩
  rw [hnext]
  exact .release s rx r.2 hperm hopen hseq

/-- The flush passes on what is next, and stops when nothing is. -/
theorem moves_rxQueueFlush (env : RdpEnv) (ch : Bool) (count : Nat) (c : RdpConn)
    (hopen : c.state = .opened) (hlen : c.rxQueue.length ≤ count) :
    Moves a (c.core ch) ((rxQueueFlush env count c).core ch) ∧
      ((rxQueueFlush env count c).core ch).tx = (c.core ch).tx ∧
      ((rxQueueFlush env count c).core ch).Settled := by
  induction count generalizing c with
  | zero =>
      have hnil : c.rxQueue = [] := List.length_eq_zero_iff.mp (Nat.le_zero.mp hlen)
      refine ⟨.refl, rfl, ?_⟩
      change ∀ x ∈ c.rxQueue, _
      rw [hnil]
      nofun
  | succ count ih =>
      unfold rxQueueFlush
      split
      · rename_i hnil
        refine ⟨.refl, rfl, fun x hx => ?_⟩
        change x.seqNr ≠ c.rcvCur + 1
        simpa using List.dropWhile_eq_nil_iff.mp hnil x hx
      · rename_i s rest hfound
        have hseq : s.seqNr = c.rcvCur + 1 := by
          have hhead := List.head?_dropWhile_not (fun s => s.seqNr ≠ c.rcvCur + 1) c.rxQueue
          rw [hfound] at hhead
          simpa using hhead
        have hperm : c.rxQueue.Perm
            (s :: (rest ++ c.rxQueue.takeWhile fun s => s.seqNr ≠ c.rcvCur + 1)) := by
          conv_lhs => rw [← List.takeWhile_append_dropWhile (p := fun s => s.seqNr ≠ c.rcvCur + 1)
            (l := c.rxQueue), hfound]
          exact List.perm_middle.trans (List.perm_append_comm.cons s)
        exact moves_release hopen hlen hseq hperm ih _ (core_cspRdpReceiveData s)

theorem runs_cspRdpRxQueueAdd {s : Segment} (hopen : c.state = .opened) (hs : s.Carries)
    (hspan : between s.seqNr (c.rcvCur + 1) (c.rcvCur + c.reach)) (hseq : s.seqNr ≠ c.rcvCur + 1) :
    Runs (some s) (c.core ch) ((c.cspRdpRxQueueAdd s).1.core ch) := by
  unfold cspRdpRxQueueAdd
  split
  · rename_i x rest hfound
    have hperm : (rest ++ (c.rxQueue.takeWhile fun x => x.seqNr ≠ s.seqNr) ++ [x]).Perm
        c.rxQueue := by
      conv_rhs => rw [← List.takeWhile_append_dropWhile (p := fun x => x.seqNr ≠ s.seqNr)
        (l := c.rxQueue), hfound]
      rw [List.append_assoc]
      exact List.perm_append_comm.trans (by rw [List.append_assoc, List.singleton_append])
    exact .of_move (.turn _ hperm) id fun h y hy => h y (hperm.subset hy)
  · rename_i hnil
    split
    · refine .of_move (.hold s rfl hs hopen hspan fun x hx => ?_) id fun h x hx => ?_
      · simpa using List.dropWhile_eq_nil_iff.mp hnil x hx
      · obtain hold | hnew := List.mem_append.mp hx
        · exact h x hold
        · rw [List.mem_singleton.mp hnew]
          exact hseq
    · exact .refl _

theorem state_cspRdpCheckAck (env : RdpEnv) (c : RdpConn) :
    (c.cspRdpCheckAck env).state = c.state := by
  unfold cspRdpCheckAck
  split
  · exact state_cspRdpSendCmp _ _ _ _
  · rfl

theorem runs_pass {s : Segment} {c' : RdpConn} (hcore : c'.core ch = c.core ch)
    (hopen : c.state = .opened) (halive : (c.core ch).alive) (hs : s.Carries)
    (hseq : s.seqNr = c.rcvCur + 1) (hsettled : (c.core ch).Settled) :
    Runs (some s) (c.core ch) ((({ c' with
      rcvCur := s.seqNr, history := .passed s.data true :: c'.history }.cspRdpCheckAck
        env).cspRdpRxQueueFlush env).core ch) := by
  intro hplain
  have hnext : { c' with
      rcvCur := s.seqNr, history := .passed s.data true :: c'.history }.core ch =
        { c.core ch with cur := c.rcvCur + 1, history := .passed s.data true :: c.history } := by
    change { c'.core ch with
      cur := s.seqNr, history := .passed s.data true :: (c'.core ch).history } = _
    rw [hcore, hseq]
    rfl
  have hmove : Move (some s) (c.core ch) ({ c' with
      rcvCur := s.seqNr, history := .passed s.data true :: c'.history }.core ch) := by
    rw [hnext]
    exact .pass s true rfl hs hopen hseq hsettled
  have hplain' : ({ c' with
      rcvCur := s.seqNr, history := .passed s.data true :: c'.history }.core ch).Plain := by
    rw [hnext]
    exact hplain
  have hstate : ({ c' with
      rcvCur := s.seqNr, history := .passed s.data true :: c'.history } : RdpConn).state =
        .opened := by
    rw [← hopen]
    exact congrArg Core.state hcore
  have halive' : ({ c' with
      rcvCur := s.seqNr, history := .passed s.data true :: c'.history }.core ch).alive := by
    rw [hnext]
    exact halive
  generalize ({ c' with
    rcvCur := s.seqNr, history := .passed s.data true :: c'.history } : RdpConn) = d at *
  have hclosed : d.state ≠ .closed := by
    rw [hstate]
    decide
  obtain ⟨hack, hplain'', -⟩ := @runs_cspRdpCheckAck env d ch (some s) hclosed halive' hplain'
  obtain ⟨hflush, htx, hdone⟩ := moves_rxQueueFlush (a := some s) env ch _ (d.cspRdpCheckAck env)
    ((state_cspRdpCheckAck env d).trans hstate) (Nat.le_refl _)
  refine ⟨(Relation.ReflTransGen.single hmove).trans (hack.trans hflush), ?_, fun _ => hdone⟩
  intro e he
  rw [cspRdpRxQueueFlush, htx] at he
  exact hplain'' e he

theorem runs_receiveData {s : Segment} (hopen : c.state = .opened) (halive : (c.core ch).alive)
    (hack : s.flags.ack) (hsyn : s.flags.syn = false) (hrst : s.flags.rst = false)
    (hspan : between s.seqNr (c.rcvCur + 1) (c.rcvCur + c.reach))
    (hsettled : (c.core ch).Settled) :
    Runs (some s) (c.core ch) ((c.receiveData env s).core ch) := by
  have hclosed : c.state ≠ .closed := by
    rw [hopen]
    decide
  unfold receiveData
  split
  · rename_i heak
    split
    · exact .refl _
    · exact runs_cspRdpFlushEack hclosed heak hack
  · rename_i heak
    rw [Bool.not_eq_true] at heak
    split
    · exact .refl _
    · rename_i hdata
      have hs : s.Carries := ⟨hsyn, hrst, heak, hdata⟩
      split
      · rename_i hseq
        have hadd := @runs_cspRdpRxQueueAdd c ch s hopen hs hspan hseq
        have hconn : (c.cspRdpRxQueueAdd s).1.state = c.state ∧
            ((c.cspRdpRxQueueAdd s).1.core ch).alive = (c.core ch).alive := by
          unfold cspRdpRxQueueAdd
          split
          · exact ⟨rfl, rfl⟩
          · split
            · exact ⟨rfl, rfl⟩
            · exact ⟨rfl, rfl⟩
        split <;> rename_i hresult <;> rw [hresult] at hadd hconn
        · refine hadd.trans (runs_cspRdpSendEack ?_ ?_)
          · exact hconn.1 ▸ hclosed
          · exact hconn.2 ▸ halive
        · exact hadd
      · rename_i hseq
        rw [ne_eq, not_not] at hseq
        have hcore := @core_cspRdpReceiveData env c ch s
        split <;> rename_i hresult <;> rw [hresult] at hcore
        · exact runs_pass hcore hopen halive hs hseq hsettled
        · rw [hcore]
          exact .refl _

theorem runs_discardClose : Runs a (c.core ch) ((c.discardClose env).core ch) := by
  unfold discardClose
  split
  · exact runs_cspClose
  · obtain ⟨hstate, hrdp, hrx, -⟩ := cspConnEnqueuePacket_frame c.conn 3 none
    rw [core_conn hstate hrdp hrx]
    exact .refl _

theorem runs_unchecked : Runs a (c.core ch) (c.core false) := .of_move .unchecked id id

theorem runs_acked {s : Segment} (hack : s.flags.ack) :
    Runs (some s) (c.core true) ({ c with sndUna := s.ackNr + 1 }.core false) :=
  .of_move (.acked s rfl hack rfl) id id

theorem runs_receiveReset {s : Segment} (halive : (c.core true).alive) :
    Runs (some s) (c.core true) ((c.receiveReset env s).core false) := by
  have hrest (d : RdpConn) (halive : (d.core false).alive) : Runs (some s) (d.core false)
      ((if d.state = .closeWait ∨ d.state = .closed then d.cspClose env
        else if s.seqNr = d.rcvCur + 1 then
          (({ d.withState .closeWait with timestamp := env.now }.cspRdpSendCmp env none
            { ack := true, rst := true } d.sndNxt d.rcvCur).1).discardClose env
        else d).core false) := by
    split
    · exact runs_cspClose
    · rename_i hst
      split
      · refine Runs.trans (.of_move (.closing fun hclosed => hst (.inr hclosed)) id id) ?_
        refine Runs.trans (runs_cspRdpSendCmp (c := { d.withState .closeWait with
          timestamp := env.now }) rfl fun pri => ?_) runs_discardClose
        exact sendable_control (k := ({ d.withState .closeWait with
          timestamp := env.now } : RdpConn).core false) (by simp [core, state, withState]) halive
          rfl (fun h => by cases h) (.inl rfl) _ _
      · exact .refl _
  unfold receiveReset
  by_cases hack : s.flags.ack = true
  · simp only [hack, if_true]
    exact (runs_acked hack).trans (hrest { c with sndUna := s.ackNr + 1 } halive)
  · simp only [hack]
    exact runs_unchecked.trans (hrest c halive)

theorem runs_receiveClosed {s : Segment} (hst : c.state = .closed) (halive : (c.core ch).alive)
    (hsocket : c.conn.socket = true) (hempty : c.rxQueue = []) :
    Runs (some s) (c.core ch) ((c.receiveClosed env s).core ch) := by
  have hopen : ¬ c.conn.state = .closed := by
    intro h
    simp [core, h] at halive
  unfold receiveClosed
  split
  · rename_i hsyn
    refine Runs.trans (.of_move (.accept s env.rand rfl hsyn hst halive) id fun _ => ?_) ?_
    · change ∀ x ∈ c.rxQueue, _
      rw [hempty]
      exact List.forall_mem_nil _
    · refine runs_cspRdpSendCmp_syn (c := { c.withState .synRcvd with
        sndIss := env.rand
        sndNxt := env.rand + 1
        sndUna := env.rand
        rcvCur := s.seqNr
        rcvIrs := s.seqNr
        rcvLsa := s.seqNr
        windowSize := data32 s.data 0
        connTimeout := data32 s.data 1
        packetTimeout := data32 s.data 2
        delayedAcks := data32 s.data 3
        ackTimeout := data32 s.data 4
        ackDelayCount := data32 s.data 5
        history := .synchronised :: c.history }) rfl rfl ⟨rfl, rfl, ?_⟩ fun _ => ?_
      · exact rfl
      · exact ⟨halive, rfl, .inl rfl⟩
  · -- the answer goes out before the connection is closed, but it could as well come after
    have hshut (d : RdpConn) (hd : d.conn = c.conn) :
        (d.discardClose env).core ch = { d.core ch with
          state := .closed, alive := false, tx := [], rx := [] } := by
      have hclosed : c.conn.rdpState = .closed := hst
      rw [discardClose, hd, if_pos hsocket, cspClose, hd, if_neg hopen, ConnTable.cspRdpClose,
        hclosed]
      simp only [core, shut, state, rxQueue, Conn.flushRxQueue, hclosed]
      rfl
    rw [hshut _ (conn_cspRdpSendCmp env c none { rst := true } c.sndNxt c.rcvCur)]
    have hempty : ({ c.core ch with
        state := .closed, alive := false, tx := [], rx := [] } : Core).Plain :=
      List.forall_mem_nil _
    have hnone : ({ c.core ch with
        state := .closed, alive := false, tx := [], rx := [] } : Core).Settled :=
      List.forall_mem_nil _
    refine Runs.trans (.of_move .shut (fun _ => hempty) fun _ => hnone) ?_
    obtain hcore | ⟨pri, hcore⟩ :=
      @core_cspRdpSendCmp env c ch { rst := true } rfl none c.sndNxt c.rcvCur
    · rw [hcore]
      exact .refl _
    · rw [hcore]
      refine .transmit ⟨fun _ => rfl, ?_, ?_, ?_, fun h => ?_⟩
      · simp
      · simp
      · simp
      · cases h.2.1

theorem runs_receiveSynSent {s : Segment} (hst : c.state = .synSent) (halive : (c.core true).alive)
    (hempty : c.rxQueue = []) :
    Runs (some s) (c.core true) ((c.receiveSynSent env s).core false) := by
  have hclosed : c.state ≠ .closed := by
    rw [hst]
    decide
  unfold receiveSynSent
  split
  · rename_i hflags
    refine Runs.trans (.of_move (.connect s rfl hflags.1 hflags.2 hst halive rfl) id fun _ => ?_) ?_
    · change ∀ x ∈ c.rxQueue, _
      rw [hempty]
      nofun
    · have hack (d : RdpConn) (hopen : d.state = .opened) (halive : (d.core false).alive) :
          Runs (some s) (d.core false) ((if d.delayedAcks = 0 then
            (d.cspRdpSendCmp env none { ack := true } d.sndNxt d.rcvCur).1 else d).core false) := by
        split
        · refine runs_cspRdpSendCmp rfl fun pri => ?_
          refine sendable_control ?_ halive rfl (fun h => by cases h) (.inr (.inr rfl)) _ _
          change d.state ≠ .closed
          rw [hopen]
          decide
        · exact .refl _
      exact hack { c.withState .opened with
        rcvCur := s.seqNr
        rcvIrs := s.seqNr
        rcvLsa := s.seqNr - 1
        sndUna := s.ackNr + 1
        ackTimestamp := env.now
        history := .synchronised :: c.history } rfl halive
  · split
    · refine Runs.trans (runs_cspRdpSendCmp rfl fun pri => ?_) runs_unchecked
      exact sendable_control hclosed halive rfl (fun h => by cases h) (.inl rfl) _ _
    · exact Runs.trans runs_discardClose runs_unchecked

theorem runs_receiveOpen {s : Segment} (hst : c.state = .synRcvd ∨ c.state = .opened)
    (halive : (c.core true).alive) (hrst : s.flags.rst = false)
    (hsettled : (c.core true).Settled) :
    Runs (some s) (c.core true) ((c.receiveOpen env s).core false) := by
  have hclosed : c.state ≠ .closed := by
    obtain hst | hst := hst <;> rw [hst] <;> decide
  unfold receiveOpen
  split
  · split
    · exact Runs.trans runs_discardClose runs_unchecked
    · exact runs_unchecked
  rename_i hflags
  rw [not_or, Bool.not_eq_true, Bool.not_eq_true', Bool.not_eq_false] at hflags
  obtain ⟨hsyn, hack⟩ := hflags
  split
  · split
    · rename_i hrcvd
      have hopening : (c.core true).Opening ⟨{ ack := true, syn := true }, c.sndIss, []⟩ :=
        ⟨rfl, rfl, hrcvd⟩
      have hanswer : Runs (some s) (c.core true)
          ((c.cspRdpSendCmp env none { ack := true, syn := true } c.sndIss c.rcvIrs).1.core true) :=
        runs_cspRdpSendCmp_syn rfl rfl hopening fun _ => ⟨halive, hrcvd, .inr rfl⟩
      exact hanswer.trans runs_unchecked
    · exact (runs_cspRdpSendEack hclosed halive).trans runs_unchecked
  rename_i hspan
  rw [Bool.not_eq_true', Bool.not_eq_false] at hspan
  split
  · exact runs_unchecked
  split
  · exact Runs.trans runs_discardClose runs_unchecked
  rename_i hwrong
  refine Runs.trans (runs_acked hack) ?_
  have hopened : Runs (some s) ({ c with sndUna := s.ackNr + 1 }.core false)
      ({ c.withState .opened with sndUna := s.ackNr + 1 }.core false) := by
    obtain hst | hst := hst
    · have hiss : s.ackNr = c.sndIss := by
        by_contra hne
        exact hwrong ⟨hst, hne⟩
      refine .of_move (.opened hst ?_) id id
      change s.ackNr + 1 = c.sndIss + 1
      rw [hiss]
    · have hsame : ({ c.withState .opened with sndUna := s.ackNr + 1 } : RdpConn).core false =
          { c with sndUna := s.ackNr + 1 }.core false := by
        simp only [core, withState, state, rxQueue, ← hst]
      rw [hsame]
      exact .refl _
  exact hopened.trans (runs_receiveData (c := { c.withState .opened with sndUna := s.ackNr + 1 })
    rfl halive hack hsyn hrst hspan hsettled)

theorem runs_receiveCloseWait {s : Segment} (hclosed : c.state ≠ .closed)
    (halive : (c.core true).alive) :
    Runs (some s) (c.core true) ((c.receiveCloseWait env s).core false) := by
  unfold receiveCloseWait
  split
  · exact runs_unchecked
  rename_i hflags
  rw [not_or, Bool.not_eq_true, Bool.not_eq_true', Bool.not_eq_false] at hflags
  split
  · exact runs_unchecked
  refine Runs.trans (runs_acked hflags.2) ?_
  have hanswer (d : RdpConn) (hclosed : d.state ≠ .closed) (halive : (d.core false).alive) :
      Runs (some s) (d.core false)
        ((d.cspRdpSendCmp env none { ack := true, rst := true } d.sndNxt d.rcvCur).1.core false) :=
    runs_cspRdpSendCmp rfl fun _ =>
      sendable_control hclosed halive rfl (fun h => by cases h) (.inl rfl) _ _
  exact hanswer { c with sndUna := s.ackNr + 1 } hclosed halive

theorem runs_cspRdpNewPacket {s : Segment} (halive : (c.core true).alive)
    (hsocket : c.state = .closed → c.conn.socket = true)
    (hempty : c.state = .closed ∨ c.state = .synSent → c.rxQueue = [])
    (hsettled : (c.core true).Settled) :
    Runs (some s) (c.core true) ((c.cspRdpNewPacket env s).core false) := by
  unfold cspRdpNewPacket
  split
  · exact runs_receiveReset halive
  · rename_i hrst
    rw [Bool.not_eq_true] at hrst
    split <;> rename_i hst
    · exact (runs_receiveClosed hst halive (hsocket hst) (hempty (.inl hst))).trans runs_unchecked
    · exact runs_receiveSynSent hst halive (hempty (.inr hst))
    · exact runs_receiveOpen (.inl hst) halive hrst hsettled
    · exact runs_receiveOpen (.inr hst) halive hrst hsettled
    · refine runs_receiveCloseWait ?_ halive
      rw [hst]
      decide

theorem begun_cspRdpNewPacket {s : Segment} (hst : c.state = .closed)
    (hsocket : c.conn.socket = true) (halive : ((c.cspRdpNewPacket env s).core ch).alive) :
    (c.cspRdpNewPacket env s).state ≠ .closed := by
  revert halive
  unfold cspRdpNewPacket
  split
  · have hreset (d : RdpConn) (hd : d.state = .closed) :
        ((if d.state = .closeWait ∨ d.state = .closed then d.cspClose env
          else if s.seqNr = d.rcvCur + 1 then
            (({ d.withState .closeWait with timestamp := env.now }.cspRdpSendCmp env none
              { ack := true, rst := true } d.sndNxt d.rcvCur).1).discardClose env
          else d).core ch).alive = false := by
      rw [if_pos (.inr hd)]
      exact not_alive_cspClose hd
    intro halive
    have hdead : ((c.receiveReset env s).core ch).alive = false := by
      unfold receiveReset
      by_cases hack : s.flags.ack = true
      · simp only [hack, if_true]
        exact hreset { c with sndUna := s.ackNr + 1 } hst
      · simp only [hack]
        exact hreset c hst
    rw [hdead] at halive
    cases halive
  · rw [hst]
    simp only
    unfold receiveClosed
    split
    · intro _
      rw [state_cspRdpSendCmp]
      nofun
    · have hconn := conn_cspRdpSendCmp env c none { rst := true } c.sndNxt c.rcvCur
      rw [discardClose, hconn, if_pos hsocket, not_alive_cspClose]
      · nofun
      · rwa [state, hconn]

theorem data32_bytes (o : RdpOptions) : data32 o.bytes 0 = o.windowSize := by
  have htake : (o.bytes.drop (4 * 0)).take 4 = Bytes.beBytes o.windowSize.toNat := by
    rfl
  rw [data32, htake, Bytes.beWord_beBytes o.windowSize.isLt]
  rw [BitVec.ofNat_toNat, BitVec.setWidth_eq]

theorem runs_cspRdpConnect (o : RdpOptions) :
    Runs a ((c.calling env o).core ch) ((c.cspRdpConnect env o).1.core ch) := by
  have hsyn : Runs a ((c.calling env o).core ch)
      (((c.calling env o).cspRdpSendSyn env o).1.core ch) := by
    unfold cspRdpSendSyn
    split
    · exact runs_cspRdpSendCmp_syn rfl rfl ⟨rfl, rfl, rfl, data32_bytes o⟩ nofun
    · exact .refl _
  have hstate : ((c.calling env o).cspRdpSendSyn env o).1.state = .synSent := by
    unfold cspRdpSendSyn
    split
    · exact state_cspRdpSendCmp _ _ _ _
    · rfl
  unfold cspRdpConnect callOut
  split <;> rename_i hresult <;> rw [hresult] at hsyn hstate
  · exact hsyn
  · refine hsyn.trans (.of_move (.closing ?_) id id)
    rw [core, hstate]
    nofun

theorem runs_cspSend (message : List UInt8) :
    Runs a (c.core ch) ((c.cspSend env message).1.core ch) := by
  unfold cspSend
  split
  · exact .refl _
  rename_i hready
  rw [not_or, ne_eq, not_not] at hready
  obtain ⟨hconn, hopen⟩ := hready
  have halive : (c.core ch).alive := by
    cases h : c.conn.state with
    | closed => exact absurd h hconn
    | opened => simp [core, h]
  split
  · exact .refl _
  rename_i hwindow
  split
  · exact .refl _
  split
  · exact .refl _
  have htake : Runs a (c.core ch) ({ c with
      txQueue := c.txQueue ++
        [(⟨env.now, 0, ⟨c.conn.idout.pri, { ack := true }, c.sndNxt, c.rcvCur, message⟩⟩ :
          TxElement)]
      sndNxt := c.sndNxt + 1
      history := .taken message :: c.history }.core ch) := by
    have hcore : ({ c with
        txQueue := c.txQueue ++
          [(⟨env.now, 0, ⟨c.conn.idout.pri, { ack := true }, c.sndNxt, c.rcvCur, message⟩⟩ :
            TxElement)]
        sndNxt := c.sndNxt + 1
        history := .taken message :: c.history } : RdpConn).core ch = { c.core ch with
          history := .taken message :: (c.core ch).history
          nxt := (c.core ch).nxt + 1
          tx := (c.core ch).tx ++ [⟨{ ack := true }, (c.core ch).nxt, message⟩] } := by
      simp only [core, state, rxQueue, List.map_append, List.map_singleton, Segment.kept]
    rw [hcore]
    refine .of_move (.take message hopen halive (Bool.eq_false_iff.mpr hwindow)) (fun h e he => ?_) id
    obtain hold | hnew := List.mem_append.mp he
    · exact h e hold
    · rw [List.mem_singleton.mp hnew]
  refine Runs.trans htake ?_
  split
  · refine .transmit ⟨fun hst => ?_, fun _ => ⟨?_, halive, .inl rfl⟩, nofun, nofun,
      fun _ => ⟨halive, .inl ⟨hopen, ?_, ?_⟩⟩⟩
    · change c.state = .closed at hst
      rw [hopen] at hst
      cases hst
    · change c.state ≠ .closed
      rw [hopen]
      decide
    · exact (BitVec.add_sub_cancel _ _).symm
    · change (taken (.taken message :: c.history)).getLast? = some message
      rw [taken_taken, List.getLast?_concat]
  · exact .refl _

theorem runs_cspRead (hclosed : c.state ≠ .closed) :
    Runs a (c.core ch) ((c.cspRead env).1.core ch) := by
  unfold cspRead
  split
  · exact .refl _
  rename_i hready
  have halive : (c.core ch).alive := by
    cases h : c.conn.state with
    | closed => exact absurd (.inl h) hready
    | opened => simp [core, h]
  split
  · rename_i packet conn hpop
    obtain ⟨prio, rest, -, rfl⟩ := Conn.popRx_some hpop
    exact runs_cspRdpCheckAck (c := { c with conn := { c.conn with
      rxQueue := Function.update c.conn.rxQueue prio rest, rxEvent := c.conn.rxEvent - 1 } })
      hclosed halive
  · exact runs_cspRdpCheckAck
      (c := { c with conn := { c.conn with rxEvent := c.conn.rxEvent - 1 } }) hclosed halive

end RdpConn
end UhfGs.Csp
