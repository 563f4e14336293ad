import Mathlib.Algebra.BigOperators.Fin
import UhfGs.Csp.RdpRefine

/-! How the messages that a connection passes on get to its user, who reads them one by one. -/
namespace UhfGs.Csp
open Serial

def posted (h : List RdpEvent) : List (List UInt8) := ((passed h).filter Prod.snd).map Prod.fst

@[simp] theorem posted_taken (m : List UInt8) (h : List RdpEvent) :
    posted (.taken m :: h) = posted h := rfl

@[simp] theorem posted_transmitted (s : Segment) (h : List RdpEvent) :
    posted (.transmitted s :: h) = posted h := rfl

@[simp] theorem posted_synchronised (h : List RdpEvent) :
    posted (.synchronised :: h) = posted h := rfl

@[simp] theorem posted_passed (m : List UInt8) (queued : Bool) (h : List RdpEvent) :
    posted (.passed m queued :: h) = posted h ++ if queued then [m] else [] := by
  cases queued <;> simp [posted]

theorem sum_length_update {α : Type} (q : Fin 4 → List α) (prio : Fin 4) (l : List α) :
    ∑ i, (Function.update q prio l i).length + (q prio).length = ∑ i, (q i).length + l.length := by
  have hnew := Finset.add_sum_erase Finset.univ (fun i => (Function.update q prio l i).length)
    (Finset.mem_univ prio)
  have hold := Finset.add_sum_erase Finset.univ (fun i => (q i).length) (Finset.mem_univ prio)
  have hrest : ∑ i ∈ Finset.univ.erase prio, (Function.update q prio l i).length =
      ∑ i ∈ Finset.univ.erase prio, (q i).length :=
    Finset.sum_congr rfl fun i hi => by rw [Function.update_of_ne (Finset.ne_of_mem_erase hi)]
  rw [Function.update_self] at hnew
  omega

structure Tallied (c : Conn Segment) : Prop where
  events : c.rxEvent = ∑ prio, (c.rxQueue prio).length
  room : ∀ prio, (c.rxQueue prio).length ≤ 25

theorem Tallied.enqueue {c : Conn Segment} (h : Tallied c) (prio : Fin 4) (packet : Option Segment) :
    Tallied (cspConnEnqueuePacket c prio packet).1 ∧
      (cspConnEnqueuePacket c prio packet).1.rxQueue =
        if (cspConnEnqueuePacket c prio packet).2 then
          Function.update c.rxQueue prio (c.rxQueue prio ++ [packet])
        else c.rxQueue := by
  unfold cspConnEnqueuePacket Conn.pushRx
  by_cases hroom : (c.rxQueue prio).length < 25
  · have hsum := sum_length_update c.rxQueue prio (c.rxQueue prio ++ [packet])
    rw [List.length_append, List.length_singleton, ← h.events] at hsum
    have hlen (q : Fin 4) :
        ((Function.update c.rxQueue prio (c.rxQueue prio ++ [packet])) q).length ≤ 25 := by
      by_cases hq : q = prio
      · subst hq
        rw [Function.update_self, List.length_append, List.length_singleton]
        exact hroom
      · rw [Function.update_of_ne hq]
        exact h.room q
    have hevent : c.rxEvent < 100 := by
      have h0 := hlen 0
      have h1 := hlen 1
      have h2 := hlen 2
      have h3 := hlen 3
      rw [Fin.sum_univ_four] at hsum
      omega
    simp only [hroom, if_true, Conn.pushEvent, hevent, and_true]
    refine ⟨?_, hlen⟩
    dsimp only
    omega
  · simp only [hroom, if_false, Bool.false_eq_true, and_true]
    exact h

namespace RdpConn

def waiting (p : Fin 4) (c : RdpConn) : List (List UInt8) :=
  ((c.conn.rxQueue p).filterMap id).map Segment.data

/-- All messages for the user have one priority. -/
structure Inbox (p : Fin 4) (c : RdpConn) : Prop where
  tallied : Tallied c.conn
  queues : ∀ prio, prio ≠ p → ∀ x ∈ c.conn.rxQueue prio, x = none
  held : ∀ s ∈ c.rxQueue, s.pri = p

/-- Messages go out with the priority of the connection. -/
def Steady (c : RdpConn) : Prop := Logged (fun s _ => s.Carries → s.pri = c.conn.idout.pri) c.history

/-- What every call but `csp_read` does for the user. -/
structure Serves (p : Fin 4) (c c' : RdpConn) : Prop where
  inbox : c.Inbox p → c'.Inbox p ∧ ∃ new, posted c'.history = posted c.history ++ new ∧
    (c'.conn.state = .opened → c.conn.state = .opened ∧ c'.waiting p = c.waiting p ++ new)
  idout : c'.conn.idout = c.conn.idout
  steady : c.Steady → c'.Steady

variable {p : Fin 4} {env : RdpEnv} {c c' c'' : RdpConn}

theorem Serves.refl (p : Fin 4) (c : RdpConn) : Serves p c c where
  inbox h := ⟨h, [], (List.append_nil _).symm, fun hst => ⟨hst, (List.append_nil _).symm⟩⟩
  idout := rfl
  steady := id

theorem Serves.trans (h : Serves p c c') (h' : Serves p c' c'') : Serves p c c'' where
  inbox hin := by
    obtain ⟨hin, new, hposted, hwaiting⟩ := h.inbox hin
    obtain ⟨hin, new', hposted', hwaiting'⟩ := h'.inbox hin
    refine ⟨hin, new ++ new', ?_, fun hst => ?_⟩
    · rw [hposted', hposted, List.append_assoc]
    · obtain ⟨hst, heq'⟩ := hwaiting' hst
      obtain ⟨hst, heq⟩ := hwaiting hst
      exact ⟨hst, by rw [heq', heq, List.append_assoc]⟩
  idout := h'.idout.trans h.idout
  steady := h'.steady ∘ h.steady

theorem Serves.of_same (hqueue : c'.conn.rxQueue = c.conn.rxQueue)
    (hevent : c'.conn.rxEvent = c.conn.rxEvent) (hstate : c'.conn.state = c.conn.state)
    (hheld : ∀ s ∈ c'.rxQueue, s ∈ c.rxQueue) (hidout : c'.conn.idout = c.conn.idout)
    (hposted : posted c'.history = posted c.history) (hsteady : c.Steady → c'.Steady) :
    Serves p c c' where
  inbox h := by
    refine ⟨⟨⟨?_, ?_⟩, ?_, fun s hs => h.held s (hheld s hs)⟩, [], ?_, fun hst => ⟨?_, ?_⟩⟩
    · rw [hevent, hqueue]
      exact h.tallied.events
    · rw [hqueue]
      exact h.tallied.room
    · rw [hqueue]
      exact h.queues
    · rw [hposted, List.append_nil]
    · rwa [← hstate]
    · rw [waiting, hqueue, List.append_nil, waiting]
  idout := hidout
  steady := hsteady

theorem serves_cspRdpSendCmp {packet : Option (List UInt8)} {flags : RdpFlags}
    (hcontrol : flags.syn ∨ flags.rst ∨ flags.eak ∨ packet.getD [] = []) (seqNr ackNr : BitVec 16) :
    Serves p c (c.cspRdpSendCmp env packet flags seqNr ackNr).1 := by
  have hconn := conn_cspRdpSendCmp env c packet flags seqNr ackNr
  have hhistory := history_cspRdpSendCmp env c packet flags seqNr ackNr
  generalize (c.cspRdpSendCmp env packet flags seqNr ackNr).1 = d at *
  have hheld : d.rxQueue = c.rxQueue := by
    rw [rxQueue, hconn, rxQueue]
  refine .of_same (by rw [hconn]) (by rw [hconn]) (by rw [hconn]) (fun s hs => hheld ▸ hs)
    (by rw [hconn]) ?_ fun h => ?_
  · obtain hhistory | hhistory := hhistory
    · rw [hhistory]
    · rw [hhistory, posted_transmitted]
  · rw [Steady, hconn]
    obtain hhistory | hhistory := hhistory
    · rw [hhistory]
      exact h
    · rw [hhistory]
      refine Logged.transmit h fun hs => ?_
      obtain ⟨hsyn, hrst, heak, hdata⟩ := hs
      obtain hflag | hflag | hflag | hempty := hcontrol
      · exact absurd hsyn (by simp [hflag])
      · exact absurd hrst (by simp [hflag])
      · exact absurd heak (by simp [hflag])
      · exact absurd hempty hdata

theorem serves_cspRdpSendEack : Serves p c (c.cspRdpSendEack env) := by
  unfold cspRdpSendEack
  split
  · exact serves_cspRdpSendCmp (.inr (.inr (.inl rfl))) _ _
  · exact .refl p c

theorem serves_cspRdpCheckAck : Serves p c (c.cspRdpCheckAck env) := by
  unfold cspRdpCheckAck
  split
  · exact serves_cspRdpSendCmp (.inr (.inr (.inr rfl))) _ _
  · exact .refl p c

theorem serves_shut : Serves p c c.shut where
  inbox h := by
    refine ⟨⟨⟨?_, ?_⟩, ?_, nofun⟩, [], (List.append_nil _).symm, nofun⟩
    · exact Finset.sum_const_zero.symm
    · exact fun _ => Nat.zero_le 25
    · exact fun _ _ => nofun
  idout := rfl
  steady := id

theorem serves_rdpState (st : RdpState) (timestamp : BitVec 32) :
    Serves p c { c with conn := { c.conn with rdpState := st }, timestamp := timestamp } :=
  .of_same rfl rfl rfl (fun _ => id) rfl rfl id

theorem serves_cspClose : Serves p c (c.cspClose env) := by
  unfold cspClose
  split
  · exact .refl p c
  · have hreset (d : RdpConn) : Serves p d
        (d.cspRdpSendCmp env none { ack := true, rst := true } d.sndNxt d.rcvCur).1 :=
      serves_cspRdpSendCmp (.inr (.inl rfl)) _ _
    have hclosing := (serves_rdpState (p := p) RdpState.closeWait env.now).trans (hreset { c with
      conn := { c.conn with rdpState := .closeWait }, timestamp := env.now })
    unfold ConnTable.cspRdpClose
    cases hst : c.conn.rdpState with
    | closed => exact serves_shut
    | closeWait => exact (serves_rdpState .closed c.timestamp).trans serves_shut
    | synSent => exact hclosing
    | synRcvd => exact hclosing
    | opened => exact hclosing

theorem Inbox.enqueue (h : c.Inbox p) {prio : Fin 4} {packet : Option Segment}
    (hp : packet = none ∨ prio = p) :
    { c with conn := (cspConnEnqueuePacket c.conn prio packet).1 }.Inbox p ∧
      { c with conn := (cspConnEnqueuePacket c.conn prio packet).1 }.waiting p = c.waiting p ++
        if (cspConnEnqueuePacket c.conn prio packet).2 then (packet.map Segment.data).toList
        else [] := by
  obtain ⟨htallied, hqueue⟩ := h.tallied.enqueue prio packet
  obtain ⟨-, -, hrx, -⟩ := cspConnEnqueuePacket_frame c.conn prio packet
  generalize cspConnEnqueuePacket c.conn prio packet = r at *
  have hheld : ∀ s ∈ r.1.rdpRx, s.pri = p := by
    rw [hrx]
    exact h.held
  cases hq : r.2 with
  | false =>
      rw [hq, if_neg Bool.false_ne_true] at hqueue
      refine ⟨⟨htallied, ?_, hheld⟩, ?_⟩
      · rw [hqueue]
        exact h.queues
      · rw [waiting, hqueue, if_neg Bool.false_ne_true, List.append_nil, waiting]
  | true =>
      rw [hq, if_pos rfl] at hqueue
      refine ⟨⟨htallied, fun q hne x hx => ?_, hheld⟩, ?_⟩
      · dsimp only at hx
        rw [hqueue] at hx
        by_cases hprio : q = prio
        · subst hprio
          rw [Function.update_self, List.mem_append, List.mem_singleton] at hx
          obtain hold | rfl := hx
          · exact h.queues q hne x hold
          · exact hp.resolve_right hne
        · rw [Function.update_of_ne hprio] at hx
          exact h.queues q hne x hx
      · rw [waiting, hqueue, if_pos rfl, waiting]
        by_cases hprio : prio = p
        · subst hprio
          rw [Function.update_self, List.filterMap_append, List.map_append]
          cases packet with
          | none => rfl
          | some s => rfl
        · rw [Function.update_of_ne (Ne.symm hprio), hp.resolve_right hprio]
          exact (List.append_nil _).symm

theorem serves_discardClose : Serves p c (c.discardClose env) := by
  unfold discardClose
  split
  · exact serves_cspClose
  · obtain ⟨hstate, -, -, hidout⟩ := cspConnEnqueuePacket_frame c.conn 3 none
    refine ⟨fun h => ?_, hidout, fun h => ?_⟩
    · obtain ⟨hin, hwaiting⟩ := h.enqueue (.inl rfl)
      refine ⟨hin, [], (List.append_nil _).symm, fun hst => ⟨hstate ▸ hst, ?_⟩⟩
      rw [hwaiting]
      split
      · rfl
      · rfl
    · rw [Steady]
      dsimp only
      rw [hidout]
      exact h

theorem cspRdpReceiveData_frame (env : RdpEnv) (c : RdpConn) (s : Segment) :
    (c.cspRdpReceiveData env s).1.conn.state = c.conn.state ∧
      (c.cspRdpReceiveData env s).1.conn.idout = c.conn.idout ∧
      (c.cspRdpReceiveData env s).1.history = c.history := by
  unfold cspRdpReceiveData
  split
  · exact ⟨rfl, rfl, rfl⟩
  · obtain ⟨hstate, -, -, hidout⟩ :=
      cspConnEnqueuePacket_frame { c.conn with socket := false } s.pri (some s)
    exact ⟨hstate, hidout, rfl⟩

theorem Inbox.receive (h : c.Inbox p) {s : Segment} (hs : s.pri = p) (env : RdpEnv) :
    (c.cspRdpReceiveData env s).1.Inbox p ∧
      (c.cspRdpReceiveData env s).1.waiting p =
        c.waiting p ++ if (c.cspRdpReceiveData env s).2 then [s.data] else [] := by
  unfold cspRdpReceiveData
  split
  · exact ⟨h, (List.append_nil _).symm⟩
  · have hin : { c with conn := { c.conn with socket := false } }.Inbox p :=
      ⟨⟨h.tallied.events, h.tallied.room⟩, h.queues, h.held⟩
    exact hin.enqueue (.inr hs)

theorem serves_pass {s : Segment} (hs : s.pri = p) (env : RdpEnv) (cur : BitVec 16) :
    Serves p c { (c.cspRdpReceiveData env s).1 with
      rcvCur := cur
      history := .passed s.data (c.cspRdpReceiveData env s).2 ::
        (c.cspRdpReceiveData env s).1.history } := by
  obtain ⟨hstate, hidout, hhistory⟩ := cspRdpReceiveData_frame env c s
  refine ⟨fun h => ?_, hidout, fun h => ?_⟩
  · obtain ⟨hin, hwaiting⟩ := h.receive hs env
    refine ⟨⟨hin.tallied, hin.queues, hin.held⟩, _, ?_, fun hst => ⟨hstate ▸ hst, hwaiting⟩⟩
    rw [posted_passed, hhistory]
  · rw [Steady]
    dsimp only
    rw [hidout, hhistory]
    exact h.cons nofun

theorem serves_refused {s : Segment} (hs : s.pri = p) (hr : (c.cspRdpReceiveData env s).2 = false) :
    Serves p c (c.cspRdpReceiveData env s).1 := by
  obtain ⟨hstate, hidout, hhistory⟩ := cspRdpReceiveData_frame env c s
  refine ⟨fun h => ?_, hidout, fun h => ?_⟩
  · obtain ⟨hin, hwaiting⟩ := h.receive hs env
    rw [hr] at hwaiting
    refine ⟨hin, [], ?_, fun hst => ⟨hstate ▸ hst, hwaiting⟩⟩
    rw [hhistory, List.append_nil]
  · rw [Steady, hidout, hhistory]
    exact h

theorem serves_withRx {rx : List Segment} (hrx : ∀ s ∈ rx, s ∈ c.rxQueue) :
    Serves p c (c.withRx rx) :=
  .of_same rfl rfl rfl hrx rfl rfl id

theorem serves_rxQueueFlush (env : RdpEnv) (count : Nat) (c : RdpConn) (hin : c.Inbox p) :
    Serves p c (rxQueueFlush env count c) := by
  induction count generalizing c with
  | zero => exact .refl p c
  | succ count ih =>
      unfold rxQueueFlush
      split
      · exact .refl p c
      · rename_i s rest hfound
        have hrest {x : Segment} (hx : x ∈ s :: rest) : x ∈ c.rxQueue := by
          rw [← hfound] at hx
          exact (List.dropWhile_sublist _).subset hx
        have hrx : Serves p c
            (c.withRx (rest ++ c.rxQueue.takeWhile fun s => s.seqNr ≠ c.rcvCur + 1)) := by
          refine serves_withRx fun x hx => ?_
          obtain hx | hx := List.mem_append.mp hx
          · exact hrest (List.mem_cons_of_mem s hx)
          · exact (List.takeWhile_sublist _).subset hx
        have hpass := hrx.trans
          (serves_pass (hin.held s (hrest List.mem_cons_self)) env (c.rcvCur + 1))
        have hcur := congrArg Core.cur (@core_cspRdpReceiveData env
          (c.withRx (rest ++ c.rxQueue.takeWhile fun s => s.seqNr ≠ c.rcvCur + 1)) true s)
        dsimp only
        change (RdpConn.rcvCur _) = c.rcvCur at hcur
        rw [hcur]
        exact hpass.trans (ih _ (hpass.inbox hin).1)

theorem serves_cspRdpRxQueueAdd {s : Segment} (hs : s.pri = p) :
    Serves p c (c.cspRdpRxQueueAdd s).1 := by
  unfold cspRdpRxQueueAdd
  split
  · rename_i x rest hfound
    refine serves_withRx fun y hy => ?_
    have hmem : y ∈ (c.rxQueue.takeWhile fun x => x.seqNr ≠ s.seqNr) ++ x :: rest := by
      simp only [List.mem_append, List.mem_cons, List.not_mem_nil, or_false] at hy ⊢
      tauto
    rwa [← hfound, List.takeWhile_append_dropWhile] at hmem
  · split
    · refine ⟨fun h => ⟨⟨⟨h.tallied.events, h.tallied.room⟩, h.queues, fun x hx => ?_⟩, [],
        (List.append_nil _).symm, fun hst => ⟨hst, (List.append_nil _).symm⟩⟩, rfl, id⟩
      obtain hold | hnew := List.mem_append.mp hx
      · exact h.held x hold
      · rwa [List.mem_singleton.mp hnew]
    · exact .refl p c

theorem serves_receiveData {s : Segment} (hin : c.Inbox p) (hsyn : s.flags.syn = false)
    (hrst : s.flags.rst = false) (hs : s.Carries → s.pri = p) :
    Serves p c (c.receiveData env s) := by
  unfold receiveData
  split
  · split
    · exact .refl p c
    · exact .of_same rfl rfl rfl (fun _ => id) rfl rfl id
  · rename_i heak
    split
    · exact .refl p c
    · rename_i hdata
      have hs := hs ⟨hsyn, hrst, Bool.eq_false_iff.mpr heak, hdata⟩
      split
      · have hadd := serves_cspRdpRxQueueAdd (c := c) hs
        split <;> rename_i hresult <;> rw [hresult] at hadd
        · exact hadd.trans serves_cspRdpSendEack
        · exact hadd
      · split <;> rename_i c' hresult
        · have hpass := serves_pass (c := c) hs env s.seqNr
          rw [hresult] at hpass
          have hack := hpass.trans (@serves_cspRdpCheckAck p env _)
          exact hack.trans (serves_rxQueueFlush env _ _ (hack.inbox hin).1)
        · have hrefused := @serves_refused p env c s hs (congrArg Prod.snd hresult)
          rw [hresult] at hrefused
          exact hrefused

theorem serves_fields {c' : RdpConn} (hconn : c'.conn = c.conn) (hhistory : c'.history = c.history) :
    Serves p c c' := by
  refine .of_same (by rw [hconn]) (by rw [hconn]) (by rw [hconn]) (fun s hs => ?_) (by rw [hconn])
    (by rw [hhistory]) fun h => ?_
  · rw [rxQueue, hconn] at hs
    exact hs
  · rw [Steady, hconn, hhistory]
    exact h

theorem serves_postTxWait : Serves p c c.postTxWait := serves_fields rfl rfl

theorem serves_wakeUser : Serves p c c.wakeUser := by
  unfold wakeUser
  split
  · exact serves_postTxWait
  · exact .refl p c

theorem serves_withState (st : RdpState) : Serves p c (c.withState st) :=
  .of_same rfl rfl rfl (fun _ => id) rfl rfl id

theorem serves_synchronised :
    Serves p c { c with history := .synchronised :: c.history } :=
  .of_same rfl rfl rfl (fun _ => id) rfl rfl fun h => Logged.cons h nofun

theorem serves_receiveReset (s : Segment) : Serves p c (c.receiveReset env s) := by
  have hrest (d : RdpConn) : Serves p d
      (if d.state = .closeWait ∨ d.state = .closed then d.cspClose env
        else if s.seqNr = d.rcvCur + 1 then
          (({ d.withState .closeWait with timestamp := env.now }.cspRdpSendCmp env none
            { ack := true, rst := true } d.sndNxt d.rcvCur).1).discardClose env
        else d) := by
    split
    · exact serves_cspClose
    · split
      · refine (serves_rdpState .closeWait env.now).trans (Serves.trans ?_ serves_discardClose)
        exact serves_cspRdpSendCmp (.inr (.inl rfl)) d.sndNxt d.rcvCur
      · exact .refl p d
  unfold receiveReset
  by_cases hack : s.flags.ack = true
  · simp only [hack, if_true]
    have hfields : Serves p c { c with sndUna := s.ackNr + 1 } := serves_fields rfl rfl
    exact hfields.trans (hrest { c with sndUna := s.ackNr + 1 })
  · simp only [hack]
    exact hrest c

theorem serves_receiveClosed (s : Segment) : Serves p c (c.receiveClosed env s) := by
  unfold receiveClosed
  split
  · refine ((serves_withState .synRcvd).trans serves_synchronised).trans (Serves.trans ?_
      (serves_cspRdpSendCmp (.inl rfl) env.rand s.seqNr))
    exact serves_fields rfl rfl
  · exact (serves_cspRdpSendCmp (.inr (.inl rfl)) _ _).trans serves_discardClose

theorem serves_receiveSynSent (s : Segment) : Serves p c (c.receiveSynSent env s) := by
  have hack (d : RdpConn) : Serves p d (if d.delayedAcks = 0 then
      (d.cspRdpSendCmp env none { ack := true } d.sndNxt d.rcvCur).1 else d) := by
    split
    · exact serves_cspRdpSendCmp (.inr (.inr (.inr rfl))) _ _
    · exact .refl p d
  unfold receiveSynSent
  split
  · refine ((serves_withState .opened).trans serves_synchronised).trans (Serves.trans ?_
      ((hack _).trans serves_postTxWait))
    exact serves_fields rfl rfl
  · split
    · exact (serves_cspRdpSendCmp (.inr (.inl rfl)) _ _).trans serves_postTxWait
    · exact serves_discardClose

theorem serves_receiveOpen {s : Segment} (hin : c.Inbox p) (hrst : s.flags.rst = false)
    (hs : s.Carries → s.pri = p) : Serves p c (c.receiveOpen env s) := by
  unfold receiveOpen
  split
  · split
    · exact serves_discardClose
    · exact .refl p c
  rename_i hflags
  rw [not_or, Bool.not_eq_true] at hflags
  split
  · split
    · exact serves_cspRdpSendCmp (.inl rfl) _ _
    · exact serves_cspRdpSendEack
  split
  · exact .refl p c
  split
  · exact serves_discardClose
  · have hopened : Serves p c { c.withState .opened with sndUna := s.ackNr + 1 } :=
      (serves_withState .opened).trans (serves_fields rfl rfl)
    exact hopened.trans (serves_receiveData (hopened.inbox hin).1 hflags.1 hrst hs)

theorem serves_receiveCloseWait (s : Segment) : Serves p c (c.receiveCloseWait env s) := by
  unfold receiveCloseWait
  split
  · exact .refl p c
  split
  · exact .refl p c
  · have hfields : Serves p c { c with sndUna := s.ackNr + 1 } := serves_fields rfl rfl
    exact hfields.trans (serves_cspRdpSendCmp (.inr (.inl rfl)) c.sndNxt c.rcvCur)

theorem serves_cspRdpNewPacket {s : Segment} (hin : c.Inbox p) (hs : s.Carries → s.pri = p) :
    Serves p c (c.cspRdpNewPacket env s) := by
  unfold cspRdpNewPacket
  split
  · exact serves_receiveReset s
  · rename_i hrst
    rw [Bool.not_eq_true] at hrst
    split
    · exact serves_receiveClosed s
    · exact serves_receiveSynSent s
    · exact serves_receiveOpen hin hrst hs
    · exact serves_receiveOpen hin hrst hs
    · exact serves_receiveCloseWait s

theorem serves_transmit {s : Segment} (hs : s.pri = c.conn.idout.pri) : Serves p c (c.transmit s) :=
  .of_same rfl rfl rfl (fun _ => id) rfl rfl fun h => Logged.transmit h fun _ => hs

theorem serves_resend (env : RdpEnv) (rest : List TxElement) (k : Nat) (c : RdpConn) :
    Serves p c (resend env k rest c) := by
  induction rest generalizing k c with
  | nil => exact .refl p c
  | cons e rest ih =>
      have hput (d : RdpConn) (e' : TxElement) :
          Serves p d { d with txQueue := d.txQueue ++ [e'] } := serves_fields rfl rfl
      unfold resend
      split
      · exact ih (k + 1) c
      · split
        · refine Serves.trans ?_ ((hput _ _).trans (ih (k + 1) _))
          split
          · exact serves_transmit rfl
          · exact .refl p c
        · exact (hput c e).trans (ih (k + 1) _)

theorem serves_cspRdpCheckTimeouts : Serves p c (c.cspRdpCheckTimeouts env) := by
  unfold cspRdpCheckTimeouts
  split
  · exact serves_cspClose
  split
  · split
    · exact serves_cspClose
    · exact .refl p c
  · have hempty : Serves p c { c with txQueue := [] } := serves_fields rfl rfl
    refine (hempty.trans (serves_resend env c.txQueue 0 _)).trans ?_
    exact serves_cspRdpCheckAck.trans serves_wakeUser

theorem serves_cspSend (message : List UInt8) : Serves p c (c.cspSend env message).1 := by
  unfold cspSend
  split
  · exact .refl p c
  split
  · exact serves_fields rfl rfl
  split
  · exact .refl p c
  split
  · exact .refl p c
  have htake : Serves p c { c with
      txQueue := c.txQueue ++
        [(⟨env.now, 0, ⟨c.conn.idout.pri, { ack := true }, c.sndNxt, c.rcvCur, message⟩⟩ :
          TxElement)]
      sndNxt := c.sndNxt + 1
      history := .taken message :: c.history } :=
    .of_same rfl rfl rfl (fun _ => id) rfl rfl fun h => Logged.cons h nofun
  refine htake.trans ?_
  split
  · exact serves_transmit rfl
  · exact .refl p _

theorem serves_attempt : Serves p c (c.attempt env) :=
  (serves_withState .synSent).trans (serves_fields rfl rfl)

theorem serves_callOut (o : RdpOptions) : Serves p c (c.callOut env o).1 := by
  have hsyn : Serves p c (c.cspRdpSendSyn env o).1 := by
    unfold cspRdpSendSyn
    split
    · exact serves_cspRdpSendCmp (.inl rfl) _ _
    · exact .refl p _
  unfold callOut
  split <;> rename_i hresult <;> rw [hresult] at hsyn
  · exact hsyn
  · exact hsyn.trans (serves_withState .closeWait)

theorem serves_cspRdpConnect (o : RdpOptions) : Serves p c (c.cspRdpConnect env o).1 := by
  have hoptions : Serves p c { c with
      windowSize := o.windowSize
      connTimeout := o.connTimeout
      packetTimeout := o.packetTimeout
      delayedAcks := o.delayedAcks
      ackTimeout := o.ackTimeout
      ackDelayCount := o.ackDelayCount
      ackTimestamp := env.now } := serves_fields rfl rfl
  exact (hoptions.trans serves_attempt).trans (serves_callOut o)

theorem serves_cspRdpRetry (o : RdpOptions) : Serves p c (c.cspRdpRetry env o).1 := by
  have hflush : Serves p c c.cspRdpFlushAll := .of_same rfl rfl rfl (fun _ => nofun) rfl rfl id
  exact (hflush.trans serves_attempt).trans (serves_callOut o)

theorem Inbox.pop (h : c.Inbox p) {packet : Option Segment} {conn : Conn Segment}
    (hpop : c.conn.popRx = some (packet, conn)) :
    { c with conn := { conn with rxEvent := c.conn.rxEvent - 1 } }.Inbox p ∧
      c.waiting p = (packet.map Segment.data).toList ++
        { c with conn := { conn with rxEvent := c.conn.rxEvent - 1 } }.waiting p := by
  obtain ⟨prio, rest, hqueue, rfl⟩ := Conn.popRx_some hpop
  have hsum := sum_length_update c.conn.rxQueue prio rest
  rw [hqueue, List.length_cons, ← h.tallied.events] at hsum
  have hrest (q : Fin 4) : ∃ front, c.conn.rxQueue q = front ++
      Function.update c.conn.rxQueue prio rest q := by
    by_cases hq : q = prio
    · subst hq
      exact ⟨[packet], by rw [Function.update_self, hqueue, List.singleton_append]⟩
    · exact ⟨[], by rw [Function.update_of_ne hq, List.nil_append]⟩
  refine ⟨⟨⟨?_, fun q => ?_⟩, fun q hq x hx => ?_, h.held⟩, ?_⟩
  · dsimp only
    omega
  · obtain ⟨front, hfront⟩ := hrest q
    have hroom := h.tallied.room q
    rw [hfront, List.length_append] at hroom
    dsimp only
    omega
  · obtain ⟨front, hfront⟩ := hrest q
    refine h.queues q hq x ?_
    rw [hfront]
    exact List.mem_append_right front hx
  · change ((c.conn.rxQueue p).filterMap id).map Segment.data = (packet.map Segment.data).toList ++
      ((Function.update c.conn.rxQueue prio rest p).filterMap id).map Segment.data
    by_cases hp : prio = p
    · subst hp
      rw [hqueue, Function.update_self]
      cases packet with
      | none => rfl
      | some s => rfl
    · have hnone := h.queues prio hp packet (by rw [hqueue]; exact List.mem_cons_self)
      rw [Function.update_of_ne (Ne.symm hp), hnone, Option.map_none, Option.toList_none,
        List.nil_append]

theorem Inbox.popRx_ne_none (h : c.Inbox p) (hevent : c.conn.rxEvent ≠ 0) :
    c.conn.popRx ≠ none := by
  intro hpop
  refine hevent ?_
  rw [h.tallied.events]
  refine Finset.sum_eq_zero fun prio _ => ?_
  rw [Conn.popRx_none hpop prio, List.length_nil]

end RdpConn
end UhfGs.Csp
