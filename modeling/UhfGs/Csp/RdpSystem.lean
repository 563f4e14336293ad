import UhfGs.Library.Runs
import UhfGs.Csp.RdpDelivery

/-! Two connections that talk RDP with each other over a network that loses, repeats and reorders
segments. -/
namespace UhfGs.Csp
open Serial SlidingWindow Runs

theorem Move.suffix {a : Option Segment} {k k' : Core} (h : Move a k k') :
    k.history <:+ k'.history := by
  cases h <;> first | exact List.suffix_rfl | exact List.suffix_cons _ _

namespace Core
variable {late W : Nat} {X Y X' Y' : Core} {a : Option Segment}

def Asks (W : Nat) (flags : RdpFlags) (data : List UInt8) : Prop :=
  flags.syn → flags.ack = false ∧ data32 data 0 = BitVec.ofNat 32 W

structure Calls (W : Nat) (X : Core) : Prop where
  own : X.Own W
  begun : X.alive → X.state ≠ .closed
  waits : X.state ≠ .synRcvd
  kept : ∀ e ∈ X.tx, Asks W e.flags e.data
  asks : Logged (fun s _ => Asks W s.flags s.data) X.history

structure Answers (W : Nat) (Y : Core) : Prop where
  own : Y.Own W
  waits : Y.state ≠ .synSent
  synced : Y.state ≠ .closed → Synced Y.history
  punctual : Punctual Y.history

theorem Calls.asks_opening (h : X.Calls W) {e : Kept} (he : X.Opening e) : Asks W e.flags e.data := by
  intro _
  have hstate := he.2.2
  split at hstate
  · exact absurd hstate h.waits
  · rename_i hack
    obtain ⟨hsent, hdata⟩ := hstate
    have hclosed : X.state ≠ .closed := by
      rw [hsent]
      decide
    exact ⟨Bool.eq_false_iff.mpr hack, hdata.trans (h.own.window hclosed)⟩

theorem Calls.asks_sendable (h : X.Calls W) {s : Segment} (hs : X.Sendable s) :
    Asks W s.flags s.data := by
  intro hsyn
  obtain hopening | hkept := hs.syn hsyn
  · exact h.asks_opening hopening hsyn
  · exact h.kept s.kept hkept hsyn

theorem Calls.move (h : X.Calls W) (hm : Move a X X') : X'.Calls W := by
  have hown : X'.Own W :=
    h.own.move hm fun _ _ _ hst halive => absurd hst (h.begun halive)
  have htx {e : Kept} (he : Asks W e.flags e.data) :
      ∀ e' ∈ X.tx ++ [e], Asks W e'.flags e'.data := by
    intro e' he'
    obtain hold | hnew := List.mem_append.mp he'
    · exact h.kept e' hold
    · rwa [List.mem_singleton.mp hnew]
  cases hm with
  | transmit s hs =>
      exact ⟨hown, h.begun, h.waits, h.kept, h.asks.transmit (h.asks_sendable hs)⟩
  | take m => exact ⟨hown, h.begun, h.waits, htx nofun, h.asks.cons nofun⟩
  | acked s => exact ⟨hown, h.begun, h.waits, h.kept, h.asks⟩
  | free tx _ hsub => exact ⟨hown, h.begun, h.waits, fun e he => h.kept e (hsub e he), h.asks⟩
  | swept => exact ⟨hown, h.begun, h.waits, h.kept, h.asks⟩
  | unchecked => exact ⟨hown, h.begun, h.waits, h.kept, h.asks⟩
  | keepSyn e he => exact ⟨hown, h.begun, h.waits, htx (h.asks_opening he), h.asks⟩
  | hold s => exact ⟨hown, h.begun, h.waits, h.kept, h.asks⟩
  | turn rx => exact ⟨hown, h.begun, h.waits, h.kept, h.asks⟩
  | pass s queued => exact ⟨hown, h.begun, h.waits, h.kept, h.asks.cons nofun⟩
  | release x rx queued => exact ⟨hown, h.begun, h.waits, h.kept, h.asks.cons nofun⟩
  | opened hst => exact absurd hst h.waits
  | closing => exact ⟨hown, fun _ => nofun, nofun, h.kept, h.asks⟩
  | shut => exact ⟨hown, nofun, nofun, nofun, h.asks⟩
  | accept s iss _ _ hst halive => exact absurd hst (h.begun halive)
  | connect s => exact ⟨hown, fun _ => nofun, nofun, h.kept, h.asks.cons nofun⟩

theorem Answers.move (h : Y.Answers W) (hm : Move a Y Y')
    (hasks : ∀ s, a = some s → Asks W s.flags s.data) : Y'.Answers W := by
  have hown : Y'.Own W := h.own.move hm fun s ha hsyn _ _ => (hasks s ha hsyn).2
  cases hm with
  | transmit s hs =>
      refine ⟨hown, h.waits, fun hst => ?_, h.punctual.transmit fun hack => ?_⟩
      · exact (synced_transmitted _ _).mpr (h.synced hst)
      · exact h.synced (hs.ack hack).1
  | take m =>
      exact ⟨hown, h.waits, fun hst => (synced_taken _ _).mpr (h.synced hst), h.punctual.cons nofun⟩
  | acked s => exact ⟨hown, h.waits, h.synced, h.punctual⟩
  | free tx => exact ⟨hown, h.waits, h.synced, h.punctual⟩
  | swept => exact ⟨hown, h.waits, h.synced, h.punctual⟩
  | unchecked => exact ⟨hown, h.waits, h.synced, h.punctual⟩
  | keepSyn e => exact ⟨hown, h.waits, h.synced, h.punctual⟩
  | hold s => exact ⟨hown, h.waits, h.synced, h.punctual⟩
  | turn rx => exact ⟨hown, h.waits, h.synced, h.punctual⟩
  | pass s queued =>
      exact ⟨hown, h.waits, fun hst => (synced_passed _ _ _).mpr (h.synced hst),
        h.punctual.cons nofun⟩
  | release x rx queued =>
      exact ⟨hown, h.waits, fun hst => (synced_passed _ _ _).mpr (h.synced hst),
        h.punctual.cons nofun⟩
  | opened hst =>
      refine ⟨hown, nofun, fun _ => h.synced ?_, h.punctual⟩
      rw [hst]
      decide
  | closing hst => exact ⟨hown, nofun, fun _ => h.synced hst, h.punctual⟩
  | shut => exact ⟨hown, nofun, fun hst => absurd rfl hst, h.punctual⟩
  | accept s iss =>
      exact ⟨hown, nofun, fun _ => synced_synchronised _, h.punctual.cons nofun⟩
  | connect s _ _ _ hst => exact absurd hst h.waits

theorem begun_move (h : X.alive → X.state ≠ .closed) (hm : Move a X X') :
    X'.alive → X'.state ≠ .closed := by
  cases hm with
  | opened => exact fun _ => nofun
  | closing => exact fun _ => nofun
  | shut => exact nofun
  | accept => exact fun _ => nofun
  | connect => exact fun _ => nofun
  | _ => exact h

theorem begun_moves (h : X.alive → X.state ≠ .closed) (hm : Moves a X X') :
    X'.alive → X'.state ≠ .closed := by
  induction hm with
  | refl => exact h
  | tail _ hm ih => exact begun_move ih hm

/-- Both sides, and what each knows of the other. In the way back it matters that the client did not
acknowledge anything before it was connected. -/
structure Linked (late W : Nat) (X Y : Core) : Prop where
  calls : X.Calls W
  answers : Y.Answers W
  forth : Stream late W X Y
  back : Punctual X.history → Stream late W Y X

theorem Linked.client (h : Linked late W X Y) (hW : 0 < W) (hbound : 2 * late + 4 * W + 8 ≤ 2 ^ 16)
    (harr : ∀ s, a = some s → Y.Arrives late s) (hm : Moves a X X') : Linked late W X' Y := by
  induction hm with
  | refl => exact h
  | tail _ hm ih =>
      refine ⟨ih.calls.move hm, ih.answers, ?_, fun hpunct => ?_⟩
      · exact ih.forth.sender hbound ih.calls.own ih.answers.own ih.answers.punctual harr hm
      · exact (ih.back (hpunct.of_suffix hm.suffix)).receiver hW hbound ih.calls.own harr hm

theorem Linked.server (h : Linked late W X Y) (hW : 0 < W) (hbound : 2 * late + 4 * W + 8 ≤ 2 ^ 16)
    (harr : ∀ s, a = some s → X.Arrives late s) (hm : Moves a Y Y') : Linked late W X Y' := by
  have hasks (s : Segment) (ha : a = some s) : Asks W s.flags s.data := by
    obtain ⟨past, hsuffix, -⟩ := harr s ha
    exact h.calls.asks s past hsuffix
  induction hm with
  | refl => exact h
  | tail _ hm ih =>
      refine ⟨ih.calls, ih.answers.move hm hasks, ?_, fun hpunct => ?_⟩
      · exact ih.forth.receiver hW hbound ih.answers.own harr hm
      · exact (ih.back hpunct).sender hbound ih.answers.own ih.calls.own hpunct harr hm

theorem not_synced_nil : ¬ Synced [] := List.not_mem_nil

theorem stream_start (late W : Nat) (hX : X.history = []) (hY : Y.history = []) (htx : X.tx = [])
    (hrx : Y.rx = []) (hstate : X.state ≠ .closed → X.una = X.iss ∧ X.state ≠ .opened) :
    Stream late W X Y where
  known hsync := by
    rw [hY] at hsync
    exact absurd hsync not_synced_nil
  order := by
    rw [hY]
    exact List.nil_prefix
  counts := by
    refine ⟨0, ?_, fun _ hclosed => ?_, fun _ e he => ?_⟩
    · rw [hX, hY]
      exact .zero
    · obtain ⟨huna, hopened⟩ := hstate hclosed
      exact .inr ⟨huna, hopened, by rw [hX, taken_nil]⟩
    · rw [htx] at he
      cases he
  syn := by
    rw [htx]
    nofun
  ahead := by
    rw [hrx]
    nofun
  distinct := by
    rw [hrx]
    exact List.nodup_nil
  covered _ _ i _ hlt := by
    rw [hX] at hlt
    exact absurd hlt (Nat.not_lt_zero i)
  recent := by
    rw [hX]
    exact .nil
  syns := by
    rw [hX]
    exact .nil
  honest := by
    rw [hY]
    exact .nil
  listed _ := by
    rw [hY]
    exact .nil

theorem linked_start (late W : Nat) (hX : X.history = []) (hY : Y.history = []) (hXtx : X.tx = [])
    (hXrx : X.rx = []) (hYtx : Y.tx = []) (hYrx : Y.rx = []) (hsent : X.state = .synSent)
    (hclosed : Y.state = .closed) (huna : X.una = X.iss) (hnxt : X.nxt = X.iss + 1)
    (hwindow : X.window = BitVec.ofNat 32 W) : Linked late W X Y where
  calls := by
    refine ⟨⟨?_, ?_, ?_, ?_, ?_, fun _ => hwindow⟩, ?_, ?_, ?_, ?_⟩
    · simp [hsent]
    · simp [hX, not_synced_nil]
    · simp [hsent]
    · simp [hsent, hX, hXrx]
    · simp [hX, hnxt, nth_succ, nth_zero]
    · simp [hsent]
    · simp [hsent]
    · simp [hXtx]
    · rw [hX]
      exact .nil
  answers := by
    refine ⟨⟨fun _ _ => ⟨hY, hYtx, hYrx⟩, ?_, ?_, ?_, ?_, ?_⟩, ?_, ?_, ?_⟩
    · simp [hclosed]
    · simp [hclosed]
    · simp [hclosed, hY, hYrx]
    · simp [hclosed]
    · simp [hclosed]
    · simp [hclosed]
    · simp [hclosed]
    · rw [hY]
      exact .nil
  forth := by
    refine stream_start late W hX hY hXtx hYrx fun _ => ⟨huna, ?_⟩
    rw [hsent]
    decide
  back _ := stream_start late W hY hX hYtx hXrx fun hnot => absurd hclosed hnot

end Core

/-- One end of a link. `checked` is whether the timeouts were checked since the latest segment
came in, `waits` whether `csp_rdp_connect` waits for an answer, `retry` its variable, and `got` what
the user has read. -/
structure Endpoint where
  conn : RdpConn
  checked : Bool
  waits : Bool
  retry : Bool
  got : List (List UInt8)

/-- What happens at an end. `csp_rdp_connect` wakes up on an open connection, or it finds that the
other side has an older one and tries again with the options of that time, or it gives up. A segment
that comes in is one that the other end sent, given by its place in the history there. -/
inductive RdpInput where
  | connected
  | retry (o : RdpOptions)
  | connectFailed
  | send (message : List UInt8)
  | read
  | close
  | checkTimeouts
  | arrive (place : Nat)

def RdpInput.connects : RdpInput → Bool
  | .connected => true
  | .retry _ => true
  | .connectFailed => true
  | _ => false

namespace Endpoint

def core (e : Endpoint) : Core := e.conn.core e.checked

def InUse (e : Endpoint) : Prop :=
  e.waits = false ∧ e.conn.conn.socket = false ∧ e.conn.state ≠ .closed

instance decidableInUse (e : Endpoint) : Decidable e.InUse := inferInstanceAs (Decidable (_ ∧ _ ∧ _))

/-- One call at an end. The router checks the timeouts before each segment that it hands over. A
segment comes in before `late` more messages were taken or passed on where it was sent. -/
def step (late : Nat) (env : RdpEnv) (peer : List RdpEvent) (e : Endpoint) :
    RdpInput → Option Endpoint
  | .connected =>
      if e.waits ∧ e.conn.txWait ∧ e.conn.state = .opened then
        some { e with conn := { e.conn with txWait := false }, waits := false }
      else none
  | .retry o =>
      if e.waits ∧ e.retry ∧ e.conn.txWait ∧ e.conn.state = .synSent then
        let (c, waits) := e.conn.cspRdpRetry env o
        some { e with conn := c, waits := waits, retry := false }
      else none
  | .connectFailed =>
      if e.waits then
        -- nothing looks at the state of a connection that the router has closed
        some { e with
          conn := if e.conn.state = .closed then e.conn else e.conn.withState .closeWait
          waits := false }
      else none
  | .send message => if e.InUse then some { e with conn := (e.conn.cspSend env message).1 } else none
  | .read =>
      if e.InUse then
        let (c, packet) := e.conn.cspRead env
        some { e with conn := c, got := e.got ++ (packet.map Segment.data).toList }
      else none
  | .close => if e.InUse then some { e with conn := e.conn.cspClose env } else none
  | .checkTimeouts =>
      if e.conn.conn.state = .opened ∧ e.conn.state ≠ .closed then
        some { e with conn := e.conn.cspRdpCheckTimeouts env, checked := true }
      else none
  | .arrive place =>
      match peer.drop place with
      | .transmitted s :: past =>
          if e.conn.conn.state = .opened ∧ e.checked ∧
              (taken peer).length ≤ (taken past).length + late ∧
              (passed peer).length ≤ (passed past).length + late then
            some { e with conn := e.conn.cspRdpNewPacket env s, checked := false }
          else none
      | _ => none

theorem runs_step {late : Nat} {env : RdpEnv} {e e' peer : Endpoint} {i : RdpInput}
    (h : e.step late env peer.conn.history i = some e') (hretry : ∀ o, i ≠ .retry o)
    (hsocket : e.core.state = .closed → e.core.alive → e.conn.conn.socket = true)
    (hempty : e.core.state = .closed ∧ e.core.alive ∨ e.core.state = .synSent → e.core.rx = [])
    (hsettled : e.core.Settled) :
    ∃ a, Core.Runs a e.core e'.core ∧ ∀ s, a = some s → peer.core.Arrives late s := by
  have hquiet {k : Core} (hruns : Core.Runs none e.core k) :
      ∃ a, Core.Runs a e.core k ∧ ∀ s, a = some s → peer.core.Arrives late s :=
    ⟨none, hruns, nofun⟩
  cases i with
  | connected =>
      rw [step] at h
      split at h
      · cases h
        exact hquiet (.refl _)
      · cases h
  | retry o => exact absurd rfl (hretry o)
  | connectFailed =>
      rw [step] at h
      split at h
      · cases h
        by_cases hst : e.conn.state = .closed
        · simp only [hst, if_true]
          exact hquiet (.refl _)
        · simp only [hst, if_false]
          exact hquiet (.of_move (.closing hst) id id)
      · cases h
  | send message =>
      rw [step] at h
      split at h
      · cases h
        exact hquiet (RdpConn.runs_cspSend message)
      · cases h
  | read =>
      rw [step] at h
      split at h
      · rename_i huse
        cases h
        exact hquiet (RdpConn.runs_cspRead huse.2.2)
      · cases h
  | close =>
      rw [step] at h
      split at h
      · cases h
        exact hquiet RdpConn.runs_cspClose
      · cases h
  | checkTimeouts =>
      rw [step] at h
      split at h
      · rename_i hst
        cases h
        exact hquiet (RdpConn.runs_cspRdpCheckTimeouts hst.2 (by simp [RdpConn.core, hst.1]))
      · cases h
  | arrive place =>
      rw [step] at h
      split at h
      · rename_i s past hplace
        split at h
        · rename_i hready
          obtain ⟨hopen, hchecked, htaken, hpassed⟩ := hready
          cases h
          have halive : e.core.alive := by simp [core, RdpConn.core, hopen]
          have hruns := @RdpConn.runs_cspRdpNewPacket env e.conn s
          rw [core, hchecked] at hsettled hempty halive hsocket
          refine ⟨some s, ?_, fun s' heq => ?_⟩
          · rw [core, hchecked]
            refine hruns halive (fun hst => hsocket hst halive) (fun hst => ?_) hsettled
            exact hempty (hst.imp (fun hst => ⟨hst, halive⟩) id)
          · obtain rfl := Option.some.inj heq
            exact ⟨past, hplace ▸ List.drop_suffix _ _, htaken, hpassed⟩
        · cases h
      · cases h

theorem begun_step {late : Nat} {env : RdpEnv} {e e' peer : Endpoint} {i : RdpInput}
    (h : e.step late env peer.conn.history i = some e') (hcalls : i.connects = false)
    (hst : e.core.state = .closed) (hsocket : e.conn.conn.socket = true) (halive : e'.core.alive) : e'.core.state ≠ .closed := by
  have huse : ¬ e.InUse := fun huse => huse.2.2 hst
  have hclosed : e.conn.state = .closed := hst
  cases i with
  | connected => cases hcalls
  | retry o => cases hcalls
  | connectFailed => cases hcalls
  | send message => simp [step, huse] at h
  | read => simp [step, huse] at h
  | close => simp [step, huse] at h
  | checkTimeouts => simp [step, hclosed] at h
  | arrive place =>
      rw [step] at h
      split at h
      · split at h
        · cases h
          exact RdpConn.begun_cspRdpNewPacket hst hsocket halive
        · cases h
      · cases h

/-- The user has read what was posted, but for what still waits. `p` is the priority of the messages
that come in. -/
structure Fed (p : Fin 4) (e : Endpoint) : Prop where
  inbox : e.conn.Inbox p
  unread : e.conn.conn.state = .opened → posted e.conn.history = e.got ++ e.conn.waiting p
  read : e.got <+: posted e.conn.history

variable {p : Fin 4} {e : Endpoint}

theorem Fed.serves {e' : Endpoint} (h : e.Fed p) (hs : RdpConn.Serves p e.conn e'.conn)
    (hgot : e'.got = e.got) : e'.Fed p := by
  obtain ⟨hin, new, hposted, hwaiting⟩ := hs.inbox h.inbox
  refine ⟨hin, fun hst => ?_, ?_⟩
  · obtain ⟨hst, heq⟩ := hwaiting hst
    rw [hposted, h.unread hst, heq, hgot, List.append_assoc]
  · rw [hposted, hgot]
    exact h.read.trans (List.prefix_append _ _)

theorem Fed.pop (h : e.Fed p) (hst : e.conn.conn.state = .opened) {packet : Option Segment}
    {conn : Conn Segment} (hpop : e.conn.conn.popRx = some (packet, conn)) :
    Fed p { e with
      conn := { e.conn with conn := { conn with rxEvent := e.conn.conn.rxEvent - 1 } }
      got := e.got ++ (packet.map Segment.data).toList } := by
  obtain ⟨hin, hwaiting⟩ := h.inbox.pop hpop
  have hposted := h.unread hst
  rw [hwaiting, ← List.append_assoc] at hposted
  refine ⟨hin, fun _ => hposted, ?_⟩
  dsimp only
  rw [hposted]
  exact List.prefix_append _ _

theorem Fed.cspRead (h : e.Fed p) (env : RdpEnv) :
    Fed p { e with
      conn := (e.conn.cspRead env).1
      got := e.got ++ ((e.conn.cspRead env).2.map Segment.data).toList } ∧
      (e.conn.cspRead env).1.conn.idout = e.conn.conn.idout ∧
      (e.conn.Steady → (e.conn.cspRead env).1.Steady) := by
  unfold RdpConn.cspRead
  split
  · rw [Option.map_none, Option.toList_none, List.append_nil]
    exact ⟨h, rfl, id⟩
  rename_i hready
  rw [not_or] at hready
  have hopen : e.conn.conn.state = .opened := by
    cases hst : e.conn.conn.state with
    | closed => exact absurd hst hready.1
    | opened => rfl
  split
  · rename_i packet conn hpop
    have hfed := h.pop hopen hpop
    have hack := @RdpConn.serves_cspRdpCheckAck p env
      { e.conn with conn := { conn with rxEvent := e.conn.conn.rxEvent - 1 } }
    obtain ⟨prio, rest, -, rfl⟩ := Conn.popRx_some hpop
    exact ⟨hfed.serves hack rfl, hack.idout, hack.steady⟩
  · rename_i hpop
    exact absurd hpop (h.inbox.popRx_ne_none hready.2)

theorem Fed.step {late : Nat} {env : RdpEnv} {e' : Endpoint} {peer : List RdpEvent} {i : RdpInput}
    (h : e.Fed p) (hstep : e.step late env peer i = some e')
    (hpeer : Logged (fun s _ => s.Carries → s.pri = p) peer) :
    e'.Fed p ∧ e'.conn.conn.idout = e.conn.conn.idout ∧ (e.conn.Steady → e'.conn.Steady) := by
  have hserves {e' : Endpoint} (hs : RdpConn.Serves p e.conn e'.conn) (hgot : e'.got = e.got) :
      e'.Fed p ∧ e'.conn.conn.idout = e.conn.conn.idout ∧ (e.conn.Steady → e'.conn.Steady) :=
    ⟨h.serves hs hgot, hs.idout, hs.steady⟩
  cases i with
  | connected =>
      rw [Endpoint.step] at hstep
      split at hstep
      · cases hstep
        exact hserves (RdpConn.serves_fields rfl rfl) rfl
      · cases hstep
  | retry o =>
      rw [Endpoint.step] at hstep
      split at hstep
      · cases hstep
        exact hserves (RdpConn.serves_cspRdpRetry o) rfl
      · cases hstep
  | connectFailed =>
      rw [Endpoint.step] at hstep
      split at hstep
      · cases hstep
        refine hserves ?_ rfl
        dsimp only
        split
        · exact .refl p _
        · exact RdpConn.serves_withState .closeWait
      · cases hstep
  | send message =>
      rw [Endpoint.step] at hstep
      split at hstep
      · cases hstep
        exact hserves (RdpConn.serves_cspSend message) rfl
      · cases hstep
  | read =>
      rw [Endpoint.step] at hstep
      split at hstep
      · cases hstep
        exact h.cspRead env
      · cases hstep
  | close =>
      rw [Endpoint.step] at hstep
      split at hstep
      · cases hstep
        exact hserves RdpConn.serves_cspClose rfl
      · cases hstep
  | checkTimeouts =>
      rw [Endpoint.step] at hstep
      split at hstep
      · cases hstep
        exact hserves RdpConn.serves_cspRdpCheckTimeouts rfl
      · cases hstep
  | arrive place =>
      rw [Endpoint.step] at hstep
      split at hstep
      · rename_i s past hplace
        split at hstep
        · cases hstep
          have hs := hpeer s past (hplace ▸ List.drop_suffix _ _)
          exact hserves (RdpConn.serves_cspRdpNewPacket h.inbox hs) rfl
        · cases hstep
      · cases hstep

end Endpoint

inductive RdpSide where
  | client
  | server

structure RdpLink where
  client : Endpoint
  server : Endpoint

structure RdpConn.Fresh (c : RdpConn) : Prop where
  queues : c.conn.rxQueue = fun _ => []
  events : c.conn.rxEvent = 0
  held : c.rxQueue = []
  kept : c.txQueue = []
  history : c.history = []

theorem RdpConn.Fresh.inbox {c : RdpConn} (h : c.Fresh) (p : Fin 4) : c.Inbox p where
  tallied := by
    refine ⟨?_, fun _ => ?_⟩
    · rw [h.events, h.queues]
      exact Finset.sum_const_zero.symm
    · rw [h.queues]
      exact Nat.zero_le 25
  queues := by
    rw [h.queues]
    exact fun _ _ => nofun
  held := by
    rw [h.held]
    nofun

theorem RdpConn.Fresh.steady {c : RdpConn} (h : c.Fresh) : c.Steady := by
  rw [Steady, h.history]
  exact .nil

theorem RdpConn.Fresh.fed {c : RdpConn} (h : c.Fresh) (p : Fin 4) (waits : Bool) :
    Endpoint.Fed p ⟨c, true, waits, true, []⟩ := by
  refine ⟨h.inbox p, fun _ => ?_, List.nil_prefix⟩
  change posted c.history = [] ++ c.waiting p
  rw [h.history, RdpConn.waiting, h.queues]
  rfl

/-- A connection that a client is about to open, and one that the router has made for a new
client. -/
structure RdpSetup (W : Nat) (o : RdpOptions) (c s : RdpConn) : Prop where
  window : o.windowSize = BitVec.ofNat 32 W
  client : c.Fresh
  server : s.Fresh
  unknown : s.state = .closed
  socket : s.conn.socket = true

namespace RdpLink
open UhfGs.Csp.Core

/-- The client has sent its SYN on a new connection, and the server has a new connection for it. -/
def start (env : RdpEnv) (o : RdpOptions) (c s : RdpConn) : RdpLink where
  client := ⟨(c.cspRdpConnect env o).1, true, (c.cspRdpConnect env o).2, true, []⟩
  server := ⟨s, true, false, true, []⟩

def step (late : Nat) (l : RdpLink) : RdpSide × RdpEnv × RdpInput → Option RdpLink
  | (.client, env, i) =>
      (l.client.step late env l.server.conn.history i).map fun e => { l with client := e }
  | (.server, env, i) =>
      if i.connects then none
      else (l.server.step late env l.client.conn.history i).map fun e => { l with server := e }

def Tidy (k : Core) : Prop := k.Settled ∧ k.Plain

structure Inv (late W : Nat) (l : RdpLink) : Prop where
  linked : Linked late W l.client.core l.server.core
  client : Tidy l.client.core
  server : Tidy l.server.core
  fresh : l.server.core.state = .closed → l.server.core.alive → l.server.conn.conn.socket = true

variable {late W : Nat} {l l' : RdpLink}

theorem Inv.start (late : Nat) (env : RdpEnv) {o : RdpOptions} {c s : RdpConn}
    (h : RdpSetup W o c s) (hW : 0 < W) (hbound : 2 * late + 4 * W + 8 ≤ 2 ^ 16) :
    Inv late W (start env o c s) := by
  have hct : ((c.calling env o).core true).tx = [] := congrArg (List.map _) h.client.kept
  have hst : (s.core true).tx = [] := congrArg (List.map _) h.server.kept
  have hcr : ((c.calling env o).core true).rx = [] := h.client.held
  have hsr : (s.core true).rx = [] := h.server.held
  have hbase : Linked late W ((c.calling env o).core true) (s.core true) :=
    linked_start late W h.client.history h.server.history hct hcr hst hsr rfl h.unknown rfl rfl
      h.window
  have hplain : ((c.calling env o).core true).Plain := by
    rw [Core.Plain, hct]
    nofun
  have hsettled : ((c.calling env o).core true).Settled := by
    rw [Core.Settled, hcr]
    nofun
  have hserver : Tidy (s.core true) := by
    rw [Tidy, Core.Settled, Core.Plain, hsr, hst]
    exact ⟨nofun, nofun⟩
  obtain ⟨hmoves, hplain, hrest⟩ := @RdpConn.runs_cspRdpConnect env c true none o hplain
  have hnone : ∀ s', none = some s' → (s.core true).Arrives late s' := nofun
  exact ⟨hbase.client hW hbound hnone hmoves, ⟨hrest hsettled, hplain⟩, hserver,
    fun _ _ => h.socket⟩

theorem Tidy.run {a : Option Segment} {k k' : Core} (h : Tidy k) (hruns : Core.Runs a k k') :
    Moves a k k' ∧ Tidy k' := by
  obtain ⟨hmoves, hplain, hsettled⟩ := hruns h.2
  exact ⟨hmoves, hsettled h.1, hplain⟩

theorem rx_nil {k : Core} (h : k.Own W) (hst : k.state = .closed ∧ k.alive ∨ k.state = .synSent) :
    k.rx = [] := by
  obtain ⟨hst, halive⟩ | hst := hst
  · exact (h.fresh hst halive).2.2
  · exact (h.unsynced (h.quiet hst)).2.2.2.2

theorem Inv.server_step (h : Inv late W l) (hW : 0 < W) (hbound : 2 * late + 4 * W + 8 ≤ 2 ^ 16)
    {env : RdpEnv} {i : RdpInput} {e : Endpoint}
    (hstep : l.server.step late env l.client.conn.history i = some e)
    (hcalls : i.connects = false) : Inv late W { l with server := e } := by
  have hretry (o : RdpOptions) : i ≠ .retry o := by
    rintro rfl
    cases hcalls
  obtain ⟨a, hruns, harr⟩ :=
    l.server.runs_step hstep hretry h.fresh (rx_nil h.linked.answers.own) h.server.1
  obtain ⟨hmoves, htidy⟩ := h.server.run hruns
  refine ⟨h.linked.server hW hbound harr hmoves, h.client, htidy, fun hst halive => ?_⟩
  exfalso
  by_cases hnew : l.server.core.state = .closed ∧ l.server.core.alive
  · obtain ⟨hclosed, hold⟩ := hnew
    exact l.server.begun_step hstep hcalls hclosed (h.fresh hclosed hold) halive hst
  · rw [not_and', ← ne_eq] at hnew
    exact begun_moves hnew hmoves halive hst

theorem Inv.client_step (h : Inv late W l) (hW : 0 < W) (hbound : 2 * late + 4 * W + 8 ≤ 2 ^ 16)
    {env : RdpEnv} {i : RdpInput} {e : Endpoint}
    (hstep : l.client.step late env l.server.conn.history i = some e)
    (hretry : ∀ o, i ≠ .retry o) : Inv late W { l with client := e } := by
  obtain ⟨a, hruns, harr⟩ := l.client.runs_step hstep hretry
    (fun hst halive => absurd hst (h.linked.calls.begun halive)) (rx_nil h.linked.calls.own) h.client.1
  obtain ⟨hmoves, htidy⟩ := h.client.run hruns
  exact ⟨h.linked.client hW hbound harr hmoves, htidy, h.server, h.fresh⟩

structure Served (p q : Fin 4) (l : RdpLink) : Prop where
  client : l.client.Fed q
  server : l.server.Fed p
  clientPri : l.client.conn.conn.idout.pri = p
  serverPri : l.server.conn.conn.idout.pri = q
  clientSteady : l.client.conn.Steady
  serverSteady : l.server.conn.Steady

theorem Served.start {o : RdpOptions} {c s : RdpConn} (h : RdpSetup W o c s) (env : RdpEnv) :
    Served c.conn.idout.pri s.conn.idout.pri (start env o c s) := by
  have hserves := @RdpConn.serves_cspRdpConnect s.conn.idout.pri env c o
  refine ⟨(h.client.fed _ false).serves hserves rfl, h.server.fed _ false, ?_, rfl,
    hserves.steady h.client.steady, h.server.steady⟩
  exact congrArg CspId.pri hserves.idout

theorem Served.server_step {p q : Fin 4} (h : Served p q l) {env : RdpEnv} {i : RdpInput}
    {e : Endpoint} (hstep : l.server.step late env l.client.conn.history i = some e) :
    Served p q { l with server := e } := by
  have hpeer := h.clientSteady
  rw [RdpConn.Steady, h.clientPri] at hpeer
  obtain ⟨hfed, hidout, hsteady⟩ := h.server.step hstep hpeer
  refine ⟨h.client, hfed, h.clientPri, ?_, h.clientSteady, hsteady h.serverSteady⟩
  rw [← h.serverPri]
  exact congrArg CspId.pri hidout

theorem Served.client_step {p q : Fin 4} (h : Served p q l) {env : RdpEnv} {i : RdpInput}
    {e : Endpoint} (hstep : l.client.step late env l.server.conn.history i = some e) :
    Served p q { l with client := e } := by
  have hpeer := h.serverSteady
  rw [RdpConn.Steady, h.serverPri] at hpeer
  obtain ⟨hfed, hidout, hsteady⟩ := h.client.step hstep hpeer
  refine ⟨hfed, h.server, ?_, h.serverPri, hsteady h.clientSteady, h.serverSteady⟩
  rw [← h.clientPri]
  exact congrArg CspId.pri hidout

theorem step_cases {i : RdpSide × RdpEnv × RdpInput} (hstep : l.step late i = some l') :
    (∃ env i e, l.client.step late env l.server.conn.history i = some e ∧
      l' = { l with client := e }) ∨
    ∃ env i e, l.server.step late env l.client.conn.history i = some e ∧ i.connects = false ∧
      l' = { l with server := e } := by
  obtain ⟨side, env, i⟩ := i
  cases side with
  | client =>
      obtain ⟨e, he, rfl⟩ := Option.map_eq_some_iff.mp hstep
      exact .inl ⟨env, i, e, he, rfl⟩
  | server =>
      rw [step] at hstep
      split at hstep
      · cases hstep
      · rename_i hcalls
        obtain ⟨e, he, rfl⟩ := Option.map_eq_some_iff.mp hstep
        exact .inr ⟨env, i, e, he, Bool.eq_false_iff.mpr hcalls, rfl⟩

theorem retry_step {e e' : Endpoint} {env : RdpEnv} {peer : List RdpEvent} {i : RdpInput}
    (hstep : e.step late env peer i = some e') (hretry : e'.retry = true) :
    e.retry = true ∧ ∀ o, i ≠ .retry o := by
  cases i with
  | connected =>
      rw [Endpoint.step] at hstep
      split at hstep
      · cases hstep
        exact ⟨hretry, nofun⟩
      · cases hstep
  | retry o =>
      rw [Endpoint.step] at hstep
      split at hstep
      · cases hstep
        cases hretry
      · cases hstep
  | arrive place =>
      rw [Endpoint.step] at hstep
      split at hstep
      · split at hstep
        · cases hstep
          exact ⟨hretry, nofun⟩
        · cases hstep
      · cases hstep
  | _ =>
      rw [Endpoint.step] at hstep
      split at hstep
      · cases hstep
        exact ⟨hretry, nofun⟩
      · cases hstep

theorem reaches_served {env : RdpEnv} {o : RdpOptions} {c s : RdpConn} (hsetup : RdpSetup W o c s)
    (h : Reaches (step late) (fun _ => True) (start env o c s) l) :
    Served c.conn.idout.pri s.conn.idout.pri l := by
  induction h with
  | start => exact .start hsetup env
  | step _ _ hstep ih =>
      obtain ⟨env, i, e, he, rfl⟩ | ⟨env, i, e, he, -, rfl⟩ := step_cases hstep
      · exact ih.client_step he
      · exact ih.server_step he

theorem reaches_inv {env : RdpEnv} {o : RdpOptions} {c s : RdpConn} (hW : 0 < W)
    (hbound : 2 * late + 4 * W + 8 ≤ 2 ^ 16) (hsetup : RdpSetup W o c s)
    (h : Reaches (step late) (fun _ => True) (start env o c s) l) (hretry : l.client.retry) :
    Inv late W l := by
  induction h with
  | start => exact .start late env hsetup hW hbound
  | step _ _ hstep ih =>
      obtain ⟨env, i, e, he, rfl⟩ | ⟨env, i, e, he, hcalls, rfl⟩ := step_cases hstep
      · obtain ⟨hold, hfirst⟩ := retry_step he hretry
        exact (ih hold).client_step hW hbound he hfirst
      · exact (ih hretry).server_step hW hbound he hcalls

end RdpLink

theorem Stream.rx_length_le {X Y : Core} {late W : Nat} (h : Stream late W X Y) :
    Y.rx.length ≤ 2 * W := by
  have hsub : Y.rx.map Segment.seqNr ⊆
      (List.range (2 * W)).map fun d => nth X.iss ((passed Y.history).length + d + 1) := by
    intro q hq
    obtain ⟨x, hx, rfl⟩ := List.mem_map.mp hq
    obtain ⟨i, hle, hlt, hseq, -⟩ := h.ahead x hx
    refine List.mem_map.mpr ⟨i - (passed Y.history).length, ?_, ?_⟩
    · rw [List.mem_range]
      omega
    · rw [Nat.add_sub_cancel' hle, hseq]
  have hle := (h.distinct.subperm hsub).length_le
  rwa [List.length_map, List.length_map, List.length_range] at hle

theorem posted_sublist (h : List RdpEvent) : (posted h).Sublist ((passed h).map Prod.fst) :=
  List.filter_sublist.map _

theorem Stream.read {X Y : Core} {late W : Nat} (h : Stream late W X Y) {got : List (List UInt8)}
    (hgot : got <+: posted Y.history) :
    got.Sublist (taken X.history) ∧
      ((∀ m ∈ passed Y.history, m.2 = true) → got <+: taken X.history) := by
  refine ⟨(hgot.sublist.trans (posted_sublist _)).trans h.order.sublist, fun hall => ?_⟩
  have hposted : posted Y.history = (passed Y.history).map Prod.fst := by
    rw [posted, List.filter_eq_self.mpr hall]
  rw [hposted] at hgot
  exact hgot.trans h.order

/-- A message that was taken but not passed on is kept by the one or held back by the other. -/
theorem Stream.kept_or_held {X Y : Core} {late W : Nat} (h : Stream late W X Y)
    (hbound : 2 * late + 4 * W + 8 ≤ 2 ^ 16) (hX : X.alive) (hY : Y.alive) (hopen : X.state = .opened)
    {i : Nat} {m : List UInt8} (hi : (passed Y.history).length ≤ i)
    (hm : (taken X.history)[i]? = some m) :
    (∃ e ∈ X.tx, e.flags.syn = false ∧ e.seqNr = nth X.iss (i + 1) ∧ e.data = m ∧
      before e.seqNr X.una = false) ∨
      ∃ x ∈ Y.rx, x.seqNr = nth X.iss (i + 1) ∧ x.data = m := by
  have hlt : i < (taken X.history).length := (List.getElem?_eq_some_iff.mp hm).1
  have hclosed : X.state ≠ .closed := by
    rw [hopen]
    decide
  have hactive : X.Active := by
    refine ⟨hclosed, ?_⟩
    rw [hopen]
    decide
  obtain ⟨a, hinv, hacked, hkeeps⟩ := h.counts
  have hbehind := hinv.behind
  have hahead := hinv.ahead
  have hle := hinv.acked
  dsimp only at hbehind hahead hle
  obtain ⟨e, he, hsyn, hseq⟩ | ⟨x, hx, hseq⟩ := h.covered hX hY i hi hlt
  · obtain ⟨j, hj, hseq', hslack⟩ := hkeeps hX e he hsyn
    have hfar : a ≤ j + (late + W + 1) := (hslack hactive).trans (by split <;> omega)
    have hjlt : j < (taken X.history).length := (List.getElem?_eq_some_iff.mp hj).1
    have hij := nth_inj (hseq'.symm.trans hseq) (by omega) (by omega)
    obtain rfl : j = i := by omega
    have hnot : ¬ j < a := by omega
    rw [← keeps_acked (hacked hX hclosed) hj hseq' hbehind hfar hbound, Bool.not_eq_true] at hnot
    rw [hm] at hj
    exact .inl ⟨e, he, hsyn, hseq, (Option.some.inj hj).symm, hnot⟩
  · obtain ⟨j, hle', hlt', hseq', hj⟩ := h.ahead x hx
    have hij := nth_inj (hseq'.symm.trans hseq) (by omega) (by omega)
    obtain rfl : j = i := by omega
    rw [hm] at hj
    exact .inr ⟨x, hx, hseq, (Option.some.inj hj).symm⟩

namespace RdpLink
open UhfGs.Csp.Core
variable {late W : Nat} {env : RdpEnv} {o : RdpOptions} {c s : RdpConn} {l : RdpLink}

/- A link on which each side sends one message, with the options that the ground station sets. -/
def goodAt (time : Nat) : RdpEnv := ⟨time, 7, 0, true, true, true, fun _ => true, true⟩

def newConn (socket : Bool) : RdpConn where
  conn := { Conn.init with state := .opened, socket := socket }
  timestamp := 0
  sndNxt := 0
  sndUna := 0
  sndIss := 0
  rcvCur := 0
  rcvIrs := 0
  rcvLsa := 0
  windowSize := 0
  connTimeout := 0
  packetTimeout := 0
  delayedAcks := 0
  ackTimeout := 0
  ackDelayCount := 0
  ackTimestamp := 0
  txQueue := []
  txWait := true
  history := []

def stationOptions : RdpOptions := ⟨6, 30000, 16000, 1, 8000, 3⟩

def exchange : List (RdpSide × RdpEnv × RdpInput) :=
  [(.server, goodAt 10, .arrive 0),
    (.client, goodAt 20, .arrive 0),
    (.client, goodAt 25, .connected),
    (.client, goodAt 30, .send [1, 2]),
    (.server, goodAt 40, .checkTimeouts),
    (.server, goodAt 40, .arrive 0),
    (.server, goodAt 50, .read),
    (.server, goodAt 60, .send [3]),
    (.client, goodAt 70, .checkTimeouts),
    (.client, goodAt 70, .arrive 0),
    (.client, goodAt 80, .read)]

def exchanged (steps : Nat) : RdpLink :=
  (exec (step 100) (fun _ => True) (start (goodAt 0) stationOptions (newConn false) (newConn true))
    (exchange.take steps)).getD (start (goodAt 0) stationOptions (newConn false) (newConn true))

theorem reaches_exchanged (steps : Nat) : Reaches (step 100) (fun _ => True)
    (start (goodAt 0) stationOptions (newConn false) (newConn true)) (exchanged steps) := by
  unfold exchanged
  cases h : exec (step 100) (fun _ => True)
      (start (goodAt 0) stationOptions (newConn false) (newConn true)) (exchange.take steps) with
  | none => exact .start
  | some l => exact reaches_of_exec .start h

theorem setup_exchange : RdpSetup 6 stationOptions (newConn false) (newConn true) :=
  ⟨rfl, ⟨rfl, rfl, rfl, rfl, rfl⟩, ⟨rfl, rfl, rfl, rfl, rfl⟩, rfl, rfl⟩

/-- In whatever way calls, timeouts and segments come, what the server passes on is what the client
has taken, unchanged and in order, from the first message on, unless the client had to try twice to
connect. -/
theorem server_in_order (hW : 0 < W) (hbound : 2 * late + 4 * W + 8 ≤ 2 ^ 16)
    (hsetup : RdpSetup W o c s) (h : Reaches (step late) (fun _ => True) (start env o c s) l)
    (hretry : l.client.retry) :
    (passed l.server.conn.history).map Prod.fst <+: taken l.client.conn.history ∧
      (taken l.client.conn.history).length ≤ (passed l.server.conn.history).length + W + 1 ∧
      l.server.conn.rxQueue.length ≤ 2 * W := by
  have hstream := (reaches_inv hW hbound hsetup h hretry).linked.forth
  obtain ⟨a, hinv, -⟩ := hstream.counts
  exact ⟨hstream.order, hinv.ahead, hstream.rx_length_le⟩

theorem server_in_order_exchanged :
    passed (exchanged 6).server.conn.history = [([1, 2], true)] ∧
      (passed (exchanged 6).server.conn.history).map Prod.fst <+:
        taken (exchanged 6).client.conn.history :=
  ⟨by decide,
    (server_in_order (by decide) (by decide) setup_exchange (reaches_exchanged 6) (by decide)).1⟩

/-- The answer to the SYN is late, and the reset and the second SYN get lost. The client then takes
the late answer for one to its second SYN, whose number it does not look at. -/
def halfOpen : List (RdpSide × RdpEnv × RdpInput) :=
  [(.server, goodAt 10, .arrive 0),
    (.server, goodAt 8020, .checkTimeouts),
    (.client, goodAt 8030, .checkTimeouts),
    (.client, goodAt 8030, .arrive 0),
    (.client, { goodAt 8040 with rand := 6 }, .retry stationOptions),
    (.client, goodAt 8050, .checkTimeouts),
    (.client, goodAt 8050, .arrive 1),
    (.client, goodAt 8060, .connected),
    (.client, goodAt 8070, .send [1]),
    (.client, goodAt 8080, .send [2]),
    (.server, goodAt 8090, .arrive 0)]

/-- The server passes the second message on and will never get the first one. -/
theorem not_in_order_after_retry : ∃ l, Reaches (step 100) (fun _ => True)
    (start (goodAt 0) stationOptions (newConn false) (newConn true)) l ∧
      taken l.client.conn.history = [[1], [2]] ∧
      (passed l.server.conn.history).map Prod.fst = [[2]] := by
  have hrun : (exec (step 100) (fun _ => True)
      (start (goodAt 0) stationOptions (newConn false) (newConn true)) halfOpen).map
        (fun l => (taken l.client.conn.history, (passed l.server.conn.history).map Prod.fst)) =
          some ([[1], [2]], [[2]]) := by
    decide
  obtain ⟨l, hl, heq⟩ := Option.map_eq_some_iff.mp hrun
  obtain ⟨htaken, hpassed⟩ := Prod.mk.inj heq
  exact ⟨l, reaches_of_exec .start hl, htaken, hpassed⟩

/-- The user of the server reads messages of the client's user in their order and none twice, and
misses one only if it found no room. -/
theorem server_reads (hW : 0 < W) (hbound : 2 * late + 4 * W + 8 ≤ 2 ^ 16)
    (hsetup : RdpSetup W o c s) (h : Reaches (step late) (fun _ => True) (start env o c s) l)
    (hretry : l.client.retry) :
    l.server.got.Sublist (taken l.client.conn.history) ∧
      ((∀ m ∈ passed l.server.conn.history, m.2 = true) →
        l.server.got <+: taken l.client.conn.history) :=
  (reaches_inv hW hbound hsetup h hretry).linked.forth.read (reaches_served hsetup h).server.read

theorem server_reads_exchanged :
    (exchanged 7).server.got = [[1, 2]] ∧
      (exchanged 7).server.got <+: taken (exchanged 7).client.conn.history :=
  ⟨by decide,
    (server_reads (by decide) (by decide) setup_exchange (reaches_exchanged 7) (by decide)).2
      (by decide)⟩

/-- The same the other way, if the client acknowledged nothing before it was connected. -/
theorem client_reads (hW : 0 < W) (hbound : 2 * late + 4 * W + 8 ≤ 2 ^ 16)
    (hsetup : RdpSetup W o c s) (h : Reaches (step late) (fun _ => True) (start env o c s) l)
    (hretry : l.client.retry) (hpunct : Punctual l.client.conn.history) :
    (passed l.client.conn.history).map Prod.fst <+: taken l.server.conn.history ∧
      l.client.got.Sublist (taken l.server.conn.history) ∧
      ((∀ m ∈ passed l.client.conn.history, m.2 = true) →
        l.client.got <+: taken l.server.conn.history) := by
  have hstream := (reaches_inv hW hbound hsetup h hretry).linked.back hpunct
  exact ⟨hstream.order, hstream.read (reaches_served hsetup h).client.read⟩

theorem client_reads_exchanged :
    (exchanged 11).client.got = [[3]] ∧
      (exchanged 11).client.got <+: taken (exchanged 11).server.conn.history := by
  have hhistory : (exchanged 11).client.conn.history =
      [.passed [3] true, .transmitted ⟨0, { ack := true }, 8, 7, [1, 2]⟩, .taken [1, 2],
        .synchronised, .transmitted ⟨0, { syn := true }, 7, 0, stationOptions.bytes⟩] := by
    rfl
  have hpunct : Punctual (exchanged 11).client.conn.history := by
    rw [hhistory]
    refine Logged.cons (.transmit (.cons (.cons (.transmit .nil nofun) nofun) nofun) ?_) nofun
    intro _
    simp [Synced]
  exact ⟨by decide,
    (client_reads (by decide) (by decide) setup_exchange (reaches_exchanged 11) (by decide)
      hpunct).2.2 (by decide)⟩

/-- A client whose SYN is not answered for the time after which it acknowledges does so in
SYN-SENT. -/
theorem early_acknowledgement : ∃ l, Reaches (step 100) (fun _ => True)
    (start (goodAt 0) stationOptions (newConn false) (newConn true)) l ∧
      ¬ Punctual l.client.conn.history := by
  have hrun : (exec (step 100) (fun _ => True)
      (start (goodAt 0) stationOptions (newConn false) (newConn true))
      [(.client, goodAt 8001, .checkTimeouts)]).map (fun l => l.client.conn.history) =
        some [.transmitted ⟨0, { ack := true }, 8, 0, []⟩,
          .transmitted ⟨0, { syn := true }, 7, 0, stationOptions.bytes⟩] := by
    rfl
  obtain ⟨l, hl, hhistory⟩ := Option.map_eq_some_iff.mp hrun
  refine ⟨l, reaches_of_exec .start hl, fun hpunct => ?_⟩
  rw [hhistory] at hpunct
  have hsync := hpunct _ _ List.suffix_rfl rfl
  simp [Synced] at hsync

/-- While both ends are open, a message that the client has taken and the server has not passed on
is held back by the server, or the client sends it again once it has timed out. -/
theorem nothing_lost (hW : 0 < W) (hbound : 2 * late + 4 * W + 8 ≤ 2 ^ 16)
    (hsetup : RdpSetup W o c s) (h : Reaches (step late) (fun _ => True) (start env o c s) l)
    (hretry : l.client.retry) (huse : l.client.InUse) (hopen : l.client.conn.state = .opened)
    (hclient : l.client.conn.conn.state = .opened) (hserver : l.server.conn.conn.state = .opened)
    {i : Nat} {m : List UInt8} (hi : (passed l.server.conn.history).length ≤ i)
    (hm : (taken l.client.conn.history)[i]? = some m) :
    (∃ x ∈ l.server.conn.rxQueue, x.seqNr = nth l.client.conn.sndIss (i + 1) ∧ x.data = m) ∨
      ∃ e ∈ l.client.conn.txQueue, e.segment.data = m ∧ ∀ env : RdpEnv,
        (∀ k, env.resent k = true) →
        before (e.timestamp + l.client.conn.packetTimeout) env.now = true →
        ∃ seg past, seg.data = m ∧ seg.seqNr = nth l.client.conn.sndIss (i + 1) ∧
          .transmitted seg :: past <:+ (l.client.conn.cspRdpCheckTimeouts env).history ∧
          l.client.conn.history <:+ past := by
  have hstream := (reaches_inv hW hbound hsetup h hretry).linked.forth
  have hX : l.client.core.alive := by simp [Endpoint.core, RdpConn.core, hclient]
  have hY : l.server.core.alive := by simp [Endpoint.core, RdpConn.core, hserver]
  obtain ⟨kept, hkept, -, hseq, hdata, hbefore⟩ | ⟨x, hx, hnumber, hdata⟩ :=
    hstream.kept_or_held hbound hX hY hopen hi hm
  · obtain ⟨e, he, rfl⟩ := List.mem_map.mp hkept
    refine .inr ⟨e, he, hdata, fun env hsent htime => ?_⟩
    have hwait : l.client.conn.state ≠ .closeWait := by
      rw [hopen]
      decide
    obtain ⟨past, hnew, hold⟩ :=
      RdpConn.cspRdpCheckTimeouts_transmits hsent he hbefore htime huse.2.1 hwait
    exact ⟨⟨l.client.conn.conn.idout.pri, e.segment.flags, e.segment.seqNr, l.client.conn.rcvCur,
      e.segment.data⟩, past, hdata, hseq, hnew, hold⟩
  · exact .inl ⟨x, hx, hnumber, hdata⟩

theorem nothing_lost_exchanged :
    (∃ x ∈ (exchanged 4).server.conn.rxQueue, x.seqNr = 8 ∧ x.data = [1, 2]) ∨
      ∃ e ∈ (exchanged 4).client.conn.txQueue, e.segment.data = [1, 2] := by
  have hlost := nothing_lost (by decide) (by decide) setup_exchange (reaches_exchanged 4) (by decide)
    (by decide) (by decide) (by decide) (by decide)
    (show (passed (exchanged 4).server.conn.history).length ≤ 0 by decide)
    (show (taken (exchanged 4).client.conn.history)[0]? = some [1, 2] by decide)
  exact hlost.imp (fun ⟨x, hx, hseq, hdata⟩ => ⟨x, hx, hseq, hdata⟩)
    fun ⟨e, he, hdata, _⟩ => ⟨e, he, hdata⟩

end RdpLink
end UhfGs.Csp
