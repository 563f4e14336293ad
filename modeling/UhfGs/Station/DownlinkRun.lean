import UhfGs.Library.Chunks
import UhfGs.Library.Runs
import UhfGs.Station.TcpServer

/-! Calls of `downlink_client` one after another, and what they put on the connections to MCS. -/
namespace UhfGs.Station
open Chunks Runs

/-- A call: the outcomes of the calls it makes, and the content of its file. -/
structure DownlinkCall where
  env : DownlinkEnv
  file : List UInt8

/-- The global `ret`, whether the process lives, and the bytes on each connection so far, the
latest connection first. -/
structure Downlink where
  ret : Int
  alive : Bool
  streams : List (List UInt8)

/-- What the caller gets: every `return` of `downlink_client` gives 0. -/
def DownlinkRun.returned (run : DownlinkRun) : Option Int := if run.alive then some 0 else none

def success : Int := 0

namespace Downlink
variable (s : Downlink) (call : DownlinkCall)

def init : Downlink := ⟨1, true, []⟩

def connects : Bool := s.ret = 1 ∧ call.env.socketOk ∧ call.env.ptonOk ∧ call.env.connectOk

def run : DownlinkRun := downlinkClient call.env s.ret call.file

def opened : List (List UInt8) := if s.connects call then [] :: s.streams else s.streams

def append (sent : List UInt8) : List (List UInt8) → List (List UInt8)
  | [] => []
  | stream :: rest => (stream ++ sent) :: rest

def step : Downlink :=
  if s.alive then
    { ret := (s.run call).ret
      alive := (s.run call).alive
      streams := append (s.run call).sent (s.opened call) }
  else s

/-- The whole file goes to one connection, in order and once. -/
def Delivers : Prop :=
  (s.run call).alive ∧
    (call.file = [] ∨ ∃ stream rest, s.opened call = stream :: rest ∧
      (s.step call).streams = (stream ++ call.file) :: rest)

/-- The caller gets a value that success does not have. -/
def Tells : Prop := ∃ v, (s.run call).returned = some v ∧ v ≠ success

/-- A call delivers its file or tells that it has failed, and leaves a new connection to the next
call if it has. -/
structure Fulfils : Prop where
  outcome : s.Delivers call ∨ s.Tells call
  reconnects : ¬ s.Delivers call → (s.step call).ret = 1

end Downlink

def AcceptsAll (results : Nat → SendResult) : Nat → List (List UInt8) → Prop
  | _, [] => True
  | i, block :: blocks =>
      (∃ n, results i = .accepted n ∧ block.length ≤ n) ∧ AcceptsAll results (i + 1) blocks

/-- A connection is there or can be set up, the file opens, and every `send` takes its whole
block; an empty file needs nothing. -/
def DownlinkCall.Smooth (s : Downlink) (call : DownlinkCall) : Prop :=
  call.file = [] ∨
    ((s.ret = 1 → call.env.socketOk ∧ call.env.ptonOk ∧ call.env.connectOk) ∧ call.env.opens ∧
      AcceptsAll call.env.results 0 (call.file.toChunks 32768))

theorem sendBlocks_of_acceptsAll {results : Nat → SendResult} {blocks : List (List UInt8)} {i : Nat}
    (h : AcceptsAll results i blocks) :
    sendBlocks results i blocks = { ret := 0, sent := blocks.flatten, alive := true } := by
  induction blocks generalizing i with
  | nil => rfl
  | cons block blocks ih =>
      obtain ⟨⟨n, hn, hle⟩, hrest⟩ := h
      simp only [sendBlocks, hn, ih hrest, List.take_of_length_le hle, List.flatten_cons]

theorem sendBlocks_sent_le (results : Nat → SendResult) (blocks : List (List UInt8)) (i : Nat) :
    (sendBlocks results i blocks).sent.length ≤ blocks.flatten.length := by
  induction blocks generalizing i with
  | nil => exact Nat.le_refl _
  | cons block blocks ih =>
      simp only [sendBlocks]
      split
      · have hrest := ih (i + 1)
        simp only [List.length_append, List.length_take, List.flatten_cons]
        omega
      · exact Nat.zero_le _
      · exact Nat.zero_le _

theorem acceptsAll_of_sent {results : Nat → SendResult} {blocks : List (List UInt8)} {i : Nat}
    (hne : ∀ block ∈ blocks, block ≠ [])
    (h : (sendBlocks results i blocks).sent.length = blocks.flatten.length) :
    AcceptsAll results i blocks := by
  induction blocks generalizing i with
  | nil => trivial
  | cons block blocks ih =>
      have hpos : 0 < block.length := List.length_pos_iff.mpr (hne block List.mem_cons_self)
      cases hr : results i with
      | accepted n =>
          have hle := sendBlocks_sent_le results blocks (i + 1)
          simp only [sendBlocks, hr, List.length_append, List.length_take, List.flatten_cons] at h
          exact ⟨⟨n, hr, by omega⟩,
            ih (fun b hb => hne b (List.mem_cons_of_mem _ hb)) (by omega)⟩
      | failed =>
          simp only [sendBlocks, hr, List.length_nil, List.flatten_cons, List.length_append] at h
          omega
      | peerClosed =>
          simp only [sendBlocks, hr, List.length_nil, List.flatten_cons, List.length_append] at h
          omega

/-- Every connection carries files of successive calls, each of them whole. -/
def Downlink.Whole (s : Downlink) (files : List (List UInt8)) : Prop :=
  ∀ stream ∈ s.streams, ∃ fs, fs <:+: files ∧ stream = fs.flatten

namespace Downlink
variable {s : Downlink} {call : DownlinkCall}

theorem not_tells (s : Downlink) (call : DownlinkCall) : ¬ s.Tells call := by
  rintro ⟨v, hv, hne⟩
  unfold DownlinkRun.returned at hv
  split at hv
  · exact hne (Option.some.inj hv).symm
  · cases hv

theorem run_smooth (hc : s.ret = 1 → call.env.socketOk ∧ call.env.ptonOk ∧ call.env.connectOk)
    (ho : call.env.opens = true) (ha : AcceptsAll call.env.results 0 (call.file.toChunks 32768)) :
    s.run call = { ret := 0, sent := call.file, alive := true } := by
  have hconn : ¬ (s.ret = 1 ∧ ¬ (call.env.socketOk = true ∧ call.env.ptonOk = true ∧
      call.env.connectOk = true)) := fun h => h.2 (hc h.1)
  have hflat : (call.file.toChunks 32768).flatten = call.file := flatten_toChunks _
  rw [run, downlinkClient, if_neg hconn, if_neg (not_not.mpr ho), sendBlocks_of_acceptsAll ha, hflat]

theorem smooth_of_sent (hne : call.file ≠ []) (h : (s.run call).sent = call.file) :
    (s.ret = 1 → call.env.socketOk ∧ call.env.ptonOk ∧ call.env.connectOk) ∧ call.env.opens ∧
      AcceptsAll call.env.results 0 (call.file.toChunks 32768) := by
  rw [run, downlinkClient] at h
  split at h
  · exact absurd h.symm hne
  · rename_i hconn
    split at h
    · exact absurd h.symm hne
    · rename_i ho
      refine ⟨fun hr => by_contra fun hn => hconn ⟨hr, hn⟩, not_not.mp ho, ?_⟩
      have hflat : (call.file.toChunks 32768).flatten = call.file := flatten_toChunks _
      exact acceptsAll_of_sent (fun block hb => ne_nil_of_mem_toChunks hb) (by rw [h, hflat])

theorem run_empty (he : call.file = []) :
    (s.run call).sent = [] ∧ (s.run call).alive = true ∧
      (s.run call).ret = if s.ret = 1 ∧ s.connects call = false then 1 else 0 := by
  have hconn : (s.ret = 1 ∧ ¬ (call.env.socketOk = true ∧ call.env.ptonOk = true ∧
      call.env.connectOk = true)) ↔ (s.ret = 1 ∧ s.connects call = false) := by
    simp only [connects, decide_eq_false_iff_not, not_and]
    tauto
  simp only [run, downlinkClient, hconn, he]
  split
  · exact ⟨rfl, rfl, rfl⟩
  · split
    · exact ⟨rfl, rfl, rfl⟩
    · exact ⟨rfl, rfl, rfl⟩

theorem opened_ne_nil (hs : s.ret ≠ 1 → s.streams ≠ []) (hr : (s.run call).ret ≠ 1) :
    s.opened call ≠ [] := by
  unfold opened
  split
  · exact List.cons_ne_nil _ _
  · rename_i hconn
    refine hs fun hret => hr ?_
    have hfail : s.ret = 1 ∧ ¬ (call.env.socketOk = true ∧ call.env.ptonOk = true ∧
        call.env.connectOk = true) :=
      ⟨hret, fun hall => hconn (decide_eq_true ⟨hret, hall⟩)⟩
    rw [run, downlinkClient, if_pos hfail]

structure Ready (s : Downlink) : Prop where
  alive : s.alive = true
  connected : s.ret ≠ 1 → s.streams ≠ []

theorem streams_step (h : s.alive = true) (call : DownlinkCall) :
    (s.step call).streams = append (s.run call).sent (s.opened call) := by
  rw [step, if_pos h]

theorem ret_step (h : s.alive = true) (call : DownlinkCall) :
    (s.step call).ret = (s.run call).ret := by
  rw [step, if_pos h]

theorem alive_step (h : s.alive = true) (call : DownlinkCall) :
    (s.step call).alive = (s.run call).alive := by
  rw [step, if_pos h]

theorem Delivers.smooth (h : s.Delivers call) (hs : s.Ready) : call.Smooth s := by
  obtain ⟨-, hempty | ⟨stream, rest, hopened, hstep⟩⟩ := h
  · exact Or.inl hempty
  · by_cases hne : call.file = []
    · exact Or.inl hne
    · rw [streams_step hs.alive, hopened, append, List.cons.injEq] at hstep
      exact Or.inr (smooth_of_sent hne (List.append_cancel_left hstep.1))

theorem delivers_of_smooth (h : call.Smooth s) (hs : s.Ready) : s.Delivers call := by
  obtain hempty | ⟨hc, ho, ha⟩ := h
  · exact ⟨(run_empty hempty).2.1, Or.inl hempty⟩
  · have hrun := run_smooth hc ho ha
    have hret : (s.run call).ret ≠ 1 := by
      rw [hrun]
      exact Int.zero_ne_one
    have hne := opened_ne_nil hs.connected hret
    obtain ⟨stream, rest, hopened⟩ := List.exists_cons_of_ne_nil hne
    refine ⟨by rw [hrun], Or.inr ⟨stream, rest, hopened, ?_⟩⟩
    rw [streams_step hs.alive, hopened, hrun, append]

theorem fulfils_iff (hs : s.Ready) : s.Fulfils call ↔ call.Smooth s := by
  constructor
  · intro h
    exact (h.outcome.resolve_right (not_tells s call)).smooth hs
  · intro h
    have hd := delivers_of_smooth h hs
    exact ⟨Or.inl hd, fun hn => absurd hd hn⟩

theorem Fulfils.ready (h : s.Fulfils call) (hs : s.Ready) : (s.step call).Ready := by
  have hd := h.outcome.resolve_right (not_tells s call)
  refine ⟨(alive_step hs.alive call).trans hd.1, fun hr => ?_⟩
  rw [ret_step hs.alive] at hr
  obtain ⟨stream, rest, hopened⟩ := List.exists_cons_of_ne_nil (opened_ne_nil hs.connected hr)
  rw [streams_step hs.alive, hopened, append]
  exact List.cons_ne_nil _ _

structure Steady (s : Downlink) (files : List (List UInt8)) : Prop where
  alive : s.alive = true
  idle : s.ret = 1 → s.streams = [] ∧ files.flatten = []
  busy : s.ret ≠ 1 → s.streams = [files.flatten]

theorem Steady.ready {files : List (List UInt8)} (h : s.Steady files) : s.Ready :=
  ⟨h.alive, fun hr => by rw [h.busy hr]; exact List.cons_ne_nil _ _⟩

theorem Steady.opened {files : List (List UInt8)} (h : s.Steady files)
    (hc : s.ret = 1 → s.connects call = true) : s.opened call = [files.flatten] := by
  by_cases hr : s.ret = 1
  · rw [Downlink.opened, if_pos (hc hr), (h.idle hr).1, (h.idle hr).2]
  · have hno : ¬ s.connects call = true := by
      rw [connects, decide_eq_true_eq]
      exact fun hall => hr hall.1
    rw [Downlink.opened, if_neg hno, h.busy hr]

theorem steady_step {files : List (List UInt8)} (h : s.Steady files) (hc : call.Smooth s) :
    (s.step call).Steady (files ++ [call.file]) := by
  have hstreams := streams_step h.alive call
  have hret := ret_step h.alive call
  have hflat : (files ++ [call.file]).flatten = files.flatten ++ call.file := by simp
  have hsent (hcon : s.ret = 1 → s.connects call = true) (hr : (s.run call).ret = 0)
      (hs : (s.run call).sent = call.file) (ha : (s.run call).alive = true) :
      (s.step call).Steady (files ++ [call.file]) := by
    refine ⟨(alive_step h.alive call).trans ha, fun h1 => ?_, fun _ => ?_⟩
    · rw [hret, hr] at h1
      exact absurd h1 Int.zero_ne_one
    · rw [hstreams, h.opened hcon, hs, append, hflat]
  obtain hempty | ⟨hconn, ho, ha⟩ := hc
  · obtain ⟨hs, halive, hr⟩ := run_empty (s := s) hempty
    by_cases hidle : s.ret = 1 ∧ s.connects call = false
    · have hno : ¬ s.connects call = true := Bool.not_eq_true _ ▸ hidle.2
      refine ⟨(alive_step h.alive call).trans halive, fun _ => ?_, fun h1 => ?_⟩
      · rw [hstreams, Downlink.opened, if_neg hno, (h.idle hidle.1).1, hflat, (h.idle hidle.1).2,
          hempty]
        exact ⟨rfl, rfl⟩
      · rw [hret, hr, if_pos hidle] at h1
        exact absurd rfl h1
    · rw [if_neg hidle] at hr
      refine hsent (fun h1 => ?_) hr (hs.trans hempty.symm) halive
      exact Bool.of_not_eq_false fun hf => hidle ⟨h1, hf⟩
  · have hrun := run_smooth hconn ho ha
    refine hsent (fun h1 => ?_) (by rw [hrun]) (by rw [hrun]) (by rw [hrun])
    exact decide_eq_true ⟨h1, hconn h1⟩

theorem steady_init : init.Steady [] :=
  ⟨rfl, fun _ => ⟨rfl, rfl⟩, fun h => absurd rfl h⟩

theorem steady_run {files : List (List UInt8)} {calls : List DownlinkCall} (h : s.Steady files)
    (hc : Along step (fun s call => call.Smooth s) s calls) :
    (calls.foldl step s).Steady (files ++ calls.map DownlinkCall.file) := by
  induction calls generalizing s files with
  | nil => simpa using h
  | cons call calls ih =>
      have hnext := ih (steady_step h hc.1) hc.2
      simpa using hnext

/-- In a run every call fulfils its contract, and every connection carries whole files, exactly
when nothing goes wrong in any call. -/
theorem fulfilled_iff (calls : List DownlinkCall) :
    (Along step Fulfils init calls ∧
      (calls.foldl step init).Whole (calls.map DownlinkCall.file)) ↔
      Along step (fun s call => call.Smooth s) init calls := by
  have hcalls : Along step Fulfils init calls ↔ Along step (fun s call => call.Smooth s) init calls :=
    along_congr Ready (fun _ _ hs h => h.ready hs) (fun _ _ hs => fulfils_iff hs) calls init
      steady_init.ready
  rw [hcalls]
  refine and_iff_left_of_imp fun h => ?_
  have hrun := steady_run steady_init h
  rw [List.nil_append] at hrun
  intro stream hstream
  by_cases hr : (calls.foldl step init).ret = 1
  · rw [(hrun.idle hr).1] at hstream
    exact absurd hstream List.not_mem_nil
  · rw [hrun.busy hr, List.mem_singleton] at hstream
    exact ⟨_, List.infix_rfl, hstream⟩

def cutShort : DownlinkCall := ⟨⟨true, true, true, true, fun _ => .accepted 3⟩, [1, 2, 3, 4]⟩

theorem not_fulfilled : ¬ ∀ calls : List DownlinkCall, Along step Fulfils init calls ∧
    (calls.foldl step init).Whole (calls.map DownlinkCall.file) := by
  intro h
  have hd := ((h [cutShort]).1.1.outcome.resolve_right (not_tells _ _)).smooth steady_init.ready
  obtain hempty | ⟨-, -, hall⟩ := hd
  · cases hempty
  · obtain ⟨⟨n, hn, hle⟩, -⟩ := hall
    cases hn
    exact absurd hle (by decide)

theorem step_downlink (server : Server) (s : Downlink) (hr : s.ret = server.ret)
    (ha : s.alive = true) (env : ReceiveEnv) (headerValues : Nat → UInt8) (length : UInt16)
    (data : List UInt8) (client : DownlinkEnv) (ho : env.opens = true)
    (hw : env.headerWritten ≠ 0) :
    let call : DownlinkCall :=
      ⟨client, (cspHeader headerValues length).take env.headerWritten ++ data⟩
    (server.step (.downlink env headerValues length data client)).ret = (s.step call).ret ∧
      (server.step (.downlink env headerValues length data client)).running =
        (server.running && (s.step call).alive) := by
  intro call
  simp only [Server.step, receivePacket, ho, not_true_eq_false, if_false, hw, ret_step ha,
    alive_step ha, run, hr]
  exact ⟨rfl, rfl⟩

end Downlink
end UhfGs.Station
