import Mathlib.Data.Set.Subsingleton
import UhfGs.Library.Descriptors
import UhfGs.Library.Runs
import UhfGs.Station.DownlinkClient
import UhfGs.Station.Survival

/-! The descriptors that the station's functions open and close. -/
namespace UhfGs.Station
open Bytes Csp Descriptors Runs

/-- What a descriptor refers to: a stream of the C library, the serial port, a connection to MCS
that `downlink_client` has set up, or something else. -/
inductive Handle where
  | stream
  | serial
  | mcs
  | other
  deriving DecidableEq

abbrev Fds := Table Handle

/-- The process: its descriptors, `ret` and `sock` of the downlink client, and the last angles of
the rotator. -/
structure Proc where
  alive : Bool
  fds : Fds
  ret : Int
  sock : Option Nat
  aziOld : Int
  eleOld : Int

namespace Proc

def start (others : Finset Nat) : Proc :=
  ⟨true, fun fd => if fd ∈ others then some .other else none, 1, some 0, -1, -1⟩

section
variable (limit : Nat) (p : Proc)

/-- `downlink_client` up to the file, and whether it goes on to that. What it returns before has
been opened stays open. -/
def connect (env : DownlinkEnv) : Proc × Bool :=
  if p.ret = 1 then
    match tryOpen limit env.socketOk p.fds .mcs with
    | none => ({ p with sock := none }, false)
    | some (fd, fds) =>
        let p := { p with fds := fds, sock := some fd }
        if env.ptonOk ∧ env.connectOk then ({ p with ret := 0 }, true) else (p, false)
  else (p, true)

/-- The rest of `downlink_client`: nothing closes the stream of the file. -/
def sendFile (env : DownlinkEnv) (file : List UInt8) : Proc :=
  match tryOpen limit env.opens p.fds .stream with
  | none => p
  | some (_, fds) =>
      let run := sendBlocks env.results 0 (file.toChunks 32768)
      let p := { p with fds := fds, alive := p.alive && run.alive }
      if run.ret = 1 then
        { p with ret := 1, fds := (p.sock.map fun fd => release fds fd).getD fds }
      else p

def downlinkClient (env : DownlinkEnv) (file : List UInt8) : Proc :=
  if (p.connect limit env).2 then (p.connect limit env).1.sendFile limit env file
  else (p.connect limit env).1

def receivePacket (env : ReceiveEnv) (client : DownlinkEnv) (file : List UInt8) : Proc :=
  match tryOpen limit env.opens p.fds .stream with
  | none => p
  | some (fd, fds) =>
      if env.headerWritten = 0 then { p with fds := fds }
      else ({ p with fds := release fds fd } : Proc).downlinkClient limit client file

/-- A function that ends the process where it cannot open its file. -/
def throughFile (ok : Bool) : Proc :=
  match openClose limit ok p.fds .stream with
  | none => { p with alive := false }
  | some fds => { p with fds := fds }

/-- `process_mcs_file` closes its file on every way out. -/
def processMcsFile (mcsUplinkFile : Option OpenFile) : Proc :=
  p.throughFile limit mcsUplinkFile.isSome

/-- `send_packet`: the file of the message, tle.txt for some commands, and the backup. -/
def sendPacket (env : SendEnv) : Proc :=
  match env.buffer with
  | none => p
  | some packet =>
      let p := p.processMcsFile limit env.mcsUplinkFile
      match Station.processMcsFile env.stack env.mcsUplinkFile packet.data with
      | .exits => { p with alive := false }
      | .rejected => p
      | .accepted params data =>
          let p :=
            if 15 < params.toHeader.dstAddr ∧ (commandOf data).any Command.usesTle then
              p.throughFile limit env.tle.opens
            else p
          let p := p.throughFile limit env.backupOpens
          { p with alive := p.alive && (Station.sendPacket env).returned }

/-- What `serial_read` and `serial_set_az_el` do with the port. -/
def throughSerial (opens setInterface : Bool) : Proc :=
  match tryOpen limit opens p.fds .serial with
  | none => p
  | some (fd, fds) =>
      if setInterface then { p with fds := release fds fd } else { p with fds := fds }

/-- `MIN_ANGLE_THRESHOLD` is 2; negative angles are those of the start. -/
def moves (azi ele : Int) : Bool :=
  p.aziOld < 0 ∨ p.eleOld < 0 ∨ 2 ≤ (azi - p.aziOld).natAbs ∨ 2 ≤ (ele - p.eleOld).natAbs

def serialSetAzEl (azi ele : Int) (opens setInterface : Bool) : Proc :=
  if p.moves azi ele then
    ({ p with aziOld := azi, eleOld := ele } : Proc).throughSerial limit opens setInterface
  else p

end

inductive Op where
  | receivePacket (env : ReceiveEnv) (client : DownlinkEnv) (file : List UInt8)
  | downlinkClient (env : DownlinkEnv) (file : List UInt8)
  | sendPacket (env : SendEnv)
  | processMcsFile (mcsUplinkFile : Option OpenFile)
  | serialRead (opens setInterface : Bool)
  | serialSetAzEl (azi ele : Int) (opens setInterface : Bool)

def step (limit : Nat) (p : Proc) (op : Op) : Proc :=
  if p.alive then
    match op with
    | .receivePacket env client file => p.receivePacket limit env client file
    | .downlinkClient env file => p.downlinkClient limit env file
    | .sendPacket env => p.sendPacket limit env
    | .processMcsFile mcsUplinkFile => p.processMcsFile limit mcsUplinkFile
    | .serialRead opens setInterface => p.throughSerial limit opens setInterface
    | .serialSetAzEl azi ele opens setInterface => p.serialSetAzEl limit azi ele opens setInterface
  else p

def connections (p : Proc) : Set Nat := {fd | p.fds fd = some .mcs}

section
variable (limit : Nat) (p : Proc)

def NewSocket (env : DownlinkEnv) : Prop :=
  p.ret = 1 ∧ CanOpen limit env.socketOk p.fds

def SetsUp : Op → Prop
  | .receivePacket env client _ =>
      CanOpen limit env.opens p.fds ∧ env.headerWritten ≠ 0 ∧ p.NewSocket limit client
  | .downlinkClient env _ => p.NewSocket limit env
  | _ => False

/-- From one state of the process to another only the connection to MCS may change, of which there
is at most one, and no second one is opened. -/
structure Keeps (p q : Proc) (setsUp : Prop) : Prop where
  fds : without .mcs q.fds = without .mcs p.fds
  one : q.connections.Subsingleton
  first : setsUp → p.connections = ∅

/-- A call that comes back leaves the descriptors as they were, but for the one connection. -/
def Conserves (op : Op) : Prop :=
  (p.step limit op).alive → p.Keeps (p.step limit op) (p.SetsUp limit op)

/-- `downlink_client` gets as far as a stream for its file, with a descriptor for it besides the
one of a new socket. -/
def GetsFile (env : DownlinkEnv) : Prop :=
  (p.ret = 1 → env.socketOk ∧ env.ptonOk ∧ env.connectOk) ∧ env.opens ∧
    (if p.ret = 1 then 1 else 0) < (free limit p.fds).card

/-- A call of `downlink_client` opens its file only if a closed connection ends the process, and a
socket only if no other one is left over. -/
def DownlinkBalanced (env : DownlinkEnv) (file : List UInt8) : Prop :=
  (p.GetsFile limit env → hitsClosed env.results 0 (file.toChunks 32768) = true) ∧
    (¬ p.GetsFile limit env → p.NewSocket limit env → p.connections = ∅)

/-- What a call needs to leave the descriptors alone. -/
def Balanced : Op → Prop
  | .receivePacket env client file =>
      CanOpen limit env.opens p.fds →
        env.headerWritten ≠ 0 ∧ p.DownlinkBalanced limit client file
  | .downlinkClient env file => p.DownlinkBalanced limit env file
  | .sendPacket _ => True
  | .processMcsFile _ => True
  | .serialRead opens setInterface => CanOpen limit opens p.fds → setInterface
  | .serialSetAzEl azi ele opens setInterface =>
      p.moves azi ele → CanOpen limit opens p.fds → setInterface

end

structure Inv (p : Proc) : Prop where
  one : p.connections.Subsingleton
  sock : p.ret ≠ 1 → ∃ fd, p.sock = some fd ∧ p.fds fd = some .mcs

variable {limit : Nat} {p q : Proc} {env : DownlinkEnv} {file : List UInt8}

theorem Keeps.refl (h : p.connections.Subsingleton) : p.Keeps p False := ⟨rfl, h, False.elim⟩

theorem sendFile_leaks (file : List UInt8)
    (hsock : ∃ fd, p.sock = some fd ∧ p.fds fd = some .mcs)
    (h : CanOpen limit env.opens p.fds) :
    without .mcs (p.sendFile limit env file).fds ≠ without .mcs p.fds := by
  obtain ⟨f, fds, hopen⟩ := h.exists .stream
  obtain ⟨hfree, rfl⟩ := tryOpen_eq_some hopen
  obtain ⟨fd, hsock, hmcs⟩ := hsock
  have hne : fd ≠ f := by
    rintro rfl
    rw [hfree] at hmcs
    cases hmcs
  have hleak := without_update_ne (a := .mcs) (b := .stream) hfree (by decide)
  have hclosed : without .mcs (release (Function.update p.fds f (some .stream)) fd) =
      without .mcs (Function.update p.fds f (some .stream)) :=
    without_release (by rwa [Function.update_of_ne hne])
  simp only [sendFile, hopen, hsock, Option.map_some, Option.getD_some]
  split
  · rw [hclosed]
    exact hleak
  · exact hleak

theorem sendFile_alive (file : List UInt8) (hp : p.alive = true)
    (h : CanOpen limit env.opens p.fds) :
    (p.sendFile limit env file).alive = !hitsClosed env.results 0 (file.toChunks 32768) := by
  obtain ⟨f, fds, hopen⟩ := h.exists .stream
  simp only [sendFile, hopen, hp, Bool.true_and]
  split
  · exact sendBlocks_alive _ _ _
  · exact sendBlocks_alive _ _ _

theorem sendFile_closed (h : ¬ CanOpen limit env.opens p.fds) :
    p.sendFile limit env file = p := by
  simp only [sendFile, tryOpen_eq_none h]

/-- The connection is there; or there is no socket; or a new socket is left open, whether or not
it gets connected. -/
theorem connect_cases (limit : Nat) (p : Proc) (env : DownlinkEnv) :
    (p.ret ≠ 1 ∧ p.connect limit env = (p, true)) ∨
    (¬ p.NewSocket limit env ∧ p.ret = 1 ∧ p.connect limit env = ({ p with sock := none }, false)) ∨
    ∃ fd ret go, p.NewSocket limit env ∧ p.fds fd = none ∧ (go = true → ret ≠ 1) ∧
      p.connect limit env =
        ({ p with fds := Function.update p.fds fd (some .mcs), sock := some fd, ret := ret },
          go) := by
  by_cases hret : p.ret = 1
  · refine Or.inr ?_
    cases hopen : tryOpen limit env.socketOk p.fds .mcs with
    | none =>
        refine Or.inl ⟨fun hn => ?_, hret, ?_⟩
        · obtain ⟨fd, fds, hnew⟩ := hn.2.exists .mcs
          rw [hopen] at hnew
          cases hnew
        · rw [connect, if_pos hret, hopen]
    | some new =>
        obtain ⟨hfree, hfds⟩ := tryOpen_eq_some hopen
        have hnew : p.NewSocket limit env := ⟨hret, canOpen_of_tryOpen hopen⟩
        by_cases hok : env.ptonOk = true ∧ env.connectOk = true
        · refine Or.inr ⟨new.1, 0, true, hnew, hfree, fun _ => Int.zero_ne_one, ?_⟩
          rw [connect, if_pos hret, hopen]
          simp only [hok, and_self, if_true, hfds]
        · have hfalse : false = true → p.ret ≠ 1 := fun hf => absurd hf (by decide)
          refine Or.inr ⟨new.1, p.ret, false, hnew, hfree, hfalse, ?_⟩
          rw [connect, if_pos hret, hopen]
          simp only [hok, if_false, hfds]
  · exact Or.inl ⟨hret, if_neg hret⟩

theorem connect_ret (hgo : (p.connect limit env).2 = true) : (p.connect limit env).1.ret ≠ 1 := by
  obtain ⟨hret, heq⟩ | ⟨-, -, heq⟩ | ⟨fd, ret, go, -, -, hret, heq⟩ := connect_cases limit p env
  · rw [heq]
    exact hret
  · rw [heq] at hgo
    cases hgo
  · rw [heq] at hgo ⊢
    exact hret hgo

theorem connect_sock (h : p.Inv) (hret : (p.connect limit env).1.ret ≠ 1) :
    ∃ fd, (p.connect limit env).1.sock = some fd ∧ (p.connect limit env).1.fds fd = some .mcs := by
  obtain ⟨hold, heq⟩ | ⟨-, hone, heq⟩ | ⟨fd, ret, go, -, -, -, heq⟩ := connect_cases limit p env
  · rw [heq]
    exact h.sock hold
  · rw [heq] at hret
    exact absurd hone hret
  · rw [heq]
    exact ⟨fd, rfl, Function.update_self _ _ _⟩

theorem connect_keeps_iff (h : p.Inv) :
    p.Keeps (p.connect limit env).1 (p.NewSocket limit env) ↔
      (p.NewSocket limit env → p.connections = ∅) := by
  refine ⟨Keeps.first, fun hfirst => ?_⟩
  obtain ⟨-, heq⟩ | ⟨-, -, heq⟩ | ⟨fd, ret, go, hnew, hfree, -, heq⟩ := connect_cases limit p env
  · rw [heq]
    exact ⟨rfl, h.one, hfirst⟩
  · rw [heq]
    exact ⟨rfl, h.one, hfirst⟩
  · rw [heq]
    refine ⟨without_update_self hfree, fun a ha b hb => ?_, hfirst⟩
    have honly (k : Nat) (hk : Function.update p.fds fd (some Handle.mcs) k = some .mcs) :
        k = fd := by
      by_contra hne
      rw [Function.update_of_ne hne] at hk
      have hmem : k ∈ p.connections := hk
      rw [hfirst hnew] at hmem
      exact hmem
    rw [honly a ha, honly b hb]

theorem connect_alive : (p.connect limit env).1.alive = p.alive ∧
    without .mcs (p.connect limit env).1.fds = without .mcs p.fds := by
  obtain ⟨-, heq⟩ | ⟨-, -, heq⟩ | ⟨fd, ret, go, -, hfree, -, heq⟩ := connect_cases limit p env
  · rw [heq]
    exact ⟨rfl, rfl⟩
  · rw [heq]
    exact ⟨rfl, rfl⟩
  · rw [heq]
    exact ⟨rfl, without_update_self hfree⟩

theorem getsFile_iff : p.GetsFile limit env ↔
    (p.connect limit env).2 = true ∧ CanOpen limit env.opens (p.connect limit env).1.fds := by
  unfold connect GetsFile
  by_cases hret : p.ret = 1
  · by_cases hopen : CanOpen limit env.socketOk p.fds
    · obtain ⟨fd, fds, hnew⟩ := hopen.exists .mcs
      have hcard := card_free_tryOpen hnew
      have hroom : 1 < (free limit p.fds).card ↔ 0 < (free limit fds).card := by omega
      by_cases hok : env.ptonOk = true ∧ env.connectOk = true
      · simp only [hret, if_true, true_imp_iff, hnew, hok, and_self, true_and, hroom]
        exact and_iff_right ⟨hopen.1, trivial⟩
      · simp only [hret, if_true, true_imp_iff, hnew, hok, and_false, false_and, if_false,
          Bool.false_eq_true]
    · have hnone : ¬ (env.socketOk = true ∧ 1 < (free limit p.fds).card) :=
        fun h => hopen ⟨h.1, Nat.zero_lt_of_lt h.2⟩
      simp only [hret, tryOpen_eq_none hopen, if_true, true_imp_iff, Bool.false_eq_true, false_and,
        iff_false]
      exact fun h => hnone ⟨h.1.1, h.2.2⟩
  · simp only [hret, false_imp_iff, if_false, true_and, CanOpen]

theorem downlinkClient_no_file (h : ¬ p.GetsFile limit env) :
    p.downlinkClient limit env file = (p.connect limit env).1 := by
  unfold downlinkClient
  split
  · rename_i hgo
    exact sendFile_closed fun hopen => h (getsFile_iff.mpr ⟨hgo, hopen⟩)
  · rfl

theorem downlinkClient_keeps_iff (hp : p.alive = true) (h : p.Inv) :
    ((p.downlinkClient limit env file).alive = true →
      p.Keeps (p.downlinkClient limit env file) (p.NewSocket limit env)) ↔
      p.DownlinkBalanced limit env file := by
  by_cases hfile : p.GetsFile limit env
  · obtain ⟨hgo, hopen⟩ := getsFile_iff.mp hfile
    have hrun : p.downlinkClient limit env file = (p.connect limit env).1.sendFile limit env file :=
      if_pos hgo
    have halive := sendFile_alive file (connect_alive.1.trans hp) hopen
    have hleak := sendFile_leaks file (connect_sock h (connect_ret hgo)) hopen
    rw [connect_alive.2] at hleak
    have hnever : ¬ p.Keeps ((p.connect limit env).1.sendFile limit env file)
        (p.NewSocket limit env) := fun hk => hleak hk.fds
    simp only [hrun, halive, hnever, imp_false, DownlinkBalanced, hfile, true_imp_iff,
      not_true_eq_false, false_imp_iff, and_true, Bool.not_eq_true', Bool.not_eq_false]
  · rw [downlinkClient_no_file hfile, connect_alive.1, hp, connect_keeps_iff h]
    simp only [true_imp_iff, DownlinkBalanced, hfile, false_imp_iff, true_and, not_false_eq_true]

theorem sendFile_agrees (hp : p.alive = true) (hret : p.ret = 0)
    (hroom : 0 < (free limit p.fds).card) :
    (p.sendFile limit env file).ret = (Station.downlinkClient env 0 file).ret ∧
      (p.sendFile limit env file).alive = (Station.downlinkClient env 0 file).alive := by
  have hconn : ¬ ((0 : Int) = 1 ∧ ¬ (env.socketOk = true ∧ env.ptonOk = true ∧
      env.connectOk = true)) := fun h => absurd h.1 Int.zero_ne_one
  rw [Station.downlinkClient, if_neg hconn]
  by_cases hopen : env.opens = true
  · obtain ⟨fd, fds, hnew⟩ := CanOpen.exists ⟨hopen, hroom⟩ .stream
    have hblocks := sendBlocks_ret env.results 0 (file.toChunks 32768)
    simp only [sendFile, hnew, hp, Bool.true_and]
    rw [if_neg (not_not.mpr hopen)]
    split
    · rename_i hone
      exact ⟨hone.symm, rfl⟩
    · rename_i hone
      exact ⟨hret.trans (hblocks.resolve_right hone).symm, rfl⟩
  · rw [sendFile_closed fun h => hopen h.1, if_pos hopen]
    exact ⟨hret, hp⟩

theorem downlinkClient_agrees (hp : p.alive = true) (hret : p.ret = 0 ∨ p.ret = 1)
    (hroom : 1 < (free limit p.fds).card) :
    (p.downlinkClient limit env file).ret = (Station.downlinkClient env p.ret file).ret ∧
      (p.downlinkClient limit env file).alive = (Station.downlinkClient env p.ret file).alive := by
  obtain hret | hret := hret
  · have hconnect : p.connect limit env = (p, true) := by
      rw [connect, if_neg (by rw [hret]; exact Int.zero_ne_one)]
    simp only [downlinkClient, hconnect, if_true, hret]
    exact sendFile_agrees hp hret (Nat.zero_lt_of_lt hroom)
  · by_cases hok : env.socketOk = true ∧ env.ptonOk = true ∧ env.connectOk = true
    · obtain ⟨fd, fds, hnew⟩ := CanOpen.exists ⟨hok.1, Nat.zero_lt_of_lt hroom⟩ .mcs
      have hcard := card_free_tryOpen hnew
      have hsame : Station.downlinkClient env 1 file = Station.downlinkClient env 0 file := by
        simp only [Station.downlinkClient, hok, and_self, not_true_eq_false, and_false, if_false]
      simp only [downlinkClient, connect, hret, if_true, hnew, hok.2, and_self, hsame]
      exact sendFile_agrees hp rfl (by simp only; omega)
    · have hfail : Station.downlinkClient env 1 file = { ret := 1 } := if_pos ⟨rfl, hok⟩
      have hstop : (p.connect limit env).2 = false ∧ (p.connect limit env).1.ret = 1 := by
        simp only [connect, hret, if_true]
        split
        · exact ⟨rfl, rfl⟩
        · rename_i fd fds hnew
          rw [if_neg fun h => hok ⟨(canOpen_of_tryOpen hnew).1, h⟩]
          exact ⟨rfl, rfl⟩
      simp only [downlinkClient, hstop.1, if_false, Bool.false_eq_true, hret, hfail]
      exact ⟨hstop.2, connect_alive.1.trans hp⟩

theorem downlinkClient_sock (hp : p.alive = true) (h : p.Inv)
    (hb : p.DownlinkBalanced limit env file)
    (ha : (p.downlinkClient limit env file).alive = true)
    (hret : (p.downlinkClient limit env file).ret ≠ 1) :
    ∃ fd, (p.downlinkClient limit env file).sock = some fd ∧
      (p.downlinkClient limit env file).fds fd = some .mcs := by
  by_cases hfile : p.GetsFile limit env
  · obtain ⟨hgo, hopen⟩ := getsFile_iff.mp hfile
    have hrun : p.downlinkClient limit env file = (p.connect limit env).1.sendFile limit env file :=
      if_pos hgo
    have halive := sendFile_alive file (connect_alive.1.trans hp) hopen
    rw [hrun, halive, hb.1 hfile] at ha
    cases ha
  · rw [downlinkClient_no_file hfile] at hret ⊢
    exact connect_sock h hret

theorem receivePacket_closed (renv : ReceiveEnv)
    (ho : ¬ CanOpen limit renv.opens p.fds) :
    p.receivePacket limit renv env file = p := by
  simp only [receivePacket, tryOpen_eq_none ho]

theorem receivePacket_saved {renv : ReceiveEnv}
    (ho : CanOpen limit renv.opens p.fds) (hw : renv.headerWritten ≠ 0) :
    p.receivePacket limit renv env file = p.downlinkClient limit env file := by
  obtain ⟨fd, fds, hopen⟩ := ho.exists .stream
  simp only [receivePacket, hopen, if_neg hw, release_tryOpen hopen]

theorem receivePacket_leaks {renv : ReceiveEnv} (env : DownlinkEnv) (file : List UInt8)
    (hp : p.alive = true) (ho : CanOpen limit renv.opens p.fds) (hw : renv.headerWritten = 0) :
    (p.receivePacket limit renv env file).alive = true ∧
      without .mcs (p.receivePacket limit renv env file).fds ≠ without .mcs p.fds := by
  obtain ⟨fd, fds, hopen⟩ := ho.exists .stream
  obtain ⟨hfree, rfl⟩ := tryOpen_eq_some hopen
  simp only [receivePacket, hopen, if_pos hw]
  exact ⟨hp, without_update_ne hfree (by decide)⟩

theorem throughFile_eq {ok : Bool} (ha : (p.throughFile limit ok).alive = true) :
    p.throughFile limit ok = p := by
  unfold throughFile at ha ⊢
  split at ha
  · cases ha
  · rename_i fds hopen
    rw [openClose_eq_some hopen]

theorem sendPacket_eq {env : SendEnv} (ha : (p.sendPacket limit env).alive = true) :
    p.sendPacket limit env = p := by
  unfold sendPacket at ha ⊢
  split at ha
  · rfl
  · rename_i packet _
    simp only at ha ⊢
    split at ha
    · cases ha
    · exact throughFile_eq ha
    · rename_i params data _
      simp only [Bool.and_eq_true] at ha
      obtain ⟨hbackup, hreturned⟩ := ha
      have hback := throughFile_eq hbackup
      rw [hback] at hbackup
      simp only [hback, hreturned, Bool.and_true]
      split at hbackup
      · rename_i hcond
        have htle := throughFile_eq hbackup
        rw [htle] at hbackup
        simp only [if_pos hcond, htle]
        exact throughFile_eq hbackup
      · rename_i hcond
        simp only [if_neg hcond]
        exact throughFile_eq hbackup

theorem throughSerial_eq {opens setInterface : Bool}
    (h : CanOpen limit opens p.fds → setInterface = true) :
    p.throughSerial limit opens setInterface = p := by
  unfold throughSerial
  split
  · rfl
  · rename_i fd fds hopen
    rw [if_pos (h (canOpen_of_tryOpen hopen)), release_tryOpen hopen]

theorem throughSerial_alive {opens setInterface : Bool} :
    (p.throughSerial limit opens setInterface).alive = p.alive := by
  unfold throughSerial
  split
  · rfl
  · split <;> rfl

theorem throughSerial_keeps_iff {opens setInterface : Bool} (h : p.Inv) :
    p.Keeps (p.throughSerial limit opens setInterface) False ↔
      (CanOpen limit opens p.fds → setInterface = true) := by
  constructor
  · intro hk ho
    obtain ⟨fd, fds, hopen⟩ := ho.exists .serial
    obtain ⟨hfree, rfl⟩ := tryOpen_eq_some hopen
    by_contra hn
    have hleak := hk.fds
    simp only [throughSerial, hopen, if_neg hn] at hleak
    exact without_update_ne (b := .serial) hfree (by decide) hleak
  · intro hs
    rw [throughSerial_eq hs]
    exact Keeps.refl h.one

theorem keeps_angles {azi ele : Int} {setsUp : Prop} :
    ({ p with aziOld := azi, eleOld := ele } : Proc).Keeps q setsUp ↔ p.Keeps q setsUp :=
  ⟨fun h => ⟨h.fds, h.one, h.first⟩, fun h => ⟨h.fds, h.one, h.first⟩⟩

theorem step_dead {op : Op} (hp : ¬ p.alive = true) : p.step limit op = p := if_neg hp

theorem conserves_of_eq {op : Op} (h : p.Inv)
    (hq : (p.step limit op).alive = true → p.step limit op = p) (hs : ¬ p.SetsUp limit op) :
    p.Conserves limit op := by
  intro ha
  rw [hq ha]
  exact ⟨rfl, h.one, fun hset => absurd hset hs⟩

theorem receivePacket_conserves_iff {renv : ReceiveEnv} {client : DownlinkEnv}
    (hp : p.alive = true) (h : p.Inv) :
    p.Conserves limit (.receivePacket renv client file) ↔
      p.Balanced limit (.receivePacket renv client file) := by
  have hstep : p.step limit (.receivePacket renv client file) =
      p.receivePacket limit renv client file := if_pos hp
  simp only [Balanced]
  by_cases ho : CanOpen limit renv.opens p.fds
  · by_cases hw : renv.headerWritten = 0
    · obtain ⟨halive, hleak⟩ := receivePacket_leaks client file hp ho hw
      simp only [Conserves, hstep, halive, true_imp_iff, ho, hw, ne_eq, not_true_eq_false,
        false_and, iff_false]
      exact fun hk => hleak hk.fds
    · have hset : p.SetsUp limit (.receivePacket renv client file) ↔
          p.NewSocket limit client := by
        simp only [SetsUp, ho, hw, ne_eq, not_false_eq_true, true_and]
      simp only [Conserves, hstep, receivePacket_saved ho hw, hset, ho, true_imp_iff, ne_eq, hw,
        not_false_eq_true, true_and]
      exact downlinkClient_keeps_iff hp h
  · refine iff_of_true (conserves_of_eq h (fun _ => ?_) fun hs => ho hs.1) fun hs => absurd hs ho
    rw [hstep]
    exact receivePacket_closed renv ho

theorem serialSetAzEl_conserves_iff {azi ele : Int} {opens setInterface : Bool}
    (hp : p.alive = true) (h : p.Inv) :
    p.Conserves limit (.serialSetAzEl azi ele opens setInterface) ↔
      p.Balanced limit (.serialSetAzEl azi ele opens setInterface) := by
  have hstep : p.step limit (.serialSetAzEl azi ele opens setInterface) =
      p.serialSetAzEl limit azi ele opens setInterface := if_pos hp
  simp only [Conserves, Balanced, hstep, serialSetAzEl]
  by_cases hm : p.moves azi ele = true
  · have hi : ({ p with aziOld := azi, eleOld := ele } : Proc).Inv := ⟨h.one, h.sock⟩
    simp only [hm, if_true, throughSerial_alive, true_imp_iff]
    exact (imp_iff_right hp).trans (keeps_angles.symm.trans (throughSerial_keeps_iff hi))
  · simp only [hm, if_false, Bool.false_eq_true, false_imp_iff, iff_true, hp, true_imp_iff]
    exact Keeps.refl h.one

theorem conserves_iff {op : Op} (hp : p.alive = true) (h : p.Inv) :
    p.Conserves limit op ↔ p.Balanced limit op := by
  cases op with
  | receivePacket renv client file => exact receivePacket_conserves_iff hp h
  | downlinkClient env file =>
      simp only [Conserves, step, hp, if_true]
      exact downlinkClient_keeps_iff hp h
  | sendPacket env =>
      refine iff_of_true (conserves_of_eq h (fun ha => ?_) id) trivial
      rw [step, if_pos hp] at ha ⊢
      exact sendPacket_eq ha
  | processMcsFile file =>
      refine iff_of_true (conserves_of_eq h (fun ha => ?_) id) trivial
      rw [step, if_pos hp] at ha ⊢
      exact throughFile_eq ha
  | serialRead opens setInterface =>
      simp only [Conserves, step, hp, if_true, throughSerial_alive, true_imp_iff]
      exact throughSerial_keeps_iff h
  | serialSetAzEl azi ele opens setInterface => exact serialSetAzEl_conserves_iff hp h

theorem Conserves.inv {op : Op} (hc : p.Conserves limit op) (hp : p.alive = true) (h : p.Inv)
    (ha : (p.step limit op).alive = true) : (p.step limit op).Inv := by
  refine ⟨(hc ha).one, ?_⟩
  have hb := (conserves_iff hp h).mp hc
  cases op with
  | receivePacket renv client file =>
      rw [step, if_pos hp] at ha ⊢
      by_cases ho : CanOpen limit renv.opens p.fds
      · obtain ⟨hw, hd⟩ := hb ho
        rw [receivePacket_saved ho hw] at ha ⊢
        exact downlinkClient_sock hp h hd ha
      · rw [receivePacket_closed renv ho]
        exact h.sock
  | downlinkClient env file =>
      rw [step, if_pos hp] at ha ⊢
      exact downlinkClient_sock hp h hb ha
  | sendPacket env =>
      rw [step, if_pos hp] at ha ⊢
      simp only [sendPacket_eq ha]
      exact h.sock
  | processMcsFile file =>
      rw [step, if_pos hp] at ha ⊢
      simp only [processMcsFile, throughFile_eq ha]
      exact h.sock
  | serialRead opens setInterface =>
      rw [step, if_pos hp]
      simp only [throughSerial_eq hb]
      exact h.sock
  | serialSetAzEl azi ele opens setInterface =>
      rw [step, if_pos hp]
      simp only [serialSetAzEl]
      split
      · rename_i hm
        have heq := throughSerial_eq (p := { p with aziOld := azi, eleOld := ele }) (hb hm)
        rw [heq]
        exact h.sock
      · exact h.sock

theorem inv_start (others : Finset Nat) : (start others).Inv := by
  have hnone : (start others).connections = ∅ := by
    refine Set.eq_empty_of_forall_notMem fun fd hfd => ?_
    simp only [connections, start, Set.mem_ofPred_eq] at hfd
    split at hfd
    · cases hfd
    · cases hfd
  refine ⟨?_, fun hret => absurd rfl hret⟩
  rw [hnone]
  exact Set.subsingleton_empty

/-- In a run every call leaves the descriptors as it found them, but for one connection to MCS that
is used again or closed before the next, exactly when every call is balanced: no file is
downlinked, no header fails to be written to an open file, the port is set up once it is open, and
no connection is left over where a new one is set up. -/
theorem conserved_iff (limit : Nat) (others : Finset Nat) (ops : List Op) :
    Along (step limit) (Conserves limit) (start others) ops ↔
      Along (step limit) (fun p op => p.alive → p.Balanced limit op) (start others) ops := by
  refine along_congr (fun p => p.alive = true → p.Inv) (fun p op h hc ha => ?_) (fun p op h => ?_)
    ops _ fun _ => inv_start others
  · by_cases hp : p.alive = true
    · exact Conserves.inv hc hp (h hp) ha
    · rw [step_dead hp] at ha
      exact absurd ha hp
  · by_cases hp : p.alive = true
    · simp only [hp, true_imp_iff]
      exact conserves_iff hp (h hp)
    · have hdead : p.Conserves limit op := by
        intro ha
        rw [step_dead hp] at ha
        exact absurd ha hp
      exact iff_of_true hdead fun ha => absurd ha hp

def oneByte : Op := .downlinkClient ⟨true, true, true, true, fun _ => .accepted 1⟩ [1]

theorem not_conserved :
    ¬ ∀ ops, Along (step 1024) (Conserves 1024) (start {0, 1, 2}) ops := by
  intro h
  have hfds := ((h [oneByte]).1 (by decide +kernel)).fds
  have hstream := congrFun hfds 4
  revert hstream
  decide +kernel

end Proc
end UhfGs.Station
