import Mathlib.Data.Set.Insert
import UhfGs.Clients.Sessions

/-! Which clients settle every packet and connection, and when. -/
namespace UhfGs.Clients
open Csp Bytes Packed Handles
variable {σ : Type}

/-- Nothing is used that was not given, every packet and the connection are given up exactly once,
and a request that was not sent makes the value negative. -/
structure Disciplined (s : Session) : Prop where
  valid : .null ∉ s.trace
  balanced : Balanced s.trace
  returns : ∃ r, s.result = some r ∧ (s.transmitted = none → r < 0)

/-- The packet is used and released, and the program survives. -/
def Tidy (body : σ → Nat → Reply → Handled σ) (s : σ) (k : Nat) (r : Reply) : Prop :=
  (∃ before after, (body s k r).trace = before ++ .dispose (.reply k) :: after ∧
    Uses before ∧ Uses after) ∧ (body s k r).next ≠ .died

def repliesFrom (k : Nat) : Set Handle := {h | ∃ j, k ≤ j ∧ h = .reply j}

theorem Tidy.settled {body : σ → Nat → Reply → Handled σ} {s : σ} {k : Nat} {r : Reply}
    (h : Tidy body s k r) (n : Nat) :
    Settled {.reply k} (.acquire (.reply k) n :: (body s k r).trace) := by
  obtain ⟨⟨before, after, htrace, hbefore, hafter⟩, -⟩ := h
  have hscope := hbefore.settled.scope (h := Handle.reply k) (Set.notMem_empty _) n
  have hall := hscope.append hafter.settled fun a _ => Set.notMem_empty a
  rw [htrace]
  simpa using hall

theorem readLoop_settled {body : σ → Nat → Reply → Handled σ} {s : σ} {k : Nat}
    {rs : List Reply} (h : Visits body (Tidy body) s k rs) :
    Settled (repliesFrom k) (readLoop body s k rs).1 ∧ (readLoop body s k rs).2 = true := by
  induction rs generalizing s k with
  | nil => exact ⟨uses_nil.settled.mono (Set.empty_subset _), rfl⟩
  | cons r rs ih =>
      obtain ⟨htidy, hrest⟩ := h
      have hhead := htidy.settled r.length.toNat
      have hone : ({.reply k} : Set Handle) ⊆ repliesFrom k := by
        rintro _ rfl
        exact ⟨k, le_rfl, rfl⟩
      rw [readLoop]
      cases hnext : (body s k r).next with
      | again s' =>
          rw [hnext] at hrest
          obtain ⟨hsettled, hsurvives⟩ := ih hrest
          have hdisj : ∀ a ∈ ({.reply k} : Set Handle), a ∉ repliesFrom (k + 1) := by
            rintro _ rfl ⟨j, hj, heq⟩
            cases heq
            omega
          have hlater : repliesFrom (k + 1) ⊆ repliesFrom k := by
            rintro _ ⟨j, hj, rfl⟩
            exact ⟨j, by omega, rfl⟩
          exact ⟨(hhead.append hsettled hdisj).mono (Set.union_subset hone hlater), hsurvives⟩
      | stop => exact ⟨hhead.mono hone, rfl⟩
      | died => exact absurd hnext htidy.2

theorem not_visits_rec {body : σ → Nat → Reply → Handled σ} {P : σ → Nat → Reply → Prop}
    {motive : σ → Nat → List Reply → Prop}
    (here : ∀ s k r rs, ¬ P s k r → motive s k (r :: rs))
    (later : ∀ s s' k r rs, (body s k r).next = .again s' → motive s' (k + 1) rs →
      motive s k (r :: rs))
    {s : σ} {k : Nat} {rs : List Reply} (h : ¬ Visits body P s k rs) : motive s k rs := by
  induction rs generalizing s k with
  | nil => exact absurd trivial h
  | cons r rs ih =>
      by_cases hp : P s k r
      · cases hnext : (body s k r).next with
        | again s' => exact later s s' k r rs hnext (ih fun hrest => h ⟨hp, by rwa [hnext]⟩)
        | stop => exact absurd ⟨hp, by rw [hnext]; trivial⟩ h
        | died => exact absurd ⟨hp, by rw [hnext]; trivial⟩ h
      · exact here s k r rs hp

theorem mem_readLoop_of_not_visits {body : σ → Nat → Reply → Handled σ}
    {P : σ → Nat → Reply → Prop} {e : Event Handle}
    (he : ∀ s k r, ¬ P s k r → e ∈ (body s k r).trace) {s : σ} {k : Nat} {rs : List Reply}
    (h : ¬ Visits body P s k rs) : e ∈ (readLoop body s k rs).1 := by
  refine not_visits_rec (motive := fun s k rs => e ∈ (readLoop body s k rs).1) ?_ ?_ h
  · intro s k r rs hp
    have hmem := List.mem_cons_of_mem (.acquire (.reply k) r.length.toNat) (he s k r hp)
    rw [readLoop]
    cases (body s k r).next with
    | again s' => exact List.mem_append_left _ hmem
    | stop => exact hmem
    | died => exact hmem
  · intro s s' k r rs hnext ih
    simp only [readLoop, hnext]
    exact List.mem_append_right _ ih

theorem not_survives_of_not_visits {body : σ → Nat → Reply → Handled σ}
    {P : σ → Nat → Reply → Prop} (hdied : ∀ s k r, ¬ P s k r → (body s k r).next = .died)
    {s : σ} {k : Nat} {rs : List Reply} (h : ¬ Visits body P s k rs) :
    (readLoop body s k rs).2 = false := by
  refine not_visits_rec (motive := fun s k rs => (readLoop body s k rs).2 = false) ?_ ?_ h
  · intro s k r rs hp
    simp only [readLoop, hdied s k r hp]
  · intro s s' k r rs hnext ih
    simp only [readLoop, hnext]
    exact ih

theorem visits_mono {body : σ → Nat → Reply → Handled σ} {P Q : σ → Nat → Reply → Prop}
    (hPQ : ∀ s k r, P s k r → Q s k r) {s : σ} {k : Nat} {rs : List Reply}
    (h : Visits body P s k rs) : Visits body Q s k rs := by
  by_contra hnot
  revert h
  refine not_visits_rec (motive := fun s k rs => ¬ Visits body P s k rs) ?_ ?_ hnot
  · intro s k r rs hq h
    exact hq (hPQ s k r h.1)
  · intro s s' k r rs hnext ih h
    have hrest := h.2
    rw [hnext] at hrest
    exact ih hrest

theorem visits_of_forall {body : σ → Nat → Reply → Handled σ} {P : σ → Nat → Reply → Prop}
    (hP : ∀ s k r, P s k r) (s : σ) (k : Nat) (rs : List Reply) : Visits body P s k rs := by
  by_contra hnot
  exact not_visits_rec (motive := fun _ _ _ => False) (fun s k r _ hp => hp (hP s k r))
    (fun _ _ _ _ _ _ ih => ih) hnot

theorem stop_or_again_ne_died (c : Prop) [Decidable c] (s : σ) :
    (if c then .stop else .again s : Next σ) ≠ .died := by
  split <;> exact nofun

theorem ListLayout.tidy (l : ListLayout) (u : Unit) (k : Nat) (r : Reply) :
    Tidy l.handle u k r := by
  refine ⟨⟨_, _, rfl, uses_elements _ _ _ _, uses_singleton _ _ _⟩, ?_⟩
  exact stop_or_again_ne_died _ ()

theorem imgListReply_tidy (e : Endian) (u : Unit) (k : Nat) (r : Reply) :
    Tidy (imgListReply e) u k r := by
  unfold Tidy imgListReply
  by_cases htotal : r.field16 e 0 = 0
  · simp only [if_pos htotal]
    exact ⟨⟨_, [], rfl, uses_singleton _ 0 2, uses_nil⟩, nofun⟩
  · simp only [if_neg htotal]
    refine ⟨⟨.use (.reply k) 0 2 :: elements (.reply k) 8 24 (r.data 4).toNat ++
      [.use (.reply k) 0 5], [], by simp, ?_, uses_nil⟩, ?_⟩
    · exact ((uses_singleton _ 0 2).append (uses_elements _ 8 24 _)).append (uses_singleton _ 0 5)
    · exact stop_or_again_ne_died _ ()

theorem asciiReply_tidy {len : UInt8} {k : Nat} {r : Reply} (h : r.length ≤ 181) :
    Tidy asciiReply len k r := by
  unfold Tidy asciiReply
  simp only [if_neg (UInt16.not_lt.mpr h)]
  exact ⟨⟨_, [], rfl, uses_singleton _ 0 _, uses_nil⟩, stop_or_again_ne_died _ _⟩

theorem trackstatReply_tidy {e : Endian} {n k : Nat} {r : Reply}
    (h : r.field32 e 0 ≠ 0xffffffff) : Tidy (trackstatReply e) n k r := by
  unfold Tidy trackstatReply
  simp only [if_neg h]
  refine ⟨⟨_, [], rfl, ?_, uses_nil⟩, stop_or_again_ne_died _ _⟩
  have hfirst : Uses (if n = 0 then [Event.use (Handle.reply k) 0 16] else []) := by
    split
    · exact uses_singleton _ 0 16
    · exact uses_nil
  exact ((uses_singleton _ 0 4).append hfirst).append (uses_elements _ 16 40 4)

theorem Disciplined.of_settled {S : Set Handle} {s : Session} (h : Settled S s.trace)
    (hreturns : ∃ r, s.result = some r ∧ (s.transmitted = none → r < 0)) : Disciplined s :=
  ⟨h.valid, h.balanced, hreturns⟩

theorem settled_exchange {t : Trace} (ht : Settled (repliesFrom 0) t) (n m : Nat) :
    Settled Set.univ
      (.acquire .conn n :: .acquire .request m :: .dispose .request :: t ++ [.dispose .conn]) := by
  have hrequest := uses_nil.settled.scope (Set.notMem_empty Handle.request) m
  have hboth := hrequest.append ht (by rintro _ (rfl | h) ⟨j, -, heq⟩ <;> cases heq; cases h)
  have hconn : Handle.conn ∉ insert Handle.request ∅ ∪ repliesFrom 0 := by
    rintro ((heq | h) | ⟨j, -, heq⟩)
    · cases heq
    · exact h
    · cases heq
  exact (hboth.scope hconn n).mono (Set.subset_univ _)

theorem settled_no_replies : Settled (repliesFrom 0) [] :=
  uses_nil.settled.mono (Set.empty_subset _)

theorem ListClient.disciplined_iff (c : ListClient) (env : SessionEnv) :
    Disciplined (c.session env) ↔ (env.conn → env.buffer.isSome) := by
  obtain ⟨conn, buffer, sent, replies⟩ := env
  cases conn with
  | false =>
      exact iff_of_true (.of_settled uses_nil.settled ⟨-1, rfl, fun _ => by decide⟩) nofun
  | true =>
      cases buffer with
      | none => exact iff_of_false (fun h => h.valid (by simp [session])) (by simp)
      | some mem =>
          refine iff_of_true ?_ fun _ => rfl
          cases sent with
          | false =>
              exact .of_settled (settled_exchange settled_no_replies 0 c.bufSize)
                ⟨-1, rfl, fun _ => by decide⟩
          | true =>
              have hloop := readLoop_settled (visits_of_forall c.layout.tidy () 0 replies)
              exact .of_settled (settled_exchange hloop.1 0 c.bufSize) ⟨0, rfl, nofun⟩

theorem nanocamImgList_disciplined_iff (e : Endian) (env : SessionEnv) :
    Disciplined (nanocamImgList e env) ↔ (env.buffer.isSome → env.conn → env.sent) := by
  obtain ⟨conn, buffer, sent, replies⟩ := env
  cases buffer with
  | none =>
      exact iff_of_true (.of_settled uses_nil.settled ⟨-1, rfl, fun _ => by decide⟩) nofun
  | some mem =>
      cases conn with
      | false =>
          have hrequest := uses_nil.settled.scope (Set.notMem_empty Handle.request) 8
          exact iff_of_true (.of_settled hrequest ⟨-1, rfl, fun _ => by decide⟩) nofun
      | true =>
          cases sent with
          | false =>
              refine iff_of_false (fun h => ?_) (by simp)
              obtain ⟨r, hr, hneg⟩ := h.returns
              cases hr
              exact absurd (hneg rfl) (by decide)
          | true =>
              have hloop := readLoop_settled (visits_of_forall (imgListReply_tidy e) () 0 replies)
              have hswap := (settled_exchange hloop.1 0 8).perm (List.Perm.swap _ _ _)
              exact iff_of_true (.of_settled hswap ⟨0, rfl, nofun⟩) fun _ _ => rfl

/-- Without a connection or a packet the `adcs` clients use what they were not given. -/
theorem adcsSession_disciplined_iff {bufSize : Nat} {data : (Nat → UInt8) → List UInt8}
    {loop : List Reply → Trace × Bool} {env : SessionEnv} {good : Prop}
    (hgood : good → Settled (repliesFrom 0) (loop env.replies).1 ∧ (loop env.replies).2 = true)
    (hbad : ¬ good → (loop env.replies).2 = false ∨ .dispose .conn ∈ (loop env.replies).1) :
    Disciplined (adcsSession bufSize data loop env) ↔
      env.conn ∧ env.buffer.isSome ∧ (env.sent → good) := by
  obtain ⟨conn, buffer, sent, replies⟩ := env
  cases buffer with
  | none => exact iff_of_false (fun h => h.valid (by simp [adcsSession])) (by simp)
  | some mem =>
      cases conn with
      | false => exact iff_of_false (fun h => h.valid (by simp [adcsSession])) (by simp)
      | true =>
          cases sent with
          | false =>
              exact iff_of_true
                (.of_settled (settled_exchange settled_no_replies 0 bufSize)
                  ⟨-1, rfl, fun _ => by decide⟩)
                ⟨rfl, rfl, nofun⟩
          | true =>
              by_cases h : good
              · obtain ⟨hsettled, hsurvives⟩ := hgood h
                refine iff_of_true ?_ ⟨rfl, rfl, fun _ => h⟩
                simp only [adcsSession, hsurvives]
                exact .of_settled (settled_exchange hsettled 0 bufSize) ⟨0, rfl, nofun⟩
              · refine iff_of_false (fun hd => ?_) fun hall => h (hall.2.2 rfl)
                cases hsurvives : (loop replies).2 with
                | false =>
                    obtain ⟨r, hr, -⟩ := hd.returns
                    simp [adcsSession, hsurvives] at hr
                | true =>
                    -- The loop has closed the connection already.
                    have hmem := (hbad h).resolve_left (by simp [hsurvives])
                    have hbalanced := hd.balanced
                    simp only [adcsSession, hsurvives] at hbalanced
                    exact hbalanced.dispose_notMem (List.mem_append_right _ hmem)

theorem visits_trackstat_iff (e : Endian) {n : Nat} (hn : n ≤ 4) (k : Nat) (rs : List Reply) :
    Visits (trackstatReply e) (fun _ _ r => r.field32 e 0 ≠ 0xffffffff) n k rs ↔
      ∀ r ∈ rs.take (5 - n), r.field32 e 0 ≠ 0xffffffff := by
  induction rs generalizing n k with
  | nil => simp [Visits]
  | cons r rs ih =>
      obtain ⟨m, hm⟩ : ∃ m, 5 - n = m + 1 := ⟨4 - n, by omega⟩
      rw [Visits, hm, List.take_succ_cons, List.forall_mem_cons]
      refine and_congr_right fun hr => ?_
      rw [trackstatReply, if_neg hr]
      by_cases hlast : 4 < n + 1
      · obtain rfl : m = 0 := by omega
        simp [hlast]
      · obtain rfl : m = 5 - (n + 1) := by omega
        simpa [hlast] using ih (n := n + 1) (by omega) (k + 1)

/-- The clients that wait for packet after packet, each with its arguments and with what it
finds on the stack. -/
inductive Client where
  | listShort (filtering packetLimit startIndex : UInt32)
  | listFull (filtering packetLimit startIndex : UInt32)
  | planePositions (icao24 minDistance : UInt32)
  | planeContacts (icao24 : UInt32)
  | blobLs
  | imgList
  | gpsAscii (cmd : GpsAsciiCmd) (reply len : UInt8)
  | gpsTrackstat (stack : List UInt8)

def Client.session (e : Endian) : Client → SessionEnv → Session
  | .listShort filtering limit start => (gatossListShort e filtering limit start).session
  | .listFull filtering limit start => (gatossListFull e filtering limit start).session
  | .planePositions icao24 minDistance => (gatossPlanePositions e icao24 minDistance).session
  | .planeContacts icao24 => (gatossPlaneContacts e icao24).session
  | .blobLs => gatossBlobLs.session
  | .imgList => nanocamImgList e
  | .gpsAscii cmd reply len => adcsGpsAscii e cmd reply len
  | .gpsTrackstat stack => adcsGpsTrackstat e stack

def Client.Assumes (e : Endian) : Client → SessionEnv → Prop
  | .imgList, env => env.buffer.isSome → env.conn → env.sent
  | .gpsAscii cmd _ len, env =>
      cmd.length ≤ 180 ∧ env.conn ∧ env.buffer.isSome ∧
        (env.sent → Visits asciiReply (fun _ _ r => r.length ≤ 181) len 0 env.replies)
  | .gpsTrackstat _, env =>
      env.conn ∧ env.buffer.isSome ∧
        (env.sent → ∀ r ∈ env.replies.take 5, r.field32 e 0 ≠ 0xffffffff)
  | _, env => env.conn → env.buffer.isSome

theorem Client.disciplined_iff_assumes (e : Endian) (c : Client) (env : SessionEnv) :
    Disciplined (c.session e env) ↔ c.Assumes e env := by
  cases c with
  | listShort => exact ListClient.disciplined_iff _ env
  | listFull => exact ListClient.disciplined_iff _ env
  | planePositions => exact ListClient.disciplined_iff _ env
  | planeContacts => exact ListClient.disciplined_iff _ env
  | blobLs => exact ListClient.disciplined_iff _ env
  | imgList => exact nanocamImgList_disciplined_iff e env
  | gpsAscii cmd reply len =>
      rw [session, adcsGpsAscii, Assumes]
      by_cases hlen : 180 < cmd.length
      · rw [if_pos hlen]
        refine iff_of_false (fun h => ?_) fun h => UInt16.not_lt.mpr h.1 hlen
        obtain ⟨r, hr, -⟩ := h.returns
        cases hr
      · rw [if_neg hlen, and_iff_right (UInt16.not_lt.mp hlen)]
        refine adcsSession_disciplined_iff (fun h => readLoop_settled (visits_mono (fun _ _ _ => asciiReply_tidy) h))
          fun h => .inl (not_survives_of_not_visits (fun len k r hp => ?_) h)
        rw [asciiReply, if_pos (UInt16.not_le.mp hp)]
  | gpsTrackstat stack =>
      rw [session, adcsGpsTrackstat, Assumes, ← visits_trackstat_iff e (Nat.zero_le 4) 0]
      refine adcsSession_disciplined_iff
        (fun h => readLoop_settled (visits_mono (fun _ _ _ => trackstatReply_tidy) h))
        fun h => .inr (mem_readLoop_of_not_visits (fun n k r hp => ?_) h)
      rw [trackstatReply, if_pos (not_not.mp hp)]
      simp

/-- The camera's list command reports success for a request that was never sent. -/
theorem Client.imgList_not_disciplined :
    ¬ ∀ (e : Endian) (c : Client) (env : SessionEnv), Disciplined (c.session e env) := by
  intro h
  obtain ⟨r, hr, hneg⟩ := (h .little .imgList ⟨true, some fun _ => 0, false, []⟩).returns
  cases hr
  exact absurd (hneg rfl) (by decide)

end UhfGs.Clients
