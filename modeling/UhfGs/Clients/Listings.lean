import UhfGs.Clients.Sessions

/-! The clients that list what they receive, and where in memory the lists are. -/
namespace UhfGs.Clients
open Csp Bytes Packed Handles
variable {σ : Type}

/- `power_if_ch_status_t`. -/
structure PowerIfChStatus where
  (chIdx mode : UInt8)
  (onCnt offCnt curLuLim curLim voltage : UInt16)
  current : Int16
  latchup : UInt16
  name : Vector UInt8 8

def PowerIfChStatus.packed : Packed PowerIfChStatus :=
  Fields.packed
    (Fields.start mk
      |>.field u8 chIdx |>.field u8 mode |>.field u16 onCnt |>.field u16 offCnt
      |>.field u16 curLuLim |>.field u16 curLim |>.field u16 voltage |>.field i16 current
      |>.field u16 latchup |>.field (u8.array 8) name)
    fun _ => rfl

/- `power_if_cmd_request_t`. -/
structure PowerIfCmdRequest where
  (cmd status : UInt8)
  chStatus : PowerIfChStatus

def PowerIfCmdRequest.packed : Packed PowerIfCmdRequest :=
  Fields.packed
    (Fields.start mk |>.field u8 cmd |>.field u8 status |>.field PowerIfChStatus.packed chStatus)
    fun _ => rfl

/-- The request for the list; what is not set here is from the stack. -/
def powerIfListRequest (req : PowerIfCmdRequest) : PowerIfCmdRequest :=
  { req with
    cmd := 3
    chStatus :=
      { req.chStatus with mode := 0, onCnt := 0, offCnt := 0, name := req.chStatus.name.set 0 0 } }

/-- The value of `power_if_cmd`, what it sent, and the list as it leaves it. -/
structure PowerIfListing where
  value : Bool
  transmitted : Option (List UInt8)
  chList : List UInt8

def powerIfCmdList (e : Endian) (link : Link) (node port : UInt8) (timeout : UInt32)
    (req : PowerIfCmdRequest) (chList : List UInt8) : PowerIfListing :=
  let data := PowerIfCmdRequest.packed.store e (powerIfListRequest req)
  let x := cspTransaction link ⟨1, node, port, timeout, data, 163⟩
  let chList := x.received.getD chList
  ⟨x.status ≠ 0 ∧ chList.getD 0 0 = 3 ∧ chList.getD 1 0 = 0, x.transmitted, chList⟩

/-- The entries that `cmd_power_if_list` prints, and of each the name, up to the zero behind it. -/
def powerIfEntries (chList : List UInt8) : Trace :=
  (List.range (chList.getD 2 0).toNat).flatMap fun ch =>
    [.use (.reply 0) (3 + 10 * ch) 10,
      .use (.reply 0) (5 + 10 * ch) (strlen (chList.drop (5 + 10 * ch)) + 1)]

def cmdPowerIfList (e : Endian) (port : UInt8) (timeout : UInt32) (node : Option UInt8)
    (req : PowerIfCmdRequest) (chList : List UInt8) (link : Link) : Session :=
  match node with
  | none => ⟨[], none, some (-2)⟩
  | some node =>
      let listing := powerIfCmdList e link node port timeout req chList
      if listing.value then
        ⟨.acquire (.reply 0) 163 :: powerIfEntries listing.chList ++ [.dispose (.reply 0)],
          listing.transmitted, some 0⟩
      else ⟨[], listing.transmitted, some (-1)⟩

theorem inside_readLoop_iff {body : σ → Nat → Reply → Handled σ} {P : σ → Nat → Reply → Prop}
    (hbody : ∀ l s k r,
      Inside l (.acquire (.reply k) r.length.toNat :: (body s k r).trace) ↔ P s k r)
    (l : Handle → Option Nat) (s : σ) (k : Nat) (rs : List Reply) :
    Inside l (readLoop body s k rs).1 ↔ Visits body P s k rs := by
  induction rs generalizing l s k with
  | nil => exact Iff.rfl
  | cons r rs ih =>
      rw [readLoop, Visits]
      cases (body s k r).next with
      | again s' => exact (inside_append l _ _).trans (and_congr (hbody l s k r) (ih _ s' (k + 1)))
      | stop => exact (hbody l s k r).trans (and_true _).symm.to_iff
      | died => exact (hbody l s k r).trans (and_true _).symm.to_iff

theorem ListLayout.not_inside_handle (l : ListLayout) (h : Handle → Option Nat) (u : Unit)
    (k n : Nat) (r : Reply) : ¬ Inside h (.acquire (.reply k) n :: (l.handle u k r).trace) := by
  intro hinside
  rw [handle, ← List.cons_append, inside_append] at hinside
  simp [Inside, Runs.Along, Event.Within, held, uses_elements, Uses.foldl_held] at hinside

/-- All that the camera's list command reads of a packet was received. -/
def Reply.ImagesFit (e : Endian) (r : Reply) : Prop :=
  2 ≤ r.length.toNat ∧
    (r.field16 e 0 ≠ 0 → 5 ≤ r.length.toNat ∧
      ((r.data 4).toNat = 0 ∨ 8 + 24 * (r.data 4).toNat ≤ r.length.toNat))

theorem inside_imgListReply_iff (e : Endian) (l : Handle → Option Nat) (u : Unit) (k : Nat)
    (r : Reply) :
    Inside l (.acquire (.reply k) r.length.toNat :: (imgListReply e u k r).trace) ↔
      r.ImagesFit e := by
  have hheld : Function.update l (.reply k) (some r.length.toNat) (.reply k) =
      some r.length.toNat := Function.update_self ..
  by_cases htotal : r.field16 e 0 = 0
  · simp [imgListReply, Reply.ImagesFit, htotal, Inside, Runs.Along, Event.Within, held]
  · have hrest : Inside (Function.update l (.reply k) (some r.length.toNat))
        (elements (.reply k) 8 24 (r.data 4).toNat ++ [.use (.reply k) 0 5, .dispose (.reply k)]) ↔
        ((r.data 4).toNat = 0 ∨ 8 + 24 * (r.data 4).toNat ≤ r.length.toNat) ∧
          5 ≤ r.length.toNat := by
      rw [inside_append, (uses_elements _ 8 24 _).foldl_held, inside_elements_iff hheld]
      simp [Inside, Runs.Along, Event.Within]
    have hfirst : (Event.use (.reply k) 0 2).Within
        (Function.update l (Handle.reply k) (some r.length.toNat)) ↔ 2 ≤ r.length.toNat := by
      simp [Event.Within]
    rw [Reply.ImagesFit, imgListReply, if_neg htotal]
    refine (true_and _).to_iff.trans (and_congr hfirst ?_)
    rw [forall_prop_of_true htotal, and_comm]
    exact hrest

theorem inside_exchange_iff {t : Trace} {P : Prop} (ht : ∀ l, Inside l t ↔ P)
    (l : Handle → Option Nat) {h h' : Handle} (n m : Nat) :
    Inside l (.acquire h n :: .acquire h' m :: .dispose .request :: t ++ [.dispose .conn]) ↔ P := by
  have hall : Inside l
      ([.acquire h n, .acquire h' m, .dispose .request] ++ t ++ [.dispose .conn]) ↔ P := by
    rw [inside_append, inside_append, ht]
    simp [Inside, Runs.Along, Event.Within]
  exact hall

theorem ListClient.inside_iff (c : ListClient) (env : SessionEnv) (l : Handle → Option Nat) :
    Inside l (c.session env).trace ↔
      (env.conn → env.buffer.isSome → env.sent → env.replies = []) := by
  have hloop (l : Handle → Option Nat) (rs : List Reply) :
      Inside l (readLoop c.layout.handle () 0 rs).1 ↔ rs = [] := by
    rw [inside_readLoop_iff (P := fun _ _ _ => False) fun l s k r =>
      iff_false_intro (c.layout.not_inside_handle l s k _ r)]
    cases rs with
    | nil => exact iff_of_true trivial rfl
    | cons r rs => exact iff_of_false And.left (List.cons_ne_nil r rs)
  obtain ⟨conn, buffer, sent, replies⟩ := env
  cases conn with
  | false => exact iff_of_true trivial nofun
  | true =>
      cases buffer with
      | none => exact iff_of_true ⟨trivial, trivial, trivial⟩ nofun
      | some mem =>
          cases sent with
          | false =>
              exact iff_of_true ⟨trivial, trivial, trivial, trivial, trivial⟩ nofun
          | true =>
              refine (inside_exchange_iff (fun l => hloop l replies) l 0 c.bufSize).trans ?_
              simp

theorem nanocamImgList_inside_iff (e : Endian) (env : SessionEnv) (l : Handle → Option Nat) :
    Inside l (nanocamImgList e env).trace ↔
      (env.buffer.isSome → env.conn →
        Visits (imgListReply e) (fun _ _ r => r.ImagesFit e) () 0 env.replies) := by
  obtain ⟨conn, buffer, sent, replies⟩ := env
  cases buffer with
  | none => exact iff_of_true trivial nofun
  | some mem =>
      cases conn with
      | false => exact iff_of_true ⟨trivial, trivial, trivial⟩ nofun
      | true =>
          have hloop := inside_readLoop_iff (inside_imgListReply_iff e)
          refine (inside_exchange_iff (fun l => hloop l () 0 replies) l 8 0).trans ?_
          simp

/-- The list has all the entries it counts, and the last name ends in it. -/
def NamesFit (chList : List UInt8) : Prop :=
  (chList.getD 2 0).toNat = 0 ∨
    (chList.getD 2 0).toNat ≤ 16 ∧ 0 ∈ chList.drop (10 * (chList.getD 2 0).toNat - 5)

theorem uses_powerIfEntries (chList : List UInt8) : Uses (powerIfEntries chList) := by
  intro e he
  obtain ⟨ch, -, he⟩ := List.mem_flatMap.mp he
  obtain rfl | he := List.mem_cons.mp he
  · exact ⟨_, _, _, rfl⟩
  · exact ⟨_, _, _, List.mem_singleton.mp he⟩

theorem inside_powerIfEntries_iff {chList : List UInt8} (hlen : chList.length = 163)
    {l : Handle → Option Nat} (hl : l (.reply 0) = some 163) :
    Inside l (powerIfEntries chList) ↔ NamesFit chList := by
  have hname (off : Nat) : off + (strlen (chList.drop off) + 1) ≤ 163 ↔ 0 ∈ chList.drop off := by
    rw [← strlen_lt_iff, List.length_drop, hlen]
    omega
  have hentry (ch : Nat) :
      (∀ e ∈ [Event.use (Handle.reply 0) (3 + 10 * ch) 10,
        .use (.reply 0) (5 + 10 * ch) (strlen (chList.drop (5 + 10 * ch)) + 1)], e.Within l) ↔
      3 + 10 * ch + 10 ≤ 163 ∧ 0 ∈ chList.drop (5 + 10 * ch) := by
    simp only [List.forall_mem_cons, List.not_mem_nil, false_imp_iff, implies_true, and_true,
      Event.Within, hl, Option.some.injEq, exists_eq_left', hname]
  have hall : Inside l (powerIfEntries chList) ↔ ∀ ch < (chList.getD 2 0).toNat,
      3 + 10 * ch + 10 ≤ 163 ∧ 0 ∈ chList.drop (5 + 10 * ch) := by
    rw [(uses_powerIfEntries chList).inside_iff, powerIfEntries]
    simp only [List.forall_mem_flatMap, hentry, List.mem_range]
  rw [hall, NamesFit]
  generalize (chList.getD 2 0).toNat = count
  constructor
  · intro h
    cases count with
    | zero => exact .inl rfl
    | succ ch =>
        obtain ⟨hle, hmem⟩ := h ch ch.lt_succ_self
        have hoff : 10 * (ch + 1) - 5 = 5 + 10 * ch := by omega
        exact .inr ⟨by omega, by rwa [hoff]⟩
  · rintro (h0 | ⟨hle, hmem⟩) ch hch
    · omega
    · exact ⟨by omega, List.drop_subset_drop_left chList (by omega) hmem⟩

def Link.Lists (link : Link) (data : List UInt8) : Prop :=
  link.Sends ∧ link.reply = some data ∧ data.length = 163 ∧ data.getD 0 0 = 3 ∧ data.getD 1 0 = 0

theorem powerIfCmdList_cases (e : Endian) (link : Link) (node port : UInt8) (timeout : UInt32)
    (req : PowerIfCmdRequest) (chList : List UInt8) :
    ((powerIfCmdList e link node port timeout req chList).value = true ∧
      link.Lists (powerIfCmdList e link node port timeout req chList).chList) ∨
    ((powerIfCmdList e link node port timeout req chList).value = false ∧
      ∀ data, ¬ link.Lists data) := by
  by_cases hs : link.Succeeds 163
  · obtain ⟨hsends, h0 | ⟨data, hreply, hlen⟩⟩ := hs
    · cases h0
    · have hlen : data.length = 163 := by omega
      have hx (call : Call) (hi : call.inlen = 163) :=
        cspTransaction_of_answer call hsends (by omega) hreply (.inr (by omega))
      rw [powerIfCmdList, hx _ rfl, hlen]
      by_cases hok : data.getD 0 0 = 3 ∧ data.getD 1 0 = 0
      · exact .inl ⟨decide_eq_true ⟨by simp, hok⟩, hsends, hreply, hlen, hok⟩
      · refine .inr ⟨decide_eq_false fun h => hok h.2, fun d h => ?_⟩
        cases hreply.symm.trans h.2.1
        exact hok h.2.2.2
  · refine .inr ⟨?_, fun d h => hs ⟨h.1, .inr ⟨d, h.2.1, .inr (by rw [h.2.2.1]; rfl)⟩⟩⟩
    exact decide_eq_false fun hok => hok.1 (cspTransaction_of_not_succeeds _ hs).1

theorem cmdPowerIfList_inside_iff (e : Endian) (port : UInt8) (timeout : UInt32)
    (node : Option UInt8) (req : PowerIfCmdRequest) (chList : List UInt8) (link : Link)
    (l : Handle → Option Nat) :
    Inside l (cmdPowerIfList e port timeout node req chList link).trace ↔
      (node.isSome → ∀ data, link.Lists data → NamesFit data) := by
  cases node with
  | none => exact iff_of_true trivial nofun
  | some node =>
      rw [cmdPowerIfList]
      obtain ⟨hvalue, hlists⟩ | ⟨hvalue, hnone⟩ :=
        powerIfCmdList_cases e link node port timeout req chList
      · have hheld : Function.update l (Handle.reply 0) (some 163) (.reply 0) = some 163 :=
          Function.update_self ..
        simp only [hvalue, if_true]
        rw [inside_append]
        refine (and_iff_left ⟨trivial, trivial⟩).trans ?_
        refine (and_iff_right trivial).trans ?_
        refine (inside_powerIfEntries_iff hlists.2.2.1 hheld).trans ?_
        refine ⟨fun h _ d hd => ?_, fun h => h rfl _ hlists⟩
        rwa [Option.some.inj (hd.2.1.symm.trans hlists.2.1)]
      · refine iff_of_true ?_ fun _ d hd => absurd hd (hnone d)
        simp [hvalue, Inside, Runs.Along]

/-- The clients that go through a list, each with its arguments, what lies on its stack and what
the library gives it. -/
inductive Lister where
  | gatossListShort (filtering packetLimit startIndex : UInt32) (env : SessionEnv)
  | gatossListFull (filtering packetLimit startIndex : UInt32) (env : SessionEnv)
  | gatossPlanePositions (icao24 minDistance : UInt32) (env : SessionEnv)
  | gatossPlaneContacts (icao24 : UInt32) (env : SessionEnv)
  | gatossBlobLs (env : SessionEnv)
  | nanocamImgList (env : SessionEnv)
  | cmdPowerIfList (port : UInt8) (timeout : UInt32) (node : Option UInt8)
      (req : PowerIfCmdRequest) (chList : List UInt8) (link : Link)

namespace Lister

def session (e : Endian) : Lister → Session
  | gatossListShort filtering limit start env =>
      (Clients.gatossListShort e filtering limit start).session env
  | gatossListFull filtering limit start env =>
      (Clients.gatossListFull e filtering limit start).session env
  | gatossPlanePositions icao24 minDistance env =>
      (Clients.gatossPlanePositions e icao24 minDistance).session env
  | gatossPlaneContacts icao24 env => (Clients.gatossPlaneContacts e icao24).session env
  | gatossBlobLs env => Clients.gatossBlobLs.session env
  | nanocamImgList env => Clients.nanocamImgList e env
  | cmdPowerIfList port timeout node req chList link =>
      Clients.cmdPowerIfList e port timeout node req chList link

/-- What is received fits. From a `gatoss` packet nothing does. -/
def Fits (e : Endian) : Lister → Prop
  | gatossListShort _ _ _ env | gatossListFull _ _ _ env | gatossPlanePositions _ _ env
  | gatossPlaneContacts _ env | gatossBlobLs env =>
      env.conn → env.buffer.isSome → env.sent → env.replies = []
  | nanocamImgList env =>
      env.buffer.isSome → env.conn →
        Visits (imgListReply e) (fun _ _ r => r.ImagesFit e) () 0 env.replies
  | cmdPowerIfList _ _ node _ _ link => node.isSome → ∀ data, link.Lists data → NamesFit data

theorem inside_iff_fits (e : Endian) (l : Lister) :
    Inside (fun _ => none) (l.session e).trace ↔ l.Fits e := by
  cases l with
  | gatossListShort => exact ListClient.inside_iff ..
  | gatossListFull => exact ListClient.inside_iff ..
  | gatossPlanePositions => exact ListClient.inside_iff ..
  | gatossPlaneContacts => exact ListClient.inside_iff ..
  | gatossBlobLs => exact ListClient.inside_iff ..
  | nanocamImgList env => exact nanocamImgList_inside_iff e env _
  | cmdPowerIfList => exact cmdPowerIfList_inside_iff ..

/-- An empty list with the end flag set, in a packet of two bytes. -/
theorem gatossListShort_not_inside :
    ¬ ∀ (e : Endian) (l : Lister), Inside (fun _ => none) (l.session e).trace := by
  intro h
  have hinside := h .little (.gatossListShort 0 0 0
    ⟨true, some fun _ => 0, true, [⟨2, fun i => if i = 1 then 1 else 0, fun _ => 0⟩]⟩)
  rw [session, ListClient.inside_iff] at hinside
  exact List.cons_ne_nil _ _ (hinside rfl rfl rfl)

end Lister

end UhfGs.Clients
