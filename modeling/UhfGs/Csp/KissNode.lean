import UhfGs.Csp.KissLine

/-! The KISS receiver and the router, which reads its queues while characters come in. -/
namespace UhfGs.Csp
open Bytes KissRx

namespace KissRx

/-- Receivers that differ in nothing but their queues and counters. -/
structure Same (s t : KissRx) : Prop where
  handle : s.handle = t.handle
  contents : s.contents = t.contents

abbrev Alike : Option KissRx → Option KissRx → Prop := Option.Rel Same

section
variable {s t : KissRx} {e : Endian}

theorem Same.overflow (h : Same s t) : Same s.overflow t.overflow := by
  unfold KissRx.overflow
  rw [h.handle]
  split
  · exact ⟨rfl, h.contents⟩
  · exact h

theorem Same.enqueue (h : Same s t) (packet : Packet) : Same (s.enqueue packet) (t.enqueue packet) where
  handle := by rw [enqueue_handle, enqueue_handle, h.handle]
  contents := by rw [enqueue_contents, enqueue_contents, h.contents]

theorem Same.store (h : Same s t) (b : UInt8) : Alike (s.store b) (t.store b) := by
  unfold KissRx.store
  rw [h.handle]
  cases t.handle.rxPacket with
  | none => exact .none
  | some mem => exact .some ⟨rfl, h.contents⟩

theorem Same.accept (h : Same s t) (e : Endian) : Alike (s.accept e) (t.accept e) := by
  unfold KissRx.accept
  rw [h.handle]
  split
  · exact .some ⟨rfl, h.contents⟩
  · cases t.handle.rxPacket with
    | none => exact .none
    | some mem =>
        refine .some ?_
        dsimp only
        split
        · exact ⟨rfl, h.contents⟩
        · exact ⟨rfl, (h.enqueue _).contents⟩

theorem Alike.started {s t : Option KissRx} (h : Alike s t) :
    Alike (s.map fun s => { s with handle := { s.handle with rxMode := .started } })
      (t.map fun t => { t with handle := { t.handle with rxMode := .started } }) := by
  cases h with
  | none => exact .none
  | some h =>
      refine .some ⟨?_, h.contents⟩
      dsimp only
      rw [h.handle]

theorem Same.input (h : Same s t) (e : Endian) (get : Option (Nat → UInt8)) (b : UInt8) :
    Alike (s.input e get b) (t.input e get b) := by
  unfold KissRx.input
  rw [h.handle]
  cases t.handle.rxMode with
  | notStarted =>
      dsimp only
      split
      · exact .some ⟨rfl, h.contents⟩
      · split
        · exact .some ⟨rfl, h.contents⟩
        · exact .some ⟨rfl, h.contents⟩
  | started =>
      dsimp only
      split
      · exact .some ⟨rfl, h.contents⟩
      · split
        · split
          · exact h.accept e
          · exact .some h
        · split
          · exact .some ⟨rfl, h.contents⟩
          · exact h.store b
  | escaped =>
      dsimp only
      refine Alike.started ?_
      split
      · exact h.store FESC
      · split
        · exact h.store FEND
        · exact .some h
  | skipFrame =>
      dsimp only
      split
      · exact .some ⟨rfl, h.contents⟩
      · exact .some h

theorem Same.rxByte (h : Same s t) (e : Endian) (x : UInt8 × Option (Nat → UInt8)) :
    Alike (rxByte e s x) (rxByte e t x) :=
  h.overflow.input e x.2 x.1

def Gives (s s' : KissRx) : Prop :=
  s'.fifo = s.fifo ∧ s'.written = s.written ∨
    ∃ packet, s'.fifo = (s.fifo.cspQfifoWrite packet).1 ∧
      s'.written = s.written ++ [(packet, (s.fifo.cspQfifoWrite packet).2)]

theorem gives_store {s' : KissRx} {b : UInt8} (h : s.store b = some s') : s.Gives s' := by
  obtain ⟨mem, -, rfl⟩ := Option.map_eq_some_iff.mp h
  exact .inl ⟨rfl, rfl⟩

theorem gives_accept {s' : KissRx} (h : s.accept e = some s') : s.Gives s' := by
  unfold accept at h
  split at h
  · cases h
    exact .inl ⟨rfl, rfl⟩
  · obtain ⟨mem, -, rfl⟩ := Option.map_eq_some_iff.mp h
    split
    · exact .inl ⟨rfl, rfl⟩
    · exact .inr ⟨_, enqueue_fifo s _, enqueue_written s _⟩

theorem gives_input {s' : KissRx} {get : Option (Nat → UInt8)} {b : UInt8}
    (h : s.input e get b = some s') : s.Gives s' := by
  unfold input at h
  split at h
  · split at h
    · cases h
      exact .inl ⟨rfl, rfl⟩
    · split at h <;> cases h
      · exact .inl ⟨rfl, rfl⟩
      · exact .inl ⟨rfl, rfl⟩
  · split at h
    · cases h
      exact .inl ⟨rfl, rfl⟩
    · split at h
      · split at h
        · exact gives_accept h
        · cases h
          exact .inl ⟨rfl, rfl⟩
      · split at h
        · cases h
          exact .inl ⟨rfl, rfl⟩
        · exact gives_store h
  · obtain ⟨s₁, hs₁, rfl⟩ := Option.map_eq_some_iff.mp h
    have hgives : s.Gives s₁ := by
      split at hs₁
      · exact gives_store hs₁
      · split at hs₁
        · exact gives_store hs₁
        · cases hs₁
          exact .inl ⟨rfl, rfl⟩
    exact hgives
  · split at h <;> cases h
    · exact .inl ⟨rfl, rfl⟩
    · exact .inl ⟨rfl, rfl⟩

theorem gives_rxByte {s' : KissRx} {x : UInt8 × Option (Nat → UInt8)}
    (h : rxByte e s x = some s') : s.Gives s' := by
  have hover : s.overflow.fifo = s.fifo ∧ s.overflow.written = s.written := by
    unfold overflow
    split
    · exact ⟨rfl, rfl⟩
    · exact ⟨rfl, rfl⟩
  have hgives := gives_input h
  rwa [Gives, hover.1, hover.2] at hgives

end
end KissRx

/-- What happens at a node: a character comes in, or the router asks for a packet. -/
inductive RxEvent where
  | char (x : UInt8 × Option (Nat → UInt8))
  | read

structure KissNode where
  rx : KissRx
  got : List Packet

def view (packets : List Packet) : List (CspId × List UInt8) :=
  packets.map fun packet => (packet.id, packet.payload)

namespace KissNode

def init : KissNode := ⟨.init, []⟩

def step (e : Endian) (s : KissNode) : RxEvent → Option KissNode
  | .char x => (rxByte e s.rx x).map fun rx => { s with rx := rx }
  | .read =>
      some
        { rx := { s.rx with fifo := s.rx.fifo.cspQfifoRead.1 }
          got := s.got ++ s.rx.fifo.cspQfifoRead.2.toList }

def run (e : Endian) (s : KissNode) (events : List RxEvent) : Option KissNode :=
  events.foldlM (step e) s

def characters (events : List RxEvent) : Line :=
  events.filterMap fun
    | .char x => some x
    | .read => none

/-- The packets of one priority that the router has read, and those that wait for it. -/
def through (s : KissNode) (prio : Fin 4) : List Packet := s.rx.fifo.through s.got prio

/-- Whenever something happens fewer packets of the priority wait than there is room for. -/
def roomy (e : Endian) (prio : Fin 4) (s : KissNode) : List RxEvent → Bool
  | [] => true
  | event :: events =>
      (s.rx.fifo.fifo prio).length < Qfifo.size &&
        (s.step e event).all fun s' => s'.roomy e prio events

/-- Of each priority the router gets some of the packets in their order, and all while there is
room. -/
def Gains (e : Endian) (s s' : KissNode) (events : List RxEvent)
    (sent : List (CspId × List UInt8)) : Prop :=
  ∀ prio, ∃ new, s'.through prio = s.through prio ++ new ∧
    (view new).Sublist (sent.filter fun c => c.1.pri = prio) ∧
    (s.roomy e prio events → view new = sent.filter fun c => c.1.pri = prio)

variable {e : Endian} {s s' : KissNode} {events : List RxEvent}

theorem roomy_cons {prio : Fin 4} {event : RxEvent} (h : s.roomy e prio (event :: events)) :
    (s.rx.fifo.fifo prio).length < Qfifo.size ∧
      ∀ s', s.step e event = some s' → s'.roomy e prio events := by
  rw [roomy, Bool.and_eq_true, decide_eq_true_iff] at h
  refine ⟨h.1, fun s' hs' => ?_⟩
  have hrest := h.2
  rwa [hs', Option.all_some] at hrest

theorem run_of_characters {r r' : KissRx} (hsame : Same s.rx r)
    (h : cspKissRx e r (characters events) = some r') :
    ∃ s', s.run e events = some s' ∧ Same s'.rx r' := by
  induction events generalizing s r with
  | nil =>
      obtain rfl := Option.some.inj h
      exact ⟨s, rfl, hsame⟩
  | cons event events ih =>
      rw [run, List.foldlM_cons]
      cases event with
      | char x =>
          have halike := hsame.rxByte e x
          change cspKissRx e r (x :: characters events) = some r' at h
          rw [cspKissRx_cons] at h
          rw [step]
          generalize rxByte e r x = next at h halike
          generalize rxByte e s.rx x = next' at halike
          cases halike with
          | none => cases h
          | some hsame => exact ih hsame h
      | read =>
          rw [step, Option.bind_eq_bind, Option.bind_some]
          refine ih ?_ h
          exact ⟨hsame.handle, hsame.contents⟩

theorem run_through (hs : s.rx.fifo.Sorted) (h : s.run e events = some s') :
    s'.rx.fifo.Sorted ∧ ∃ given, s'.rx.written = s.rx.written ++ given ∧
      ∀ prio, s'.through prio = s.through prio ++
          ((given.filter Prod.snd).map Prod.fst).filter (fun packet => packet.id.pri = prio) ∧
        (s.roomy e prio events → ∀ w ∈ given, w.1.id.pri = prio → w.2 = true) := by
  induction events generalizing s with
  | nil =>
      obtain rfl := Option.some.inj h
      exact ⟨hs, [], (List.append_nil _).symm, fun prio => ⟨(List.append_nil _).symm, fun _ => nofun⟩⟩
  | cons event events ih =>
      rw [run, List.foldlM_cons] at h
      obtain ⟨s₁, hs₁, hrest⟩ := Option.bind_eq_some_iff.mp h
      cases event with
      | read =>
          obtain rfl := Option.some.inj hs₁
          obtain ⟨hsorted, given, hwritten, hgiven⟩ := ih (Qfifo.sorted_cspQfifoRead hs) hrest
          refine ⟨hsorted, given, hwritten, fun prio => ?_⟩
          obtain ⟨hthrough, hroom⟩ := hgiven prio
          refine ⟨?_, fun hroomy => hroom ((roomy_cons hroomy).2 _ rfl)⟩
          rw [hthrough]
          exact congrArg (· ++ _) (Qfifo.through_cspQfifoRead hs s.got prio)
      | char x =>
          obtain ⟨rx, hrx, rfl⟩ := Option.map_eq_some_iff.mp hs₁
          obtain ⟨hfifo, hsame⟩ | ⟨packet, hfifo, hnew⟩ := gives_rxByte hrx
          · obtain ⟨hsorted, given, hwritten, hgiven⟩ := ih (by rwa [hfifo]) hrest
            refine ⟨hsorted, given, by rw [hwritten, hsame], fun prio => ?_⟩
            obtain ⟨hthrough, hroom⟩ := hgiven prio
            refine ⟨?_, fun hroomy => hroom ((roomy_cons hroomy).2 _ hs₁)⟩
            rw [hthrough, through, hfifo, ← through]
          · obtain ⟨hsorted, given, hwritten, hgiven⟩ :=
              ih (by rw [hfifo]; exact Qfifo.sorted_cspQfifoWrite hs packet) hrest
            refine ⟨hsorted, (packet, (s.rx.fifo.cspQfifoWrite packet).2) :: given, ?_, fun prio => ?_⟩
            · rw [hwritten, hnew, List.append_assoc, List.singleton_append]
            · obtain ⟨hthrough, hroom⟩ := hgiven prio
              refine ⟨?_, fun hroomy w hw hprio => ?_⟩
              · rw [hthrough, through, hfifo, Qfifo.through_cspQfifoWrite, ← through, List.append_assoc]
                congr 1
                cases (s.rx.fifo.cspQfifoWrite packet).2 with
                | false => simp
                | true =>
                    by_cases hprio : packet.id.pri = prio
                    · simp [hprio]
                    · simp [hprio]
              · obtain rfl | hw := List.mem_cons.mp hw
                · subst hprio
                  exact Qfifo.cspQfifoWrite_room (roomy_cons hroomy).1
                · exact hroom ((roomy_cons hroomy).2 _ hs₁) w hw hprio

theorem view_given (given : List (Packet × Bool)) (prio : Fin 4) :
    view (((given.filter Prod.snd).map Prod.fst).filter fun packet => packet.id.pri = prio) =
      ((given.filter fun w => w.1.id.pri = prio).filter Prod.snd).map
        fun w => (w.1.id, w.1.payload) := by
  rw [view, List.filter_map, List.map_map, List.filter_comm]
  rfl

theorem exists_run {r' : KissRx} {sent : List (CspId × List UInt8)} (hs : s.rx.fifo.Sorted)
    (h : cspKissRx e s.rx (characters events) = some r') (hsent : r'.contents = s.rx.contents ++ sent) :
    ∃ s', s.run e events = some s' ∧ Same s'.rx r' ∧ s'.rx.fifo.Sorted ∧
      s.Gains e s' events sent := by
  obtain ⟨s', hrun, hsame⟩ := run_of_characters ⟨rfl, rfl⟩ h
  obtain ⟨hsorted, given, hwritten, hgiven⟩ := run_through hs hrun
  have hview : given.map (fun w => (w.1.id, w.1.payload)) = sent := by
    have hcontents := hsame.contents.trans hsent
    rw [contents, hwritten, List.map_append] at hcontents
    exact List.append_cancel_left hcontents
  refine ⟨s', hrun, hsame, hsorted, fun prio => ?_⟩
  obtain ⟨hthrough, hroom⟩ := hgiven prio
  have hsent : (sent.filter fun c => c.1.pri = prio) =
      (given.filter fun w => w.1.id.pri = prio).map fun w => (w.1.id, w.1.payload) := by
    rw [← hview, List.filter_map]
    rfl
  refine ⟨_, hthrough, ?_, fun hroomy => ?_⟩
  · rw [view_given, hsent]
    exact List.filter_sublist.map _
  · rw [view_given, hsent, List.filter_eq_self.mpr]
    intro w hw
    obtain ⟨hmem, hprio⟩ := List.mem_filter.mp hw
    exact hroom hroomy w hmem (of_decide_eq_true hprio)

theorem characters_append (events rest : List RxEvent) :
    characters (events ++ rest) = characters events ++ characters rest :=
  List.filterMap_append

theorem characters_flatMap {α : Type} (f : α → List RxEvent) (xs : List α) :
    characters (xs.flatMap f) = xs.flatMap fun x => characters (f x) :=
  List.filterMap_flatMap

theorem characters_char (line : Line) : characters (line.map .char) = line := by
  induction line with
  | nil => rfl
  | cons x line ih => exact congrArg (x :: ·) ih

theorem sorted_run {before : List RxEvent} (h : init.run e before = some s) : s.rx.fifo.Sorted :=
  (run_through Qfifo.sorted_empty h).1

/-- From senders and to a receiver of any byte order, with noise between the frames, and while the
router reads: of each priority the packets for which there was a buffer get to the router in order
and unchanged, and all of them while there is room. -/
theorem router_transmissions {ts : List Transmission} (hs : s.rx.fifo.Sorted)
    (hmode : s.rx.handle.rxMode = .notStarted) (hp : s.rx.handle.rxPacket = none)
    (hts : ∀ t ∈ ts, t.Sent) (hline : characters events = ts.flatMap fun t => t.noise ++ t.frame) :
    ∃ s', s.run e events = some s' ∧ s.Gains e s' events
      ((ts.filter Transmission.buffered).map fun t => (t.packet.id, t.packet.payload)) := by
  obtain ⟨r', hr', hcontents⟩ := cspKissRx_transmissions (e := e) hmode hp hts
  rw [← hline] at hr'
  obtain ⟨s', hrun, -, -, hgains⟩ := exists_run hs hr' hcontents
  exact ⟨s', hrun, hgains⟩

theorem ok_of_run {before : List RxEvent} (h : init.run e before = some s) :
    s.rx.Ok fun _ => True := by
  have hany : ∀ x ∈ characters before, ∀ mem ∈ x.2, (fun _ : Nat → UInt8 => True) mem :=
    fun _ _ _ _ => trivial
  obtain ⟨r, hr, hok⟩ := init_ok.cspKissRx (e := e) keeps_any hany
  obtain ⟨s', hrun, hsame⟩ := run_of_characters (s := init) ⟨rfl, rfl⟩ hr
  obtain rfl := Option.some.inj (h.symm.trans hrun)
  have hhandle := hsame.handle
  exact ⟨hhandle ▸ hok.length_le, hhandle ▸ hok.packet, fun _ _ => trivial,
    fun w _ => ⟨fun i => w.1.data (i - 4), trivial, rfl⟩⟩

/-- Whatever came in before, one frame is enough for the receiver to find its way back: at most one
packet comes out up to its end, and from then on exactly those of up to 248 bytes, which get to the
router as above. -/
theorem router_resync {before : List RxEvent} (hbefore : init.run e before = some s)
    {t : Transmission} {ts : List Transmission} (ht : t.Whole) (hts : Whole true ts)
    (hline : characters events = t.frame ++ ts.flatMap fun u => u.noise ++ u.frame) :
    ∃ s' extra, s.run e events = some s' ∧ extra.length ≤ 1 ∧ s.Gains e s' events (extra ++
      (ts.filter fun u => u.packet.length ≤ 248).map fun u => (u.packet.id, u.packet.payload)) := by
  obtain ⟨r', extra, hr', hlen, hcontents⟩ := cspKissRx_resync (e := e) (ok_of_run hbefore) ht hts
  rw [← hline] at hr'
  obtain ⟨s', hrun, -, -, hgains⟩ := exists_run (sorted_run hbefore) hr' hcontents
  exact ⟨s', extra, hrun, hlen, hgains⟩

/- Two packets with noise before each, the second one read late. -/
def noisy (bytes : List UInt8) (p : Packet) : Transmission :=
  ⟨supplied bytes, .little, p, supplied (cspKissTx .little true p).2⟩

def plain : Packet := ⟨2, ⟨2, 3, 10, 20, 11, 0⟩, fun i => UInt8.ofNat i⟩

def evening : List RxEvent :=
  ((noisy [1, 2] escaped).noise ++ (noisy [1, 2] escaped).frame).map .char ++
    (.read :: ((noisy [0xDB] plain).noise ++ (noisy [0xDB] plain).frame).map .char)

theorem router_transmissions_evening : ∃ s', init.run .big evening = some s' ∧
    view (s'.through 2) = [(escaped.id, [0xC0, 0xC0, 0xC0]), (plain.id, [0, 1])] := by
  have hts : ∀ t ∈ [noisy [1, 2] escaped, noisy [0xDB] plain], t.Sent := by
    intro t ht
    obtain rfl | rfl := List.mem_pair.mp ht
    · exact ⟨by decide, by decide, map_fst_supplied _⟩
    · exact ⟨by decide, by decide, map_fst_supplied _⟩
  have hline : characters evening = [noisy [1, 2] escaped, noisy [0xDB] plain].flatMap
      fun t => t.noise ++ t.frame := by
    rw [evening, characters_append, characters_char]
    exact congrArg (_ ++ ·) ((characters_char _).trans (List.append_nil _).symm)
  obtain ⟨s', hrun, hgains⟩ :=
    router_transmissions (e := .big) (s := init) Qfifo.sorted_empty rfl rfl hts hline
  obtain ⟨new, hthrough, -, hall⟩ := hgains 2
  refine ⟨s', hrun, ?_⟩
  rw [hthrough]
  refine (hall (by decide +kernel)).trans ?_
  decide

/-- A frame that broke off, one that the receiver comes to itself with, and two more. -/
def broken : List RxEvent := (supplied [FEND, TNC_DATA, 7]).map .char

def afterwards : List RxEvent :=
  (noisy [] plain).frame.map .char ++
    (((noisy [] plain).noise ++ (noisy [] plain).frame).map .char ++ .read ::
      ((noisy [1, 2] escaped).noise ++ (noisy [1, 2] escaped).frame).map .char)

theorem router_resync_afterwards : ∃ s s' extra, init.run .big broken = some s ∧
    s.run .big afterwards = some s' ∧ extra.length ≤ 1 ∧
      view (s'.through 2) = extra ++ [(plain.id, [0, 1]), (escaped.id, [0xC0, 0xC0, 0xC0])] := by
  have hwhole (bytes : List UInt8) {p : Packet} (hp : p.length ≤ 256) : (noisy bytes p).Whole :=
    ⟨hp, map_fst_supplied _, isSome_supplied⟩
  have hts : Whole true [noisy [] plain, noisy [1, 2] escaped] :=
    ⟨hwhole [] (by decide), rfl, hwhole [1, 2] (by decide), by decide, trivial⟩
  have hline : characters afterwards = (noisy [] plain).frame ++
      [noisy [] plain, noisy [1, 2] escaped].flatMap fun u => u.noise ++ u.frame := by
    rw [afterwards, characters_append, characters_append, characters_char, characters_char]
    exact congrArg (fun l => _ ++ (_ ++ l)) ((characters_char _).trans (List.append_nil _).symm)
  obtain ⟨s, hbroken⟩ := Option.isSome_iff_exists.mp (show (init.run .big broken).isSome by decide)
  obtain ⟨s', extra, hrun, hlen, hgains⟩ := router_resync hbroken (hwhole [] (by decide)) hts hline
  obtain ⟨new, hthrough, -, hall⟩ := hgains 2
  have hroomy : (init.run .big broken).all fun s => s.roomy .big 2 afterwards := by
    decide +kernel
  rw [hbroken, Option.all_some] at hroomy
  have hempty : (init.run .big broken).all fun s => (s.through 2).isEmpty := by
    decide +kernel
  rw [hbroken, Option.all_some, List.isEmpty_iff] at hempty
  have hlater : (([noisy [] plain, noisy [1, 2] escaped].filter fun u => u.packet.length ≤ 248).map
      fun u => (u.packet.id, u.packet.payload)).filter (fun c => c.1.pri = 2) =
        [(plain.id, [0, 1]), (escaped.id, [0xC0, 0xC0, 0xC0])] := by
    decide
  refine ⟨s, s', extra.filter fun c => c.1.pri = 2, hbroken, hrun,
    (List.length_filter_le _ _).trans hlen, ?_⟩
  rw [hthrough, hempty, List.nil_append, hall hroomy, List.filter_append, hlater]

end KissNode
end UhfGs.Csp
