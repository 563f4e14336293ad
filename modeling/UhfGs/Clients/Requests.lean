import UhfGs.Clients.Sessions

/-! What a request over the air tells of the memory that it was built in. -/
namespace UhfGs.Clients
open Csp Bytes Packed

/-- What surrounds a request: what the library does with it, the content of the buffer, the
replies, and the byte behind the local variable of a housekeeping request. -/
structure Surroundings where
  link : Link
  replies : List Reply
  stack : UInt8

def Surroundings.env (s : Surroundings) : SessionEnv :=
  ⟨s.link.conn, s.link.buffer, s.link.sent, s.replies⟩

section Eps
variable (node : UInt8) (timeout : UInt32) (s : Surroundings)

/-- The housekeeping requests: of a variable of one byte two are sent. -/
def epsHk (req : UInt8) (inlen : Nat) : Exchange :=
  cspTransaction s.link ⟨1, node, 8, timeout, [req, s.stack], inlen⟩

def epsHkGet : Exchange := epsHk node timeout s 0 131

def epsHkViGet : Exchange := epsHk node timeout s 1 20

def epsHkOutGet : Exchange := epsHk node timeout s 2 64

def epsHkWdtGet : Exchange := epsHk node timeout s 3 26

def epsHkBasicGet : Exchange := epsHk node timeout s 4 21

end Eps

/-- The requests, each with its arguments. The address and the time-out of the power supply are
variables of its client. -/
inductive Request where
  | gatossListShort (filtering packetLimit startIndex : UInt32)
  | gatossListFull (filtering packetLimit startIndex : UInt32)
  | gatossPlanePositions (icao24 minDistance : UInt32)
  | gatossPlaneContacts (icao24 : UInt32)
  | gatossBlobLs
  | epsHkGet (node : UInt8) (timeout : UInt32)
  | epsHkViGet (node : UInt8) (timeout : UInt32)
  | epsHkOutGet (node : UInt8) (timeout : UInt32)
  | epsHkWdtGet (node : UInt8) (timeout : UInt32)
  | epsHkBasicGet (node : UInt8) (timeout : UInt32)

namespace Request

def transmitted (e : Endian) (s : Surroundings) : Request → Option (List UInt8)
  | gatossListShort filtering limit start =>
      ((Clients.gatossListShort e filtering limit start).session s.env).transmitted
  | gatossListFull filtering limit start =>
      ((Clients.gatossListFull e filtering limit start).session s.env).transmitted
  | gatossPlanePositions icao24 minDistance =>
      ((Clients.gatossPlanePositions e icao24 minDistance).session s.env).transmitted
  | gatossPlaneContacts icao24 => ((Clients.gatossPlaneContacts e icao24).session s.env).transmitted
  | gatossBlobLs => (Clients.gatossBlobLs.session s.env).transmitted
  | epsHkGet node timeout => (Clients.epsHkGet node timeout s).transmitted
  | epsHkViGet node timeout => (Clients.epsHkViGet node timeout s).transmitted
  | epsHkOutGet node timeout => (Clients.epsHkOutGet node timeout s).transmitted
  | epsHkWdtGet node timeout => (Clients.epsHkWdtGet node timeout s).transmitted
  | epsHkBasicGet node timeout => (Clients.epsHkBasicGet node timeout s).transmitted

/-- The size of the request structure: `gatoss_list_req`, `gatoss_plane_positions_req`,
`gatoss_plane_contacts_req`, nothing, or the sub-type in two bytes. -/
def declared : Request → Nat
  | gatossListShort .. | gatossListFull .. => 12
  | gatossPlanePositions .. => 8
  | gatossPlaneContacts .. => 4
  | gatossBlobLs => 0
  | _ => 2

/-- What goes out has the length declared and depends on the arguments only. -/
structure Noninterfering (e : Endian) (r : Request) : Prop where
  length : ∀ s data, r.transmitted e s = some data → data.length = r.declared
  same : ∀ s s' data data', r.transmitted e s = some data → r.transmitted e s' = some data' →
    data = data'

/-- The requests of which all that is sent was set before. -/
def SetWhole : Request → Prop
  | gatossListShort .. | gatossListFull .. | gatossPlanePositions .. | gatossBlobLs => True
  | _ => False

end Request

theorem requestData_eq (copied : List UInt8) (length : Nat) (mem : Nat → UInt8) :
    requestData copied length mem =
      copied.take length ++ (readMem length mem).drop copied.length :=
  readMem_writeMem_zero length copied mem

theorem length_requestWords (e : Endian) (ws : List UInt32) :
    (requestWords e ws).length = 4 * ws.length := by
  have hwords : requestWords e ws = (ws.map (cspHton32Word e)).flatMap (u32.store e) :=
    (List.flatMap_map ..).symm
  rw [hwords, length_flatMap_store, List.length_map]
  exact Nat.mul_comm _ _

theorem ListClient.transmitted_eq_some_iff (c : ListClient) (env : SessionEnv)
    (data : List UInt8) :
    (c.session env).transmitted = some data ↔
      ∃ mem, env.conn ∧ env.buffer = some mem ∧ env.sent ∧
        requestData c.copied c.length mem = data := by
  obtain ⟨conn, buffer, sent, replies⟩ := env
  cases conn <;> cases buffer <;> cases sent <;> simp [session]

theorem ListClient.transmitted_copied {c : ListClient} (hlen : c.length = c.copied.length)
    {env : SessionEnv} {data : List UInt8} (h : (c.session env).transmitted = some data) :
    data = c.copied := by
  obtain ⟨mem, -, -, -, hdata⟩ := (c.transmitted_eq_some_iff env data).mp h
  rw [← hdata, requestData_eq, hlen, List.take_length, List.drop_eq_nil_of_le (by simp),
    List.append_nil]

theorem epsHk_transmitted {node : UInt8} {timeout : UInt32} {s : Surroundings} {req : UInt8}
    {inlen : Nat} (h : s.link.Sends) :
    (epsHk node timeout s req inlen).transmitted = some [req, s.stack] :=
  transmitted_of_sends _ h

def Surroundings.fair (stack : UInt8) : Surroundings :=
  ⟨⟨true, some fun _ => 0, true, none⟩, [], stack⟩

namespace Request

theorem noninterfering_of_copied {e : Endian} {r : Request} {c : ListClient}
    (hr : ∀ s, r.transmitted e s = (c.session s.env).transmitted)
    (hlen : c.length = c.copied.length) (hdeclared : c.copied.length = r.declared) :
    r.Noninterfering e where
  length s data h := by
    rw [hr s] at h
    rw [ListClient.transmitted_copied hlen h, hdeclared]
  same s s' data data' h h' := by
    rw [hr] at h h'
    rw [ListClient.transmitted_copied hlen h, ListClient.transmitted_copied hlen h']

theorem not_noninterfering_of_epsHk {e : Endian} {r : Request} {node : UInt8} {timeout : UInt32}
    {req : UInt8} {inlen : Nat}
    (hr : ∀ s, r.transmitted e s = (epsHk node timeout s req inlen).transmitted) :
    ¬ r.Noninterfering e := by
  intro h
  have hsent (stack : UInt8) : r.transmitted e (.fair stack) = some [req, stack] :=
    (hr _).trans (epsHk_transmitted ⟨rfl, rfl, rfl⟩)
  exact absurd (h.same _ _ _ _ (hsent 0) (hsent 1)) (by simp)

theorem not_noninterfering_planeContacts (e : Endian) (icao24 : UInt32) :
    ¬ (gatossPlaneContacts icao24).Noninterfering e := by
  intro h
  have hsent := (ListClient.transmitted_eq_some_iff (Clients.gatossPlaneContacts e icao24)
    (Surroundings.fair 0).env _).mpr ⟨fun _ => 0, rfl, rfl, rfl, rfl⟩
  have hlen := h.length _ _ hsent
  rw [requestData, length_readMem] at hlen
  cases hlen

theorem noninterfering_iff_setWhole (e : Endian) (r : Request) : r.Noninterfering e ↔ r.SetWhole := by
  cases r with
  | gatossListShort filtering limit start =>
      have hdeclared := length_requestWords e [filtering, limit, start]
      exact iff_of_true (noninterfering_of_copied (fun _ => rfl) rfl hdeclared) trivial
  | gatossListFull filtering limit start =>
      have hdeclared := length_requestWords e [filtering, limit, start]
      exact iff_of_true (noninterfering_of_copied (fun _ => rfl) rfl hdeclared) trivial
  | gatossPlanePositions icao24 minDistance =>
      have hdeclared := length_requestWords e [icao24, minDistance]
      exact iff_of_true (noninterfering_of_copied (fun _ => rfl) rfl hdeclared) trivial
  | gatossBlobLs => exact iff_of_true (noninterfering_of_copied (fun _ => rfl) rfl rfl) trivial
  | gatossPlaneContacts icao24 => exact iff_of_false (not_noninterfering_planeContacts e icao24) id
  | epsHkGet => exact iff_of_false (not_noninterfering_of_epsHk fun _ => rfl) id
  | epsHkViGet => exact iff_of_false (not_noninterfering_of_epsHk fun _ => rfl) id
  | epsHkOutGet => exact iff_of_false (not_noninterfering_of_epsHk fun _ => rfl) id
  | epsHkWdtGet => exact iff_of_false (not_noninterfering_of_epsHk fun _ => rfl) id
  | epsHkBasicGet => exact iff_of_false (not_noninterfering_of_epsHk fun _ => rfl) id

/-- 200 bytes for a request of four. -/
theorem gatossPlaneContacts_interferes :
    ¬ ∀ (e : Endian) (r : Request), r.Noninterfering e :=
  fun h => not_noninterfering_planeContacts .little 0 (h .little (gatossPlaneContacts 0))

end Request

end UhfGs.Clients
