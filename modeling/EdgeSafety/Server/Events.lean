import Mathlib.Algebra.Group.Nat.Defs
import EdgeSafety.Lib.FirstWrite

/-!
# Event ingestion

`POST /events` of `server/api`: the check of the idempotency key, then one locked section of the
in-memory repository. A request here is one whose body passed validation; of the body only the event
id is looked at, so the rest of it is a parameter. The map of events is one in which the first write
wins (`handle_events`), from which `ingestion_idempotent` reads what retries and reordering can do.
-/

namespace EdgeSafety

/-- `UUID`, by its `int`. -/
structure Uuid where
  int : BitVec 128
  deriving DecidableEq

/-- The hexadecimal digits, the most significant first. -/
def Uuid.hex (uuid : Uuid) : List Char :=
  (List.range 32).map fun position =>
    Nat.digitChar (uuid.int.toNat / 16 ^ (31 - position) % 16)

/-- `str`. -/
def Uuid.str (uuid : Uuid) : String :=
  let hex := uuid.hex
  String.ofList (hex.take 8 ++ '-' :: (hex.drop 8).take 4 ++ '-' :: (hex.drop 12).take 4 ++
    '-' :: (hex.drop 16).take 4 ++ '-' :: hex.drop 20)

example : (Uuid.mk 0x0123456789abcdef0123456789abcdef).str =
    "01234567-89ab-cdef-0123-456789abcdef" := by decide

/-- `SafetyEvent`; `Body` is what it has besides its id. -/
structure SafetyEvent (Body : Type) where
  eventId : Uuid
  body : Body
  deriving DecidableEq

/-- `InMemoryControlPlaneRepository.events`. -/
structure InMemoryControlPlaneRepository (Body : Type) where
  events : Dict Uuid (SafetyEvent Body)

/-- A `POST /events` request with a valid body. -/
structure EventRequest (Body : Type) where
  event : SafetyEvent Body
  idempotencyKey : Option String
  deriving DecidableEq

/-- `EventIngestResponse`. -/
structure EventIngestResponse where
  eventId : Uuid
  accepted : Bool
  duplicate : Bool
  deriving DecidableEq

/-- What the client gets. -/
inductive EventAnswer
  | httpException (statusCode : Nat) (detail : String)
  | response (statusCode : Nat) (body : EventIngestResponse)
  deriving DecidableEq

variable {Body : Type}

/-- `InMemoryControlPlaneRepository.ingest_event`. -/
def InMemoryControlPlaneRepository.ingestEvent (repository : InMemoryControlPlaneRepository Body)
    (event : SafetyEvent Body) : Bool × InMemoryControlPlaneRepository Body :=
  if event.eventId ∈ repository.events.keys then (false, repository)
  else (true, { repository with events := repository.events.set event.eventId event })

/-- The idempotency key is not the event id. -/
def EventRequest.Rejected (request : EventRequest Body) : Prop :=
  ∃ key, request.idempotencyKey = some key ∧ key ≠ request.event.eventId.str

instance (request : EventRequest Body) : Decidable request.Rejected :=
  match h : request.idempotencyKey with
  | none => isFalse fun ⟨key, hkey, _⟩ => by cases h.symm.trans hkey
  | some key =>
    decidable_of_iff (key ≠ request.event.eventId.str)
      ⟨fun hne => ⟨key, h, hne⟩, fun ⟨other, hother, hne⟩ => by
        rwa [Option.some.inj (h.symm.trans hother)]⟩

/-- The route `ingest_event`. -/
def ingestEvent (repository : InMemoryControlPlaneRepository Body) (request : EventRequest Body) :
    EventAnswer × InMemoryControlPlaneRepository Body :=
  if request.Rejected then
    (.httpException 409 "Idempotency-Key must equal event_id", repository)
  else
    let (accepted, repository) := repository.ingestEvent request.event
    (.response (if accepted then 201 else 200)
      { eventId := request.event.eventId, accepted, duplicate := !accepted }, repository)

/-- A sequence of requests, in the order in which they are handled, with their answers. -/
def handle (repository : InMemoryControlPlaneRepository Body) :
    List (EventRequest Body) → List EventAnswer × InMemoryControlPlaneRepository Body
  | [] => ([], repository)
  | request :: requests =>
    ((ingestEvent repository request).1 :: (handle (ingestEvent repository request).2 requests).1,
      (handle (ingestEvent repository request).2 requests).2)

namespace EventAnswer

/-- The answer to a request whose event was stored. -/
def created (eventId : Uuid) : EventAnswer :=
  .response 201 { eventId, accepted := true, duplicate := false }

/-- The answer to a request whose event was there. -/
def duplicate (eventId : Uuid) : EventAnswer :=
  .response 200 { eventId, accepted := false, duplicate := true }

/-- The answer to a request with a wrong idempotency key. -/
def conflict : EventAnswer := .httpException 409 "Idempotency-Key must equal event_id"

end EventAnswer

/-- A repository without events. -/
def InMemoryControlPlaneRepository.init : InMemoryControlPlaneRepository Body := ⟨.empty⟩

/-- What the requests that are not rejected write. -/
def writes (requests : List (EventRequest Body)) : List (Uuid × SafetyEvent Body) :=
  (requests.filter fun request => ¬ request.Rejected).map fun request =>
    (request.event.eventId, request.event)

section Handle
variable {repository : InMemoryControlPlaneRepository Body} {request : EventRequest Body}

theorem ingestEvent_rejected (h : request.Rejected) :
    ingestEvent repository request = (.conflict, repository) :=
  if_pos h

/-- A request that is not rejected is a write, the first of which wins. -/
theorem ingestEvent_accepted (h : ¬ request.Rejected) :
    let written := repository.events.setDefault request.event.eventId request.event
    ingestEvent repository request =
      (if written.1 then .created request.event.eventId else .duplicate request.event.eventId,
        ⟨written.2⟩) := by
  unfold ingestEvent InMemoryControlPlaneRepository.ingestEvent
  rw [if_neg h]
  by_cases hmem : request.event.eventId ∈ repository.events.keys
  · rw [Dict.setDefault_of_mem hmem, if_pos hmem]
    rfl
  · rw [Dict.setDefault_of_not_mem hmem, if_neg hmem]
    rfl

end Handle

end EdgeSafety
