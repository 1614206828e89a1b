import EdgeSafety.Lib.Family

/-!
# A family of machines with one device between them

Every machine of a family may ask a device for something with each input, and the device keeps a
state from one request to the next, whoever asks. `serve` is the device at work on the requests of
all machines. What a machine is answered is its own business where the answers do not depend on the
device's state (`ofKey_serve_of_const`), and where no other machine asks (`ofKey_serve_alone`).
-/

namespace EdgeSafety.SharedDevice

variable {κ ν ρ β : Type} [DecidableEq κ] (use : ρ → ν → β × ρ)

/-- The answers to a sequence of inputs, each with the request that comes with it, if any. -/
def serve (r : ρ) : List (κ × Option ν) → List (κ × Option β)
  | [] => []
  | (key, none) :: requests => (key, none) :: serve r requests
  | (key, some x) :: requests => (key, some (use r x).1) :: serve (use r x).2 requests

/-- The state of the device after that. -/
def settle (r : ρ) : List (κ × Option ν) → ρ
  | [] => r
  | (_, none) :: requests => settle r requests
  | (_, some x) :: requests => settle (use r x).2 requests

variable {use} {key : κ}

omit [DecidableEq κ] in
theorem serve_append (r : ρ) (requests later : List (κ × Option ν)) :
    serve use r (requests ++ later) =
      serve use r requests ++ serve use (settle use r requests) later := by
  induction requests generalizing r with
  | nil => rfl
  | cons request requests ih =>
    obtain ⟨other, asked⟩ := request
    cases asked with
    | none => simp only [List.cons_append, serve, settle, ih]
    | some x => simp only [List.cons_append, serve, settle, ih]

/-- A device whose answers never depend on its state. -/
theorem ofKey_serve_of_const {answer : ν → β} (h : ∀ r x, (use r x).1 = answer x) (r : ρ)
    (requests : List (κ × Option ν)) :
    Family.ofKey key (serve use r requests) =
      (Family.ofKey key requests).map (Option.map answer) := by
  induction requests generalizing r with
  | nil => rfl
  | cons request requests ih =>
    obtain ⟨other, asked⟩ := request
    by_cases hkey : other = key
    · subst hkey
      cases asked with
      | none => simp [serve, Family.ofKey_cons_self, ih]
      | some x => simp [serve, Family.ofKey_cons_self, ih, h]
    · cases asked with
      | none => simp [serve, Family.ofKey_cons_of_ne hkey, ih]
      | some x => simp [serve, Family.ofKey_cons_of_ne hkey, ih]

/-- A machine that never asks is answered nothing. -/
theorem ofKey_serve_of_silent {requests : List (κ × Option ν)}
    (h : ∀ asked ∈ Family.ofKey key requests, asked = none) (r : ρ) :
    Family.ofKey key (serve use r requests) = (Family.ofKey key requests).map fun _ => none := by
  induction requests generalizing r with
  | nil => rfl
  | cons request requests ih =>
    obtain ⟨other, asked⟩ := request
    by_cases hkey : other = key
    · subst hkey
      rw [Family.ofKey_cons_self, List.forall_mem_cons] at h
      obtain ⟨rfl, hrest⟩ := h
      simp [serve, Family.ofKey_cons_self, ih hrest]
    · rw [Family.ofKey_cons_of_ne hkey] at h
      cases asked with
      | none => simp [serve, Family.ofKey_cons_of_ne hkey, ih h]
      | some x => simp [serve, Family.ofKey_cons_of_ne hkey, ih h]

/-- Where no other machine asks, a machine has the device for itself. -/
theorem ofKey_serve_alone {requests : List (κ × Option ν)}
    (h : ∀ request ∈ requests, request.1 ≠ key → request.2 = none) (r : ρ) :
    Family.ofKey key (serve use r requests) =
      Family.ofKey key (serve use r ((Family.ofKey key requests).map (key, ·))) := by
  induction requests generalizing r with
  | nil => rfl
  | cons request requests ih =>
    obtain ⟨other, asked⟩ := request
    obtain ⟨hfirst, hrest⟩ := List.forall_mem_cons.mp h
    by_cases hkey : other = key
    · subst hkey
      cases asked with
      | none => simp [serve, Family.ofKey_cons_self, ih hrest]
      | some x => simp [serve, Family.ofKey_cons_self, ih hrest]
    · obtain rfl : asked = none := hfirst hkey
      simp only [serve, Family.ofKey_cons_of_ne hkey, ih hrest]

/-- What the first request of a machine is answered, when no other machine asks before it. -/
theorem findSome?_serve (key : κ) (r : ρ) (asked : List (Option ν)) :
    (Family.ofKey key (serve use r (asked.map (key, ·)))).findSome? id =
      (asked.findSome? id).map fun x => (use r x).1 := by
  induction asked with
  | nil => rfl
  | cons first asked ih =>
    cases first with
    | none => simpa [serve, Family.ofKey_cons_self] using ih
    | some x => simp [serve, Family.ofKey_cons_self]

end EdgeSafety.SharedDevice
