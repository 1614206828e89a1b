import Mathlib.Logic.Function.Basic
import Mathlib.Data.List.Basic

/-!
# Families of machines

Machines of one kind, one for each key of a family: a call names a key and goes to its machine,
and a call with a key that has no machine fails. The machines share nothing, so that whatever
the order of the calls, a key sees its own machine run alone on the inputs that were meant for
it (`run_member`), and a key without a machine sees failures only (`run_stranger`).
-/

namespace EdgeSafety.Family

variable {κ σ ι ω : Type} [DecidableEq κ] (update : σ → ι → σ × ω)

/-- A machine run alone: the state it ends in and its answers. -/
def solo (s : σ) : List ι → σ × List ω
  | [] => (s, [])
  | input :: inputs =>
    ((solo (update s input).1 inputs).1, (update s input).2 :: (solo (update s input).1 inputs).2)

/-- One call to the family. -/
def call (family : κ → Option σ) (key : κ) (input : ι) : Option ω × (κ → Option σ) :=
  match family key with
  | none => (none, family)
  | some s => (some (update s input).2, Function.update family key (some (update s input).1))

/-- A sequence of calls, with the answers and the family that it leaves. -/
def run (family : κ → Option σ) : List (κ × ι) → List (κ × Option ω) × (κ → Option σ)
  | [] => ([], family)
  | (key, input) :: calls =>
    ((key, (call update family key input).1) :: (run (call update family key input).2 calls).1,
      (run (call update family key input).2 calls).2)

/-- What was meant for the key, or came from it. -/
def ofKey {β : Type} (key : κ) (exchanges : List (κ × β)) : List β :=
  (exchanges.filter (·.1 = key)).map Prod.snd

theorem ofKey_cons_self {β : Type} (key : κ) (b : β) (exchanges : List (κ × β)) :
    ofKey key ((key, b) :: exchanges) = b :: ofKey key exchanges := by
  simp [ofKey]

theorem ofKey_cons_of_ne {β : Type} {key other : κ} (h : other ≠ key) (b : β)
    (exchanges : List (κ × β)) : ofKey key ((other, b) :: exchanges) = ofKey key exchanges := by
  simp [ofKey, h]

theorem mem_ofKey {β : Type} {key : κ} {b : β} {exchanges : List (κ × β)} :
    b ∈ ofKey key exchanges ↔ (key, b) ∈ exchanges := by
  simp only [ofKey, List.mem_map, List.mem_filter, decide_eq_true_eq]
  exact ⟨fun ⟨⟨_, _⟩, ⟨hmem, hkey⟩, hb⟩ => by cases hkey; cases hb; exact hmem,
    fun hmem => ⟨(key, b), ⟨hmem, rfl⟩, rfl⟩⟩

theorem ofKey_append {β : Type} (key : κ) (exchanges later : List (κ × β)) :
    ofKey key (exchanges ++ later) = ofKey key exchanges ++ ofKey key later := by
  rw [ofKey, List.filter_append, List.map_append]
  rfl

/-- What a key gets from answers that are each made into a list. -/
theorem ofKey_flatMap {β γ : Type} (key : κ) (parts : β → List γ) (exchanges : List (κ × β)) :
    ofKey key (exchanges.flatMap fun exchange =>
        (parts exchange.2).map fun part => (exchange.1, part)) =
      (ofKey key exchanges).flatMap parts := by
  induction exchanges with
  | nil => rfl
  | cons exchange exchanges ih =>
    obtain ⟨other, b⟩ := exchange
    rw [List.flatMap_cons, ofKey_append, ih]
    by_cases hkey : other = key
    · subst hkey
      have hall : ((parts b).map fun part => (other, part)).filter (·.1 = other) =
          (parts b).map fun part => (other, part) :=
        List.filter_eq_self.mpr (by simp)
      rw [ofKey_cons_self, List.flatMap_cons, ofKey, hall, List.map_map]
      exact congrArg (· ++ _) (List.map_id _)
    · rw [ofKey_cons_of_ne hkey]
      simp [ofKey, hkey]

/-- Pairs are distinct when the second components of each key are. -/
theorem nodup_of_ofKey {β : Type} {exchanges : List (κ × β)}
    (h : ∀ key, (ofKey key exchanges).Nodup) : exchanges.Nodup := by
  induction exchanges with
  | nil => exact List.nodup_nil
  | cons exchange exchanges ih =>
    obtain ⟨other, b⟩ := exchange
    refine List.nodup_cons.mpr ⟨fun hmem => ?_, ih fun key => ?_⟩
    · have hself := h other
      rw [ofKey_cons_self] at hself
      exact (List.nodup_cons.mp hself).1 (mem_ofKey.mpr hmem)
    · exact (h key).sublist (((List.sublist_cons_self _ _).filter _).map _)

theorem ofKey_map_of_ne {β : Type} {key other : κ} (h : other ≠ key) (bs : List β) :
    ofKey key (bs.map (other, ·)) = [] := by
  simp [ofKey, h]

theorem ofKey_map_self {β : Type} (key : κ) (bs : List β) : ofKey key (bs.map (key, ·)) = bs := by
  induction bs with
  | nil => rfl
  | cons b bs ih => rw [List.map_cons, ofKey_cons_self, ih]

theorem run_append (family : κ → Option σ) (calls later : List (κ × ι)) :
    run update family (calls ++ later) =
      ((run update family calls).1 ++ (run update (run update family calls).2 later).1,
        (run update (run update family calls).2 later).2) := by
  induction calls generalizing family with
  | nil => rfl
  | cons call calls ih =>
    obtain ⟨key, input⟩ := call
    simp only [List.cons_append, run, ih]

/-- Inputs for one key only. -/
theorem run_map {family : κ → Option σ} {key : κ} {s : σ} (h : family key = some s)
    (inputs : List ι) :
    (run update family (inputs.map (key, ·))).1 =
      (solo update s inputs).2.map fun answer => (key, some answer) := by
  induction inputs generalizing family s with
  | nil => rfl
  | cons input inputs ih =>
    have hcall : call update family key input =
        (some (update s input).2, Function.update family key (some (update s input).1)) := by
      rw [call, h]
    rw [List.map_cons, run, hcall, solo, List.map_cons, ih (Function.update_self ..)]

section Isolation
variable {family : κ → Option σ} {key other : κ}

/-- A call to one key leaves the others as they are. -/
theorem call_of_ne (h : other ≠ key) (input : ι) :
    (call update family other input).2 key = family key := by
  unfold call
  cases family other with
  | none => rfl
  | some s => exact Function.update_of_ne h.symm _ _

theorem call_of_some {s : σ} (h : family key = some s) (input : ι) :
    call update family key input =
      (some (update s input).2, Function.update family key (some (update s input).1)) := by
  rw [call, h]

/-- A key sees its own machine, run alone. -/
theorem run_member {s : σ} (h : family key = some s) (calls : List (κ × ι)) :
    ofKey key (run update family calls).1 = (solo update s (ofKey key calls)).2.map some ∧
      (run update family calls).2 key = some (solo update s (ofKey key calls)).1 := by
  induction calls generalizing family s with
  | nil => exact ⟨rfl, h⟩
  | cons c calls ih =>
    obtain ⟨other, input⟩ := c
    by_cases hkey : other = key
    · subst hkey
      obtain ⟨hanswers, hstate⟩ := ih (Function.update_self other (some (update s input).1) family)
      rw [run, call_of_some update h, ofKey_cons_self, ofKey_cons_self, solo, hanswers]
      exact ⟨rfl, hstate⟩
    · obtain ⟨hanswers, hstate⟩ := ih ((call_of_ne update hkey input).trans h)
      rw [run, ofKey_cons_of_ne hkey, ofKey_cons_of_ne hkey]
      exact ⟨hanswers, hstate⟩

/-- A key without a machine sees failures only. -/
theorem run_stranger (h : family key = none) (calls : List (κ × ι)) :
    (∀ answer ∈ ofKey key (run update family calls).1, answer = none) ∧
      (run update family calls).2 key = none := by
  induction calls generalizing family with
  | nil => exact ⟨fun _ hanswer => absurd hanswer List.not_mem_nil, h⟩
  | cons c calls ih =>
    obtain ⟨other, input⟩ := c
    by_cases hkey : other = key
    · subst hkey
      have hcall : call update family other input = (none, family) := by rw [call, h]
      obtain ⟨hanswers, hstate⟩ := ih h
      rw [run, hcall, ofKey_cons_self]
      exact ⟨List.forall_mem_cons.mpr ⟨rfl, hanswers⟩, hstate⟩
    · obtain ⟨hanswers, hstate⟩ := ih ((call_of_ne update hkey input).trans h)
      rw [run, ofKey_cons_of_ne hkey]
      exact ⟨hanswers, hstate⟩

/-- A key without a machine is answered as often as it is called. -/
theorem ofKey_run_of_stranger (h : family key = none) (calls : List (κ × ι)) :
    ofKey key (run update family calls).1 = (ofKey key calls).map fun _ => none := by
  induction calls generalizing family with
  | nil => rfl
  | cons c calls ih =>
    obtain ⟨other, input⟩ := c
    by_cases hkey : other = key
    · subst hkey
      have hcall : call update family other input = (none, family) := by rw [call, h]
      rw [run, hcall, ofKey_cons_self, ofKey_cons_self, List.map_cons, ih h]
    · rw [run, ofKey_cons_of_ne hkey, ofKey_cons_of_ne hkey,
        ih ((call_of_ne update hkey input).trans h)]

end Isolation

end EdgeSafety.Family
