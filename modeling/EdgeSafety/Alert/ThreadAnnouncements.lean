import EdgeSafety.Alert.ThreadAlerts

/-!
# What the capture threads announce

Whatever is announced to the dashboard was inserted before, with the id that the message names, and
it is announced once and in the order of the rows of its camera. A row that is never announced
belongs to a call of `process` that raised after the row was inserted (`alerts_announced`).
-/

namespace EdgeSafety
namespace AlertThreads

variable {K : Type} [Field K]

theorem threads_threadTo_self (s : AlertThreads K) (camera : String) (pc : AlertPc K) :
    (s.threadTo camera pc).threads camera = pc :=
  Function.update_self ..

theorem threads_threadTo_of_ne (s : AlertThreads K) {camera other : String}
    (hother : other ≠ camera) (pc : AlertPc K) :
    (s.threadTo camera pc).threads other = s.threads other :=
  Function.update_of_ne hother ..

theorem threadTo_threadTo (s : AlertThreads K) (camera : String) (pc later : AlertPc K) :
    (s.threadTo camera pc).threadTo camera later = s.threadTo camera later := by
  simp only [threadTo, Function.update_idem]

/-- The message about a violation tells of its row. -/
def Tells (row : ViolationRow K) (violation : Violation K) : Prop :=
  violation.id = some row.id ∧ violation.cameraId = row.cameraId ∧ violation.type = row.type ∧
    violation.severity = row.severity ∧ violation.bbox = row.bbox

/-- The rows of a camera that were inserted are those of calls that raised and those that are
announced or still to be announced, in order. -/
structure Announced (before : List (ViolationRow K)) (s : AlertThreads K) (h : History K) :
    Prop where
  database : s.database = before ++ h.inserted
  ids : (h.inserted.map ViolationRow.id).Nodup ∧
    ∀ row ∈ before, ∀ other ∈ h.inserted, row.id ≠ other.id
  split : ∀ camera,
    (h.lost camera ++ h.live camera).Perm (h.inserted.filter (·.cameraId = camera))
  ordered : ∀ camera, (h.live camera).Sublist (h.inserted.filter (·.cameraId = camera))
  told : ∀ camera, List.Forall₂ Tells (h.live camera)
    (s.announced.filter (·.cameraId = camera) ++ (s.threads camera).unannounced)

section Announced
variable {before : List (ViolationRow K)} {s t : AlertThreads K} {h h' : History K}

omit [Field K] in
theorem unannounced_loop (remaining dispatched : List (Violation K)) :
    (AlertPc.loop remaining dispatched).unannounced = dispatched := by
  cases remaining <;> rfl

/-- A thread goes on and has as much to announce as before. -/
theorem Announced.threadTo (hs : Announced before s h) (camera : String) {pc : AlertPc K}
    (hpc : pc.unannounced = (s.threads camera).unannounced) :
    Announced before (s.threadTo camera pc) h := by
  refine { hs with told := fun other => ?_ }
  show List.Forall₂ Tells (h.live other)
    (_ ++ (Function.update s.threads camera pc other).unannounced)
  by_cases hother : other = camera
  · subst hother
    rw [Function.update_self, hpc]
    exact hs.told other
  · rw [Function.update_of_ne hother]
    exact hs.told other

/-- The call of a thread raises, and what it dispatched is not announced. -/
theorem Announced.lose (hs : Announced before s h) {camera : String} {count : Nat}
    (hcount : (s.threads camera).unannounced.length = count) :
    Announced before (s.threadTo camera (.announcing [])) (h.lose camera count) := by
  have hlength := (hs.told camera).length_eq
  rw [List.length_append, hcount] at hlength
  have hkept : (h.live camera).length - count =
      (s.announced.filter (·.cameraId = camera)).length := by omega
  refine ⟨hs.database, hs.ids, fun other => ?_, fun other => ?_, fun other => ?_⟩ <;>
    by_cases hother : other = camera
  · subst hother
    simp only [History.lose, Function.update_self]
    refine List.Perm.trans ?_ (hs.split other)
    rw [List.append_assoc]
    refine List.Perm.append_left _ (List.perm_append_comm.trans ?_)
    rw [List.take_append_drop]
  · simp only [History.lose, Function.update_of_ne hother]
    exact hs.split other
  · subst hother
    simp only [History.lose, Function.update_self]
    exact (List.take_sublist _ _).trans (hs.ordered other)
  · simp only [History.lose, Function.update_of_ne hother]
    exact hs.ordered other
  · subst hother
    simp only [History.lose, Function.update_self, hkept, threads_threadTo_self]
    show List.Forall₂ Tells _ (_ ++ [])
    rw [List.append_nil]
    exact List.forall₂_take_append _ _ _ (hs.told other)
  · simp only [History.lose, Function.update_of_ne hother, threads_threadTo_of_ne _ hother]
    exact hs.told other

/-- A row is inserted, and the thread is to announce it. -/
theorem Announced.insert (hs : Announced before s h) {camera : String} {row : ViolationRow K}
    {pc : AlertPc K} {violation : Violation K}
    (hpc : pc.unannounced = (s.threads camera).unannounced ++ [violation])
    (hcamera : row.cameraId = camera) (htells : Tells row violation)
    (hfresh : ∀ other ∈ s.database, other.id ≠ row.id) :
    Announced before ({ s with database := s.database ++ [row] }.threadTo camera pc)
      (h.insert camera row) := by
  have hnew : ∀ other ∈ h.inserted, other.id ≠ row.id := fun other hmem =>
    hfresh other (by rw [hs.database]; exact List.mem_append_right _ hmem)
  have hrows : ∀ other, (h.insert camera row).inserted.filter (·.cameraId = other) =
      h.inserted.filter (·.cameraId = other) ++ if other = camera then [row] else [] := by
    intro other
    rw [History.insert, List.filter_append]
    by_cases hother : other = camera
    · simp [hcamera, hother]
    · simp [hcamera, hother, Ne.symm hother]
  have hlive : ∀ other, (h.insert camera row).live other =
      h.live other ++ if other = camera then [row] else [] := by
    intro other
    by_cases hother : other = camera
    · rw [if_pos hother, hother]
      exact Function.update_self ..
    · rw [if_neg hother, List.append_nil]
      exact Function.update_of_ne hother ..
  refine ⟨?_, ⟨?_, ?_⟩, fun other => ?_, fun other => ?_, fun other => ?_⟩
  · show s.database ++ [row] = before ++ (h.inserted ++ [row])
    rw [hs.database, List.append_assoc]
  · show ((h.inserted ++ [row]).map ViolationRow.id).Nodup
    rw [List.map_append]
    refine List.nodup_append'.mpr ⟨hs.ids.1, List.nodup_singleton _, ?_⟩
    refine List.disjoint_singleton.mpr fun hmem => ?_
    obtain ⟨other, hother, hid⟩ := List.mem_map.mp hmem
    exact hnew other hother hid
  · intro old hold other hother
    rcases List.mem_append.mp hother with hother | hother
    · exact hs.ids.2 old hold other hother
    · rw [List.mem_singleton.mp hother]
      exact hfresh old (by rw [hs.database]; exact List.mem_append_left _ hold)
  · rw [hlive, hrows, ← List.append_assoc]
    exact (hs.split other).append_right _
  · rw [hlive, hrows]
    exact (hs.ordered other).append_right _
  · rw [hlive]
    by_cases hother : other = camera
    · subst hother
      rw [if_pos rfl, threads_threadTo_self, hpc, ← List.append_assoc]
      exact List.rel_append (hs.told other) (.cons htells .nil)
    · rw [if_neg hother, List.append_nil, threads_threadTo_of_ne _ hother]
      exact hs.told other

/-- A violation is handed to the dashboard. -/
theorem Announced.announce (hs : Announced before s h) {camera : String}
    {violation : Violation K} {rest : List (Violation K)}
    (pc : s.threads camera = .announcing (violation :: rest))
    (hcamera : violation.cameraId = camera) :
    Announced before
      ({ s with announced := s.announced ++ [violation] }.threadTo camera (.announcing rest)) h := by
  refine { hs with told := fun other => ?_ }
  have htold := hs.told other
  show List.Forall₂ Tells (h.live other) ((s.announced ++ [violation]).filter _ ++ _)
  rw [List.filter_append]
  by_cases hother : other = camera
  · subst hother
    rw [pc] at htold
    rw [threads_threadTo_self, List.filter_cons_of_pos (by simpa using hcamera), List.filter_nil,
      List.append_assoc]
    exact htold
  · rw [threads_threadTo_of_ne _ hother, List.filter_cons_of_neg (by simp [hcamera, Ne.symm hother]),
      List.filter_nil, List.append_nil]
    exact htold

theorem Announced.step [LinearOrder K] (hs : Announced before s h) (howned : Owned s)
    (hstep : RecordedStep s h t h') : Announced before t h' := by
  cases hstep with
  | tick => exact { hs with }
  | process result pc => exact hs.threadTo _ (by rw [unannounced_loop, pc]; rfl)
  | roiRaised camera pc | notInserted camera pc => exact hs.lose (by rw [pc]; rfl)
  | outside camera pc | suppressed camera pc =>
    exact hs.threadTo camera (by rw [unannounced_loop, pc]; rfl)
  | inside camera pc => exact hs.threadTo camera (by rw [pc]; rfl)
  | fired camera pc =>
    have hcooled : ∀ cooldown, Announced before { s with cooldown } h := fun _ => { hs with }
    exact (hcooled _).threadTo camera (congrArg AlertPc.unannounced pc).symm
  | @inserted violation rest dispatched firedUs camera id returned pc fresh =>
    have hcamera : violation.cameraId = camera :=
      howned camera violation (by rw [pc]; exact List.mem_cons_self)
    have htells : Tells (violation.row id s.clockUs) { violation with id := some id } :=
      ⟨rfl, rfl, rfl, rfl, rfl⟩
    have hinsert : ∀ pc' : AlertPc K,
        pc'.unannounced = dispatched ++ [{ violation with id := some id }] →
        Announced before ({ s with database := s.database ++ [violation.row id s.clockUs] }.threadTo
          camera pc') (h.insert camera (violation.row id s.clockUs)) := fun pc' hpc' =>
      hs.insert (by rw [hpc', pc]; rfl) hcamera htells fun row hrow => fresh row hrow
    cases returned with
    | true => exact hinsert _ (unannounced_loop _ _)
    | false =>
      have hraised := @Announced.lose K _ before _ _
        (hinsert (.announcing (dispatched ++ [{ violation with id := some id }])) rfl) camera
        (dispatched.length + 1) (by rw [threads_threadTo_self]; simp [AlertPc.unannounced])
      rw [threadTo_threadTo] at hraised
      exact hraised
  | announce camera pc =>
    exact hs.announce pc (howned camera _ (by rw [pc]; exact List.mem_cons_self))

end Announced

end AlertThreads

end EdgeSafety
