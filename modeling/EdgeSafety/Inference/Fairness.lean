import Mathlib.Data.List.ModifyLast
import EdgeSafety.Inference.Phases
import EdgeSafety.Lib.RoundRobin

/-!
# Fair service of the cameras

A run is followed by a rota: for each call of `_collect_batch` the cameras it examined, whether each
was past its analytics interval, and whether its buffer held a fresh frame when it was read.
`Rotating` is the invariant: the cursor counts the examinations of all calls, so that whatever the
calls found, they go round the cameras.
-/

namespace EdgeSafety.SharedInferenceScheduler

variable {n : Nat} {setup : SchedulerSetup n} {Output : Type}

/-- The examination of a camera: whether it was due, and, once its buffer was read, the fresh frame
that the buffer held. -/
structure Visit (n : Nat) where
  camera : Fin n
  due : Bool
  held : Option (Option FramePacket)

/-- A finished call of `_collect_batch`. -/
structure Collection (n : Nat) where
  visits : List (Visit n)
  batch : List FramePacket

/-- The finished calls, and the examinations of the running one. -/
structure Rota (n : Nat) where
  finished : List (Collection n)
  current : List (Visit n)

namespace State

/-- The buffer of the camera holds a frame newer than `_last_sequences` and not older than
`max_frame_age_ms`. -/
def Fresh (s : State setup Output) (camera : Fin n) : Prop :=
  s.lastSequences camera < (s.buffers camera).sequence ∧
    (s.buffers camera).ageMs s.clockNs.toNat ≤ setup.configuration.maxFrameAgeMs

instance (s : State setup Output) (camera : Fin n) : Decidable (s.Fresh camera) :=
  inferInstanceAs (Decidable (_ ∧ _))

/-- The camera at the cursor. -/
abbrev atCursor (s : State setup Output) (hn : 0 < n) : Fin n := ⟨s.cursor % n, Nat.mod_lt _ hn⟩

/-- The frame the buffer holds, when it is fresh. -/
def freshFrame (s : State setup Output) (camera : Fin n) : Option FramePacket :=
  if s.Fresh camera then some (s.buffers camera).packet else none

/-- `read_latest` returns a fresh frame and nothing else. -/
theorem readPacket_eq (s : State setup Output) (camera : Fin n) :
    s.readPacket camera = s.freshFrame camera := by
  unfold readPacket freshFrame LatestFrameBuffer.readLatest LatestFrameBuffer.verdict
  by_cases hnewer : s.lastSequences camera < (s.buffers camera).sequence
  · rw [if_neg (by omega)]
    by_cases hage : (s.buffers camera).ageMs s.clockNs.toNat ≤ setup.configuration.maxFrameAgeMs
    · rw [if_neg (by simpa using hage), if_pos ⟨hnewer, hage⟩]
    · have hstale : ¬ s.Fresh camera := fun h => hage h.2
      rw [if_pos (by simpa using hage), if_neg hstale]
  · have hold : ¬ s.Fresh camera := fun h => hnewer h.1
    rw [if_pos (by omega), if_neg hold]

end State

namespace Rota

/-- Nothing happened yet. -/
def empty : Rota n := ⟨[], []⟩

/-- The examinations of all calls, in order. -/
def visits (r : Rota n) : List (Visit n) := r.finished.flatMap Collection.visits ++ r.current

/-- What a step from `s` adds. -/
def record (r : Rota n) (s : State setup Output) : Event n Output → Rota n
  | .scheduler =>
    match s.pc with
    | .collect batch checked =>
      if h : checked < n ∧ batch.length < setup.configuration.detectorBatchSize then
        let camera := s.atCursor (Nat.zero_lt_of_lt h.1)
        { r with current := r.current ++ [⟨camera, !decide (s.NotDue camera), none⟩] }
      else ⟨r.finished ++ [⟨r.current, batch⟩], []⟩
    | .read x _ =>
      { r with
        current := r.current.modifyLast fun visit =>
          { visit with held := some (s.freshFrame x.camera) } }
    | _ => r
  | _ => r

end Rota

/-- The buffer of a camera was read exactly when the camera was due. -/
def Visit.Settled (visit : Visit n) : Prop := visit.held.isSome = visit.due

/-- The packets that visits found. -/
def found (visits : List (Visit n)) : List FramePacket := visits.filterMap fun visit =>
  visit.held.join

/-- What holds of a finished call. -/
structure Collection.Fair (setup : SchedulerSetup n) (call : Collection n) : Prop where
  atMost : call.visits.length ≤ n
  atLeast : min n setup.configuration.detectorBatchSize ≤ call.visits.length
  settled : ∀ visit ∈ call.visits, visit.Settled
  batch : call.batch = found call.visits

/-- What holds of the examinations of the running call, wherever the scheduler thread is. -/
def Underway (pc : Pc n Output) (current : List (Visit n)) : Prop :=
  match pc with
  | .collect batch checked =>
    current.length = checked ∧ checked ≤ n ∧ batch = found current ∧
      ∀ visit ∈ current, visit.Settled
  | .beforeStale x | .read x _ =>
    ∃ earlier, current = earlier ++ [⟨x.camera, true, none⟩] ∧ current.length = x.checked ∧
      x.checked ≤ n ∧ x.batch = found earlier ∧ ∀ visit ∈ earlier, visit.Settled
  | .afterStale x _ packet | .resequence x packet =>
    current.length = x.checked ∧ x.checked ≤ n ∧ x.batch ++ packet.toList = found current ∧
      ∀ visit ∈ current, visit.Settled
  | .picked x packet =>
    current.length = x.checked ∧ x.checked ≤ n ∧ x.batch ++ [packet] = found current ∧
      ∀ visit ∈ current, visit.Settled
  | _ => current = []

/-- The calls so far went round the cameras. -/
structure Rotating (s : State setup Output) (r : Rota n) : Prop where
  order : r.visits.map (·.camera.val) = RoundRobin.turns n 0 r.visits.length
  cursor : s.cursor % n = r.visits.length % n
  finished : ∀ call ∈ r.finished, call.Fair setup
  underway : Underway s.pc r.current

theorem init_rotating (setup : SchedulerSetup n) (clockNs : UInt64) :
    Rotating (State.init setup Output clockNs) Rota.empty where
  order := rfl
  cursor := rfl
  finished _ h := absurd h List.not_mem_nil
  underway := rfl

section Step
variable {s t : State setup Output} {r : Rota n}

/-- A step that examines nothing. -/
theorem Rotating.same (hs : Rotating s r) (cursor : t.cursor = s.cursor)
    (underway : Underway t.pc r.current) : Rotating t r :=
  ⟨hs.order, by rw [cursor]; exact hs.cursor, hs.finished, underway⟩

theorem underway_of_round_eq_none {pc : Pc n Output} (h : pc.round = none)
    {current : List (Visit n)} : Underway pc current ↔ current = [] := by
  cases pc <;> first | exact Iff.rfl | cases h

/-- A step outside `_collect_batch`. -/
theorem Rotating.outside {h h' : History n Output} (hs : Rotating s r) (hpc : s.pc.round = none)
    (ho : Outside s h t h') : Rotating t r := by
  refine hs.same ho.cursor ?_
  rw [underway_of_round_eq_none ho.round]
  exact (underway_of_round_eq_none hpc).mp hs.underway

theorem found_append (visits : List (Visit n)) (visit : Visit n) :
    found (visits ++ [visit]) = found visits ++ visit.held.join.toList := by
  unfold found
  rw [List.filterMap_append]
  cases hheld : visit.held.join <;> simp [hheld]

/-- The examination of the camera under the cursor begins. -/
theorem Rotating.examine (hs : Rotating s r) (hn : 0 < n) (due : Bool)
    (cursor : t.cursor = (s.cursor + 1) % n)
    (underway : Underway t.pc (r.current ++ [⟨⟨s.cursor % n, Nat.mod_lt _ hn⟩, due, none⟩])) :
    Rotating t
      { r with current := r.current ++ [⟨⟨s.cursor % n, Nat.mod_lt _ hn⟩, due, none⟩] } := by
  let visit : Visit n := ⟨⟨s.cursor % n, Nat.mod_lt _ hn⟩, due, none⟩
  have hvisits : ({ r with current := r.current ++ [visit] } : Rota n).visits =
      r.visits ++ [visit] := (List.append_assoc _ _ _).symm
  refine ⟨?_, ?_, hs.finished, underway⟩
  · rw [hvisits, List.map_append, hs.order, List.length_append, List.length_singleton,
      RoundRobin.turns_succ, Nat.zero_add, ← hs.cursor]
    rfl
  · rw [hvisits, cursor, Nat.mod_mod, List.length_append, List.length_singleton, Nat.add_mod,
      hs.cursor, ← Nat.add_mod]

theorem Rotating.collect (hs : Rotating s r) {batch : List FramePacket} {checked : Nat}
    (hpc : s.pc = .collect batch checked) :
    Rotating (s.collect batch checked) (r.record s (.scheduler : Event n Output)) := by
  have hunderway := hs.underway
  rw [hpc] at hunderway
  obtain ⟨hlength, hle, hbatch, hsettled⟩ := hunderway
  simp only [Rota.record, hpc]
  unfold State.collect
  by_cases hmore : checked < n ∧ batch.length < setup.configuration.detectorBatchSize
  · rw [dif_pos hmore, dif_pos hmore]
    have hn := Nat.zero_lt_of_lt hmore.1
    refine hs.examine hn _ rfl ?_
    by_cases hdue : s.NotDue ⟨s.cursor % n, Nat.mod_lt _ hn⟩
    · simp only [if_pos hdue, decide_eq_true hdue, Bool.not_true]
      refine ⟨by simp [hlength], hmore.1, ?_, ?_⟩
      · rw [found_append, ← hbatch]
        exact (List.append_nil _).symm
      · rw [List.forall_mem_append]
        exact ⟨hsettled, List.forall_mem_singleton.mpr rfl⟩
    · simp only [if_neg hdue, decide_eq_false hdue, Bool.not_false]
      exact ⟨r.current, rfl, by simp [hlength], hmore.1, hbatch, hsettled⟩
  · rw [dif_neg hmore, dif_neg hmore]
    have hvisits : (⟨r.finished ++ [⟨r.current, batch⟩], []⟩ : Rota n).visits = r.visits := by
      simp [Rota.visits]
    have hfair : (⟨r.current, batch⟩ : Collection n).Fair setup := by
      refine ⟨hlength.trans_le hle, ?_, hsettled, hbatch⟩
      have hfound : batch.length ≤ r.current.length := by
        rw [hbatch]
        exact List.length_filterMap_le _ _
      rcases Nat.lt_or_ge checked n with hlt | hge
      · have hfull : ¬ batch.length < setup.configuration.detectorBatchSize :=
          fun hroom => hmore ⟨hlt, hroom⟩
        exact (min_le_right _ _).trans ((Nat.not_lt.mp hfull).trans hfound)
      · exact (min_le_left _ _).trans (hge.trans_eq hlength.symm)
    refine ⟨?_, ?_, ?_, ?_⟩
    · rw [hvisits]
      exact hs.order
    · rw [hvisits]
      exact hs.cursor
    · rw [List.forall_mem_append]
      exact ⟨hs.finished, List.forall_mem_singleton.mpr hfair⟩
    · simp only
      split <;> rfl

/-- The buffer of the camera is read. -/
theorem Rotating.read (hs : Rotating s r) {x : Examination n} {before : Nat}
    (hpc : s.pc = .read x before) :
    Rotating
      { s.callBuffer x.camera (s.readCall x.camera) with
        pc := .afterStale x before (s.readPacket x.camera) }
      (r.record s (.scheduler : Event n Output)) := by
  have hunderway := hs.underway
  rw [hpc] at hunderway
  obtain ⟨earlier, hcurrent, hlength, hle, hbatch, hsettled⟩ := hunderway
  have hsame : (r.record s (.scheduler : Event n Output)) =
      { r with current := earlier ++ [⟨x.camera, true, some (s.freshFrame x.camera)⟩] } := by
    simp only [Rota.record, hpc]
    rw [hcurrent, List.modifyLast_concat]
  rw [hsame]
  refine ⟨?_, ?_, hs.finished, ?_, hle, ?_, ?_⟩
  · have horder := hs.order
    simp only [Rota.visits, hcurrent, List.map_append, List.map_cons, List.map_nil,
      List.length_append, List.length_cons, List.length_nil] at horder ⊢
    exact horder
  · have hcursor := hs.cursor
    simp only [Rota.visits, hcurrent, List.length_append, List.length_cons,
      List.length_nil] at hcursor ⊢
    exact hcursor
  · rw [hcurrent] at hlength
    simpa using hlength
  · rw [found_append, ← hbatch, State.readPacket_eq]
    rfl
  · rw [List.forall_mem_append]
    exact ⟨hsettled, List.forall_mem_singleton.mpr rfl⟩

/-- `if packet is None: continue`. -/
theorem Rotating.takePacket (hs : Rotating s r) {x : Examination n} {packet : Option FramePacket}
    (hlength : r.current.length = x.checked) (hle : x.checked ≤ n)
    (hbatch : x.batch ++ packet.toList = found r.current)
    (hsettled : ∀ visit ∈ r.current, visit.Settled) : Rotating (s.takePacket x packet) r := by
  cases packet with
  | none =>
    rw [Option.toList_none, List.append_nil] at hbatch
    exact hs.same rfl ⟨hlength, hle, hbatch, hsettled⟩
  | some packet => exact hs.same rfl ⟨hlength, hle, hbatch, hsettled⟩

theorem Rotating.step {e : Event n Output} (hs : Rotating s r) (hstep : s.step e = some t) :
    Rotating t (r.record s e) := by
  have hrecorded := step_recorded History.empty hstep
  generalize History.empty.record s e = h' at hrecorded
  have hunderway := hs.underway
  cases hrecorded with
  | tick clockNs le => exact hs.same rfl hs.underway
  | publish camera frame timeNs => exact hs.same rfl hs.underway
  | getResult first rest results => exact hs.same rfl hs.underway
  | receive batch outcome pc =>
    exact hs.outside (by rw [pc]; rfl) (outside_receive s History.empty batch outcome)
  | checkCircuit pc =>
    rw [pc] at hunderway
    simp only [Rota.record, pc]
    unfold State.checkCircuit
    split
    · exact hs
    · refine hs.same rfl ⟨?_, Nat.zero_le _, ?_, ?_⟩
      · rw [hunderway, List.length_nil]
      · rw [hunderway]
        rfl
      · rw [hunderway]
        exact fun _ h => absurd h List.not_mem_nil
  | collect batch checked pc => exact hs.collect pc
  | beforeStale x pc =>
    rw [pc] at hunderway
    simp only [Rota.record, pc]
    exact hs.same rfl hunderway
  | read x before pc => exact hs.read pc
  | compareStale x before packet pc =>
    rw [pc] at hunderway
    obtain ⟨hlength, hle, hbatch, hsettled⟩ := hunderway
    simp only [Rota.record, pc]
    unfold State.compareStale
    split
    · exact hs.same rfl ⟨hlength, hle, hbatch, hsettled⟩
    · exact hs.takePacket hlength hle hbatch hsettled
  | resequence x packet pc =>
    rw [pc] at hunderway
    obtain ⟨hlength, hle, hbatch, hsettled⟩ := hunderway
    simp only [Rota.record, pc]
    unfold State.resequence
    apply Rotating.takePacket ?_ hlength hle hbatch hsettled
    exact ⟨hs.order, hs.cursor, hs.finished, hs.underway⟩
  | pick x packet pc =>
    rw [pc] at hunderway
    simp only [Rota.record, pc]
    exact hs.same rfl hunderway
  | fail pc =>
    simp only [Rota.record, pc]
    exact hs.outside (by rw [pc]; rfl) (outside_fail s History.empty)
  | deliver remaining count pc =>
    simp only [Rota.record, pc]
    exact hs.outside (by rw [pc]; rfl) (outside_deliver s History.empty remaining count)
  | put result remaining count pc =>
    simp only [Rota.record, pc]
    exact hs.outside (by rw [pc]; rfl) (outside_put s History.empty result remaining count)
  | evict result remaining count pc =>
    simp only [Rota.record, pc]
    exact hs.outside (by rw [pc]; rfl) (outside_evict s History.empty result remaining count)
  | enqueue result remaining count pc =>
    simp only [Rota.record, pc]
    exact hs.outside (by rw [pc]; rfl) (outside_enqueue History.empty pc)

end Step

/-- The scheduler with its rota after a run from a new scheduler. -/
def attend (setup : SchedulerSetup n) (clockNs : UInt64) (events : List (Event n Output)) :
    Transition.Recorded (State setup Output) (Rota n) :=
  Transition.exec (Transition.recorded State.step Rota.record)
    ⟨.init setup Output clockNs, .empty⟩ events

theorem attend_rotating (setup : SchedulerSetup n) (clockNs : UInt64)
    (events : List (Event n Output)) :
    let o := attend setup clockNs events
    Rotating o.state o.history :=
  Transition.recorded_invariant (fun _ _ _ _ hs hstep => hs.step hstep)
    (init_rotating setup clockNs) events

section Guarantees
variable {s : State setup Output} {r : Rota n}

/-- A stretch of the examinations goes round the cameras. -/
theorem Rotating.window (hs : Rotating s r) {before window after : List (Visit n)}
    (h : r.visits = before ++ (window ++ after)) :
    window.map (·.camera.val) = RoundRobin.turns n before.length window.length := by
  have horder := hs.order
  rw [h] at horder
  have hwindow := congrArg (fun turns => (turns.drop before.length).take window.length) horder
  simp only [List.map_append, List.length_append] at hwindow
  rw [RoundRobin.window_turns (by omega), List.drop_left' (List.length_map _),
    List.take_left' (List.length_map _), Nat.zero_add] at hwindow
  exact hwindow

theorem Rotating.turn (hs : Rotating s r) {i : Nat} {camera : Fin n}
    (h : (r.visits.map Visit.camera)[i]? = some camera) : camera.val = i % n := by
  have hturn : (r.visits.map (·.camera.val))[i]? = some camera.val := by
    rw [List.getElem?_map] at h ⊢
    obtain ⟨visit, hvisit, rfl⟩ := Option.map_eq_some_iff.mp h
    rw [hvisit]
    rfl
  rw [hs.order] at hturn
  have hmod := (RoundRobin.getElem?_turns hturn).2
  rwa [Nat.zero_add] at hmod

/-- A call examines no camera twice. -/
theorem Rotating.nodup (hs : Rotating s r) {call : Collection n} (hcall : call ∈ r.finished) :
    (call.visits.map Visit.camera).Nodup := by
  obtain ⟨before, after, hfinished⟩ := List.append_of_mem hcall
  have hvisits : r.visits = before.flatMap Collection.visits ++
      (call.visits ++ (after.flatMap Collection.visits ++ r.current)) := by
    simp [Rota.visits, hfinished]
  have hturns : (call.visits.map (·.camera.val)).Nodup := by
    rw [hs.window hvisits]
    exact RoundRobin.nodup_turns (hs.finished call hcall).atMost
  refine List.Nodup.of_map Fin.val ?_
  rw [List.map_map]
  exact hturns

/-- Between two examinations of one camera every other camera has one in each lap. -/
theorem Rotating.laps (hs : Rotating s r) {i j : Nat} {camera : Fin n} (hij : i < j)
    (hi : (r.visits.map Visit.camera)[i]? = some camera)
    (hj : (r.visits.map Visit.camera)[j]? = some camera) :
    ∃ laps, j = i + laps * n ∧
      ∀ other, (((r.visits.map Visit.camera).drop i).take (j - i)).count other = laps := by
  have hmod : i % n = j % n := (hs.turn hi).symm.trans (hs.turn hj)
  obtain ⟨laps, rfl⟩ := RoundRobin.laps_between (Nat.le_of_lt hij) hmod
  refine ⟨laps, rfl, fun other => ?_⟩
  have hlength : i + laps * n ≤ r.visits.length := by
    have hlt := (List.getElem?_eq_some_iff.mp hj).1
    rw [List.length_map] at hlt
    exact Nat.le_of_lt hlt
  have hwindow : ((r.visits.map (·.camera.val)).drop i).take (laps * n) =
      RoundRobin.turns n i (laps * n) := by
    rw [hs.order, RoundRobin.window_turns hlength, Nat.zero_add]
  calc (((r.visits.map Visit.camera).drop i).take (i + laps * n - i)).count other
      = ((((r.visits.map Visit.camera).drop i).take (laps * n)).map Fin.val).count other.val := by
        rw [List.count_map_of_injective _ Fin.val Fin.val_injective, Nat.add_sub_cancel_left]
    _ = (((r.visits.map (·.camera.val)).drop i).take (laps * n)).count other.val := by
        rw [List.map_take, List.map_drop, List.map_map]
        rfl
    _ = laps := by rw [hwindow, RoundRobin.count_laps i laps other.isLt]

/-- Calls examine a number of cameras each. -/
theorem length_visits (calls : List (Collection n)) (hcalls : ∀ call ∈ calls, call.Fair setup) :
    calls.length * min n setup.configuration.detectorBatchSize ≤
      (calls.flatMap Collection.visits).length := by
  induction calls with
  | nil => simp
  | cons call rest ih =>
    obtain ⟨hcall, hrest⟩ := List.forall_mem_cons.mp hcalls
    have hfirst := hcall.atLeast
    have hothers := ih hrest
    rw [List.length_cons, Nat.add_mul, Nat.one_mul, List.flatMap_cons, List.length_append]
    omega

/-- Enough calls in a row examine every camera. -/
theorem Rotating.reaches (hs : Rotating s r) {before calls after : List (Collection n)}
    (h : r.finished = before ++ (calls ++ after))
    (hlength : calls.length = (n + setup.configuration.detectorBatchSize - 1) /
      setup.configuration.detectorBatchSize) (camera : Fin n) :
    ∃ call ∈ calls, camera ∈ call.visits.map Visit.camera := by
  have hvisits : r.visits = before.flatMap Collection.visits ++
      (calls.flatMap Collection.visits ++ (after.flatMap Collection.visits ++ r.current)) := by
    simp [Rota.visits, h]
  have hfair : ∀ call ∈ calls, call.Fair setup := by
    intro call hcall
    apply hs.finished
    rw [h]
    exact List.mem_append_right _ (List.mem_append_left _ hcall)
  have henough : n ≤ (calls.flatMap Collection.visits).length := by
    refine le_trans ?_ (length_visits calls hfair)
    rw [hlength]
    exact RoundRobin.le_groups n setup.configuration.detectorBatchSize_bounds.1
  have hmem := RoundRobin.mem_turns (before.flatMap Collection.visits).length camera.isLt henough
  rw [← hs.window hvisits] at hmem
  obtain ⟨visit, hvisit, hcamera⟩ := List.mem_map.mp hmem
  obtain ⟨call, hcall, hin⟩ := List.mem_flatMap.mp hvisit
  exact ⟨call, hcall, List.mem_map.mpr ⟨visit, hin, Fin.ext hcamera⟩⟩

end Guarantees

/-- Over every run: the examinations of all calls of `_collect_batch` go round the cameras, each
call going on where the one before stopped; a call examines no camera twice and at least as many
cameras as it could fill a batch with; it reads the buffers of exactly the cameras that were due,
and its batch is what the buffers held that was fresh. Between two examinations of one camera
every camera is examined once in each lap, and enough calls to fill a lap examine every camera. -/
theorem service_fair (setup : SchedulerSetup n) (clockNs : UInt64)
    (events : List (Event n Output)) :
    let r := (attend setup clockNs events).history
    let cameras := r.visits.map Visit.camera
    (∀ (i : Nat) camera, cameras[i]? = some camera → camera.val = i % n) ∧
    (∀ call ∈ r.finished, (call.visits.map Visit.camera).Nodup ∧
      min n setup.configuration.detectorBatchSize ≤ call.visits.length ∧
      (∀ visit ∈ call.visits, visit.held.isSome = visit.due) ∧
      call.batch = call.visits.filterMap fun visit => visit.held.join) ∧
    (∀ (i j : Nat) camera, i < j → cameras[i]? = some camera → cameras[j]? = some camera →
      ∃ laps, j = i + laps * n ∧
        ∀ other, ((cameras.drop i).take (j - i)).count other = laps) ∧
    ∀ before calls after, r.finished = before ++ (calls ++ after) →
      calls.length = (n + setup.configuration.detectorBatchSize - 1) /
        setup.configuration.detectorBatchSize →
      ∀ camera, ∃ call ∈ calls, camera ∈ call.visits.map Visit.camera := by
  intro r cameras
  have hs : Rotating (attend setup clockNs events).state r := attend_rotating setup clockNs events
  refine ⟨fun _ _ => hs.turn, fun call hcall => ?_, fun _ _ _ => hs.laps,
    fun _ _ _ => hs.reaches⟩
  have hfair := hs.finished call hcall
  exact ⟨hs.nodup hcall, hfair.atLeast, hfair.settled, hfair.batch⟩

end EdgeSafety.SharedInferenceScheduler
