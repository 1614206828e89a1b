import EdgeSafety.Inference.Phases

/-!
# Delivery of results

A run is followed by a ledger: the batches given to the pipeline with what became of them, the
results that entered the queue and the results that consumers took, each in order. `Balanced`
is the invariant that ties the ledger to the queue and to the metrics while the scheduler thread
puts its results one by one, each in three steps that consumers may fall between.
-/

namespace EdgeSafety.SharedInferenceScheduler

variable {n : Nat} {setup : SchedulerSetup n} {Output : Type}

/-- A batch given to the pipeline, and what `infer_frames` did with it. -/
structure Attempt (Output : Type) where
  batch : List FramePacket
  outcome : PipelineOutcome Output

namespace Attempt

/-- `run_once` accepts the outputs. -/
def Succeeded (setup : SchedulerSetup n) (attempt : Attempt Output) : Prop :=
  match attempt.outcome with
  | .raised => False
  | .returned outputs elapsedMs => State.Accepted setup attempt.batch outputs elapsedMs

instance (attempt : Attempt Output) : Decidable (attempt.Succeeded setup) :=
  match h : attempt.outcome with
  | .raised => isFalse (by simp [Succeeded, h])
  | .returned outputs elapsedMs =>
    decidable_of_iff (State.Accepted setup attempt.batch outputs elapsedMs)
      (by simp [Succeeded, h])

/-- What `infer_frames` returned. -/
def outputs (attempt : Attempt Output) : List Output :=
  match attempt.outcome with
  | .raised => []
  | .returned outputs _ => outputs

/-- The packets with their outputs for which results are made. -/
def pairs (setup : SchedulerSetup n) (attempt : Attempt Output) : List (FramePacket × Output) :=
  if attempt.Succeeded setup then attempt.batch.zip attempt.outputs else []

/-- A result for each packet, in the order of the batch. -/
theorem pairs_of_succeeded {attempt : Attempt Output} (h : attempt.Succeeded setup) :
    (attempt.pairs setup).map Prod.fst = attempt.batch ∧
      (attempt.pairs setup).map Prod.snd = attempt.outputs := by
  rw [pairs, if_pos h]
  have hlength : attempt.outputs.length = attempt.batch.length := by
    rcases attempt with ⟨batch, outcome⟩
    cases outcome with
    | raised => exact absurd h id
    | returned outputs elapsedMs => exact h.2
  exact ⟨List.map_fst_zip (Nat.le_of_eq hlength.symm), List.map_snd_zip (Nat.le_of_eq hlength)⟩

theorem pairs_of_failed {attempt : Attempt Output} (h : ¬ attempt.Succeeded setup) :
    attempt.pairs setup = [] :=
  if_neg h

end Attempt

/-- The batches of a run, what entered the result queue and what consumers took. -/
structure Ledger (Output : Type) where
  attempts : List (Attempt Output)
  produced : List (ScheduledResult Output)
  received : List (ScheduledResult Output)

namespace Ledger

/-- Nothing happened yet. -/
def empty : Ledger Output := ⟨[], [], []⟩

/-- What a step from `s` adds. -/
def record (l : Ledger Output) (s : State setup Output) : Event n Output → Ledger Output
  | .pipeline outcome =>
    match s.pc with
    | .inferring batch => { l with attempts := l.attempts ++ [⟨batch, outcome⟩] }
    | _ => l
  | .getResult => { l with received := l.received ++ s.results.head?.toList }
  | .scheduler =>
    match s.pc with
    | .enqueue result _ _ =>
      if s.Full then l else { l with produced := l.produced ++ [result] }
    | _ => l
  | _ => l

end Ledger

/-- The result of the packet and its output. -/
def ResultOf (pair : FramePacket × Output) (result : ScheduledResult Output) : Prop :=
  result.cameraId = pair.1.cameraId ∧ result.frameId = pair.1.frameId ∧
    result.capturedAtUnixNs = pair.1.capturedAtUnixNs ∧ result.output = pair.2 ∧
    result.frame = some pair.1

/-- Every result is accounted for. -/
structure Balanced (s : State setup Output) (h : History n Output) (l : Ledger Output) :
    Prop where
  passed : h.passed = l.attempts.map Attempt.batch ++ s.pc.submitted.toList
  pairs : ∃ done, l.attempts.flatMap (Attempt.pairs setup) = done ++ s.pc.undelivered ∧
    List.Forall₂ ResultOf done (l.produced ++ s.pc.result.toList)
  processed : (l.attempts.flatMap (Attempt.pairs setup)).length =
    s.metrics.processedFrames + s.pc.count
  balance : l.produced.length = l.received.length + s.results.length + s.metrics.resultDrops
  order : (l.received ++ s.results).Sublist l.produced
  bounded : 0 < setup.resultQueueSize → s.results.length ≤ setup.resultQueueSize
  room : ∀ result remaining count, s.pc = .enqueue result remaining count → ¬ s.Full
  alive : s.pc ≠ .crashed

theorem init_balanced (setup : SchedulerSetup n) (clockNs : UInt64) :
    Balanced (State.init setup Output clockNs) History.empty Ledger.empty where
  passed := rfl
  pairs := ⟨[], rfl, .nil⟩
  processed := rfl
  balance := rfl
  order := .slnil
  bounded _ := Nat.zero_le _
  room _ _ _ h := by cases h
  alive h := by cases h

section Step
variable {s t : State setup Output} {h h' : History n Output} {l : Ledger Output}

/-- A step of another party that leaves the results alone. -/
theorem Balanced.waits (hs : Balanced s h l) (hw : Waits s h t h') : Balanced t h' l where
  passed := by
    rw [hw.passed, hw.pc]
    exact hs.passed
  pairs := by
    rw [hw.pc]
    exact hs.pairs
  processed := by
    rw [hw.pc, hw.metrics]
    exact hs.processed
  balance := by
    rw [hw.results, hw.metrics]
    exact hs.balance
  order := by
    rw [hw.results]
    exact hs.order
  bounded := by
    rw [hw.results]
    exact hs.bounded
  room := by
    rw [hw.pc]
    unfold State.Full
    rw [hw.results]
    exact hs.room
  alive := by
    rw [hw.pc]
    exact hs.alive

/-- A step to a place where no batch and no result is under way. -/
theorem Balanced.rest (hs : Balanced s h l) (hpc : s.pc.Gathering) (ht : t.pc.Gathering)
    (hresults : t.results = s.results)
    (hprocessed : t.metrics.processedFrames = s.metrics.processedFrames)
    (hdrops : t.metrics.resultDrops = s.metrics.resultDrops)
    (passed : h'.passed = l.attempts.map Attempt.batch ++ t.pc.submitted.toList) :
    Balanced t h' l := by
  obtain ⟨hundelivered, hresult, hcount⟩ := hpc.delivers_nothing
  obtain ⟨hundelivered', hresult', hcount'⟩ := ht.delivers_nothing
  refine ⟨passed, ?_, ?_, ?_, ?_, ?_, ?_, ?_⟩
  · rw [hundelivered', hresult', ← hundelivered, ← hresult]
    exact hs.pairs
  · rw [hprocessed, hcount', ← hcount]
    exact hs.processed
  · rw [hresults, hdrops]
    exact hs.balance
  · rw [hresults]
    exact hs.order
  · rw [hresults]
    exact hs.bounded
  · intro result remaining count henqueue
    rw [henqueue] at ht
    exact absurd ht id
  · intro hcrashed
    rw [hcrashed] at ht
    exact ht

/-- The ledger after a call of `infer_frames`, with no result under way. -/
theorem Balanced.attempted (hs : Balanced s h l) {batch : List FramePacket}
    (hpc : s.pc = .inferring batch) (attempt : Attempt Output) :
    (l.attempts ++ [attempt]).flatMap (Attempt.pairs setup) =
        l.attempts.flatMap (Attempt.pairs setup) ++ attempt.pairs setup ∧
      List.Forall₂ ResultOf (l.attempts.flatMap (Attempt.pairs setup)) l.produced ∧
      (l.attempts.flatMap (Attempt.pairs setup)).length = s.metrics.processedFrames := by
  obtain ⟨done, hdone, hproduced⟩ := hs.pairs
  have hprocessed := hs.processed
  simp only [hpc, Pc.undelivered, Pc.result, Pc.count, List.append_nil, Option.toList_none,
    Nat.add_zero] at hdone hproduced hprocessed
  refine ⟨by simp, ?_, hprocessed⟩
  rw [hdone]
  exact hproduced

theorem Balanced.receive (hs : Balanced s h l) {batch : List FramePacket}
    (hpc : s.pc = .inferring batch) (outcome : PipelineOutcome Output) :
    Balanced (s.receive batch outcome) (h.receive setup batch outcome)
      (l.record s (.pipeline outcome : Event n Output)) := by
  obtain ⟨hpairs, hproduced, hprocessed⟩ := hs.attempted hpc ⟨batch, outcome⟩
  let attempt : Attempt Output := ⟨batch, outcome⟩
  have hpassed : h.passed = (l.attempts ++ [attempt]).map Attempt.batch := by
    rw [hs.passed, hpc, List.map_append]
    rfl
  simp only [Ledger.record, hpc]
  by_cases hsucceeded : (⟨batch, outcome⟩ : Attempt Output).Succeeded setup
  · obtain ⟨hfst, -⟩ := Attempt.pairs_of_succeeded hsucceeded
    cases outcome with
    | raised => exact absurd hsucceeded id
    | returned outputs elapsedMs =>
      have haccepted : State.Accepted setup batch outputs elapsedMs := hsucceeded
      rw [Attempt.pairs, if_pos hsucceeded] at hpairs hfst
      simp only [State.receive, History.receive, if_pos haccepted]
      refine ⟨?_, ⟨_, hpairs, ?_⟩, ?_, hs.balance, hs.order, hs.bounded,
        (fun _ _ _ h => by cases h), fun h => by cases h⟩
      · rw [hpassed]
        exact (List.append_nil _).symm
      · simpa only [Pc.result, Option.toList_none, List.append_nil] using hproduced
      · have hcount := congrArg List.length hfst
        rw [List.length_map] at hcount
        simp only at hpairs
        rw [hpairs, List.length_append, hprocessed, hcount]
        rfl
  · have hfailed : (s.receive batch outcome) = { s with pc := .failed } := by
      cases outcome with
      | raised => rfl
      | returned outputs elapsedMs => exact if_neg hsucceeded
    have hsame : (h.receive setup batch outcome) = h := by
      cases outcome with
      | raised => rfl
      | returned outputs elapsedMs => exact if_neg hsucceeded
    rw [Attempt.pairs_of_failed hsucceeded, List.append_nil] at hpairs
    rw [hfailed, hsame]
    refine ⟨?_, ⟨_, hpairs.trans (List.append_nil _).symm, ?_⟩, ?_, hs.balance, hs.order,
      hs.bounded, (fun _ _ _ h => by cases h), fun h => by cases h⟩
    · rw [hpassed]
      exact (List.append_nil _).symm
    · simpa only [Pc.result, Option.toList_none, List.append_nil] using hproduced
    · rw [hpairs]
      exact hprocessed

theorem Balanced.fail (hs : Balanced s h l) (hpc : s.pc = .failed) : Balanced s.fail h l := by
  obtain ⟨done, hdone, hproduced⟩ := hs.pairs
  have hpassed := hs.passed
  have hprocessed := hs.processed
  rw [hpc] at hpassed hdone hproduced hprocessed
  unfold State.fail
  split
  · exact ⟨hpassed, ⟨done, hdone, hproduced⟩, hprocessed, hs.balance, hs.order, hs.bounded,
      (fun _ _ _ h => by cases h), fun h => by cases h⟩
  · exact ⟨hpassed, ⟨done, hdone, hproduced⟩, hprocessed, hs.balance, hs.order, hs.bounded,
      (fun _ _ _ h => by cases h), fun h => by cases h⟩

theorem Balanced.deliver (hs : Balanced s h l) {remaining : List (FramePacket × Output)}
    {count : Nat} (hpc : s.pc = .deliver remaining count) :
    Balanced (s.deliver remaining count) h l := by
  obtain ⟨done, hdone, hproduced⟩ := hs.pairs
  have hpassed := hs.passed
  have hprocessed := hs.processed
  rw [hpc] at hpassed hdone hproduced hprocessed
  cases remaining with
  | nil =>
    exact ⟨hpassed, ⟨done, hdone, hproduced⟩, hprocessed, hs.balance, hs.order, hs.bounded,
      (fun _ _ _ h => by cases h), fun h => by cases h⟩
  | cons pair rest =>
    refine ⟨hpassed, ⟨done ++ [pair], ?_, ?_⟩, hprocessed, hs.balance, hs.order, hs.bounded,
      (fun _ _ _ h => by cases h), fun h => by cases h⟩
    · rw [hdone]
      exact (List.append_assoc done [pair] rest).symm
    · simp only [Pc.result, Option.toList_none, List.append_nil] at hproduced
      exact List.rel_append hproduced (.cons ⟨rfl, rfl, rfl, rfl, rfl⟩ .nil)

theorem Balanced.put (hs : Balanced s h l) {result : ScheduledResult Output}
    {remaining : List (FramePacket × Output)} {count : Nat}
    (hpc : s.pc = .put result remaining count) :
    Balanced { s with
      pc := if s.Full then .evict result remaining count
        else .enqueue result remaining count } h l := by
  have hpassed := hs.passed
  have hpairs := hs.pairs
  have hprocessed := hs.processed
  rw [hpc] at hpassed hpairs hprocessed
  by_cases hfull : s.Full
  · simp only [if_pos hfull]
    exact ⟨hpassed, hpairs, hprocessed, hs.balance, hs.order, hs.bounded,
      (fun _ _ _ h => by cases h), fun h => by cases h⟩
  · simp only [if_neg hfull]
    exact ⟨hpassed, hpairs, hprocessed, hs.balance, hs.order, hs.bounded,
      fun _ _ _ _ => hfull, fun h => by cases h⟩

/-- Once the oldest result is gone there is room for one. -/
theorem Balanced.evict (hs : Balanced s h l) {result : ScheduledResult Output}
    {remaining : List (FramePacket × Output)} {count : Nat}
    (hpc : s.pc = .evict result remaining count) :
    Balanced (s.evict result remaining count) h l := by
  have hpassed := hs.passed
  have hpairs := hs.pairs
  have hprocessed := hs.processed
  have hbalance := hs.balance
  have horder := hs.order
  have hbounded := hs.bounded
  rw [hpc] at hpassed hpairs hprocessed
  unfold State.evict
  cases hresults : s.results with
  | nil =>
    rw [hresults] at hbalance horder hbounded
    refine ⟨hpassed, hpairs, hprocessed, hbalance, horder, hbounded, ?_, fun h => by cases h⟩
    rintro - - - - ⟨hpositive, hfull⟩
    exact absurd hfull (Nat.not_le_of_gt hpositive)
  | cons first rest =>
    rw [hresults] at hbalance horder hbounded
    refine ⟨hpassed, hpairs, hprocessed, ?_, ?_, ?_, ?_, fun h => by cases h⟩
    · simp only [List.length_cons] at hbalance ⊢
      omega
    · exact (List.Sublist.append_left (List.sublist_cons_self first rest) _).trans horder
    · exact fun hpositive => Nat.le_of_succ_le (hbounded hpositive)
    · rintro - - - - ⟨hpositive, hfull⟩
      exact absurd (hbounded hpositive) (Nat.not_le_of_gt (Nat.lt_succ_of_le hfull))

theorem Balanced.enqueue (hs : Balanced s h l) {result : ScheduledResult Output}
    {remaining : List (FramePacket × Output)} {count : Nat}
    (hpc : s.pc = .enqueue result remaining count) :
    Balanced (s.enqueue result remaining count) (h.advance s)
      (l.record s (.scheduler : Event n Output)) := by
  have hroom := hs.room result remaining count hpc
  have hpassed := hs.passed
  have hpairs := hs.pairs
  have hprocessed := hs.processed
  have hbounded := hs.bounded
  rw [hpc] at hpassed hpairs hprocessed
  simp only [History.advance, Ledger.record, hpc, State.enqueue, if_neg hroom]
  refine ⟨hpassed, ?_, hprocessed, ?_, ?_, ?_, (fun _ _ _ h => by cases h), fun h => by cases h⟩
  · obtain ⟨done, hdone, hproduced⟩ := hpairs
    refine ⟨done, hdone, ?_⟩
    simpa only [Pc.result, Option.toList_none, Option.toList_some, List.append_nil] using hproduced
  · have hbalance := hs.balance
    simp only [List.length_append, List.length_singleton]
    omega
  · rw [← List.append_assoc]
    exact hs.order.append (List.Sublist.refl _)
  · intro hpositive
    have hspace : ¬ setup.resultQueueSize ≤ s.results.length := fun h => hroom ⟨hpositive, h⟩
    rw [List.length_append, List.length_singleton]
    omega

theorem Balanced.getResult (hs : Balanced s h l) {first : ScheduledResult Output}
    {rest : List (ScheduledResult Output)} (hresults : s.results = first :: rest) :
    Balanced { s with results := rest } h (l.record s (.getResult : Event n Output)) := by
  have hbalance := hs.balance
  have horder := hs.order
  have hbounded := hs.bounded
  rw [hresults] at hbalance horder hbounded
  simp only [Ledger.record, hresults, List.head?_cons, Option.toList_some]
  refine ⟨hs.passed, hs.pairs, hs.processed, ?_, ?_, ?_, ?_, hs.alive⟩
  · simp only [List.length_append, List.length_cons, List.length_nil] at hbalance ⊢
    omega
  · rwa [List.append_assoc]
  · exact fun hpositive => Nat.le_of_succ_le (hbounded hpositive)
  · rintro result remaining count hpc ⟨hpositive, hfull⟩
    apply hs.room result remaining count hpc
    rw [State.Full, hresults]
    exact ⟨hpositive, Nat.le_succ_of_le hfull⟩

theorem Balanced.step {e : Event n Output} (hs : Balanced s h l) (hstep : s.step e = some t) :
    Balanced t (h.record s e) (l.record s e) := by
  have hphase := step_phase h hstep
  generalize h.record s e = h' at hphase ⊢
  cases hphase with
  | waits waits event =>
    rcases event with ⟨clockNs, rfl⟩ | ⟨camera, frame, timeNs, rfl⟩
    · exact hs.waits waits
    · exact hs.waits waits
  | gathers gathers =>
    obtain ⟨hsource, hsubmitted⟩ := gathers.source
    have hledger : l.record s (.scheduler : Event n Output) = l := by
      unfold Ledger.record
      cases hpc : s.pc <;> first | rfl | (rw [hpc] at hsource; exact absurd hsource id)
    rw [hledger]
    apply hs.rest hsource gathers.target gathers.results
    · rw [gathers.metrics]
    · rw [gathers.metrics]
    · rw [gathers.passed, hs.passed, hsubmitted, Option.toList_none, List.append_nil]
  | getResult first rest results => exact hs.getResult results
  | receive batch outcome pc => exact hs.receive pc outcome
  | fail pc =>
    simp only [Ledger.record, pc]
    exact hs.fail pc
  | deliver remaining count pc =>
    simp only [Ledger.record, pc]
    exact hs.deliver pc
  | put result remaining count pc =>
    simp only [Ledger.record, pc]
    exact hs.put pc
  | evict result remaining count pc =>
    simp only [Ledger.record, pc]
    exact hs.evict pc
  | enqueue result remaining count pc => exact hs.enqueue pc

end Step

/-- A scheduler with its history and its ledger. -/
abbrev Audited (setup : SchedulerSetup n) (Output : Type) :=
  Transition.Recorded (State setup Output) (History n Output × Ledger Output)

namespace Audited

/-- One step, recorded in the history and in the ledger. -/
def step : Audited setup Output → Event n Output → Option (Audited setup Output) :=
  Transition.recorded State.step fun log s e => (log.1.record s e, log.2.record s e)

/-- A new scheduler. -/
def init (setup : SchedulerSetup n) (Output : Type) (clockNs : UInt64) : Audited setup Output :=
  ⟨.init setup Output clockNs, (.empty, .empty)⟩

end Audited

/-- The scheduler with its history and its ledger after a run from a new scheduler. -/
def audit (setup : SchedulerSetup n) (clockNs : UInt64) (events : List (Event n Output)) :
    Audited setup Output :=
  Transition.exec Audited.step (Audited.init setup Output clockNs) events

theorem audit_balanced (setup : SchedulerSetup n) (clockNs : UInt64)
    (events : List (Event n Output)) :
    let o := audit setup clockNs events
    Sound o.state o.history.1 ∧ Balanced o.state o.history.1 o.history.2 :=
  Transition.recorded_invariant
    (I := fun s (log : History n Output × Ledger Output) =>
      Sound s log.1 ∧ Balanced s log.1 log.2)
    (fun _ _ _ _ hs hstep => ⟨hs.1.step hstep, hs.2.step hstep⟩)
    ⟨init_sound setup clockNs, init_balanced setup clockNs⟩ events

/-- A frame, known by its camera and number. -/
def frameKey (packet : FramePacket) : String × Nat := (packet.cameraId, packet.frameId)

/-- No frame is passed to the pipeline twice. -/
theorem Sound.passed_nodup {s : State setup Output} {h : History n Output} (hs : Sound s h) :
    (h.passed.flatten.map frameKey).Nodup := by
  rw [List.Nodup, List.pairwise_map, List.pairwise_iff_getElem]
  intro i j hi hj hlt hsame
  obtain ⟨hcameraId, hframeId⟩ := Prod.mk.inj hsame
  have hpicked : h.passed.flatten[i] ∈ h.picks.map Pick.packet := by
    rw [hs.picks]
    exact List.mem_append_left _ (List.getElem_mem hi)
  obtain ⟨pick, hpick, hpacket⟩ := List.mem_map.mp hpicked
  have hcamera := (hs.picks_read pick hpick).1
  rw [hpacket] at hcamera
  have hincreasing := hs.passed_increasing pick.camera
  rw [List.pairwise_map, List.pairwise_filter, List.pairwise_iff_getElem] at hincreasing
  have hless := hincreasing i j hi hj hlt (decide_eq_true hcamera)
    (decide_eq_true (hcameraId.symm.trans hcamera))
  exact absurd hframeId (Nat.ne_of_lt hless)

section Accounts
variable {s : State setup Output} {h : History n Output} {l : Ledger Output}

/-- The packets of the results that are made are among those passed to the pipeline. -/
theorem pairs_sublist (setup : SchedulerSetup n) (attempts : List (Attempt Output)) :
    ((attempts.flatMap (Attempt.pairs setup)).map Prod.fst).Sublist
      (attempts.map Attempt.batch).flatten := by
  induction attempts with
  | nil => exact .slnil
  | cons attempt rest ih =>
    rw [List.flatMap_cons, List.map_append, List.map_cons, List.flatten_cons]
    refine List.Sublist.append ?_ ih
    by_cases hsucceeded : attempt.Succeeded setup
    · rw [(Attempt.pairs_of_succeeded hsucceeded).1]
    · rw [Attempt.pairs_of_failed hsucceeded]
      exact List.nil_sublist _

/-- Results of pairs have the frames of the pairs. -/
theorem keys_of_results {pairs : List (FramePacket × Output)}
    {results : List (ScheduledResult Output)} (h : List.Forall₂ ResultOf pairs results) :
    results.map (fun result => (result.cameraId, result.frameId)) =
      (pairs.map Prod.fst).map frameKey := by
  induction h with
  | nil => rfl
  | cons hpair _ ih =>
    rw [List.map_cons, List.map_cons, List.map_cons, ih, hpair.1, hpair.2.1]
    rfl

theorem Balanced.produced_nodup (hs : Sound s h) (hl : Balanced s h l) :
    (l.produced.map fun result => (result.cameraId, result.frameId)).Nodup := by
  obtain ⟨done, hdone, hproduced⟩ := hl.pairs
  have hpassed : (done.map Prod.fst).Sublist h.passed.flatten := by
    have hstart : (done.map Prod.fst).Sublist
        ((l.attempts.flatMap (Attempt.pairs setup)).map Prod.fst) := by
      rw [hdone]
      exact (List.sublist_append_left _ _).map _
    rw [hl.passed, List.flatten_append]
    exact (hstart.trans (pairs_sublist setup l.attempts)).trans (List.sublist_append_left _ _)
  have hkeys := hs.passed_nodup.sublist (hpassed.map frameKey)
  rw [← keys_of_results hproduced, List.map_append] at hkeys
  exact hkeys.of_append_left

/-- At rest, every pair of an accepted batch has its result. -/
theorem Balanced.at_rest (hl : Balanced s h l) (hidle : s.pc = .idle) :
    List.Forall₂ ResultOf (l.attempts.flatMap (Attempt.pairs setup)) l.produced ∧
      l.produced.length = s.metrics.processedFrames := by
  obtain ⟨done, hdone, hproduced⟩ := hl.pairs
  have hprocessed := hl.processed
  simp only [hidle, Pc.undelivered, Pc.result, Pc.count, List.append_nil, Option.toList_none,
    Nat.add_zero] at hdone hproduced hprocessed
  rw [← hdone] at hproduced
  exact ⟨hproduced, hproduced.length_eq.symm.trans hprocessed⟩

end Accounts

/-- The event is one of the other parties: the clock, a capture process or a consumer. -/
def Event.Elsewhere : Event n Output → Prop
  | .tick _ | .publish _ _ _ | .getResult => True
  | .scheduler | .pipeline _ => False

/-- In the exception handler, with what had been produced and counted before. -/
structure Failing (s : State setup Output) (l : Ledger Output) (o : Audited setup Output) :
    Prop where
  pc : o.state.pc = .failed
  produced : o.history.2.produced = l.produced
  processedFrames : o.state.metrics.processedFrames = s.metrics.processedFrames
  failedBatches : o.state.metrics.failedBatches = s.metrics.failedBatches

section Failing
variable {s : State setup Output} {l : Ledger Output} {o u : Audited setup Output}

theorem Failing.elsewhere {e : Event n Output} (hf : Failing s l o) (he : e.Elsewhere)
    (hstep : o.step e = some u) : Failing s l u := by
  obtain ⟨t, ht, rfl⟩ := Transition.recorded_cases hstep
  have hphase := step_phase o.history.1 ht
  generalize o.history.1.record o.state e = h' at hphase
  cases hphase with
  | waits waits event =>
    rcases event with ⟨clockNs, rfl⟩ | ⟨camera, frame, timeNs, rfl⟩
    · exact ⟨waits.pc.trans hf.pc, hf.produced, waits.metrics ▸ hf.processedFrames,
        waits.metrics ▸ hf.failedBatches⟩
    · exact ⟨waits.pc.trans hf.pc, hf.produced, waits.metrics ▸ hf.processedFrames,
        waits.metrics ▸ hf.failedBatches⟩
  | getResult first rest results =>
    exact ⟨hf.pc, hf.produced, hf.processedFrames, hf.failedBatches⟩
  | receive | gathers | fail | deliver | put | evict | enqueue => exact absurd he id

theorem Failing.handled (hf : Failing s l o) :
    ∃ u, o.step .scheduler = some u ∧
      u.state.pc = .idle ∧ u.history.2.produced = l.produced ∧
      u.state.metrics.processedFrames = s.metrics.processedFrames ∧
      u.state.metrics.failedBatches = s.metrics.failedBatches + 1 := by
  have hstep : o.state.step .scheduler = some o.state.fail := by
    simp only [State.step, State.advance, hf.pc]
  have hledger : (o.history.2.record o.state (.scheduler : Event n Output)).produced =
      l.produced := by
    simp only [Ledger.record, hf.pc]
    exact hf.produced
  refine ⟨_, Transition.recorded_of_step hstep, ?_⟩
  unfold State.fail
  split
  · exact ⟨rfl, hledger, hf.processedFrames, congrArg (· + 1) hf.failedBatches⟩
  · exact ⟨rfl, hledger, hf.processedFrames, congrArg (· + 1) hf.failedBatches⟩

/-- The call of `infer_frames` ends in one of the ways that fail the batch. -/
theorem Failing.begin {o : Audited setup Output} {batch : List FramePacket}
    {outcome : PipelineOutcome Output} (hpc : o.state.pc = .inferring batch)
    (hfailed : ¬ (Attempt.mk batch outcome).Succeeded setup) :
    ∃ u, o.step (.pipeline outcome) = some u ∧ Failing o.state o.history.2 u := by
  have hstep : o.state.step (.pipeline outcome) = some (o.state.receive batch outcome) := by
    simp only [State.step, hpc]
  refine ⟨_, Transition.recorded_of_step hstep, ?_⟩
  have hstate : o.state.receive batch outcome = { o.state with pc := .failed } := by
    cases outcome with
    | raised => rfl
    | returned outputs elapsedMs => exact if_neg hfailed
  rw [hstate]
  exact ⟨rfl, by simp only [Ledger.record, hpc], rfl, rfl⟩

end Failing

/-- Over every run: the scheduler thread never meets a full queue when it puts a result; what
consumers received is, in order, among what was produced, where no frame occurs twice; every
produced result was received, waits in the queue or was dropped; an accepted batch yields one
result for each packet in its order and any other batch none, which at rest makes up what was
produced and counted. A batch that fails, in whichever way, has produced nothing and changed no
count but that of failures by the time the call of `run_once` is over, whatever the other parties
did meanwhile. -/
theorem results_accounted (setup : SchedulerSetup n) (clockNs : UInt64)
    (events : List (Event n Output)) :
    let o := audit setup clockNs events
    let s := o.state
    let l := o.history.2
    s.pc ≠ .crashed ∧
    l.received.Sublist l.produced ∧
    (l.produced.map fun result => (result.cameraId, result.frameId)).Nodup ∧
    l.produced.length = l.received.length + s.results.length + s.metrics.resultDrops ∧
    (∀ attempt : Attempt Output,
      (attempt.Succeeded setup → (attempt.pairs setup).map Prod.fst = attempt.batch ∧
        (attempt.pairs setup).map Prod.snd = attempt.outputs) ∧
      (¬ attempt.Succeeded setup → attempt.pairs setup = [])) ∧
    (s.pc = .idle →
      List.Forall₂ ResultOf (l.attempts.flatMap (Attempt.pairs setup)) l.produced ∧
      l.produced.length = s.metrics.processedFrames) ∧
    ∀ batch outcome, s.pc = .inferring batch → ¬ (Attempt.mk batch outcome).Succeeded setup →
      ∀ meanwhile : List (Event n Output), (∀ e ∈ meanwhile, e.Elsewhere) →
        let u := audit setup clockNs (events ++ .pipeline outcome :: (meanwhile ++ [.scheduler]))
        u.state.pc = .idle ∧ u.history.2.produced = l.produced ∧
          u.state.metrics.processedFrames = s.metrics.processedFrames ∧
          u.state.metrics.failedBatches = s.metrics.failedBatches + 1 := by
  intro o s l
  obtain ⟨hs, hl⟩ := audit_balanced setup clockNs events
  have hreceived : l.received.Sublist l.produced :=
    (List.sublist_append_left _ _).trans hl.order
  refine ⟨hl.alive, hreceived, hl.produced_nodup hs, hl.balance,
    fun _ => ⟨Attempt.pairs_of_succeeded, Attempt.pairs_of_failed⟩, hl.at_rest, ?_⟩
  intro batch outcome hpc hfailed meanwhile helsewhere u
  obtain ⟨first, hfirst, hfailing⟩ := Failing.begin (o := o) hpc hfailed
  have hwaiting : Failing s l (Transition.exec Audited.step first meanwhile) :=
    Transition.exec_invariant_of_events (I := Failing s l)
      (fun _ _ _ hf (he : Event.Elsewhere _) hstep => hf.elsewhere he hstep) hfailing helsewhere
  obtain ⟨last, hlast, hhandled⟩ := hwaiting.handled
  have hu : u = last := by
    unfold u audit
    rw [Transition.exec_append, Transition.exec]
    change Transition.exec _ ((o.step (.pipeline outcome)).getD o) _ = _
    rw [hfirst, Option.getD_some, Transition.exec_append, Transition.exec, hlast]
    rfl
  rw [hu]
  exact hhandled

end EdgeSafety.SharedInferenceScheduler
