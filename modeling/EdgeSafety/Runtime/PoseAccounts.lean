import EdgeSafety.Runtime.PoseFlow

/-!
# The accounts of the pose requests

All requests of the runtime are of one priority and come in the order of their times, so that the
queue refuses none, lets go of its oldest one when it is full, and hands them out in order. `Queued`
follows every request that was accepted to where it waits, was displaced or was taken; `Batched`
follows those that the worker took into its batches. `Spaced` says that the requests for one track
are an interval apart.
-/

namespace EdgeSafety

namespace BoundedPoseQueue
variable {K : Type} {q : BoundedPoseQueue K} {request : PoseRequest K}

variable (q request) in
/-- A queue of requests of one priority accepts another one that is no older, and lets go of its
oldest one if it is full. -/
theorem put_same_priority (hsame : ∀ other ∈ q.bag, other.priority = request.priority)
    (hlatest : ∀ other ∈ q.bag,
      other.requestedAtMonotonicNs ≤ request.requestedAtMonotonicNs) :
    (q.put request).1 = true ∧ ∃ displaced : Multiset (PoseRequest K),
      request ::ₘ q.bag = (q.put request).2.bag + displaced ∧
      (q.put request).2.dropped = q.dropped + displaced.card ∧
      ∀ gone ∈ displaced, ∀ other ∈ (q.put request).2.bag,
        gone.requestedAtMonotonicNs ≤ other.requestedAtMonotonicNs := by
  obtain ⟨entry, hexchange, hstep, hafter, hdropped, -⟩ := put_refines q request
  have hpos := q.maxsize_pos
  rw [← hafter, hdropped]
  generalize q.bag = bag at hsame hlatest hstep ⊢
  cases hstep with
  | keep _ item room =>
    obtain ⟨rfl, hkept⟩ := PriorityBag.Exchange.put.inj hexchange
    exact ⟨hkept.symm, 0, (add_zero _).symm, rfl, fun _ h => absurd h (Multiset.notMem_zero _)⟩
  | replace others item victim full item_le largest oldest =>
    obtain ⟨rfl, hkept⟩ := PriorityBag.Exchange.put.inj hexchange
    have hrank : ∀ other ∈ others, rank other = rank victim := by
      intro other hother
      rw [rank, rank, hsame other (Multiset.mem_cons_of_mem hother),
        hsame victim (Multiset.mem_cons_self _ _)]
    refine ⟨hkept.symm, {victim}, ?_, rfl, ?_⟩
    · rw [Multiset.cons_add, add_comm, Multiset.singleton_add]
    · intro gone hgone other hother
      rw [Multiset.mem_singleton.mp hgone]
      rcases Multiset.mem_cons.mp hother with rfl | hother
      · exact hlatest victim (Multiset.mem_cons_self _ _)
      · exact oldest other hother (hrank other hother)
  | refuse _ item full largest =>
    obtain ⟨rfl, -⟩ := PriorityBag.Exchange.put.inj hexchange
    obtain ⟨other, hother⟩ := Multiset.card_pos_iff_exists_mem.mp (full.symm ▸ hpos)
    have hless := largest other hother
    rw [rank, rank, hsame other hother] at hless
    exact absurd hless (Nat.lt_irrefl _)
  | none => cases hexchange
  | take _ item least => cases hexchange

/-- A request that is taken is as old as any in a queue of one priority. -/
theorem get_same_priority {rest : BoundedPoseQueue K} (hget : q.get = (some request, rest))
    (hsame : ∀ first ∈ q.bag, ∀ second ∈ q.bag, first.priority = second.priority) :
    q.bag = request ::ₘ rest.bag ∧ rest.dropped = q.dropped ∧
      ∀ other ∈ rest.bag,
        request.requestedAtMonotonicNs ≤ other.requestedAtMonotonicNs := by
  obtain ⟨entry, hexchange, hstep, hafter, hdropped, -⟩ := get_refines q
  rw [hget] at hexchange hafter hdropped
  rw [← hafter, hdropped]
  generalize q.bag = bag at hsame hstep ⊢
  cases hstep with
  | keep => cases hexchange
  | replace => cases hexchange
  | refuse => cases hexchange
  | none => cases hexchange
  | take others item least =>
    cases hexchange
    refine ⟨rfl, rfl, fun other hother => ?_⟩
    rcases least other hother with hless | ⟨-, hle⟩
    · rw [rank, rank, hsame request (Multiset.mem_cons_self _ _) other
        (Multiset.mem_cons_of_mem hother)] at hless
      exact absurd hless (Nat.lt_irrefl _)
    · exact hle

end BoundedPoseQueue

namespace Phase2Threads

variable {n : Nat} {setup : SchedulerSetup n}

/-- The request that the worker took and has not checked. -/
def WorkerPc.request? : WorkerPc → Option (PoseRequest ℚ)
  | .checking _ request => some request
  | _ => none

/-- The requests that the worker has gathered. -/
def WorkerPc.gathered : WorkerPc → List (PoseRequest ℚ)
  | .collecting requests | .checking requests _ | .inferring requests => requests
  | _ => []

/-- The requests that the worker took so far. -/
def taken (s : Phase2Threads setup) (h : History n) : List (PoseRequest ℚ) :=
  h.checked.map Prod.fst ++ s.workerPc.request?.toList

/-- The first request is no later than the second. -/
def NoLater (first second : PoseRequest ℚ) : Prop :=
  first.requestedAtMonotonicNs ≤ second.requestedAtMonotonicNs

/-- Where the requests that the queue accepted are: in the queue, displaced from it, or taken out of
it by the worker. -/
structure Queued (s : Phase2Threads setup) (h : History n) : Prop where
  medium : ∀ request ∈ s.consumer.poseRequests.bag, request.priority = .medium
  accepted_sorted : h.accepted.Pairwise NoLater
  accepted_le : ∀ request ∈ h.accepted,
    request.requestedAtMonotonicNs ≤ s.scheduler.clockNs.toNat
  requesting : ∀ nowNs frame remaining, s.consumerPc = .requesting nowNs frame remaining →
    nowNs ≤ s.scheduler.clockNs.toNat ∧
      ∀ request ∈ h.accepted, request.requestedAtMonotonicNs ≤ nowNs
  fates : ∃ displaced : Multiset (PoseRequest ℚ),
    (h.accepted : Multiset (PoseRequest ℚ)) =
        s.consumer.poseRequests.bag + ((s.taken h : Multiset (PoseRequest ℚ)) + displaced) ∧
      s.consumer.poseRequests.dropped = displaced.card ∧
      ∀ gone ∈ (s.taken h : Multiset (PoseRequest ℚ)) + displaced,
        ∀ request ∈ s.consumer.poseRequests.bag, NoLater gone request
  taken_sorted : (s.taken h).Pairwise NoLater

section Queued
variable {s t : Phase2Threads setup} {h h' : History n}

/-- A request that waits was accepted. -/
theorem Queued.mem_accepted (hs : Queued s h) {request : PoseRequest ℚ}
    (hrequest : request ∈ s.consumer.poseRequests.bag) : request ∈ h.accepted := by
  obtain ⟨displaced, haccepted, -⟩ := hs.fates
  rw [← Multiset.mem_coe, haccepted]
  exact Multiset.mem_add.mpr (.inl hrequest)

/-- A step that leaves the requests where they are. -/
theorem Queued.same (hs : Queued s h)
    (clockNs : s.scheduler.clockNs.toNat ≤ t.scheduler.clockNs.toNat)
    (poseRequests : t.consumer.poseRequests = s.consumer.poseRequests)
    (accepted : h'.accepted = h.accepted) (taken : t.taken h' = s.taken h)
    (requesting : ∀ nowNs frame remaining, t.consumerPc = .requesting nowNs frame remaining →
      (∃ remaining, s.consumerPc = .requesting nowNs frame remaining) ∨
        nowNs = s.scheduler.clockNs.toNat) : Queued t h' where
  medium := by
    rw [poseRequests]
    exact hs.medium
  accepted_sorted := by
    rw [accepted]
    exact hs.accepted_sorted
  accepted_le := by
    rw [accepted]
    intro request hrequest
    have hle := hs.accepted_le request hrequest
    omega
  requesting nowNs frame remaining hpc := by
    rw [accepted]
    rcases requesting nowNs frame remaining hpc with ⟨before, hbefore⟩ | rfl
    · obtain ⟨hclock, hall⟩ := hs.requesting nowNs frame before hbefore
      exact ⟨by omega, hall⟩
    · exact ⟨by exact_mod_cast clockNs, hs.accepted_le⟩
  fates := by
    rw [poseRequests, accepted, taken]
    exact hs.fates
  taken_sorted := by
    rw [taken]
    exact hs.taken_sorted

/-- A request that is asked for joins the queue. -/
theorem Queued.asks (hs : Queued s h) {nowNs : Int} {frame : FramePacket}
    {track : TrackedDetection ℚ} {remaining : Tracks}
    (hpc : s.consumerPc = .requesting nowNs frame (track :: remaining))
    (hasks : s.consumer.Asks nowNs frame track) :
    Queued
      { s with
        consumer := s.consumer.requestPose nowNs frame track
        consumerPc := .requesting nowNs frame remaining }
      { h with accepted := h.accepted ++ [DetectionConsumer.poseRequest nowNs frame track] } := by
  obtain ⟨hclock, hlatest⟩ := hs.requesting _ _ _ hpc
  obtain ⟨displaced, haccepted, hdropped, hgone⟩ := hs.fates
  let request := DetectionConsumer.poseRequest nowNs frame track
  obtain ⟨-, more, hbag, hcount, holder⟩ := BoundedPoseQueue.put_same_priority
    s.consumer.poseRequests request hs.medium
    fun other hother => hlatest other (hs.mem_accepted hother)
  have hmem : ∀ other ∈ (s.consumer.poseRequests.put request).2.bag,
      other = request ∨ other ∈ s.consumer.poseRequests.bag := by
    intro other hother
    have hin : other ∈ request ::ₘ s.consumer.poseRequests.bag := by
      rw [hbag]
      exact Multiset.mem_add.mpr (.inl hother)
    exact Multiset.mem_cons.mp hin
  rw [DetectionConsumer.requestPose_of_asks hasks]
  constructor
  · intro other hother
    rcases hmem other hother with rfl | hold
    · rfl
    · exact hs.medium other hold
  · refine List.pairwise_append.mpr ⟨hs.accepted_sorted, List.pairwise_singleton _ _, ?_⟩
    intro first hfirst second hsecond
    rw [List.mem_singleton.mp hsecond]
    exact hlatest first hfirst
  · intro other hother
    rcases List.mem_append.mp hother with hold | hnew
    · exact hs.accepted_le other hold
    · rw [List.mem_singleton.mp hnew]
      exact hclock
  · intro now frame' rest hrest
    obtain ⟨rfl, -, -⟩ := ConsumerPc.requesting.inj hrest
    refine ⟨hclock, fun other hother => ?_⟩
    rcases List.mem_append.mp hother with hold | hnew
    · exact hlatest other hold
    · rw [List.mem_singleton.mp hnew]
      exact le_refl _
  · refine ⟨displaced + more, ?_, ?_, ?_⟩
    · calc ((h.accepted ++ [request] : List (PoseRequest ℚ)) : Multiset (PoseRequest ℚ))
          = request ::ₘ (h.accepted : Multiset (PoseRequest ℚ)) := by
            rw [← Multiset.coe_add, Multiset.coe_singleton, add_comm, Multiset.singleton_add]
        _ = (request ::ₘ s.consumer.poseRequests.bag) +
            ((s.taken h : Multiset (PoseRequest ℚ)) + displaced) := by
            rw [haccepted, Multiset.cons_add]
        _ = (s.consumer.poseRequests.put request).2.bag + more +
            ((s.taken h : Multiset (PoseRequest ℚ)) + displaced) := by rw [hbag]
        _ = _ := by
            change _ = (s.consumer.poseRequests.put request).2.bag +
              ((s.taken h : Multiset (PoseRequest ℚ)) + (displaced + more))
            rw [add_assoc, add_comm more, add_assoc]
    · change (s.consumer.poseRequests.put request).2.dropped = _
      rw [hcount, hdropped, Multiset.card_add]
    · intro gone hold other hother
      rw [← add_assoc, Multiset.mem_add] at hold
      rcases hold with hold | hnew
      · rcases hmem other hother with rfl | hwaits
        · apply hlatest
          rw [← Multiset.mem_coe, haccepted]
          exact Multiset.mem_add.mpr (.inr hold)
        · exact hgone gone hold other hwaits
      · exact holder gone hnew other hother
  · exact hs.taken_sorted

/-- The only reason not to ask is that the last request is too recent. -/
theorem Queued.skips (hs : Queued s h) {nowNs : Int} {frame : FramePacket}
    {track : TrackedDetection ℚ} {remaining : Tracks}
    (hpc : s.consumerPc = .requesting nowNs frame (track :: remaining))
    (hasks : ¬ s.consumer.Asks nowNs frame track) : ¬ s.consumer.Due nowNs track := by
  intro hdue
  obtain ⟨hkept, -⟩ := BoundedPoseQueue.put_same_priority s.consumer.poseRequests
    (DetectionConsumer.poseRequest nowNs frame track) hs.medium
    fun other hother => (hs.requesting _ _ _ hpc).2 other (hs.mem_accepted hother)
  exact hasks ⟨hdue, hkept⟩

/-- A request that the worker takes leaves the queue. -/
theorem Queued.takes (hs : Queued s h) {requests : List (PoseRequest ℚ)}
    {request : PoseRequest ℚ} {poseRequests : BoundedPoseQueue ℚ}
    (hpc : s.workerPc = .collecting requests)
    (hget : s.consumer.poseRequests.get = (some request, poseRequests)) :
    Queued
      { s with
        consumer := { s.consumer with poseRequests }
        workerPc := .checking requests request } h := by
  obtain ⟨displaced, haccepted, hdropped, hgone⟩ := hs.fates
  obtain ⟨hbag, hcount, holdest⟩ := BoundedPoseQueue.get_same_priority hget
    fun first hfirst second hsecond => by rw [hs.medium first hfirst, hs.medium second hsecond]
  have hbefore : s.taken h = h.checked.map Prod.fst := by
    rw [Phase2Threads.taken, hpc]
    exact List.append_nil _
  rw [hbefore] at haccepted hgone
  constructor
  · intro other hother
    exact hs.medium other (hbag ▸ Multiset.mem_cons_of_mem hother)
  · exact hs.accepted_sorted
  · exact hs.accepted_le
  · exact hs.requesting
  · refine ⟨displaced, ?_, ?_, ?_⟩
    · calc (h.accepted : Multiset (PoseRequest ℚ))
          = (request ::ₘ poseRequests.bag) +
            ((h.checked.map Prod.fst : List (PoseRequest ℚ)) + displaced) := by
            rw [haccepted, hbag]
        _ = poseRequests.bag +
            (((h.checked.map Prod.fst ++ [request] : List (PoseRequest ℚ)) :
              Multiset (PoseRequest ℚ)) + displaced) := by
            rw [← Multiset.coe_add, Multiset.coe_singleton, ← Multiset.singleton_add]
            abel
        _ = _ := rfl
    · rw [← hdropped]
      exact hcount
    · intro gone hgoneMem other hother
      change gone ∈ ((h.checked.map Prod.fst ++ [request] : List (PoseRequest ℚ)) :
        Multiset (PoseRequest ℚ)) + displaced at hgoneMem
      rw [← Multiset.coe_add, Multiset.mem_add, Multiset.mem_add] at hgoneMem
      have hwaits : other ∈ s.consumer.poseRequests.bag := hbag ▸ Multiset.mem_cons_of_mem hother
      rcases hgoneMem with (hchecked | hrequest) | hdisplaced
      · exact hgone gone (Multiset.mem_add.mpr (.inl hchecked)) other hwaits
      · rw [Multiset.coe_singleton, Multiset.mem_singleton] at hrequest
        subst hrequest
        exact holdest other hother
      · exact hgone gone (Multiset.mem_add.mpr (.inr hdisplaced)) other hwaits
  · change (h.checked.map Prod.fst ++ [request]).Pairwise NoLater
    have hsorted := hs.taken_sorted
    rw [hbefore] at hsorted
    refine List.pairwise_append.mpr ⟨hsorted, List.pairwise_singleton _ _, ?_⟩
    intro first hfirst second hsecond
    rw [List.mem_singleton.mp hsecond]
    exact hgone first (Multiset.mem_add.mpr (.inl (Multiset.mem_coe.mpr hfirst))) request
      (hbag ▸ Multiset.mem_cons_self _ _)

theorem Queued.step (hs : Queued s h) (hstep : RecordedStep s h t h') : Queued t h' := by
  cases hstep with
  | scheduler event next stepped results =>
    exact hs.same (SharedInferenceScheduler.clockNs_le_step stepped) rfl rfl rfl
      fun nowNs frame remaining hpc => .inl ⟨remaining, hpc⟩
  | stop => exact hs.same (le_refl _) rfl rfl rfl fun _ _ remaining hpc => .inl ⟨remaining, hpc⟩
  | takeTracks tracks trackResults waiting =>
    exact hs.same (le_refl _) rfl rfl rfl fun _ _ remaining hpc => .inl ⟨remaining, hpc⟩
  | takePose pose poseResults waiting =>
    exact hs.same (le_refl _) rfl rfl rfl fun _ _ remaining hpc => .inl ⟨remaining, hpc⟩
  | consumerHead pc =>
    refine hs.same (le_refl _) rfl rfl rfl fun nowNs frame remaining hpc => ?_
    dsimp only at hpc
    split at hpc <;> cases hpc
  | noResult pc results => exact hs.same (le_refl _) rfl rfl rfl nofun
  | frameless result rest pc results frame => exact hs.same (le_refl _) rfl rfl rfl nofun
  | stranger result rest error trackers linearSumAssignment pc results updated =>
    exact hs.same (le_refl _) rfl rfl rfl nofun
  | tracked result rest frame tracks trackers linearSumAssignment pc results frames updated =>
    exact hs.same (le_refl _) rfl rfl rfl nofun
  | putTracks access frame tracks pc =>
    unfold putTracks
    split
    · exact hs.same (le_refl _) rfl rfl rfl nofun
    · exact hs.same (le_refl _) rfl rfl rfl nofun
    · refine hs.same (le_refl _) rfl rfl rfl fun nowNs frame remaining hpc => ?_
      dsimp only at hpc
      split at hpc <;> cases hpc
  | timing frame tracks pc =>
    refine hs.same (le_refl _) rfl rfl rfl fun nowNs frame remaining hpc => .inr ?_
    exact (ConsumerPc.requesting.inj hpc).1.symm
  | requested nowNs frame pc => exact hs.same (le_refl _) rfl rfl rfl nofun
  | asks nowNs frame track remaining pc asked => exact hs.asks pc asked
  | skips nowNs frame track remaining pc asked =>
    rw [DetectionConsumer.requestPose_of_not_due (hs.skips pc asked)]
    refine hs.same (le_refl _) rfl rfl rfl fun now frame' rest hpc => .inl ?_
    obtain ⟨rfl, rfl, -⟩ := ConsumerPc.requesting.inj hpc
    exact ⟨_, pc⟩
  | workerHead pc =>
    refine hs.same (le_refl _) rfl rfl ?_ fun _ _ remaining hpc => .inl ⟨remaining, hpc⟩
    simp only [taken, pc]
    split <;> rfl
  | gathered requests pc some =>
    refine hs.same (le_refl _) rfl rfl ?_ fun _ _ remaining hpc => .inl ⟨remaining, hpc⟩
    simp only [taken, pc]
    rfl
  | nothing pc none =>
    refine hs.same (le_refl _) rfl rfl ?_ fun _ _ remaining hpc => .inl ⟨remaining, hpc⟩
    simp only [taken, pc]
    rfl
  | takes requests request poseRequests pc room got => exact hs.takes pc got
  | check requests request pc =>
    refine hs.same (le_refl _) rfl rfl ?_ fun _ _ remaining hpc => .inl ⟨remaining, hpc⟩
    simp [taken, pc, check, WorkerPc.request?]
  | failed requests cv2 error pipeline pc inferred =>
    refine hs.same (le_refl _) rfl rfl ?_ fun _ _ remaining hpc => .inl ⟨remaining, hpc⟩
    simp only [taken, pc]
    rfl
  | inferred requests cv2 results pipeline pc inferred =>
    refine hs.same (le_refl _) rfl rfl ?_ fun _ _ remaining hpc => .inl ⟨remaining, hpc⟩
    simp only [taken, pc]
    rfl
  | delivered pc =>
    refine hs.same (le_refl _) rfl rfl ?_ fun _ _ remaining hpc => .inl ⟨remaining, hpc⟩
    simp only [taken, pc]
    rfl
  | delivering result remaining pc =>
    refine hs.same (le_refl _) rfl rfl ?_ fun _ _ remaining hpc => .inl ⟨remaining, hpc⟩
    simp only [taken, pc]
    rfl
  | putPose access remaining pc =>
    unfold putPose
    split <;> refine hs.same (le_refl _) rfl rfl ?_
      fun _ _ remaining hpc => .inl ⟨remaining, hpc⟩ <;> simp only [taken, pc] <;> rfl

end Queued

/-- The requests that the worker is inferring. -/
def WorkerPc.submitted? : WorkerPc → Option (List (PoseRequest ℚ))
  | .inferring requests => some requests
  | _ => none

/-- What the worker did with the requests that it checked: the young ones are in its batches, or
gathered for the next one. -/
structure Batched (s : Phase2Threads setup) (h : History n) : Prop where
  young : (h.checked.filter fun entry => Young entry.2 entry.1).map Prod.fst =
    h.batches.flatMap Prod.fst ++ s.workerPc.gathered
  batches : ∀ batch ∈ h.batches, batch.1 ≠ [] ∧ batch.1.length ≤ 8
  gathered : s.workerPc.gathered.length ≤ 8
  checking : s.workerPc.request?.isSome → s.workerPc.gathered.length < 8
  inferring : ∀ requests, s.workerPc.submitted? = some requests → requests ≠ []

section Batched
variable {s t : Phase2Threads setup} {h h' : History n}

/-- A step of another thread. -/
theorem Batched.same (hs : Batched s h) (workerPc : t.workerPc = s.workerPc)
    (checked : h'.checked = h.checked) (batches : h'.batches = h.batches) : Batched t h' := by
  constructor
  · rw [checked, batches, workerPc]
    exact hs.young
  · rw [batches]
    exact hs.batches
  · rw [workerPc]
    exact hs.gathered
  · rw [workerPc]
    exact hs.checking
  · rw [workerPc]
    exact hs.inferring

/-- The worker moves on with nothing in hand. -/
theorem Batched.empty (hs : Batched s h) (hpc : s.workerPc.gathered = [])
    (ht : t.workerPc.gathered = []) (hrequest : t.workerPc.request? = none)
    (hsubmitted : t.workerPc.submitted? = none) (checked : h'.checked = h.checked)
    (batches : h'.batches = h.batches) : Batched t h' := by
  constructor
  · rw [checked, batches, ht, hs.young, hpc]
  · rw [batches]
    exact hs.batches
  · rw [ht]
    exact Nat.zero_le _
  · rw [hrequest]
    exact nofun
  · rw [hsubmitted]
    exact nofun

theorem Batched.check (hs : Batched s h) {requests : List (PoseRequest ℚ)}
    {request : PoseRequest ℚ} (hpc : s.workerPc = .checking requests request) :
    Batched (s.check requests request)
      { h with checked := h.checked ++ [(request, s.scheduler.clockNs.toNat)] } := by
  have hyoung := hs.young
  have hroom := hs.checking
  rw [hpc] at hyoung hroom
  change _ = _ ++ requests at hyoung
  have hroom : requests.length < 8 := hroom rfl
  refine ⟨?_, hs.batches, ?_, nofun, nofun⟩
  · change ((h.checked ++ [(request, s.scheduler.clockNs.toNat)]).filter _).map _ =
      _ ++ (if Young s.scheduler.clockNs.toNat request then requests ++ [request] else requests)
    rw [List.filter_append, List.map_append, hyoung, List.append_assoc]
    by_cases hage : Young s.scheduler.clockNs.toNat request <;> simp [hage]
  · change (if _ then _ else _ : List (PoseRequest ℚ)).length ≤ 8
    split
    · rw [List.length_append]
      exact hroom
    · exact hroom.le

/-- A batch is done, however its inference ended. -/
theorem Batched.inferred (hs : Batched s h) {requests : List (PoseRequest ℚ)}
    (hpc : s.workerPc = .inferring requests) (outcome : Except String (List (PoseResult ℚ)))
    (ht : t.workerPc.gathered = []) (hrequest : t.workerPc.request? = none)
    (hsubmitted : t.workerPc.submitted? = none) :
    Batched t { h with batches := h.batches ++ [(requests, outcome)] } := by
  have hyoung := hs.young
  have hlength := hs.gathered
  have hsome := hs.inferring requests (by rw [hpc]; rfl)
  rw [hpc] at hyoung hlength
  constructor
  · rw [ht, List.append_nil, List.flatMap_append, List.flatMap_singleton]
    exact hyoung
  · intro batch hbatch
    rcases List.mem_append.mp hbatch with hold | hnew
    · exact hs.batches batch hold
    · rw [List.mem_singleton.mp hnew]
      exact ⟨hsome, hlength⟩
  · rw [ht]
    exact Nat.zero_le _
  · rw [hrequest]
    exact nofun
  · rw [hsubmitted]
    exact nofun

theorem Batched.step (hs : Batched s h) (hstep : RecordedStep s h t h') : Batched t h' := by
  cases hstep with
  | scheduler | stop | takeTracks | takePose | consumerHead | noResult | frameless | stranger
  | tracked | timing | requested | asks | skips => exact hs.same rfl rfl rfl
  | putTracks access frame tracks pc =>
    unfold putTracks
    split <;> exact hs.same rfl rfl rfl
  | workerHead pc =>
    refine hs.empty (by rw [pc]; rfl) ?_ ?_ ?_ rfl rfl <;> dsimp only <;> split <;> rfl
  | gathered requests pc some =>
    have hgathered := hs.gathered
    have hyoung := hs.young
    rw [pc] at hgathered hyoung
    refine ⟨hyoung, hs.batches, hgathered, nofun, fun others heq => ?_⟩
    obtain rfl := Option.some.inj heq
    change requests.length ≤ 8 at hgathered
    by_cases hroom : requests.length < 8
    · exact (some hroom).2
    · rintro rfl
      exact hroom (by decide)
  | nothing pc none => exact hs.empty (by rw [pc]; rfl) rfl rfl rfl rfl rfl
  | takes requests request poseRequests pc room got =>
    have hgathered := hs.gathered
    have hyoung := hs.young
    rw [pc] at hgathered hyoung
    exact ⟨hyoung, hs.batches, hgathered, fun _ => room, nofun⟩
  | check requests request pc => exact hs.check pc
  | failed requests cv2 error pipeline pc inferred => exact hs.inferred pc _ rfl rfl rfl
  | inferred requests cv2 results pipeline pc inferred => exact hs.inferred pc _ rfl rfl rfl
  | delivered pc => exact hs.empty (by rw [pc]; rfl) rfl rfl rfl rfl rfl
  | delivering result remaining pc => exact hs.empty (by rw [pc]; rfl) rfl rfl rfl rfl rfl
  | putPose access remaining pc =>
    unfold putPose
    split <;> exact hs.empty (by rw [pc]; rfl) rfl rfl rfl rfl rfl

end Batched

/-- No step changes the interval of the requests. -/
theorem RecordedStep.poseIntervalNs {s t : Phase2Threads setup} {h h' : History n}
    (hstep : RecordedStep s h t h') :
    t.consumer.poseIntervalNs = s.consumer.poseIntervalNs := by
  cases hstep with
  | scheduler | stop | takeTracks | takePose | consumerHead | noResult | frameless | stranger
  | tracked | timing | requested | workerHead | gathered | nothing | takes | check | failed
  | inferred | delivered | delivering => rfl
  | putTracks access frame tracks pc =>
    unfold Phase2Threads.putTracks
    split <;> rfl
  | asks nowNs frame track remaining pc asked =>
    rw [DetectionConsumer.requestPose_of_asks asked]
  | skips nowNs frame track remaining pc asked =>
    obtain ⟨poseRequests, h | h⟩ :=
      DetectionConsumer.requestPose_cases nowNs frame s.consumer track <;> simp only [h]
  | putPose access remaining pc =>
    unfold Phase2Threads.putPose
    split <;> rfl

/-- The accepted requests for a track, in order. -/
def History.requestsFor (h : History n) (identity : String × Nat) : List (PoseRequest ℚ) :=
  h.accepted.filter fun request =>
    request.cameraId = identity.1 ∧ request.trackId = (identity.2 : Int)

/-- The consumer remembers the last request for each track, and makes the next one an interval
later. -/
structure Spaced (s : Phase2Threads setup) (h : History n) : Prop where
  noted : ∀ identity, s.consumer.lastPoseRequestNs.get? identity =
    (h.requestsFor identity).getLast?.map PoseRequest.requestedAtMonotonicNs
  spaced : ∀ identity, (h.requestsFor identity).Pairwise fun first second =>
    first.requestedAtMonotonicNs + s.consumer.poseIntervalNs ≤ second.requestedAtMonotonicNs

section Spaced
variable {s t : Phase2Threads setup} {h h' : History n}

/-- A request that is accepted is one for its track, and for no other. -/
theorem requestsFor_accepted {nowNs : Int} {frame : FramePacket} {track : TrackedDetection ℚ}
    (haccepted : h'.accepted = h.accepted ++ [DetectionConsumer.poseRequest nowNs frame track])
    (identity : String × Nat) :
    h'.requestsFor identity = h.requestsFor identity ++
      if identity = track.identity then [DetectionConsumer.poseRequest nowNs frame track]
      else [] := by
  rw [History.requestsFor, haccepted, List.filter_append, History.requestsFor]
  congr 1
  by_cases hsame : identity = track.identity
  · subst hsame
    simp [DetectionConsumer.poseRequest, TrackedDetection.identity]
  · have hother : track.cameraId = identity.1 → ¬ track.trackId = identity.2 := by
      intro hcamera htrack
      exact hsame (Prod.ext hcamera.symm htrack.symm)
    simpa [DetectionConsumer.poseRequest, hsame] using hother

theorem Spaced.same (hs : Spaced s h)
    (noted : t.consumer.lastPoseRequestNs = s.consumer.lastPoseRequestNs)
    (interval : t.consumer.poseIntervalNs = s.consumer.poseIntervalNs)
    (accepted : h'.accepted = h.accepted) : Spaced t h' := by
  have hrequests : ∀ identity, h'.requestsFor identity = h.requestsFor identity := by
    intro identity
    rw [History.requestsFor, accepted, History.requestsFor]
  constructor
  · intro identity
    rw [noted, hrequests]
    exact hs.noted identity
  · intro identity
    rw [interval, hrequests]
    exact hs.spaced identity

/-- The last of the requests for a track is the latest one. -/
theorem Queued.requestsFor_le_last (hq : Queued s h) {identity : String × Nat}
    {last : PoseRequest ℚ} (hlast : (h.requestsFor identity).getLast? = some last) :
    ∀ request ∈ h.requestsFor identity, NoLater request last := by
  obtain ⟨earlier, hearlier⟩ := List.getLast?_eq_some_iff.mp hlast
  have hsorted : (h.requestsFor identity).Pairwise NoLater := hq.accepted_sorted.filter _
  rw [hearlier] at hsorted ⊢
  intro request hrequest
  rcases List.mem_append.mp hrequest with hold | hnew
  · exact (List.pairwise_append.mp hsorted).2.2 request hold last (List.mem_singleton_self last)
  · rw [List.mem_singleton.mp hnew]
    exact Int.le_refl _

/-- A request that is due comes an interval after each one before it. -/
theorem Spaced.due (hs : Spaced s h) (hq : Queued s h) {nowNs : Int}
    {track : TrackedDetection ℚ} (hdue : s.consumer.Due nowNs track) :
    ∀ request ∈ h.requestsFor track.identity,
      request.requestedAtMonotonicNs + s.consumer.poseIntervalNs ≤ nowNs := by
  intro request hrequest
  cases hlast : (h.requestsFor track.identity).getLast? with
  | none =>
    rw [List.getLast?_eq_none_iff.mp hlast] at hrequest
    exact absurd hrequest List.not_mem_nil
  | some last =>
    have hle := hq.requestsFor_le_last hlast request hrequest
    have hnoted := hs.noted track.identity
    rw [hlast] at hnoted
    unfold DetectionConsumer.Due at hdue
    rw [hnoted, Option.map_some, Option.getD_some] at hdue
    unfold NoLater at hle
    omega

theorem Spaced.asks (hs : Spaced s h) (hq : Queued s h) {nowNs : Int} {frame : FramePacket}
    {track : TrackedDetection ℚ} (hasks : s.consumer.Asks nowNs frame track)
    (ht : t.consumer = s.consumer.requestPose nowNs frame track) :
    Spaced t
      { h with accepted := h.accepted ++ [DetectionConsumer.poseRequest nowNs frame track] } := by
  rw [DetectionConsumer.requestPose_of_asks hasks] at ht
  constructor
  · intro identity
    rw [ht, requestsFor_accepted rfl]
    by_cases hsame : identity = track.identity
    · subst hsame
      rw [if_pos rfl, List.getLast?_concat, Dict.get?_set_self]
      rfl
    · rw [if_neg hsame, List.append_nil, Dict.get?_set_of_ne _ hsame]
      exact hs.noted identity
  · intro identity
    rw [ht, requestsFor_accepted rfl]
    by_cases hsame : identity = track.identity
    · subst hsame
      rw [if_pos rfl]
      refine List.pairwise_append.mpr ⟨hs.spaced _, List.pairwise_singleton _ _, ?_⟩
      intro first hfirst second hsecond
      rw [List.mem_singleton.mp hsecond]
      exact hs.due hq hasks.1 first hfirst
    · rw [if_neg hsame, List.append_nil]
      exact hs.spaced identity

theorem Spaced.step (hs : Spaced s h) (hq : Queued s h) (hstep : RecordedStep s h t h') :
    Spaced t h' := by
  cases hstep with
  | scheduler | stop | takeTracks | takePose | consumerHead | noResult | frameless | stranger
  | tracked | timing | requested | workerHead | gathered | nothing | takes | check | failed
  | inferred | delivered | delivering => exact hs.same rfl rfl rfl
  | putTracks access frame tracks pc =>
    unfold putTracks
    split <;> exact hs.same rfl rfl rfl
  | asks nowNs frame track remaining pc asked => exact hs.asks hq asked rfl
  | skips nowNs frame track remaining pc asked =>
    rw [DetectionConsumer.requestPose_of_not_due (hq.skips pc asked)]
    exact hs.same rfl rfl rfl
  | putPose access remaining pc =>
    unfold putPose
    split <;> exact hs.same rfl rfl rfl

end Spaced

section Start
variable (setup) (runtime : Phase2Runtime ℚ) (poseFpsMedium : ℚ) (clockNs : UInt64)

/-- The worker starts at the head of its loop, or not at all. -/
theorem threads_workerPc :
    (runtime.threads poseFpsMedium setup clockNs).workerPc = .head ∨
      (runtime.threads poseFpsMedium setup clockNs).workerPc = .ended := by
  simp only [Phase2Runtime.threads]
  split
  · exact .inl rfl
  · exact .inr rfl

theorem threads_queued : Queued (runtime.threads poseFpsMedium setup clockNs) {} where
  medium _ h := absurd h (Multiset.notMem_zero _)
  accepted_sorted := .nil
  accepted_le _ h := absurd h List.not_mem_nil
  requesting _ _ _ h := by cases h
  fates := by
    refine ⟨0, ?_, rfl, fun _ _ _ h => absurd h (Multiset.notMem_zero _)⟩
    rcases threads_workerPc setup runtime poseFpsMedium clockNs with h | h <;>
      rw [taken, h] <;> rfl
  taken_sorted := by
    rcases threads_workerPc setup runtime poseFpsMedium clockNs with h | h <;>
      rw [taken, h] <;> exact .nil

theorem threads_batched : Batched (runtime.threads poseFpsMedium setup clockNs) {} := by
  constructor <;>
    rcases threads_workerPc setup runtime poseFpsMedium clockNs with h | h <;>
      simp [h, WorkerPc.gathered, WorkerPc.request?, WorkerPc.submitted?]

theorem threads_spaced : Spaced (runtime.threads poseFpsMedium setup clockNs) {} where
  noted _ := rfl
  spaced _ := .nil

end Start

section Run
variable (setup) (runtime : Phase2Runtime ℚ) (poseFpsMedium : ℚ) (clockNs : UInt64)
  (events : List (Event n))

theorem observe_accounts :
    let o := observe runtime poseFpsMedium setup clockNs events
    Queued o.state o.history ∧ Batched o.state o.history ∧ Spaced o.state o.history := by
  refine Transition.recorded_invariant
    (I := fun s h => Queued s h ∧ Batched s h ∧ Spaced s h) ?_ ?_ events
  · rintro s h e t ⟨hq, hb, hs⟩ hstep
    have hrecorded := step_recorded h hstep
    exact ⟨hq.step hrecorded, hb.step hrecorded, hs.step hq hrecorded⟩
  · exact ⟨threads_queued setup runtime poseFpsMedium clockNs,
      threads_batched setup runtime poseFpsMedium clockNs,
      threads_spaced setup runtime poseFpsMedium clockNs⟩

/-- No step changes the interval. -/
theorem observe_interval :
    (observe runtime poseFpsMedium setup clockNs events).state.consumer.poseIntervalNs =
      (1000000000 / poseFpsMedium).floor := by
  refine Transition.recorded_invariant
    (I := fun (s : Phase2Threads setup) _ =>
      s.consumer.poseIntervalNs = (1000000000 / poseFpsMedium).floor) ?_ rfl events
  intro s h e t hs hstep
  rw [← hs]
  exact (step_recorded h hstep).poseIntervalNs

end Run

/-- Over every run the requests for one track that the queue accepts are at least an interval
apart, whatever the tracker, the queue and the worker do. -/
theorem pose_requests_spaced (setup : SchedulerSetup n) (runtime : Phase2Runtime ℚ)
    (poseFpsMedium : ℚ) (clockNs : UInt64) (events : List (Event n)) (identity : String × Nat) :
    ((observe runtime poseFpsMedium setup clockNs events).history.requestsFor identity).Pairwise
      fun first second => first.requestedAtMonotonicNs + (1000000000 / poseFpsMedium).floor ≤
        second.requestedAtMonotonicNs := by
  obtain ⟨-, -, hspaced⟩ := observe_accounts setup runtime poseFpsMedium clockNs events
  have hrun := hspaced.spaced identity
  rwa [observe_interval] at hrun

end Phase2Threads
end EdgeSafety
