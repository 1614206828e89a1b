import EdgeSafety.Inference.Phases

/-!
# The frames of the results

Every result that waits in the queue of the scheduler shows a frame that its camera published
(`Shows`). A step adds no other result to the queue than the one that `_put_result` is called for
(`step_results`), and takes back no publication (`published_prefix_step`).
-/

namespace EdgeSafety.SharedInferenceScheduler

variable {n : Nat} {setup : SchedulerSetup n} {Output : Type}

/-- The result is of a camera, and shows a frame that was published on the camera's buffer. -/
def Shows (setup : SchedulerSetup n) (h : History n Output) (result : ScheduledResult Output) :
    Prop :=
  ∃ camera packet, result.frame = some packet ∧
    result.cameraId = (setup.layout camera).cameraId ∧
    (h.registers camera).Publishes (setup.layout camera).cameraId packet

section Step
variable {s t : State setup Output} {h : History n Output} {e : Event n Output}

/-- A step adds no other result than the one under way. -/
theorem step_results (hstep : s.step e = some t) :
    ∀ result ∈ t.results, result ∈ s.results ∨ s.pc.result = some result := by
  have hphase := step_phase .empty hstep
  generalize History.empty.record s e = h' at hphase
  intro result hresult
  cases hphase with
  | waits waits event => exact .inl (waits.results ▸ hresult)
  | gathers gathers => exact .inl (gathers.results ▸ hresult)
  | getResult first rest results =>
    rw [results]
    exact .inl (List.mem_cons_of_mem _ hresult)
  | receive batch outcome pc =>
    refine .inl ?_
    cases outcome with
    | raised => exact hresult
    | returned outputs elapsedMs =>
      simp only [State.receive] at hresult
      split at hresult <;> exact hresult
  | fail pc =>
    simp only [State.fail] at hresult
    split at hresult <;> exact .inl hresult
  | deliver remaining count pc => cases remaining <;> exact .inl hresult
  | put first remaining count pc => exact .inl hresult
  | evict first remaining count pc =>
    simp only [State.evict] at hresult
    split at hresult
    · exact .inl hresult
    · next hresults =>
      rw [hresults]
      exact .inl (List.mem_cons_of_mem _ hresult)
  | enqueue first remaining count pc =>
    simp only [State.enqueue] at hresult
    split at hresult
    · exact .inl hresult
    · rcases List.mem_append.mp hresult with hold | hnew
      · exact .inl hold
      · rw [List.mem_singleton.mp hnew, pc]
        exact .inr rfl

/-- The clock goes on. -/
theorem clockNs_le_step (hstep : s.step e = some t) : s.clockNs.toNat ≤ t.clockNs.toNat := by
  have hphase := step_phase .empty hstep
  generalize History.empty.record s e = h' at hphase
  cases hphase with
  | waits waits event => exact waits.clockNs
  | gathers gathers => rw [gathers.clockNs]
  | getResult first rest results => exact Nat.le_refl _
  | receive batch outcome pc => rw [(outside_receive s .empty batch outcome).clockNs]
  | fail pc => rw [(outside_fail s .empty).clockNs]
  | deliver remaining count pc => rw [(outside_deliver s .empty remaining count).clockNs]
  | put result remaining count pc => exact Nat.le_refl _
  | evict result remaining count pc => rw [(outside_evict s .empty result remaining count).clockNs]
  | enqueue result remaining count pc => rw [(outside_enqueue .empty pc).clockNs]

/-- A step takes back no publication. -/
theorem published_prefix_step (hstep : s.step e = some t) (camera : Fin n) :
    (h.registers camera).published <+: ((h.record s e).registers camera).published := by
  cases step_bufferChange h hstep with
  | none _ registers _ => rw [registers]
  | publish other frame timeNs _ registers _ =>
    rw [registers]
    exact published_prefix_call s h other _ camera
  | read other _ registers _ =>
    rw [registers]
    exact published_prefix_call s h other _ camera

theorem Shows.step {result : ScheduledResult Output} (hshows : Shows setup h result)
    (hstep : s.step e = some t) : Shows setup (h.record s e) result := by
  obtain ⟨camera, packet, hframe, hcamera, hpublishes⟩ := hshows
  exact ⟨camera, packet, hframe, hcamera, hpublishes.mono (published_prefix_step hstep camera)⟩

/-- The result of a packet in a batch shows that packet. -/
theorem Sound.shows (hs : Sound s h) {result : ScheduledResult Output}
    (hresult : FromBatch h result) : Shows setup h result := by
  obtain ⟨packet, ⟨batch, outputs, -, hpassed, position, hpacket, -⟩, hcamera, -, -, hframe⟩ :=
    hresult
  obtain ⟨r, hr, rfl⟩ := hs.passed_read hpassed (List.mem_of_getElem? hpacket)
  obtain ⟨⟨camera, hpublishes⟩, -⟩ := hs.reads r hr
  refine ⟨camera, r.packet, hframe, ?_, hpublishes⟩
  obtain ⟨k, p, -, hpublication⟩ := hpublishes
  rw [hcamera, hpublication]
  rfl

/-- What waits after a step shows frames of its cameras, if what waited before does. -/
theorem shows_step (hs : Sound s h) (hwaiting : ∀ result ∈ s.results, Shows setup h result)
    (hstep : s.step e = some t) : ∀ result ∈ t.results, Shows setup (h.record s e) result := by
  intro result hresult
  rcases step_results hstep result hresult with hold | hnew
  · exact (hwaiting result hold).step hstep
  · exact (hs.shows (hs.result result hnew)).step hstep

end Step

end EdgeSafety.SharedInferenceScheduler
