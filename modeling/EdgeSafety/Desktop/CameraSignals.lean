import EdgeSafety.Desktop.FrameFates

/-!
# What the user interface is told

The signals of a camera thread are those of its journal, in order: the overlay of a frame and then
the alerts about it (`camera_frames`). A person is in a zone if the zones that were set at that time
say so, and the equipment is looked at on every third frame on which the detector answered
(`camera_alerts`).
-/

namespace EdgeSafety

variable {K Gray : Type}

section Filter
open Loops
variable {E α : Type} {f : α → Except E Bool}

theorem filterAuxM_eq_ok {xs acc ys : List α} (h : List.filterAuxM f xs acc = .ok ys) :
    ys = (xs.filter fun x => returnedTrue (f x)).reverse ++ acc := by
  induction xs generalizing acc with
  | nil => exact (Except.ok.inj h).symm
  | cons x xs ih =>
    obtain ⟨b, hb, hrest⟩ := bind_eq_ok h
    rw [ih hrest, List.filter_cons, hb]
    cases b <;> simp [returnedTrue]

/-- Filtering with a test that may raise is filtering, if it returns. -/
theorem filterM_eq_ok {xs ys : List α} (h : xs.filterM f = .ok ys) :
    ys = xs.filter fun x => returnedTrue (f x) := by
  obtain ⟨reversed, hreversed, hys⟩ := bind_eq_ok h
  obtain rfl : reversed.reverse = ys := Except.ok.inj hys
  rw [filterAuxM_eq_ok hreversed, List.append_nil, List.reverse_reverse]

end Filter

namespace CameraThread

variable {setup : CameraSetup K Gray} {s t : CameraThread K Gray} {h h' : History K}

section Signals
variable [Field K]

/-- The signals are those of the journal, and the alerts that wait those of the checks. -/
structure Signalled (setup : CameraSetup K Gray) (s : CameraThread K Gray) (h : History K) :
    Prop where
  signals : s.signals = h.journal.flatMap (JournalEntry.signals setup)
  checking : ∀ frame persons rest zoneAlerts, s.pc = .checking frame persons rest zoneAlerts →
    h.checks.map PersonCheck.person ++ rest = persons ∧
      zoneAlerts = h.checks.flatMap (PersonCheck.alerts setup)

theorem checkPerson_eq_ok {rois zones : List (ZoneRecord K)} {person : DetectedObject K}
    (inside : setup.checkPerson rois (footPoint person) = .ok zones) (address : Nat) :
    zones = PersonCheck.zones setup { person, address, rois } := by
  rw [filterM_eq_ok inside, List.filter_filter, PersonCheck.zones]
  exact List.filter_congr fun roi _ => Bool.and_comm ..

theorem Signalled.goes (hs : Signalled setup s h) (hsignals : t.signals = s.signals)
    (hjournal : h'.journal = h.journal)
    (hpc : ∀ frame persons rest zoneAlerts, t.pc ≠ .checking frame persons rest zoneAlerts) :
    Signalled setup t h' where
  signals := by rw [hsignals, hs.signals, hjournal]
  checking frame persons rest zoneAlerts pc := absurd pc (hpc frame persons rest zoneAlerts)

/-- An entry is made, and its signals are emitted. -/
theorem Signalled.ends (hs : Signalled setup s h) (entry : JournalEntry K)
    (hsignals : t.signals = s.signals ++ entry.signals setup) (hpc : t.pc = .head)
    (hjournal : h'.journal = h.journal ++ [entry]) : Signalled setup t h' where
  signals := by
    rw [hsignals, hs.signals, hjournal, List.flatMap_append, List.flatMap_singleton]
  checking frame persons rest zoneAlerts pc := by
    rw [hpc] at pc
    cases pc

variable [LinearOrder K] [FloorRing K]

theorem Signalled.step (hs : Signalled setup s h) (hstep : RecordedStep setup s h t h') :
    Signalled setup t h' := by
  cases hstep with
  | stop | reload => exact ⟨hs.signals, hs.checking⟩
  | loop pc =>
    refine hs.goes rfl rfl fun _ _ _ _ => ?_
    show (if s.running then CameraPc.receiving else .ended) ≠ _
    split <;> rintro ⟨⟩
  | again pc | moved data pc | getBounds roiBounds pc | notCaught pc | notChecked address pc
  | notDrawn ppeFrames pc => exact hs.goes rfl rfl (by rintro _ _ _ _ ⟨⟩)
  | undecoded data next pc nothing ends =>
    refine hs.goes rfl rfl fun _ _ _ _ => ?_
    rcases ends with rfl | rfl <;> rintro ⟨⟩
  | outage pc => exact hs.ends .outage rfl rfl rfl
  | skipped data pc => exact hs.ends (.handled _ .skipped) rfl rfl rfl
  | still data pc => exact hs.ends (.handled _ .still) rfl rfl rfl
  | offline pc => exact hs.ends (.handled _ .offline) rfl rfl rfl
  | withheld pc => exact hs.ends (.handled _ .withheld) (List.append_nil _).symm rfl rfl
  | found persons pc =>
    refine ⟨hs.signals, ?_⟩
    rintro _ _ _ _ ⟨⟩
    exact ⟨rfl, rfl⟩
  | @checked frame persons rest person zoneAlerts address zones pc inside =>
    obtain ⟨hpersons, halerts⟩ := hs.checking _ _ _ _ pc
    refine ⟨hs.signals, ?_⟩
    rintro _ _ _ _ ⟨⟩
    constructor
    · rw [List.map_append, List.append_assoc]
      exact hpersons
    · rw [halerts, List.flatMap_append, List.flatMap_singleton, PersonCheck.alerts,
        ← checkPerson_eq_ok inside]
  | @drawn frame persons zoneAlerts ppeFrames labels pc =>
    obtain ⟨hpersons, halerts⟩ := hs.checking _ _ _ _ pc
    rw [List.append_nil] at hpersons
    refine hs.ends (.handled frame (.processed h.checks labels s.rois)) ?_ rfl rfl
    rw [JournalEntry.signals, hpersons, ← halerts, ← List.append_cons]

end Signals

/-- The frames on which the detector answered, with the checks of the persons and the labels. -/
def processedOf (journal : List (JournalEntry K)) :
    List (NdArray × List (PersonCheck K) × Option (List (PpeResult K))) :=
  journal.filterMap fun
    | .handled frame (.processed checks labels _) => some (frame, checks, labels)
    | _ => none

/-- The zones that a processed frame was seen with. -/
def zonesOf : JournalEntry K → List (List (ZoneRecord K))
  | .handled _ (.processed checks _ drawn) => drawn :: checks.map PersonCheck.rois
  | _ => []

/-- The zones in use are some that were set. -/
structure Zoned (rois : List (ZoneRecord K)) (s : CameraThread K Gray) (h : History K) : Prop where
  current : s.rois ∈ rois :: h.reloads
  checks : ∀ check ∈ h.checks, check.rois ∈ rois :: h.reloads
  journal : ∀ entry ∈ h.journal, ∀ zones ∈ zonesOf entry, zones ∈ rois :: h.reloads

section Zones
variable {rois : List (ZoneRecord K)}

theorem Zoned.goes (hz : Zoned rois s h) (hrois : t.rois = s.rois)
    (hreloads : h'.reloads = h.reloads) (hchecks : ∀ check ∈ h'.checks, check ∈ h.checks)
    (hjournal : ∀ entry ∈ h'.journal, entry ∈ h.journal ∨ zonesOf entry = []) :
    Zoned rois t h' where
  current := by
    rw [hrois, hreloads]
    exact hz.current
  checks check hcheck := by
    rw [hreloads]
    exact hz.checks check (hchecks check hcheck)
  journal entry hentry zones hzones := by
    rw [hreloads]
    rcases hjournal entry hentry with hold | hnone
    · exact hz.journal entry hold zones hzones
    · rw [hnone] at hzones
      cases hzones

variable [Field K] [LinearOrder K] [FloorRing K]

theorem Zoned.step (hz : Zoned rois s h) (hstep : RecordedStep setup s h t h') :
    Zoned rois t h' := by
  -- An entry without zones is made.
  have hnone (entry : JournalEntry K) (hzones : zonesOf entry = []) :
      ∀ other ∈ h.journal ++ [entry], other ∈ h.journal ∨ zonesOf other = [] := by
    intro other hother
    rcases List.mem_append.mp hother with hold | hnew
    · exact .inl hold
    · exact .inr (List.mem_singleton.mp hnew ▸ hzones)
  cases hstep with
  | stop | loop pc | again pc | undecoded data next pc | moved data pc | getBounds roiBounds pc
  | notCaught pc | notDrawn ppeFrames pc =>
    exact hz.goes rfl rfl (fun _ => id) fun _ => .inl
  | outage pc | skipped data pc | still data pc | offline pc | withheld pc =>
    exact hz.goes rfl rfl (fun _ => id) (hnone _ rfl)
  | reload zones =>
    have hset {list : List (ZoneRecord K)} (hmem : list ∈ rois :: h.reloads) :
        list ∈ rois :: (h.reloads ++ [zones]) := List.mem_append_left [zones] hmem
    refine ⟨?_, fun check hcheck => hset (hz.checks check hcheck),
      fun entry hentry list hlist => hset (hz.journal entry hentry list hlist)⟩
    exact List.mem_cons_of_mem _ (List.mem_append_right _ List.mem_cons_self)
  | found persons pc =>
    exact hz.goes rfl rfl (fun _ hcheck => absurd hcheck List.not_mem_nil) fun _ => .inl
  | checked address zones pc | notChecked address pc =>
    refine ⟨hz.current, fun check hcheck => ?_, hz.journal⟩
    rcases List.mem_append.mp hcheck with hold | hnew
    · exact hz.checks check hold
    · rw [List.mem_singleton.mp hnew]
      exact hz.current
  | drawn labels pc =>
    refine ⟨hz.current, hz.checks, fun entry hentry list hlist => ?_⟩
    rcases List.mem_append.mp hentry with hold | hnew
    · exact hz.journal entry hold list hlist
    · rw [List.mem_singleton.mp hnew] at hlist
      rcases List.mem_cons.mp hlist with rfl | hcheck
      · exact hz.current
      · obtain ⟨check, hmem, rfl⟩ := List.mem_map.mp hcheck
        exact hz.checks check hmem

end Zones

section Labels
variable [Field K] [LinearOrder K] [FloorRing K]

/-- The labels of a frame after `count` others on which the detector answered: a thread without
classifiers has none, and one with them looks at the persons of every third frame. -/
def Labelled (setup : CameraSetup K Gray) (count : Nat) (frame : NdArray)
    (persons : List (DetectedObject K)) (labels : Option (List (PpeResult K))) : Prop :=
  match setup.ppeManager with
  | none => labels = none
  | some ppe => ∃ results, labels = some results ∧
      if (count + 1) % 3 = 0 then PPEChecker.checkPersons ppe frame persons = .ok results
      else results = []

/-- Every third call classifies. -/
theorem processPersons_eq (ppe : PPEManager K) (frameCounter : Nat) (frame : NdArray)
    (persons : List (DetectedObject K)) :
    ({ ppe, frameCounter } : PPEChecker K).processPersons frame persons =
      (if (frameCounter + 1) % 3 = 0 then PPEChecker.checkPersons ppe frame persons else .ok [],
        { ppe, frameCounter := frameCounter + 1 }) := by
  by_cases hthird : (frameCounter + 1) % 3 = 0 <;>
    simp [PPEChecker.processPersons, PPEChecker.shouldClassify, PPEChecker.counted,
      PPEChecker.classifyEveryN, hthird]

/-- What `process_persons` returns. -/
theorem labelled_of_processPersons {count ppeFrames : Nat} {frame : NdArray}
    {persons : List (DetectedObject K)} {labels : Option (List (PpeResult K))}
    (classified : setup.processPersons count frame persons = (.ok labels, ppeFrames)) :
    Labelled setup count frame persons labels ∧
      (setup.ppeManager.isSome → ppeFrames = count + 1) := by
  unfold Labelled
  unfold CameraSetup.processPersons at classified
  cases hppe : setup.ppeManager with
  | none =>
    rw [hppe] at classified
    cases classified
    exact ⟨rfl, by rintro ⟨⟩⟩
  | some ppe =>
    simp only [hppe, processPersons_eq, Prod.mk.injEq] at classified
    obtain ⟨houtcome, rfl⟩ := classified
    refine ⟨?_, fun _ => rfl⟩
    by_cases hthird : (count + 1) % 3 = 0
    · rw [if_pos hthird] at houtcome
      cases hresults : PPEChecker.checkPersons ppe frame persons with
      | error e =>
        rw [hresults] at houtcome
        cases houtcome
      | ok results =>
        rw [hresults] at houtcome
        exact ⟨results, (Except.ok.inj houtcome).symm, by rwa [if_pos hthird]⟩
    · rw [if_neg hthird] at houtcome
      exact ⟨[], (Except.ok.inj houtcome).symm, by rw [if_neg hthird]⟩

/-- The labels are those of the persons, and the frames on which the detector answered are
counted. -/
structure Classified (setup : CameraSetup K Gray) (s : CameraThread K Gray) (h : History K) :
    Prop where
  counted : setup.ppeManager.isSome → s.pc = .raised ∨ s.ppeFrames = (processedOf h.journal).length
  labels : ∀ (k : Nat) frame checks labels,
    (processedOf h.journal)[k]? = some (frame, checks, labels) →
      Labelled setup k frame (checks.map PersonCheck.person) labels

theorem Classified.goes (hc : Classified setup s h)
    (hframes : t.pc = .raised ∨ t.ppeFrames = s.ppeFrames ∧ s.pc ≠ .raised)
    (hjournal : processedOf h'.journal = processedOf h.journal) : Classified setup t h' where
  counted hsome := by
    rw [hjournal]
    refine hframes.imp id fun ⟨hcount, hpc⟩ => ?_
    rw [hcount]
    exact (hc.counted hsome).resolve_left hpc
  labels := by
    rw [hjournal]
    exact hc.labels

theorem Classified.step (hc : Classified setup s h) (hs : Signalled setup s h)
    (hstep : RecordedStep setup s h t h') :
    Classified setup t h' := by
  -- Where the thread has not raised an exception, it goes on counting.
  have hkeeps {next : CameraPc K} (pc : s.pc = next) (hnext : next ≠ .raised) :
      t.pc = .raised ∨ s.ppeFrames = s.ppeFrames ∧ s.pc ≠ .raised := .inr ⟨rfl, pc ▸ hnext⟩
  cases hstep with
  | stop | reload => exact ⟨hc.counted, hc.labels⟩
  | loop pc | again pc | moved data pc | getBounds roiBounds pc | found persons pc
  | checked address zones pc => exact hc.goes (hkeeps pc (by rintro ⟨⟩)) rfl
  | undecoded data next pc nothing ends => exact hc.goes (hkeeps pc (by rintro ⟨⟩)) rfl
  | outage pc | skipped data pc | still data pc | offline pc | withheld pc =>
    refine hc.goes (hkeeps pc (by rintro ⟨⟩)) ?_
    simp [processedOf]
  | notCaught pc | notChecked address pc | notDrawn ppeFrames pc => exact hc.goes (.inl rfl) rfl
  | @drawn frame persons zoneAlerts ppeFrames labels pc classified =>
    obtain ⟨hpersons, -⟩ := hs.checking _ _ _ _ pc
    rw [List.append_nil] at hpersons
    obtain ⟨hlabelled, hcounted⟩ := labelled_of_processPersons classified
    have hcount (hsome : setup.ppeManager.isSome) :
        s.ppeFrames = (processedOf h.journal).length :=
      (hc.counted hsome).resolve_left (by rw [pc]; rintro ⟨⟩)
    have hindex : Labelled setup (processedOf h.journal).length frame persons labels := by
      cases hppe : setup.ppeManager with
      | none =>
        rw [Labelled, hppe] at hlabelled ⊢
        exact hlabelled
      | some ppe => rwa [← hcount (by rw [hppe]; rfl)]
    have hjournal :
        processedOf (h.journal ++ [.handled frame (.processed h.checks labels s.rois)]) =
          processedOf h.journal ++ [(frame, h.checks, labels)] := List.filterMap_append
    refine ⟨fun hsome => .inr ?_, fun k other checks otherLabels hk => ?_⟩
    · rw [hjournal, List.length_append, List.length_singleton, ← hcount hsome]
      exact hcounted hsome
    · rw [hjournal] at hk
      rcases getElem?_concat_cases hk with hold | ⟨rfl, hnew⟩
      · exact hc.labels k other checks otherLabels hold
      · obtain ⟨rfl, rfl, rfl⟩ : frame = other ∧ h.checks = checks ∧ labels = otherLabels := by
          simpa using hnew
        rwa [hpersons]

end Labels

section Run
variable [Field K] [LinearOrder K] [FloorRing K]

/-- All that holds of a thread and its history. -/
structure Followed (setup : CameraSetup K Gray) (rois : List (ZoneRecord K))
    (s : CameraThread K Gray) (h : History K) : Prop where
  journalled : Journalled setup s h
  gated : Gated setup s h
  attempted : Attempted setup s h
  signalled : Signalled setup s h
  zoned : Zoned rois s h
  classified : Classified setup s h

theorem Followed.step {rois : List (ZoneRecord K)} (hf : Followed setup rois s h)
    (hstep : RecordedStep setup s h t h') : Followed setup rois t h' where
  journalled := hf.journalled.step hstep
  gated := hf.gated.step hf.journalled hstep
  attempted := hf.attempted.step hstep
  signalled := hf.signalled.step hstep
  zoned := hf.zoned.step hstep
  classified := hf.classified.step hf.signalled hstep

theorem init_followed (setup : CameraSetup K Gray) (rois : List (ZoneRecord K)) :
    Followed setup rois { rois } {} where
  journalled := ⟨⟨[], rfl, rfl⟩, rfl, rfl⟩
  gated := ⟨fun _ => rfl, by rintro _ _ _ ⟨⟩, by rintro ⟨⟩⟩
  attempted := ⟨List.isChain_singleton _, by rintro _ _ ⟨⟩, rfl⟩
  signalled := ⟨rfl, by rintro _ _ _ _ ⟨⟩⟩
  zoned := ⟨List.mem_cons_self, by rintro _ ⟨⟩, by rintro _ ⟨⟩⟩
  classified := ⟨fun _ => .inr rfl, by rintro _ _ _ _ ⟨⟩⟩

theorem observe_followed (setup : CameraSetup K Gray) (rois : List (ZoneRecord K))
    (events : List (Event K)) :
    Followed setup rois (observe setup rois events).state (observe setup rois events).history :=
  Transition.recorded_invariant (fun _ h _ _ hf hstep => hf.step (step_recorded h hstep))
    (init_followed setup rois) events

/-- Over every run of a camera thread: its signals are those of the journal, where the alerts about
a frame follow its overlay. They name the enabled zones that the persons stand in, by the zones that
were set when the person was checked, and the missing equipment, for which the persons of every
third frame are looked at on which the detector answered. -/
theorem camera_alerts (setup : CameraSetup K Gray) (rois : List (ZoneRecord K))
    (events : List (Event K)) :
    let o := observe setup rois events
    o.state.signals = o.history.journal.flatMap (JournalEntry.signals setup) ∧
      (∀ entry ∈ o.history.journal, ∀ zones ∈ zonesOf entry,
        zones ∈ rois :: o.history.reloads) ∧
      ∀ (k : Nat) frame checks labels,
        (processedOf o.history.journal)[k]? = some (frame, checks, labels) →
          Labelled setup k frame (checks.map PersonCheck.person) labels := by
  intro o
  have hf := observe_followed setup rois events
  exact ⟨hf.signalled.signals, hf.zoned.journal, hf.classified.labels⟩

end Run

end CameraThread

/-- With `point_in_polygon` itself as the test, a person is in the enabled zones that ray casting
says the person stands in. -/
theorem PersonCheck.mem_zones_iff {setup : CameraSetup ℝ Gray}
    (hreal : setup.pointInPolygon = pointInPolygon) {check : PersonCheck ℝ} {zone : ZoneRecord ℝ} :
    zone ∈ check.zones setup ↔ zone ∈ check.rois ∧ zone.isEnabled = true ∧
      RayCasting.Inside (footPoint check.person) zone.points := by
  rw [PersonCheck.zones, List.mem_filter, hreal, pointInPolygon_eq]
  simp [returnedTrue]

end EdgeSafety
