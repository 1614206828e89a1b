import EdgeSafety.Desktop.CameraThread

/-!
# What a camera thread does with its frames

A run of a camera thread with a journal beside it: an entry for each outage that it shows and for
each frame that it is done with. The signals of the thread are those of its entries, in order, and
the entries are those that the received messages ask for (`observe_journal`).
-/

namespace EdgeSafety

/-- A call of `check_person`: the person, its address and the zones at that time. -/
structure PersonCheck (K : Type) where
  person : DetectedObject K
  address : Nat
  rois : List (ZoneRecord K)

/-- What becomes of a decoded frame. -/
inductive Fate (K : Type)
  /-- Shown as it is, since only every third frame is looked at. -/
  | skipped
  /-- Shown as it is, since nothing moved. -/
  | still
  /-- Shown with the notice that the detector is offline. -/
  | offline
  /-- Not shown, since the notice is shown already. -/
  | withheld
  | processed (checks : List (PersonCheck K)) (labels : Option (List (PpeResult K)))
      (drawn : List (ZoneRecord K))

/-- An entry of the journal. -/
inductive JournalEntry (K : Type)
  | outage
  | handled (frame : NdArray) (fate : Fate K)

/-- The frame of an entry. -/
def JournalEntry.frame? {K : Type} : JournalEntry K → Option NdArray
  | .outage => none
  | .handled frame _ => some frame

/-- The frame of an entry with what became of it. -/
def JournalEntry.fate? {K : Type} : JournalEntry K → Option (NdArray × Fate K)
  | .outage => none
  | .handled frame fate => some (frame, fate)

variable {K Gray : Type} [Field K] [LinearOrder K] [FloorRing K]

/-- A test returned `True`. -/
def returnedTrue {E : Type} : Except E Bool → Bool
  | .ok answer => answer
  | .error _ => false

/-- The enabled zones that a person stands in. -/
def PersonCheck.zones (setup : CameraSetup K Gray) (check : PersonCheck K) : List (ZoneRecord K) :=
  check.rois.filter fun roi =>
    roi.isEnabled && returnedTrue (setup.pointInPolygon (footPoint check.person) roi.points)

/-- The alerts about a person. -/
def PersonCheck.alerts (setup : CameraSetup K Gray) (check : PersonCheck K) :
    List (CameraAlert K) :=
  zoneAlertsOf check.person check.address (check.zones setup)

/-- The signals of an entry. -/
def JournalEntry.signals (setup : CameraSetup K Gray) : JournalEntry K → List (Signal K)
  | .outage => [.frameReady setup.cameraId .disconnected]
  | .handled frame .skipped | .handled frame .still => [.frameReady setup.cameraId (.frame frame)]
  | .handled frame .offline => [.frameReady setup.cameraId (.detectionOffline frame)]
  | .handled _ .withheld => []
  | .handled frame (.processed checks labels drawn) =>
    .frameReady setup.cameraId (.overlay frame (checks.map PersonCheck.person) labels drawn) ::
      (checks.flatMap (PersonCheck.alerts setup) ++ ppeAlertsOf (labels.getD [])).map .alert

namespace CameraThread

/-- What happened: the answers of `recv`, where `none` is a timeout, the journal, the checks of the
frame that is being processed, and the zones that were set. -/
structure History (K : Type) where
  received : List (Option (List UInt8)) := []
  journal : List (JournalEntry K) := []
  checks : List (PersonCheck K) := []
  reloads : List (List (ZoneRecord K)) := []

/-- The frame in a message. -/
def frameOf (setup : CameraSetup K Gray) (data : List UInt8) : Option NdArray :=
  match setup.imdecode data with
  | .ok frame => frame
  | .error _ => none

/-- What an answer of `recv` asks for after the one before it: that an outage is shown, or that
something is done with a frame. -/
def asks (setup : CameraSetup K Gray) : (before now : Option (List UInt8)) →
    Option (Option NdArray)
  | some _, none => some none
  | none, none => none
  | _, some data => (frameOf setup data).map some

/-- What the answers of `recv` ask for. -/
def asked (setup : CameraSetup K Gray) (before : Option (List UInt8)) :
    List (Option (List UInt8)) → List (Option NdArray)
  | [] => []
  | now :: later => (asks setup before now).toList ++ asked setup now later

/-- The entry for a message whose frame is shown as it is. -/
def plainEntry (setup : CameraSetup K Gray) (s : CameraThread K Gray) (data : List UInt8) :
    Option (JournalEntry K) :=
  match frameOf setup data with
  | none => none
  | some frame =>
    match (s.decoded setup frame).pc with
    | .head => some (.handled frame (if (s.frameCount + 1) % 3 ≠ 0 then .skipped else .still))
    | _ => none

/-- What a step adds. -/
def record (setup : CameraSetup K Gray) (h : History K) (s : CameraThread K Gray) :
    Event K → History K
  | .reload rois => { h with reloads := h.reloads ++ [rois] }
  | .again =>
    { h with
      received := h.received ++ [none]
      journal := if s.disconnected then h.journal else h.journal ++ [.outage] }
  | .message data =>
    { h with
      received := h.received ++ [some data]
      journal := h.journal ++ (plainEntry setup s data).toList }
  | .detect detected =>
    match s.pc with
    | .detecting frame roiBounds =>
      match YOLODetector.detectRoi detected roiBounds with
      | .ok _ => { h with checks := [] }
      | .error _ =>
        if setup.catchesDetect then
          { h with journal :=
              h.journal ++ [.handled frame (if s.modelOk then .offline else .withheld)] }
        else h
    | _ => h
  | .checkPerson address =>
    match s.pc with
    | .checking _ _ (person :: _) _ =>
      { h with checks := h.checks ++ [{ person, address, rois := s.rois }] }
    | _ => h
  | .draw raised =>
    match s.pc with
    | .checking frame persons _ _ =>
      match (setup.processPersons s.ppeFrames frame persons).1, raised with
      | .ok labels, false =>
        { h with journal := h.journal ++ [.handled frame (.processed h.checks labels s.rois)] }
      | _, _ => h
    | _ => h
  | _ => h

/-- A thread with its first zones after a run, with what happened. -/
def observe (setup : CameraSetup K Gray) (rois : List (ZoneRecord K)) (events : List (Event K)) :
    Transition.Recorded (CameraThread K Gray) (History K) :=
  Transition.exec (Transition.recorded (step setup) (record setup)) ⟨{ rois }, {}⟩ events

/-- What a step does, one constructor for each branch. -/
inductive RecordedStep (setup : CameraSetup K Gray) (s : CameraThread K Gray) (h : History K) :
    CameraThread K Gray → History K → Prop
  | stop : RecordedStep setup s h { s with running := false } h
  | reload (rois : List (ZoneRecord K)) :
      RecordedStep setup s h { s with rois } { h with reloads := h.reloads ++ [rois] }
  | loop (pc : s.pc = .head) :
      RecordedStep setup s h { s with pc := if s.running then .receiving else .ended } h
  | again (pc : s.pc = .receiving) (down : s.disconnected = true) :
      RecordedStep setup s h { s with pc := .head } { h with received := h.received ++ [none] }
  | outage (pc : s.pc = .receiving) (up : s.disconnected = false) :
      RecordedStep setup s h ({ s with disconnected := true }.shows setup .disconnected)
        { h with received := h.received ++ [none], journal := h.journal ++ [.outage] }
  | undecoded (data : List UInt8) (next : CameraPc K) (pc : s.pc = .receiving)
      (nothing : frameOf setup data = none) (ends : next = .head ∨ next = .raised) :
      RecordedStep setup s h { s with disconnected := false, pc := next }
        { h with received := h.received ++ [some data] }
  | skipped {frame : NdArray} (data : List UInt8) (pc : s.pc = .receiving)
      (decodes : frameOf setup data = some frame) (skip : (s.frameCount + 1) % 3 ≠ 0) :
      RecordedStep setup s h
        ({ s with disconnected := false, frameCount := s.frameCount + 1 }.shows setup (.frame frame))
        { h with
          received := h.received ++ [some data]
          journal := h.journal ++ [.handled frame .skipped] }
  | still {frame : NdArray} {gray : Gray} (data : List UInt8) (pc : s.pc = .receiving)
      (decodes : frameOf setup data = some frame) (third : (s.frameCount + 1) % 3 = 0)
      (gates : setup.gatesMotion = true) (previous : s.prevGray = some gray)
      (same : setup.meanDiff gray (setup.gray frame) ≤ (30 : ℕ)) :
      RecordedStep setup s h
        ({ s with
            disconnected := false
            frameCount := s.frameCount + 1
            prevGray := some (setup.gray frame) }.shows setup (.frame frame))
        { h with
          received := h.received ++ [some data]
          journal := h.journal ++ [.handled frame .still] }
  | moved {frame : NdArray} (data : List UInt8) (pc : s.pc = .receiving)
      (decodes : frameOf setup data = some frame) (third : (s.frameCount + 1) % 3 = 0)
      (changed : setup.gatesMotion = true → ∀ gray, s.prevGray = some gray →
        (30 : ℕ) < setup.meanDiff gray (setup.gray frame)) :
      RecordedStep setup s h
        { s with
          disconnected := false
          frameCount := s.frameCount + 1
          prevGray := if setup.gatesMotion then some (setup.gray frame) else s.prevGray
          pc := .bounding frame }
        { h with received := h.received ++ [some data] }
  | getBounds {frame : NdArray} (roiBounds : Option RoiBounds) (pc : s.pc = .bounding frame) :
      RecordedStep setup s h { s with pc := .detecting frame roiBounds } h
  | found {frame : NdArray} {roiBounds : Option RoiBounds} (persons : List (DetectedObject K))
      (pc : s.pc = .detecting frame roiBounds) :
      RecordedStep setup s h { s with modelOk := true, pc := .checking frame persons persons [] }
        { h with checks := [] }
  | offline {frame : NdArray} {roiBounds : Option RoiBounds}
      (pc : s.pc = .detecting frame roiBounds) (catches : setup.catchesDetect = true)
      (ok : s.modelOk = true) :
      RecordedStep setup s h ({ s with modelOk := false }.shows setup (.detectionOffline frame))
        { h with journal := h.journal ++ [.handled frame .offline] }
  | withheld {frame : NdArray} {roiBounds : Option RoiBounds}
      (pc : s.pc = .detecting frame roiBounds) (catches : setup.catchesDetect = true)
      (failing : s.modelOk = false) :
      RecordedStep setup s h { s with pc := .head }
        { h with journal := h.journal ++ [.handled frame .withheld] }
  | notCaught {frame : NdArray} {roiBounds : Option RoiBounds}
      (pc : s.pc = .detecting frame roiBounds) (catches : setup.catchesDetect = false) :
      RecordedStep setup s h { s with pc := .raised } h
  | checked {frame : NdArray} {persons rest : List (DetectedObject K)} {person : DetectedObject K}
      {zoneAlerts : List (CameraAlert K)} (address : Nat) (zones : List (ZoneRecord K))
      (pc : s.pc = .checking frame persons (person :: rest) zoneAlerts)
      (inside : setup.checkPerson s.rois (footPoint person) = .ok zones) :
      RecordedStep setup s h
        { s with pc :=
            .checking frame persons rest (zoneAlerts ++ zoneAlertsOf person address zones) }
        { h with checks := h.checks ++ [{ person, address, rois := s.rois }] }
  | notChecked {frame : NdArray} {persons rest : List (DetectedObject K)}
      {person : DetectedObject K} {zoneAlerts : List (CameraAlert K)} (address : Nat)
      (pc : s.pc = .checking frame persons (person :: rest) zoneAlerts) :
      RecordedStep setup s h { s with pc := .raised }
        { h with checks := h.checks ++ [{ person, address, rois := s.rois }] }
  | drawn {frame : NdArray} {persons : List (DetectedObject K)} {zoneAlerts : List (CameraAlert K)}
      {ppeFrames : Nat} (labels : Option (List (PpeResult K)))
      (pc : s.pc = .checking frame persons [] zoneAlerts)
      (classified : setup.processPersons s.ppeFrames frame persons = (.ok labels, ppeFrames)) :
      RecordedStep setup s h
        { s with
          ppeFrames
          signals := s.signals ++
            [.frameReady setup.cameraId (.overlay frame persons labels s.rois)] ++ (zoneAlerts ++ ppeAlertsOf (labels.getD [])).map .alert
          pc := .head }
        { h with journal := h.journal ++ [.handled frame (.processed h.checks labels s.rois)] }
  | notDrawn {frame : NdArray} {persons : List (DetectedObject K)}
      {zoneAlerts : List (CameraAlert K)} (ppeFrames : Nat)
      (pc : s.pc = .checking frame persons [] zoneAlerts) :
      RecordedStep setup s h { s with ppeFrames, pc := .raised } h

variable {setup : CameraSetup K Gray} {s t : CameraThread K Gray} {h h' : History K}

/-- A frame that is received is shown as it is or looked at. -/
theorem decoded_recorded (h : History K) (data : List UInt8) (pc : s.pc = .receiving)
    {frame : NdArray} (decodes : frameOf setup data = some frame) :
    RecordedStep setup s h ({ s with disconnected := false }.decoded setup frame)
      { h with
        received := h.received ++ [some data]
        journal := h.journal ++ (plainEntry setup s data).toList } := by
  by_cases skip : (s.frameCount + 1) % 3 ≠ 0
  · simp only [plainEntry, decodes, decoded, shows, if_pos skip]
    exact .skipped data pc decodes skip
  · have third : (s.frameCount + 1) % 3 = 0 := not_not.mp skip
    cases gates : setup.gatesMotion with
    | false =>
      simp only [plainEntry, decodes, decoded, if_neg skip, gates, Bool.false_eq_true, if_false,
        Option.toList_none, List.append_nil]
      have hmoved := RecordedStep.moved (h := h) data pc decodes third (by simp [gates])
      rwa [gates, if_neg Bool.false_ne_true] at hmoved
    | true =>
      cases previous : s.prevGray with
      | none =>
        simp only [plainEntry, decodes, decoded, if_neg skip, gates, if_true,
          CameraSetup.hasMotion, previous, Option.toList_none, List.append_nil]
        have hmoved := RecordedStep.moved (h := h) data pc decodes third (by simp [previous])
        rwa [gates, if_pos rfl] at hmoved
      | some gray =>
        by_cases changed : setup.meanDiff gray (setup.gray frame) > (30 : ℕ)
        · simp only [plainEntry, decodes, decoded, if_neg skip, gates, if_true,
            CameraSetup.hasMotion, previous, changed, decide_true, Option.toList_none,
            List.append_nil]
          have hmoved := RecordedStep.moved (h := h) data pc decodes third (by
            rintro - other hother
            obtain rfl := Option.some.inj (previous.symm.trans hother)
            exact changed)
          rwa [gates, if_pos rfl] at hmoved
        · simp only [plainEntry, decodes, decoded, shows, if_neg skip, gates, if_true,
            CameraSetup.hasMotion, previous, changed, decide_false, Bool.false_eq_true, if_false]
          exact .still data pc decodes third gates previous (not_lt.mp changed)

theorem step_recorded (h : History K) {e : Event K} (hstep : s.step setup e = some t) :
    RecordedStep setup s h t (record setup h s e) := by
  cases e with
  | stop =>
    obtain rfl := Option.some.inj hstep
    exact .stop
  | reload rois =>
    obtain rfl := Option.some.inj hstep
    exact .reload rois
  | loop =>
    simp only [step] at hstep
    split at hstep
    · next pc =>
      obtain rfl := Option.some.inj hstep
      exact .loop pc
    · cases hstep
  | again =>
    simp only [step] at hstep
    split at hstep
    · next pc =>
      obtain rfl := Option.some.inj hstep
      rw [record]
      by_cases hdown : s.disconnected = true
      · rw [if_pos hdown, if_pos hdown]
        exact .again pc hdown
      · rw [if_neg hdown, if_neg hdown]
        exact .outage pc (Bool.eq_false_iff.mpr hdown)
    · cases hstep
  | message data =>
    simp only [step] at hstep
    split at hstep
    · next pc =>
      obtain rfl := Option.some.inj hstep
      simp only [record]
      split
      · next herror =>
        have nothing : frameOf setup data = none := by rw [frameOf, herror]
        simp only [plainEntry, nothing, Option.toList_none, List.append_nil]
        exact .undecoded data .raised pc nothing (.inr rfl)
      · next hnone =>
        have nothing : frameOf setup data = none := by rw [frameOf, hnone]
        simp only [plainEntry, nothing, Option.toList_none, List.append_nil]
        exact .undecoded data .head pc nothing (.inl rfl)
      · next frame hframe =>
        exact decoded_recorded h data pc (by rw [frameOf, hframe])
    · cases hstep
  | getBounds =>
    simp only [step] at hstep
    split at hstep
    · next frame pc =>
      obtain rfl := Option.some.inj hstep
      exact .getBounds _ pc
    · cases hstep
  | detect outcome =>
    simp only [step] at hstep
    split at hstep
    · next frame roiBounds pc =>
      obtain rfl := Option.some.inj hstep
      simp only [record, pc, detected]
      cases YOLODetector.detectRoi outcome roiBounds with
      | ok persons => exact .found persons pc
      | error e =>
        dsimp only
        by_cases catches : setup.catchesDetect = true
        · rw [if_pos catches, if_pos catches]
          by_cases hok : s.modelOk = true
          · rw [if_pos hok, if_pos hok]
            exact .offline pc catches hok
          · rw [if_neg hok, if_neg hok]
            exact .withheld pc catches (Bool.eq_false_iff.mpr hok)
        · rw [if_neg catches, if_neg catches]
          exact .notCaught pc (Bool.eq_false_iff.mpr catches)
    · cases hstep
  | checkPerson address =>
    simp only [step] at hstep
    split at hstep
    · next frame persons person rest zoneAlerts pc =>
      obtain rfl := Option.some.inj hstep
      simp only [record, pc]
      cases inside : setup.checkPerson s.rois (footPoint person) with
      | error e => exact .notChecked address pc
      | ok zones => exact .checked address zones pc inside
    · cases hstep
  | draw raised =>
    simp only [step] at hstep
    split at hstep
    · next frame persons zoneAlerts pc =>
      obtain rfl := Option.some.inj hstep
      simp only [record, pc, CameraThread.drawn]
      cases classified : setup.processPersons s.ppeFrames frame persons with
      | mk outcome ppeFrames =>
        cases outcome with
        | error e => exact .notDrawn ppeFrames pc
        | ok labels =>
          cases raised with
          | true => exact .notDrawn ppeFrames pc
          | false => exact .drawn labels pc classified
    · cases hstep

end CameraThread

end EdgeSafety
