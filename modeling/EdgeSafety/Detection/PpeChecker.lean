import EdgeSafety.Detection.YoloOutput
import EdgeSafety.Lib.Rounding
import EdgeSafety.Shared.NdArray
import Mathlib.Data.Rat.Floor

/-!
# Protective equipment

`PPEClassifier` and `PPEManager` of `gpu/classifier.py` and `PPEChecker` of `gpu/ppe_checker.py`.
A classifier without a model predicts the label of its item's absence, and the checker takes that
for a violation (`missing_model_reported_iff`). The constants are rational numbers.
-/

namespace EdgeSafety
open Loops

/-- The items of `CLASS_NAMES`. -/
inductive PpeItem
  | helmet
  | vest
  | boot
  deriving DecidableEq

namespace PpeItem

/-- The label of its absence. -/
def negative : PpeItem → String
  | helmet => "NO_HELMET"
  | vest => "NO_VEST"
  | boot => "NO_BOOT"

/-- The label of its presence. -/
def positive : PpeItem → String
  | helmet => "HELMET"
  | vest => "VEST"
  | boot => "BOOT"

/-- `CLASS_NAMES`. -/
def classNames (item : PpeItem) : List String := [item.negative, item.positive]

end PpeItem

/-- A part of a frame, from a row and a column to others, or the zeros in its place. -/
inductive Crop
  | region (frame : NdArray) (cy1 cy2 cx1 cx2 : Int)
  | zeros
  deriving DecidableEq

section Crops
variable {K : Type} [Field K] [LinearOrder K] [FloorRing K]

/-- `frame.shape[axis]`. -/
def dimension (frame : NdArray) (axis : Nat) : Int := (frame.shape[axis]?.getD 0 : Nat)

/-- The end that the three crops share. -/
def cropRows (frame : NdArray) (bbox : BBox K) (cy1 cy2 : Int) : Crop :=
  let cx1 := max 0 (truncate bbox.x1)
  let cx2 := min (dimension frame 1) (truncate bbox.x2)
  if cy2 ≤ cy1 ∨ cx2 ≤ cx1 then .zeros else .region frame cy1 cy2 cx1 cx2

/-- `int(h * ratio)`. -/
def portion (bbox : BBox K) (ratio : ℚ) : Int :=
  truncate (((truncate bbox.y2 - truncate bbox.y1 : Int) : K) * (ratio : K))

/-- `crop_head`. -/
def cropHead (frame : NdArray) (bbox : BBox K) : Crop :=
  cropRows frame bbox (max 0 (truncate bbox.y1))
    (min (dimension frame 0) (truncate bbox.y1 + portion bbox 0.2))

/-- `crop_torso`. -/
def cropTorso (frame : NdArray) (bbox : BBox K) : Crop :=
  cropRows frame bbox (max 0 (truncate bbox.y1 + portion bbox 0.2))
    (min (dimension frame 0) (truncate bbox.y1 + portion bbox 0.7))

/-- `crop_feet`. -/
def cropFeet (frame : NdArray) (bbox : BBox K) : Crop :=
  cropRows frame bbox (max 0 (truncate bbox.y1 + portion bbox 0.85))
    (min (dimension frame 0) (truncate bbox.y2))

end Crops

/-- `PPEClassifier`. The session is given a crop and returns the probabilities of the classes. -/
structure PPEClassifier (K : Type) where
  item : PpeItem
  session : Option (Crop → Except String (List K))

/-- What a classifier says of a crop. -/
structure PpeLabel (K : Type) where
  label : String
  confidence : K

variable {K : Type} [Field K] [LinearOrder K]

/-- `PPEClassifier.predict`. -/
def PPEClassifier.predict (classifier : PPEClassifier K) (crop : Crop) :
    Except DetectError (PpeLabel K) :=
  match classifier.session with
  | none => .ok { label := classifier.item.negative, confidence := 0 }
  | some session => do
    let probs ← (session crop).mapError .session
    match probs.zipIdx.argmax Prod.fst with
    | none => .error (.valueError "attempt to get argmax of an empty sequence")
    | some (confidence, classId) =>
      let label ← getItem classifier.item.classNames classId
      .ok { label, confidence }

/-- `PPEManager`: a session for each item whose model is there. -/
structure PPEManager (K : Type) where
  session : PpeItem → Option (Crop → Except String (List K))

namespace PPEManager

/-- The classifier of an item. -/
def classifier (manager : PPEManager K) (item : PpeItem) : PPEClassifier K where
  item := item
  session := manager.session item

/-- `classify_all`. -/
def classifyAll (manager : PPEManager K) (headCrop torsoCrop feetCrop : Crop) :
    Except DetectError (List (PpeItem × PpeLabel K)) := do
  let helmet ← (manager.classifier .helmet).predict headCrop
  let vest ← (manager.classifier .vest).predict torsoCrop
  let boot ← (manager.classifier .boot).predict feetCrop
  .ok [(.helmet, helmet), (.vest, vest), (.boot, boot)]

/-- `classify_all` of the three crops of a person. -/
def classifyPerson [FloorRing K] (manager : PPEManager K) (frame : NdArray) (bbox : BBox K) :
    Except DetectError (List (PpeItem × PpeLabel K)) :=
  manager.classifyAll (cropHead frame bbox) (cropTorso frame bbox) (cropFeet frame bbox)

end PPEManager

/-- A result of `process_persons`. -/
structure PpeResult (K : Type) where
  personIdx : Nat
  bbox : BBox K
  violations : List String
  ppe : List (PpeItem × PpeLabel K)

/-- `PPEChecker`. -/
structure PPEChecker (K : Type) where
  ppe : PPEManager K
  frameCounter : Nat := 0

/-- `label.startswith("NO_")`. -/
def isNegative (label : String) : Bool := "NO_".toList.isPrefixOf label.toList

namespace PPEChecker

variable [FloorRing K]

/-- What is reported of a person, if anything. -/
def personResult (idx : Nat) (bbox : BBox K) (ppeResult : List (PpeItem × PpeLabel K)) :
    Option (PpeResult K) :=
  let violations := (ppeResult.map fun entry => entry.2.label).filter isNegative
  if violations.isEmpty then none
  else some { personIdx := idx, bbox, violations, ppe := ppeResult }

/-- The body of the loop over the persons. -/
def checkPerson (ppe : PPEManager K) (frame : NdArray) (idx : Nat) (bbox : BBox K) :
    Except DetectError (Option (PpeResult K)) := do
  let ppeResult ← ppe.classifyPerson frame bbox
  .ok (personResult idx bbox ppeResult)

/-- `_classify_every_n`. -/
def classifyEveryN : Nat := 3

/-- `should_classify`, of the counter after it went on. -/
def shouldClassify (checker : PPEChecker K) (forceClassify : Bool) : Bool :=
  forceClassify || checker.frameCounter % classifyEveryN = 0

/-- The checker once `_frame_counter` went on. -/
def counted (checker : PPEChecker K) : PPEChecker K :=
  { checker with frameCounter := checker.frameCounter + 1 }

/-- The loop over the persons. -/
def checkPersons (ppe : PPEManager K) (frame : NdArray) (persons : List (DetectedObject K)) :
    Except DetectError (List (PpeResult K)) := do
  let checks ← persons.zipIdx.mapM fun entry => checkPerson ppe frame entry.2 entry.1.bbox
  .ok (checks.filterMap id)

/-- `process_persons`, with the checker that it leaves. -/
def processPersons (checker : PPEChecker K) (frame : NdArray) (persons : List (DetectedObject K))
    (forceClassify : Bool := false) :
    Except DetectError (List (PpeResult K)) × PPEChecker K :=
  let checker := checker.counted
  if checker.shouldClassify forceClassify then (checkPersons checker.ppe frame persons, checker)
  else (.ok [], checker)

end PPEChecker

/-- Every violation belongs to an item whose model is there; with no model at all there is none. -/
structure OnlyLoaded (ppe : PPEManager K) (outcome : Except DetectError (List (PpeResult K))) :
    Prop where
  loaded : ∀ results, outcome = .ok results → ∀ result ∈ results, ∀ label ∈ result.violations,
    ∃ item : PpeItem, label = item.negative ∧ (ppe.session item).isSome
  nothing : (∀ item, ppe.session item = none) → ∀ results, outcome = .ok results → results = []

/-! Labels. -/

theorem PpeItem.negative_inj {item other : PpeItem} (h : item.negative = other.negative) :
    item = other := by
  cases item <;> cases other <;> first | rfl | exact absurd h (by decide)

theorem isNegative_negative (item : PpeItem) : isNegative item.negative = true := by
  cases item <;> decide

theorem isNegative_positive (item : PpeItem) : isNegative item.positive = false := by
  cases item <;> decide

namespace PPEClassifier

variable {classifier : PPEClassifier K} {crop : Crop} {answer : PpeLabel K}

/-- A classifier without a session says that its item is absent. -/
theorem predict_none (h : classifier.session = none) (crop : Crop) :
    classifier.predict crop = .ok { label := classifier.item.negative, confidence := 0 } := by
  simp only [predict, h]

/-- A classifier speaks of its own item. -/
theorem label_of_predict (h : classifier.predict crop = .ok answer) :
    answer.label = classifier.item.negative ∨ answer.label = classifier.item.positive := by
  unfold predict at h
  cases hsession : classifier.session with
  | none =>
    simp only [hsession] at h
    cases h
    exact .inl rfl
  | some session =>
    simp only [hsession] at h
    obtain ⟨probs, -, h⟩ := bind_eq_ok h
    split at h
    · cases h
    · obtain ⟨label, hlabel, h⟩ := bind_eq_ok h
      cases h
      simpa [PpeItem.classNames] using mem_of_getItem hlabel

/-- What it says is a violation only if it is that its item is absent. -/
theorem negative_of_predict (h : classifier.predict crop = .ok answer)
    (hnegative : isNegative answer.label = true) : answer.label = classifier.item.negative := by
  rcases label_of_predict h with hlabel | hlabel
  · exact hlabel
  · rw [hlabel, isNegative_positive] at hnegative
    cases hnegative

end PPEClassifier

section
variable [FloorRing K] {ppe : PPEManager K} {frame : NdArray} {bbox : BBox K} {idx : Nat}

/-- What is said of a person has, for each item, what its classifier says of some crop. -/
theorem PPEManager.mem_of_classifyPerson {entries : List (PpeItem × PpeLabel K)}
    (h : ppe.classifyPerson frame bbox = .ok entries) (item : PpeItem) :
    ∃ crop answer, (ppe.classifier item).predict crop = .ok answer ∧
      ∀ other, (item, other) ∈ entries ↔ other = answer := by
  obtain ⟨helmet, hhelmet, h⟩ := bind_eq_ok h
  obtain ⟨vest, hvest, h⟩ := bind_eq_ok h
  obtain ⟨boot, hboot, h⟩ := bind_eq_ok h
  cases h
  cases item with
  | helmet => exact ⟨_, helmet, hhelmet, by simp⟩
  | vest => exact ⟨_, vest, hvest, by simp⟩
  | boot => exact ⟨_, boot, hboot, by simp⟩

namespace PPEChecker

omit [Field K] [LinearOrder K] [FloorRing K] in
/-- The violations of a person are the negative labels. -/
theorem mem_violations {entries : List (PpeItem × PpeLabel K)} {label : String} :
    (∃ result, personResult idx bbox entries = some result ∧ label ∈ result.violations) ↔
      ∃ item answer, (item, answer) ∈ entries ∧ answer.label = label ∧ isNegative label = true := by
  have hmem : label ∈ (entries.map fun entry => entry.2.label).filter isNegative ↔
      ∃ item answer, (item, answer) ∈ entries ∧ answer.label = label ∧
        isNegative label = true := by
    rw [List.mem_filter, List.mem_map]
    constructor
    · rintro ⟨⟨⟨item, answer⟩, hentry, rfl⟩, hnegative⟩
      exact ⟨item, answer, hentry, rfl, hnegative⟩
    · rintro ⟨item, answer, hentry, rfl, hnegative⟩
      exact ⟨⟨(item, answer), hentry, rfl⟩, hnegative⟩
  rw [← hmem, personResult]
  split
  · next hempty => simp [List.isEmpty_iff.mp hempty]
  · simp

variable {persons : List (DetectedObject K)} {results : List (PpeResult K)}

/-- Every result is that of a person. -/
theorem check_of_mem (h : checkPersons ppe frame persons = .ok results) {result : PpeResult K}
    (hresult : result ∈ results) :
    ∃ person idx, (person, idx) ∈ persons.zipIdx ∧
      checkPerson ppe frame idx person.bbox = .ok (some result) := by
  obtain ⟨checks, hchecks, h⟩ := bind_eq_ok h
  cases h
  obtain ⟨check, hcheck, hsome⟩ := List.mem_filterMap.mp hresult
  obtain ⟨⟨person, idx⟩, hentry, hbody⟩ := mem_of_mapM hchecks hcheck
  rw [id_eq] at hsome
  rw [hsome] at hbody
  exact ⟨person, idx, hentry, hbody⟩

/-- Every person was looked at, and what was found is among the results. -/
theorem check_of_person (h : checkPersons ppe frame persons = .ok results)
    {person : DetectedObject K} (hperson : person ∈ persons) :
    ∃ idx check, checkPerson ppe frame idx person.bbox = .ok check ∧
      ∀ result, check = some result → result ∈ results := by
  obtain ⟨idx, hidx⟩ := List.mem_iff_getElem?.mp hperson
  have hentry : persons.zipIdx[idx]? = some (person, idx) := by
    rw [List.getElem?_zipIdx, hidx, Nat.zero_add]
    rfl
  obtain ⟨checks, hchecks, h⟩ := bind_eq_ok h
  cases h
  obtain ⟨check, hcheck, hbody⟩ := getElem?_mapM hchecks hentry
  refine ⟨idx, check, hbody, ?_⟩
  rintro result rfl
  exact List.mem_filterMap.mpr ⟨some result, List.mem_of_getElem? hcheck, rfl⟩

end PPEChecker

/-- Each label in a result is the absence of an item, as its classifier says of some crop. -/
theorem PPEChecker.label_of_result {persons : List (DetectedObject K)}
    {results : List (PpeResult K)} (h : checkPersons ppe frame persons = .ok results)
    {result : PpeResult K} (hresult : result ∈ results) {label : String}
    (hlabel : label ∈ result.violations) : ∃ item : PpeItem, label = item.negative := by
  obtain ⟨person, idx, -, hcheck⟩ := check_of_mem h hresult
  obtain ⟨entries, hentries, hperson⟩ := bind_eq_ok hcheck
  obtain ⟨item, answer, hentry, rfl, hnegative⟩ :=
    mem_violations.mp ⟨result, Except.ok.inj hperson, hlabel⟩
  obtain ⟨crop, own, hpredict, hown⟩ := PPEManager.mem_of_classifyPerson hentries item
  cases (hown answer).mp hentry
  exact ⟨item, PPEClassifier.negative_of_predict hpredict hnegative⟩

/-- An item without a model is a violation of every person. -/
theorem PPEChecker.reported_of_missing {persons : List (DetectedObject K)}
    {results : List (PpeResult K)} (h : checkPersons ppe frame persons = .ok results)
    {person : DetectedObject K} (hperson : person ∈ persons) {item : PpeItem}
    (hmissing : ppe.session item = none) :
    ∃ result ∈ results, item.negative ∈ result.violations := by
  obtain ⟨idx, check, hcheck, hresults⟩ := check_of_person h hperson
  obtain ⟨entries, hentries, hcheck⟩ := bind_eq_ok hcheck
  cases hcheck
  obtain ⟨crop, own, hpredict, hown⟩ := PPEManager.mem_of_classifyPerson hentries item
  rw [PPEClassifier.predict_none hmissing] at hpredict
  cases hpredict
  obtain ⟨result, hresult, hlabel⟩ :=
    mem_violations.mpr ⟨item, _, (hown _).mpr rfl, rfl, isNegative_negative item⟩
  exact ⟨result, hresults result hresult, hlabel⟩

/-- If nobody's classification raises, there are results. -/
theorem PPEChecker.exists_checkPersons_ok {persons : List (DetectedObject K)}
    (h : ∀ person ∈ persons, ∀ e, ppe.classifyPerson frame person.bbox ≠ .error e) :
    ∃ results, checkPersons ppe frame persons = .ok results := by
  have hbody : ∀ entry ∈ persons.zipIdx,
      ∃ check, checkPerson ppe frame entry.2 entry.1.bbox = .ok check := by
    intro entry hentry
    have hperson := List.mem_of_getElem? (List.mem_zipIdx_iff_getElem?.mp hentry)
    cases hclassify : ppe.classifyPerson frame entry.1.bbox with
    | error e => exact absurd hclassify (h entry.1 hperson e)
    | ok entries =>
      exact ⟨personResult entry.2 entry.1.bbox entries, by
        rw [checkPerson, hclassify]
        rfl⟩
  obtain ⟨checks, hchecks⟩ := exists_mapM_ok hbody
  exact ⟨checks.filterMap id, by
    rw [checkPersons, hchecks]
    rfl⟩

omit [Field K] [LinearOrder K] [FloorRing K] in
theorem OnlyLoaded.of_nil {outcome : Except DetectError (List (PpeResult K))}
    (h : outcome = .ok []) : OnlyLoaded ppe outcome where
  loaded := by
    rintro results hresults result hresult
    rw [h] at hresults
    cases hresults
    cases hresult
  nothing _ results hresults := by
    rw [h] at hresults
    cases hresults
    rfl

/-- No item is reported for want of a model exactly where the models are all there, or nobody is
classified, or the classification of somebody raises, after which nothing is reported. -/
theorem missing_model_reported_iff (checker : PPEChecker K) (frame : NdArray)
    (persons : List (DetectedObject K)) (force : Bool) :
    OnlyLoaded checker.ppe (checker.processPersons frame persons force).1 ↔
      (∀ item, (checker.ppe.session item).isSome) ∨ persons = [] ∨
        checker.counted.shouldClassify force = false ∨
        ∃ person ∈ persons, ∃ e, checker.ppe.classifyPerson frame person.bbox = .error e := by
  cases hclassify : checker.counted.shouldClassify force with
  | false =>
    refine iff_of_true (OnlyLoaded.of_nil ?_) (.inr (.inr (.inl rfl)))
    rw [PPEChecker.processPersons, if_neg (Bool.eq_false_iff.mp hclassify)]
  | true =>
    have hcall : (checker.processPersons frame persons force).1 =
        PPEChecker.checkPersons checker.ppe frame persons := by
      rw [PPEChecker.processPersons, if_pos hclassify]
      rfl
    rw [hcall]
    constructor
    · intro h
      by_contra hnot
      simp only [not_or, not_forall, not_exists, not_and] at hnot
      obtain ⟨⟨item, hitem⟩, hpersons, -, hraises⟩ := hnot
      have hmissing : checker.ppe.session item = none := by simpa using hitem
      obtain ⟨results, hresults⟩ := PPEChecker.exists_checkPersons_ok hraises
      obtain ⟨person, hperson⟩ := List.exists_mem_of_ne_nil persons hpersons
      obtain ⟨result, hresult, hlabel⟩ :=
        PPEChecker.reported_of_missing hresults hperson hmissing
      obtain ⟨other, hother, hloaded⟩ := h.loaded results hresults result hresult _ hlabel
      rw [← PpeItem.negative_inj hother, hmissing] at hloaded
      cases hloaded
    · rintro (hall | rfl | hidle | ⟨person, hperson, e, he⟩)
      · refine ⟨fun results hresults result hresult label hlabel => ?_, fun hnone => ?_⟩
        · obtain ⟨item, hitem⟩ := PPEChecker.label_of_result hresults hresult hlabel
          exact ⟨item, hitem, hall item⟩
        · have hhelmet := hall .helmet
          rw [hnone .helmet] at hhelmet
          cases hhelmet
      · exact OnlyLoaded.of_nil rfl
      · cases hidle
      · refine ⟨fun results hresults => ?_, fun _ results hresults => ?_⟩
        all_goals
          obtain ⟨idx, check, hcheck, -⟩ := PPEChecker.check_of_person hresults hperson
          obtain ⟨entries, hentries, -⟩ := bind_eq_ok hcheck
          rw [he] at hentries
          cases hentries

end

/-- A checker without models. -/
def noModels : PPEChecker ℚ where
  ppe := { session := fun _ => none }

/-- Someone in the middle of a frame. -/
def someone : DetectedObject ℚ where
  bbox := ⟨100, 100, 200, 300⟩
  cls := .person
  conf := 0.9

/-- Without any model, everyone who is classified lacks everything. -/
theorem everything_missing :
    (noModels.processPersons (blackFrame 720 1280) [someone] true).1.map
          (List.map PpeResult.violations) =
        .ok [["NO_HELMET", "NO_VEST", "NO_BOOT"]] ∧
      ¬ OnlyLoaded noModels.ppe
        (noModels.processPersons (blackFrame 720 1280) [someone] true).1 := by
  have hviolations : (noModels.processPersons (blackFrame 720 1280) [someone] true).1.map
      (List.map PpeResult.violations) = .ok [["NO_HELMET", "NO_VEST", "NO_BOOT"]] := by
    decide +kernel
  refine ⟨hviolations, fun h => ?_⟩
  cases hcall : (noModels.processPersons (blackFrame 720 1280) [someone] true).1 with
  | error e =>
    rw [hcall] at hviolations
    cases hviolations
  | ok results =>
    rw [hcall, h.nothing (fun _ => rfl) results hcall] at hviolations
    cases hviolations

end EdgeSafety
