import EdgeSafety.Alert.Classifier
import Mathlib.Data.List.Basic
import Mathlib.Data.Rat.Cast.Order

/-!
# Objects of low confidence

The classifier drops the objects that are not confident enough, and then gives the persons that are
left the poses in order. The `i`-th of them is not the `i`-th of all persons where one before it was
dropped, so that it can be judged by the pose of another. It comes to the same as dropping the poses
too exactly where that makes no difference (`weakIgnored_iff`).
-/

namespace EdgeSafety

variable {K : Type} [Field K] [LinearOrder K]

/-- The objects with `cls == "person"`; the poses are in their order. -/
def DetectionResult.persons (result : DetectionResult K) : List (DetectedObject K) :=
  result.objects.filter fun o => o.cls = .person

namespace ViolationClassifier
variable (classifier : ViolationClassifier K) (result : DetectionResult K)

/-- The result without the objects that are not confident enough, and without the poses of the
persons among them. -/
def prune : DetectionResult K :=
  { result with
    objects := result.objects.filter fun o => o.conf ≥ classifier.confidenceThreshold
    keypoints := result.keypoints.map fun poses =>
      ((result.persons.zip poses).filter fun entry =>
        entry.1.conf ≥ classifier.confidenceThreshold).map Prod.snd }

/-- The confident persons, each with its position among all persons. -/
def strongPersons : List (DetectedObject K × Nat) :=
  result.persons.zipIdx.filter fun entry => entry.1.conf ≥ classifier.confidenceThreshold

/-- The pose at a position says that the person in the box fell. -/
def fallen (bbox : BBox K) (position : Nat) : Bool :=
  (personKeypoints result position).any fun keypoints =>
    computeFallScore bbox keypoints > (0.6 : ℚ)

/-- What is not confident enough is ignored with its poses: every confident person has the
violations, and so has the result, that there are without it. -/
structure WeakIgnored : Prop where
  same : classifier.classify result = classifier.classify (classifier.prune result)
  each : ∀ i person, (classifier.confident result .person)[i]? = some person →
    classifier.classifyPerson result person i =
      classifier.classifyPerson (classifier.prune result) person i

/-- What is kept of a list keeps what is beside it. -/
theorem getElem?_filter_zip {α β : Type} {p : α → Bool} (xs : List α) (ys : List β) (n : Nat)
    {i k : Nat} {x : α}
    (h : ((xs.zipIdx n).filter fun entry => p entry.1)[i]? = some (x, k)) :
    (((xs.zip ys).filter fun entry => p entry.1).map Prod.snd)[i]? = ys[k - n]? := by
  induction xs generalizing ys n i with
  | nil => cases h
  | cons first xs ih =>
    cases ys with
    | nil => simp
    | cons y ys =>
      have hlater : ∀ j : Nat,
          ((xs.zipIdx (n + 1)).filter fun entry => p entry.1)[j]? = some (x, k) →
          (((xs.zip ys).filter fun entry => p entry.1).map Prod.snd)[j]? = (y :: ys)[k - n]? := by
        intro j hj
        have hmem := (List.mem_filter.mp (List.mem_of_getElem? hj)).1
        have hle : n + 1 ≤ k := List.le_snd_of_mem_zipIdx hmem
        rw [ih ys (n + 1) hj, show k - n = k - (n + 1) + 1 by omega, List.getElem?_cons_succ]
      rw [List.zipIdx_cons, List.filter_cons] at h
      rw [List.zip_cons_cons, List.filter_cons]
      by_cases hp : p first = true
      · rw [if_pos hp] at h ⊢
        cases i with
        | zero =>
          cases h
          simp
        | succ i => exact hlater i h
      · rw [if_neg hp] at h ⊢
        exact hlater i h

section Prune
variable {classifier : ViolationClassifier K} {result : DetectionResult K}
  {person : DetectedObject K} {i k : Nat}

theorem confident_prune (cls : ObjectClass) :
    classifier.confident (classifier.prune result) cls = classifier.confident result cls := by
  unfold confident prune
  rw [List.filter_filter]
  apply List.filter_congr
  intro o _
  simp

/-- A pose in the pruned result is that of the same person. -/
theorem fallen_prune (bbox : BBox K)
    (h : (classifier.strongPersons result)[i]? = some (person, k)) :
    fallen (classifier.prune result) bbox i = fallen result bbox k := by
  unfold fallen personKeypoints prune
  cases result.keypoints with
  | none => rfl
  | some poses =>
    unfold strongPersons at h
    have hpose := getElem?_filter_zip
      (p := fun o => decide (o.conf ≥ classifier.confidenceThreshold)) result.persons poses 0 h
    simp only [Option.map_some, Option.bind_eq_bind, Option.bind_some, hpose, Nat.sub_zero]

/-- The confident persons are those that the classifier goes through. -/
theorem map_fst_strongPersons :
    (classifier.strongPersons result).map Prod.fst = classifier.confident result .person := by
  have hfst : (result.persons.zipIdx.filter fun entry =>
      decide (entry.1.conf ≥ classifier.confidenceThreshold)).map Prod.fst =
        (result.persons.zipIdx.map Prod.fst).filter fun o =>
          o.conf ≥ classifier.confidenceThreshold := by
    rw [List.filter_map]
    rfl
  rw [strongPersons, hfst, List.zipIdx_map_fst, DetectionResult.persons, List.filter_filter,
    confident]
  apply List.filter_congr
  intro o _
  simp [Bool.and_comm]

theorem classifyPerson_prune_iff (h : (classifier.strongPersons result)[i]? = some (person, k)) :
    classifier.classifyPerson result person i =
        classifier.classifyPerson (classifier.prune result) person i ↔
      fallen result person.bbox i = fallen result person.bbox k := by
  have hviolation : ∀ type severity bbox, violation (classifier.prune result) type severity bbox =
      violation result type severity bbox := fun _ _ _ => rfl
  rw [← fallen_prune person.bbox h]
  unfold classifyPerson
  simp only [confident_prune, hviolation, List.append_cancel_left_eq]
  change (if fallen result person.bbox i then [violation result .fall .high person.bbox] else []) =
    (if fallen (classifier.prune result) person.bbox i then
      [violation result .fall .high person.bbox] else []) ↔ _
  cases fallen result person.bbox i with
  | false =>
    cases fallen (classifier.prune result) person.bbox i with
    | false => simp
    | true => simp
  | true =>
    cases fallen (classifier.prune result) person.bbox i with
    | false => simp
    | true => simp

theorem getElem?_confident :
    (classifier.confident result .person)[i]? = some person ↔
      ∃ k, (classifier.strongPersons result)[i]? = some (person, k) := by
  rw [← map_fst_strongPersons, List.getElem?_map, Option.map_eq_some_iff]
  constructor
  · rintro ⟨⟨person, k⟩, hentry, rfl⟩
    exact ⟨k, hentry⟩
  · rintro ⟨k, hentry⟩
    exact ⟨(person, k), hentry, rfl⟩

/-- What is not confident enough is ignored with its poses exactly where the pose that each
confident person is given says the same about a fall as its own. -/
theorem weakIgnored_iff (classifier : ViolationClassifier K) (result : DetectionResult K) :
    WeakIgnored classifier result ↔
      ∀ i person k, (classifier.strongPersons result)[i]? = some (person, k) →
        fallen result person.bbox i = fallen result person.bbox k := by
  constructor
  · intro h i person k hentry
    exact (classifyPerson_prune_iff hentry).mp
      (h.each i person (getElem?_confident.mpr ⟨k, hentry⟩))
  · intro h
    have heach : ∀ i person, (classifier.confident result .person)[i]? = some person →
        classifier.classifyPerson result person i =
          classifier.classifyPerson (classifier.prune result) person i := by
      intro i person hperson
      obtain ⟨k, hentry⟩ := getElem?_confident.mp hperson
      exact (classifyPerson_prune_iff hentry).mpr (h i person k hentry)
    refine ⟨?_, heach⟩
    unfold classify
    rw [confident_prune]
    apply List.flatMap_congr
    rintro ⟨person, i⟩ hmem
    exact heach i person (List.mk_mem_zipIdx_iff_getElem?.mp hmem)

end Prune

/-- A pose with the head, the shoulders and the hips at these heights. -/
def poseAt (head shoulder hip : ℚ) : List (Keypoint ℚ) :=
  List.replicate 5 ⟨50, head, 1⟩ ++ List.replicate 2 ⟨50, shoulder, 1⟩ ++
    List.replicate 4 ⟨50, shoulder, 1⟩ ++ List.replicate 6 ⟨50, hip, 1⟩

/-- A person that fell and is hardly seen, and one that crouches. -/
def crouching : DetectionResult ℚ where
  cameraId := "cam-01"
  objects := [{ bbox := ⟨200, 0, 300, 100⟩, cls := .person, conf := 3 / 10 },
    { bbox := ⟨0, 0, 100, 100⟩, cls := .person, conf := 9 / 10 }]
  keypoints := some [poseAt 90 80 50, poseAt 10 30 60]
  timestampUs := 0

/-- The crouching person is reported to have fallen, by the pose of the other. -/
theorem crouching_reported : ¬ WeakIgnored {} crouching := by
  intro h
  have hcount := congrArg List.length h.same
  revert hcount
  decide +kernel

end ViolationClassifier
end EdgeSafety
