import EdgeSafety.Analytics.BodyRegions
import Mathlib.Analysis.Convex.Topology
import Mathlib.MeasureTheory.Measure.Lebesgue.Basic

/-!
# Occluded keypoints

What the rules make of a pose of which some keypoints are hidden. A rule is decided by one region,
that of its body part (`evaluatePose_eq`), and hiding keypoints takes this region away or makes it
smaller (`hidden_partGeometry`), so that occlusion can only remove evidence.
-/

namespace EdgeSafety

variable {K G : Type} [Field K] [LinearOrder K]

/-- What Shapely documents of hulls, buffers, unions and intersections, where `region` gives the
points of a geometry. -/
structure ShapelyGeometry.Documented (shapely : ShapelyGeometry K G) (region : G → Set (K × K)) :
    Prop where
  convexHull_mono : ∀ points points', points ⊆ points' →
    region (shapely.convexHull points) ⊆ region (shapely.convexHull points')
  buffer_mono : ∀ g g' radius, region g ⊆ region g' →
    region (shapely.buffer g radius) ⊆ region (shapely.buffer g' radius)
  unaryUnion_mono : ∀ gs gs', (∀ g ∈ gs, ∃ g' ∈ gs', region g ⊆ region g') →
    region (shapely.unaryUnion gs) ⊆ region (shapely.unaryUnion gs')
  area_intersection_mono : ∀ polygon g g', region g ⊆ region g' →
    shapely.area (shapely.intersection polygon g) ≤ shapely.area (shapely.intersection polygon g')
  buffer_convexHull : ∀ points radius, points ≠ [] → 0 < radius →
    shapely.isEmpty (shapely.buffer (shapely.convexHull points) radius) = false ∧
      shapely.isValid (shapely.buffer (shapely.convexHull points) radius) = true
  buffer_point : ∀ point radius, 0 < radius →
    shapely.isEmpty (shapely.buffer (shapely.point point) radius) = false ∧
      shapely.isValid (shapely.buffer (shapely.point point) radius) = true
  unaryUnion_sound : ∀ gs, gs ≠ [] →
    (∀ g ∈ gs, shapely.isEmpty g = false ∧ shapely.isValid g = true) →
    shapely.isEmpty (shapely.unaryUnion gs) = false ∧ shapely.isValid (shapely.unaryUnion gs) = true

/-- The rules. -/
inductive EvidenceRule
  | noHelmet
  | noVest
  | noShoes
  | fall
  deriving DecidableEq

namespace EvidenceRule

/-- The name of a rule. -/
def name : EvidenceRule → String
  | noHelmet => "no_helmet"
  | noVest => "no_vest"
  | noShoes => "no_shoes"
  | fall => "fall"

/-- The kind of region of a pose that a rule looks at. -/
def bodyKind : EvidenceRule → EvidenceKind
  | noHelmet => .head
  | noVest => .torso
  | noShoes => .feet
  | fall => .upperBody

/-- The keypoints of the body parts of a rule. -/
def names : EvidenceRule → List String
  | noHelmet => headNames
  | noVest => torsoNames
  | noShoes => ankleNames
  | fall => headNames ++ torsoNames

/-- Enough keypoints of the body parts of a rule are visible. -/
def Supported (rule : EvidenceRule) (pose : PoseResult K) : Prop :=
  match rule with
  | noHelmet => 1 ≤ pose.visibleCount headNames
  | noVest => 2 ≤ pose.visibleCount torsoNames
  | noShoes => 1 ≤ pose.visibleCount ankleNames
  | fall => 1 ≤ pose.visibleCount headNames ∨ 2 ≤ pose.visibleCount torsoNames

/-- The region that decides a rule. -/
def partGeometry (shapely : ShapelyGeometry K G) (rule : EvidenceRule) (pose : PoseResult K) :
    Option G :=
  match rule with
  | noHelmet => headGeometry shapely pose
  | noVest => torsoGeometry shapely pose
  | noShoes => feetGeometry shapely pose
  | fall => upperGeometry shapely pose

end EvidenceRule

/-- Some keypoints of a pose are hidden in another one. -/
structure PoseResult.Hidden (pose occluded : PoseResult K) : Prop where
  bbox : occluded.bbox = pose.bbox
  keypoints : List.Forall₂ (fun point hidden => hidden = point ∨
    hidden.name = point.name ∧ hidden.visible = false) pose.keypoints occluded.keypoints

section Hiding
variable {pose occluded : PoseResult K}

theorem hidden_visiblePoints (h : pose.Hidden occluded) (names : List String) :
    (visiblePoints occluded names).Sublist (visiblePoints pose names) := by
  rw [visiblePoints_eq, visiblePoints_eq]
  have hkeypoints := h.keypoints
  generalize pose.keypoints = points, occluded.keypoints = hiddens at hkeypoints ⊢
  induction hkeypoints with
  | nil => exact .slnil
  | @cons point hidden points hiddens hpoint _ ih =>
    rcases hpoint with rfl | ⟨-, hinvisible⟩
    · cases hshown : hidden.shown names with
      | none => rwa [List.filterMap_cons_none hshown, List.filterMap_cons_none hshown]
      | some p =>
        rw [List.filterMap_cons_some hshown, List.filterMap_cons_some hshown]
        exact ih.cons_cons p
    · have hshown : hidden.shown names = none := by
        simp [NamedKeypoint.shown, NamedKeypoint.Shows, hinvisible]
      rw [List.filterMap_cons_none hshown]
      cases hpoint : point.shown names with
      | none => rwa [List.filterMap_cons_none hpoint]
      | some p =>
        rw [List.filterMap_cons_some hpoint]
        exact ih.cons p

theorem hidden_visiblePoints_ne_nil (h : pose.Hidden occluded) {names : List String}
    (hsome : visiblePoints occluded names ≠ []) : visiblePoints pose names ≠ [] := fun hnil =>
  hsome (List.sublist_nil.mp (hnil ▸ hidden_visiblePoints h names))

theorem hidden_visibleCount (h : pose.Hidden occluded) (names : List String) :
    occluded.visibleCount names ≤ pose.visibleCount names := by
  rw [← length_visiblePoints, ← length_visiblePoints]
  exact (hidden_visiblePoints h names).length_le

theorem hidden_supported (h : pose.Hidden occluded) {rule : EvidenceRule}
    (hsupported : rule.Supported occluded) : rule.Supported pose := by
  have hcount := hidden_visibleCount h
  cases rule with
  | noHelmet => exact hsupported.trans (hcount headNames)
  | noVest => exact hsupported.trans (hcount torsoNames)
  | noShoes => exact hsupported.trans (hcount ankleNames)
  | fall => exact hsupported.imp (fun h => h.trans (hcount headNames)) fun h =>
      h.trans (hcount torsoNames)

theorem hidden_scale (h : pose.Hidden occluded) : occluded.scale = pose.scale := by
  rw [PoseResult.scale, PoseResult.scale, h.bbox]

end Hiding

/-- A geometry that `EvidenceRegion` accepts. -/
def ShapelyPolygons.Sound (shapely : ShapelyPolygons K G) (g : G) : Prop :=
  shapely.isEmpty g = false ∧ shapely.isValid g = true

section Parts
variable [IsStrictOrderedRing K] {shapely : ShapelyGeometry K G} {region : G → Set (K × K)}
  {pose occluded : PoseResult K}

theorem PoseResult.radius_pos (pose : PoseResult K) {factor : ℚ} (h : 0 < factor) :
    0 < pose.scale * (factor : K) :=
  mul_pos (zero_lt_one.trans_le (le_max_right _ _)) (Rat.cast_pos.mpr h)

variable (h : shapely.Documented region)
include h

theorem headGeometry_sound {g : G} (hg : headGeometry shapely pose = some g) :
    shapely.Sound g := by
  obtain ⟨hpoints, rfl⟩ := hullOrBuffer_eq_some.mp hg
  exact h.buffer_convexHull _ _ hpoints (pose.radius_pos (by norm_num))

theorem torsoGeometry_sound {g : G} (hg : torsoGeometry shapely pose = some g) :
    shapely.Sound g := by
  obtain ⟨hcount, rfl⟩ := torsoGeometry_eq_some.mp hg
  apply h.buffer_convexHull _ _ _ (pose.radius_pos (by norm_num))
  intro hnil
  rw [← length_visiblePoints, hnil] at hcount
  cases hcount

theorem feetGeometry_sound {g : G} (hg : feetGeometry shapely pose = some g) :
    shapely.Sound g := by
  obtain ⟨hpoints, rfl⟩ := feetGeometry_eq_some.mp hg
  apply h.unaryUnion_sound _ (mt List.map_eq_nil_iff.mp hpoints)
  intro part hpart
  obtain ⟨point, -, rfl⟩ := List.mem_map.mp hpart
  exact h.buffer_point _ _ (pose.radius_pos (by norm_num))

theorem upperGeometry_sound {g : G} (hg : upperGeometry shapely pose = some g) :
    shapely.Sound g := by
  obtain ⟨hparts, rfl⟩ := upperGeometry_eq_some.mp hg
  apply h.unaryUnion_sound _ hparts
  intro part hpart
  rcases mem_upperParts.mp hpart with hhead | htorso
  · exact headGeometry_sound h hhead
  · exact torsoGeometry_sound h htorso

section Hiding
omit [IsStrictOrderedRing K]
variable (hhidden : pose.Hidden occluded) {small : G}
include hhidden

theorem hidden_headGeometry (hsmall : headGeometry shapely occluded = some small) :
    ∃ g, headGeometry shapely pose = some g ∧ region small ⊆ region g := by
  obtain ⟨hsome, rfl⟩ := hullOrBuffer_eq_some.mp hsmall
  refine ⟨_, hullOrBuffer_eq_some.mpr ⟨hidden_visiblePoints_ne_nil hhidden hsome, rfl⟩, ?_⟩
  rw [hidden_scale hhidden]
  exact h.buffer_mono _ _ _ (h.convexHull_mono _ _ (hidden_visiblePoints hhidden _).subset)

theorem hidden_torsoGeometry (hsmall : torsoGeometry shapely occluded = some small) :
    ∃ g, torsoGeometry shapely pose = some g ∧ region small ⊆ region g := by
  obtain ⟨hcount, rfl⟩ := torsoGeometry_eq_some.mp hsmall
  have hmore := hcount.trans (hidden_visibleCount hhidden torsoNames)
  refine ⟨_, torsoGeometry_eq_some.mpr ⟨hmore, rfl⟩, ?_⟩
  rw [hidden_scale hhidden]
  exact h.buffer_mono _ _ _ (h.convexHull_mono _ _ (hidden_visiblePoints hhidden _).subset)

theorem hidden_feetGeometry (hsmall : feetGeometry shapely occluded = some small) :
    ∃ g, feetGeometry shapely pose = some g ∧ region small ⊆ region g := by
  obtain ⟨hsome, rfl⟩ := feetGeometry_eq_some.mp hsmall
  refine ⟨_, feetGeometry_eq_some.mpr ⟨hidden_visiblePoints_ne_nil hhidden hsome, rfl⟩, ?_⟩
  rw [hidden_scale hhidden]
  apply h.unaryUnion_mono
  intro part hpart
  obtain ⟨point, hpoint, rfl⟩ := List.mem_map.mp hpart
  have hshown := (hidden_visiblePoints hhidden ankleNames).subset hpoint
  exact ⟨_, List.mem_map_of_mem hshown, subset_rfl⟩

theorem hidden_upperGeometry (hsmall : upperGeometry shapely occluded = some small) :
    ∃ g, upperGeometry shapely pose = some g ∧ region small ⊆ region g := by
  obtain ⟨hsome, rfl⟩ := upperGeometry_eq_some.mp hsmall
  have hparts : ∀ part ∈ [headGeometry shapely occluded,
        torsoGeometry shapely occluded].reduceOption,
      ∃ whole ∈ [headGeometry shapely pose, torsoGeometry shapely pose].reduceOption,
        region part ⊆ region whole := by
    intro part hpart
    rcases mem_upperParts.mp hpart with hpart | hpart
    · obtain ⟨whole, hwhole, hsubset⟩ := hidden_headGeometry h hhidden hpart
      exact ⟨whole, mem_upperParts.mpr (.inl hwhole), hsubset⟩
    · obtain ⟨whole, hwhole, hsubset⟩ := hidden_torsoGeometry h hhidden hpart
      exact ⟨whole, mem_upperParts.mpr (.inr hwhole), hsubset⟩
  obtain ⟨part, hpart⟩ := List.exists_mem_of_ne_nil _ hsome
  obtain ⟨whole, hwhole, -⟩ := hparts part hpart
  exact ⟨_, upperGeometry_eq_some.mpr ⟨List.ne_nil_of_mem hwhole, rfl⟩,
    h.unaryUnion_mono _ _ hparts⟩

/-- The region of a rule is smaller, or gone, where keypoints are hidden. -/
theorem hidden_partGeometry {rule : EvidenceRule}
    (hsmall : rule.partGeometry shapely occluded = some small) :
    ∃ g, rule.partGeometry shapely pose = some g ∧ region small ⊆ region g := by
  cases rule with
  | noHelmet => exact hidden_headGeometry h hhidden hsmall
  | noVest => exact hidden_torsoGeometry h hhidden hsmall
  | noShoes => exact hidden_feetGeometry h hhidden hsmall
  | fall => exact hidden_upperGeometry h hhidden hsmall

end Hiding

end Parts

theorem visiblePoints_ne_nil {pose : PoseResult K} {names : List String} :
    visiblePoints pose names ≠ [] ↔ 1 ≤ pose.visibleCount names := by
  rw [← length_visiblePoints, ← List.length_pos_iff]
  rfl

/-- A rule has a region where enough keypoints of its body parts are visible. -/
theorem EvidenceRule.exists_partGeometry {shapely : ShapelyGeometry K G} {pose : PoseResult K}
    {rule : EvidenceRule} :
    (∃ g, rule.partGeometry shapely pose = some g) ↔ rule.Supported pose := by
  have hhead : (∃ g, headGeometry shapely pose = some g) ↔ 1 ≤ pose.visibleCount headNames := by
    simp only [headGeometry, hullOrBuffer_eq_some, exists_and_left, exists_eq', and_true]
    exact visiblePoints_ne_nil
  have htorso : (∃ g, torsoGeometry shapely pose = some g) ↔
      2 ≤ pose.visibleCount torsoNames := by
    simp only [torsoGeometry_eq_some, exists_and_left, exists_eq', and_true]
  cases rule with
  | noHelmet => exact hhead
  | noVest => exact htorso
  | noShoes =>
    simp only [partGeometry, feetGeometry_eq_some, exists_and_left, exists_eq', and_true]
    exact visiblePoints_ne_nil
  | fall =>
    simp only [partGeometry, upperGeometry_eq_some, exists_and_left, exists_eq', and_true]
    rw [Supported, ← hhead, ← htorso, ← exists_or]
    constructor
    · intro hparts
      obtain ⟨part, hpart⟩ := List.exists_mem_of_ne_nil _ hparts
      exact ⟨part, mem_upperParts.mp hpart⟩
    · rintro ⟨part, hpart⟩
      exact List.ne_nil_of_mem (mem_upperParts.mpr hpart)

/-- The dictionary holds the given geometries, each under its kind. -/
def Regions (shapely : ShapelyGeometry K G)
    (regions : Dict EvidenceKind (EvidenceRegion shapely.toShapelyPolygons))
    (pairs : List (EvidenceKind × G)) : Prop :=
  regions.entries.map (fun entry => (entry.1, entry.2.kind, entry.2.geometry)) =
    pairs.map fun pair => (pair.1, pair.1, pair.2)

section Evaluation
variable {shapely : ShapelyGeometry K G}

omit [Field K] [LinearOrder K] in
/-- A region that is accepted is put at the end, and one that does not exist is not. -/
theorem putRegion_ok (kind : EvidenceKind) {geometry : Option G}
    {regions : Dict EvidenceKind (EvidenceRegion shapely.toShapelyPolygons)}
    {pairs : List (EvidenceKind × G)} (hregions : Regions shapely regions pairs)
    (hnew : kind ∉ pairs.map Prod.fst) (hsound : ∀ g, geometry = some g → shapely.Sound g) :
    ∃ after, putRegion shapely kind geometry regions = .ok after ∧
      Regions shapely after (pairs ++ (geometry.map (kind, ·)).toList) := by
  cases geometry with
  | none => exact ⟨regions, rfl, by simpa [Regions] using hregions⟩
  | some g =>
    have hmake : EvidenceRegion.make shapely.toShapelyPolygons kind g "pose" =
        .ok ⟨kind, g, "pose", (hsound g rfl).1, (hsound g rfl).2⟩ :=
      dif_pos (hsound g rfl)
    have hkeys : regions.keys = pairs.map Prod.fst := by
      have hfirst := congrArg (List.map Prod.fst) hregions
      rwa [List.map_map, List.map_map] at hfirst
    refine ⟨_, by rw [putRegion, hmake]; rfl, ?_⟩
    have hset (region : EvidenceRegion shapely.toShapelyPolygons) :
        (regions.set kind region).entries = regions.entries ++ [(kind, region)] := by
      rw [Dict.set, dif_neg (hkeys ▸ hnew)]
    rw [Regions, hset, List.map_append, hregions]
    simp

/-- What the regions of a pose are. -/
def posePairs (shapely : ShapelyGeometry K G) (pose : PoseResult K) : List (EvidenceKind × G) :=
  ((headGeometry shapely pose).map (EvidenceKind.head, ·)).toList ++
    ((torsoGeometry shapely pose).map (EvidenceKind.torso, ·)).toList ++
    ((feetGeometry shapely pose).map (EvidenceKind.feet, ·)).toList ++
    ((upperGeometry shapely pose).map (EvidenceKind.upperBody, ·)).toList

omit [Field K] [LinearOrder K] in
theorem filter_not_isEmpty {geometry : Option G}
    (hsound : ∀ g, geometry = some g → shapely.Sound g) :
    geometry.filter (fun g => ¬ shapely.isEmpty g) = geometry := by
  cases geometry with
  | none => rfl
  | some g => simp [(hsound g rfl).1]

variable [IsStrictOrderedRing K] {region : G → Set (K × K)}

/-- The regions of a pose are made without raising. -/
theorem poseEvidenceRegions_ok (h : shapely.Documented region) (pose : PoseResult K) :
    ∃ regions, poseEvidenceRegions shapely pose = .ok regions ∧
      Regions shapely regions (posePairs shapely pose) := by
  have hhead : ∀ g, headGeometry shapely pose = some g → shapely.Sound g := fun _ =>
    headGeometry_sound h
  have htorso : ∀ g, torsoGeometry shapely pose = some g → shapely.Sound g := fun _ =>
    torsoGeometry_sound h
  have hempty : Regions shapely .empty [] := rfl
  obtain ⟨regions₁, hput₁, hregions₁⟩ := putRegion_ok .head hempty (by simp) hhead
  obtain ⟨regions₂, hput₂, hregions₂⟩ := putRegion_ok .torso hregions₁
    (by cases headGeometry shapely pose <;> simp) htorso
  obtain ⟨regions₃, hput₃, hregions₃⟩ := putRegion_ok .feet hregions₂
    (by cases headGeometry shapely pose <;> cases torsoGeometry shapely pose <;> simp)
    fun _ => feetGeometry_sound h
  obtain ⟨regions₄, hput₄, hregions₄⟩ := putRegion_ok .upperBody hregions₃
    (by cases headGeometry shapely pose <;> cases torsoGeometry shapely pose <;>
      cases feetGeometry shapely pose <;> simp)
    fun _ => upperGeometry_sound h
  refine ⟨regions₄, ?_, hregions₄⟩
  simp only [poseEvidenceRegions, filter_not_isEmpty hhead, filter_not_isEmpty htorso, hput₁, hput₂,
    hput₃, hput₄, bind, Except.bind]

/-- What `intersect_evidence` makes of a geometry. -/
def intersectGeometry (shapely : ShapelyGeometry K G) (roiPolygon geometry : G)
    (minimumOverlapRatio : K) : Except RoiError (ROIIntersection K) :=
  if ¬ (0 ≤ minimumOverlapRatio ∧ minimumOverlapRatio ≤ 1) then
    .error (.valueError "minimum_overlap_ratio must be in [0, 1]")
  else
    let area := shapely.area (shapely.intersection roiPolygon geometry)
    let ratio := if shapely.area geometry > 0 then area / shapely.area geometry else 0
    .ok
      { intersects := area > 0 ∧ ratio ≥ minimumOverlapRatio
        intersectionArea := area
        evidenceOverlapRatio := ratio }

omit [IsStrictOrderedRing K] in
theorem intersectEvidence_eq (roiPolygon : G) (evidence : EvidenceRegion shapely.toShapelyPolygons)
    (ratio : K) : intersectEvidence shapely roiPolygon evidence ratio =
      intersectGeometry shapely roiPolygon evidence.geometry ratio := rfl

theorem EvidenceRule.ruleEvidenceKinds_name (rule : EvidenceRule) :
    ∃ kind, ruleEvidenceKinds rule.name = some [rule.bodyKind, kind] ∧
      kind ∉ [EvidenceKind.head, .torso, .feet, .upperBody] := by
  cases rule with
  | noHelmet => exact ⟨.bareHeadDetection, by decide, by decide⟩
  | noVest => exact ⟨.noVestDetection, by decide, by decide⟩
  | noShoes => exact ⟨.noShoesDetection, by decide, by decide⟩
  | fall => exact ⟨.person, by decide, by decide⟩

omit [Field K] [LinearOrder K] [IsStrictOrderedRing K] in
theorem filter_pair {kinds : List EvidenceKind} {kind : EvidenceKind} {geometry : Option G} :
    ((geometry.map (kind, ·)).toList).filter (fun pair => pair.1 ∈ kinds) =
      if kind ∈ kinds then (geometry.map (kind, ·)).toList else [] := by
  cases geometry with
  | none => simp
  | some g => by_cases hkind : kind ∈ kinds <;> simp [hkind]

omit [IsStrictOrderedRing K] in
/-- Of the regions of a pose, a rule looks at the one of its body part. -/
theorem filter_posePairs {rule : EvidenceRule} {pose : PoseResult K} {kind : EvidenceKind}
    (hkind : kind ∉ [EvidenceKind.head, .torso, .feet, .upperBody]) :
    (posePairs shapely pose).filter (fun pair => pair.1 ∈ [rule.bodyKind, kind]) =
      ((rule.partGeometry shapely pose).map (rule.bodyKind, ·)).toList := by
  simp only [List.mem_cons, List.not_mem_nil, or_false, not_or] at hkind
  obtain ⟨hhead, htorso, hfeet, hupper⟩ := hkind
  rw [posePairs, List.filter_append, List.filter_append, List.filter_append, filter_pair,
    filter_pair, filter_pair, filter_pair]
  cases rule <;> simp [EvidenceRule.bodyKind, EvidenceRule.partGeometry, Ne.symm hhead,
    Ne.symm htorso, Ne.symm hfeet, Ne.symm hupper]

omit [IsStrictOrderedRing K] in
/-- What a rule finds in the dictionary of a pose's regions. -/
theorem Regions.relevant {regions : Dict EvidenceKind (EvidenceRegion shapely.toShapelyPolygons)}
    {pose : PoseResult K} (h : Regions shapely regions (posePairs shapely pose))
    (rule : EvidenceRule) {kind : EvidenceKind}
    (hkind : kind ∉ [EvidenceKind.head, .torso, .feet, .upperBody]) :
    ((regions.entries.map Prod.snd).filter fun r => r.kind ∈ [rule.bodyKind, kind]).map
        (fun r => (r.kind, r.geometry)) =
      ((rule.partGeometry shapely pose).map (rule.bodyKind, ·)).toList := by
  rw [← filter_posePairs hkind]
  have hvalues := congrArg (List.map Prod.snd) h
  rw [List.map_map, List.map_map] at hvalues
  have hpairs : (posePairs shapely pose).map (Prod.snd ∘ fun pair => (pair.1, pair.1, pair.2)) =
      posePairs shapely pose := List.map_id _
  rw [hpairs] at hvalues
  rw [← hvalues, List.filter_map, List.filter_map, List.map_map]
  rfl

/-- What a rule makes of the geometry of its body part. -/
def partEvidence (shapely : ShapelyGeometry K G) (rule : EvidenceRule) (roi : ROIConfig K)
    (frameWidth frameHeight : Int) (geometry : Option G) (ratio : K) :
    Except RoiError (RuleROIEvidence K) :=
  match geometry with
  | none => .ok { rule := rule.name, verifiable := false, matched := false, intersections := [] }
  | some g => do
    let polygon ← roiPolygonPixels shapely.toShapelyPolygons roi frameWidth frameHeight
    let intersection ← intersectGeometry shapely polygon g ratio
    .ok
      { rule := rule.name
        verifiable := true
        matched := intersection.intersects
        intersections := [intersection] }

/-- A rule is decided by the region of its body part. -/
theorem evaluatePose_eq (h : shapely.Documented region) {rule : EvidenceRule}
    {roi : ROIConfig K} {frameWidth frameHeight : Int} {pose : PoseResult K} {ratio : K} :
    evaluatePose shapely rule.name roi frameWidth frameHeight pose ratio =
      partEvidence shapely rule roi frameWidth frameHeight (rule.partGeometry shapely pose)
        ratio := by
  obtain ⟨regions, hposes, hregions⟩ := poseEvidenceRegions_ok h pose
  obtain ⟨kind, hkinds, hkind⟩ := rule.ruleEvidenceKinds_name
  have hrelevant := hregions.relevant rule hkind
  rw [evaluatePose, hposes]
  change evaluateRuleRoi _ _ _ _ _ _ _ = _
  rw [evaluateRuleRoi, hkinds]
  simp only []
  cases hpart : rule.partGeometry shapely pose with
  | none =>
    rw [hpart] at hrelevant
    rw [List.map_eq_nil_iff.mp hrelevant]
    rfl
  | some g =>
    rw [hpart] at hrelevant
    obtain ⟨r, hr, hgeometry⟩ := List.map_eq_singleton_iff.mp hrelevant
    rw [hr]
    have hg : r.geometry = g := congrArg Prod.snd hgeometry
    rw [partEvidence]
    simp only [List.isEmpty_cons, Bool.false_eq_true, if_false, List.mapM_cons, List.mapM_nil,
      intersectEvidence_eq, hg]
    cases roiPolygonPixels shapely.toShapelyPolygons roi frameWidth frameHeight with
    | error e => rfl
    | ok polygon =>
      cases hintersection : intersectGeometry shapely polygon g ratio with
      | error e => simp [hintersection, bind, Except.bind]
      | ok intersection => simp [hintersection, bind, Except.bind, pure, Except.pure]

end Evaluation

/-- Only the rules have evidence. -/
theorem ruleEvidenceKinds_isSome_iff (name : String) :
    (ruleEvidenceKinds name).isSome = true ↔ ∃ rule : EvidenceRule, rule.name = name := by
  constructor
  · intro hsome
    unfold ruleEvidenceKinds at hsome
    split at hsome
    · next h => exact ⟨.noHelmet, h.symm⟩
    · split at hsome
      · next h => exact ⟨.noVest, h.symm⟩
      · split at hsome
        · next h => exact ⟨.noShoes, h.symm⟩
        · split at hsome
          · next h => exact ⟨.fall, h.symm⟩
          · cases hsome
  · rintro ⟨rule, rfl⟩
    obtain ⟨kind, hkinds, -⟩ := rule.ruleEvidenceKinds_name
    rw [hkinds]
    rfl

/-- There is evidence to decide a rule by. -/
def Verifiable (answer : Except RoiError (RuleROIEvidence K)) : Prop :=
  ∃ evidence, answer = .ok evidence ∧ evidence.verifiable = true

/-- The evidence for a rule is in the region. -/
def Matched (answer : Except RoiError (RuleROIEvidence K)) : Prop :=
  ∃ evidence, answer = .ok evidence ∧ evidence.matched = true

/-- Two poses have the same keypoints of the given names, and boxes of the same size. -/
structure PoseResult.SameParts (names : List String) (pose other : PoseResult K) : Prop where
  keypoints : (other.keypoints.filter fun point => point.name ∈ names) =
    pose.keypoints.filter fun point => point.name ∈ names
  width : other.bbox.width = pose.bbox.width
  height : other.bbox.height = pose.bbox.height

section Laws
variable {shapely : ShapelyGeometry K G} {rule : EvidenceRule} {pose other : PoseResult K}

theorem visiblePoints_filter {names wanted : List String} (h : names ⊆ wanted)
    (points : List (NamedKeypoint K)) :
    (points.filter fun point => point.name ∈ wanted).filterMap (NamedKeypoint.shown names) =
      points.filterMap (NamedKeypoint.shown names) := by
  rw [List.filterMap_filter]
  apply List.filterMap_congr
  intro point _
  split
  · rfl
  · next hwanted =>
    have hnot : ¬ point.Shows names := fun hshows => hwanted (by simpa using h hshows.1)
    rw [NamedKeypoint.shown, if_neg hnot]

theorem PoseResult.SameParts.visiblePoints {names wanted : List String}
    (h : pose.SameParts wanted other) (hnames : names ⊆ wanted) :
    EdgeSafety.visiblePoints other names = EdgeSafety.visiblePoints pose names := by
  rw [visiblePoints_eq, visiblePoints_eq, ← visiblePoints_filter hnames, h.keypoints,
    visiblePoints_filter hnames]

/-- The region that decides a rule is made of the keypoints of its body parts. -/
theorem PoseResult.SameParts.partGeometry (h : pose.SameParts rule.names other) :
    rule.partGeometry shapely other = rule.partGeometry shapely pose := by
  have hscale : other.scale = pose.scale := by
    rw [PoseResult.scale, PoseResult.scale, h.width, h.height]
  have hhead (hnames : headNames ⊆ rule.names) :
      headGeometry shapely other = headGeometry shapely pose := by
    rw [headGeometry, headGeometry, hscale, h.visiblePoints hnames]
  have htorso (hnames : torsoNames ⊆ rule.names) :
      torsoGeometry shapely other = torsoGeometry shapely pose := by
    simp only [torsoGeometry, hscale, h.visiblePoints hnames]
  cases rule with
  | noHelmet => exact hhead (List.Subset.refl headNames)
  | noVest => exact htorso (List.Subset.refl torsoNames)
  | noShoes =>
    simp only [EvidenceRule.partGeometry, feetGeometry, hscale,
      h.visiblePoints (List.Subset.refl ankleNames)]
  | fall =>
    rw [EvidenceRule.partGeometry, EvidenceRule.partGeometry, upperGeometry, upperGeometry,
      hhead (List.subset_append_left headNames torsoNames),
      htorso (List.subset_append_right headNames torsoNames)]

section Roi
variable {polygon : G} {roi : ROIConfig K} {frameWidth frameHeight : Int} {ratio : K}

theorem intersectGeometry_ok (hzero : 0 ≤ ratio) (hone : ratio ≤ 1) (g : G) :
    ∃ intersection, intersectGeometry shapely polygon g ratio = .ok intersection :=
  ⟨_, if_neg (not_not.mpr ⟨hzero, hone⟩)⟩

/-- A geometry matches if it shares a positive area with the polygon, in a sufficient ratio. -/
theorem intersectGeometry_intersects {g : G} :
    (∃ intersection, intersectGeometry shapely polygon g ratio = .ok intersection ∧
        intersection.intersects = true) ↔
      (0 ≤ ratio ∧ ratio ≤ 1) ∧ 0 < shapely.area (shapely.intersection polygon g) ∧
        ratio ≤ if shapely.area g > 0 then
          shapely.area (shapely.intersection polygon g) / shapely.area g else 0 := by
  unfold intersectGeometry
  split
  · next hratio => simp [hratio]
  · next hratio =>
    rw [and_iff_right (not_not.mp hratio)]
    simp

variable (hroi : roiPolygonPixels shapely.toShapelyPolygons roi frameWidth frameHeight =
  .ok polygon)
include hroi

theorem partEvidence_returns (hzero : 0 ≤ ratio) (hone : ratio ≤ 1) (geometry : Option G) :
    ∃ evidence,
      partEvidence shapely rule roi frameWidth frameHeight geometry ratio = .ok evidence := by
  cases geometry with
  | none => exact ⟨_, rfl⟩
  | some g =>
    obtain ⟨intersection, hintersection⟩ :
        ∃ intersection, intersectGeometry shapely polygon g ratio = .ok intersection :=
      intersectGeometry_ok hzero hone g
    refine ⟨⟨rule.name, true, intersection.intersects, [intersection]⟩, ?_⟩
    rw [partEvidence, hroi]
    simp only [bind, Except.bind, hintersection]

theorem partEvidence_verifiable {geometry : Option G} :
    Verifiable (partEvidence shapely rule roi frameWidth frameHeight geometry ratio) ↔
      (∃ g, geometry = some g) ∧ 0 ≤ ratio ∧ ratio ≤ 1 := by
  cases geometry with
  | none => simp [partEvidence, Verifiable]
  | some g =>
    have hsome : ∃ g', some g = some g' := ⟨g, rfl⟩
    rw [partEvidence, hroi, and_iff_right hsome]
    by_cases hratio : 0 ≤ ratio ∧ ratio ≤ 1
    · obtain ⟨intersection, hintersection⟩ :
          ∃ intersection, intersectGeometry shapely polygon g ratio = .ok intersection :=
        intersectGeometry_ok hratio.1 hratio.2 g
      simp [hintersection, bind, Except.bind, Verifiable, hratio]
    · simp [intersectGeometry, hratio, bind, Except.bind, Verifiable]

theorem partEvidence_matched {geometry : Option G} :
    Matched (partEvidence shapely rule roi frameWidth frameHeight geometry ratio) ↔
      ∃ g, geometry = some g ∧ ∃ intersection,
        intersectGeometry shapely polygon g ratio = .ok intersection ∧
          intersection.intersects = true := by
  cases geometry with
  | none => simp [partEvidence, Matched]
  | some g =>
    rw [partEvidence, hroi]
    cases hintersection : intersectGeometry shapely polygon g ratio with
    | error e => simp [hintersection, bind, Except.bind, Matched]
    | ok intersection => simp [hintersection, bind, Except.bind, Matched]

end Roi

/-- What occlusion can do to a rule on a pose. -/
structure OcclusionLaws (shapely : ShapelyGeometry K G) (roi : ROIConfig K)
    (frameWidth frameHeight : Int) (rule : EvidenceRule) (pose : PoseResult K) : Prop where
  returns : ∀ ratio, 0 ≤ ratio → ratio ≤ 1 → ∃ evidence,
    evaluatePose shapely rule.name roi frameWidth frameHeight pose ratio = .ok evidence
  verifiable_iff : ∀ ratio, 0 ≤ ratio → ratio ≤ 1 →
    (Verifiable (evaluatePose shapely rule.name roi frameWidth frameHeight pose ratio) ↔
      rule.Supported pose)
  hidden_verifiable : ∀ occluded, pose.Hidden occluded → ∀ ratio,
    Verifiable (evaluatePose shapely rule.name roi frameWidth frameHeight occluded ratio) →
      Verifiable (evaluatePose shapely rule.name roi frameWidth frameHeight pose ratio)
  hidden_matched : ∀ occluded, pose.Hidden occluded →
    Matched (evaluatePose shapely rule.name roi frameWidth frameHeight occluded 0) →
      Matched (evaluatePose shapely rule.name roi frameWidth frameHeight pose 0)
  same_parts : ∀ other, pose.SameParts rule.names other → ∀ ratio,
    evaluatePose shapely rule.name roi frameWidth frameHeight other ratio =
      evaluatePose shapely rule.name roi frameWidth frameHeight pose ratio
  raised_matched : ∀ ratio raised, 0 ≤ ratio → ratio ≤ raised →
    Matched (evaluatePose shapely rule.name roi frameWidth frameHeight pose raised) →
      Matched (evaluatePose shapely rule.name roi frameWidth frameHeight pose ratio)

/-- Hiding keypoints only removes evidence, and of a rule's body parts at that. -/
theorem occlusion_removes_evidence [IsStrictOrderedRing K] {region : G → Set (K × K)}
    (h : shapely.Documented region) {roi : ROIConfig K} {frameWidth frameHeight : Int}
    (hroi : ∃ polygon,
      roiPolygonPixels shapely.toShapelyPolygons roi frameWidth frameHeight = .ok polygon)
    (rule : EvidenceRule) (pose : PoseResult K) :
    OcclusionLaws shapely roi frameWidth frameHeight rule pose := by
  obtain ⟨polygon, hpolygon⟩ := hroi
  have hverifiable (pose : PoseResult K) (ratio : K) :
      Verifiable (evaluatePose shapely rule.name roi frameWidth frameHeight pose ratio) ↔
        rule.Supported pose ∧ 0 ≤ ratio ∧ ratio ≤ 1 := by
    rw [evaluatePose_eq h, partEvidence_verifiable hpolygon, rule.exists_partGeometry]
  constructor
  · intro ratio hzero hone
    rw [evaluatePose_eq h]
    exact partEvidence_returns hpolygon hzero hone _
  · intro ratio hzero hone
    rw [hverifiable pose ratio]
    exact and_iff_left ⟨hzero, hone⟩
  · intro occluded hhidden ratio hoccluded
    rw [hverifiable] at hoccluded ⊢
    exact ⟨hidden_supported hhidden hoccluded.1, hoccluded.2⟩
  · intro occluded hhidden hmatched
    rw [evaluatePose_eq h, partEvidence_matched hpolygon] at hmatched ⊢
    obtain ⟨small, hsmall, hmatches⟩ := hmatched
    obtain ⟨g, hg, hsubset⟩ := hidden_partGeometry h hhidden hsmall
    obtain ⟨-, harea, -⟩ := intersectGeometry_intersects.mp hmatches
    have hlarger := harea.trans_le (h.area_intersection_mono polygon _ _ hsubset)
    refine ⟨g, hg, intersectGeometry_intersects.mpr ⟨⟨le_rfl, zero_le_one⟩, hlarger, ?_⟩⟩
    split
    · next hpos => exact (div_pos hlarger hpos).le
    · exact le_rfl
  · intro other hsame ratio
    rw [evaluatePose_eq h, evaluatePose_eq h, hsame.partGeometry]
  · intro ratio raised hzero hle hmatched
    rw [evaluatePose_eq h, partEvidence_matched hpolygon] at hmatched ⊢
    obtain ⟨g, hg, hmatches⟩ := hmatched
    obtain ⟨⟨-, hone⟩, harea, hratio⟩ := intersectGeometry_intersects.mp hmatches
    exact ⟨g, hg, intersectGeometry_intersects.mpr
      ⟨⟨hzero, hle.trans hone⟩, harea, hle.trans hratio⟩⟩

end Laws

/-- A bounded set of points of the plane. -/
def PlaneSet : Type := { s : Set (ℝ × ℝ) // Bornology.IsBounded s }

namespace PlaneSet

/-- The points within a distance of a set. -/
def enlarge (s : Set (ℝ × ℝ)) (radius : ℝ) : Set (ℝ × ℝ) :=
  { q | ∃ p ∈ s, (q.1 - p.1) ^ 2 + (q.2 - p.2) ^ 2 ≤ radius ^ 2 }

theorem isBounded_enlarge {s : Set (ℝ × ℝ)} (h : Bornology.IsBounded s) (radius : ℝ) :
    Bornology.IsBounded (enlarge s radius) := by
  apply (h.cthickening (δ := |radius|)).subset
  rintro q ⟨p, hp, hdist⟩
  apply Metric.mem_cthickening_of_dist_le q p _ s hp
  rw [Prod.dist_eq, Real.dist_eq, Real.dist_eq]
  apply max_le
  · exact sq_le_sq.mp (by nlinarith [sq_nonneg (q.2 - p.2)])
  · exact sq_le_sq.mp (by nlinarith [sq_nonneg (q.1 - p.1)])

/-- The convex hull of some points. -/
def hull (points : List (ℝ × ℝ)) : PlaneSet :=
  ⟨convexHull ℝ { p | p ∈ points }, isBounded_convexHull.mpr (List.finite_toSet points).isBounded⟩

/-- The points of some sets. -/
def union (gs : List PlaneSet) : Set (ℝ × ℝ) := ⋃ g ∈ {g | g ∈ gs}, g.1

theorem isBounded_union (gs : List PlaneSet) : Bornology.IsBounded (union gs) :=
  (Bornology.isBounded_biUnion (List.finite_toSet gs)).mpr fun g _ => g.2

open Classical MeasureTheory in
/-- Geometries that are sets of points, where all polygons are convex. -/
noncomputable def geometry : ShapelyGeometry ℝ PlaneSet where
  polygon := hull
  isValid _ := true
  isEmpty s := decide (s.1 = ∅)
  area s := (volume s.1).toReal
  explainValidity _ := "Valid Geometry"
  convexHull := hull
  point p := ⟨{p}, Bornology.isBounded_singleton⟩
  buffer s radius := ⟨enlarge s.1 radius, isBounded_enlarge s.2 radius⟩
  unaryUnion gs := ⟨union gs, isBounded_union gs⟩
  intersection s t := ⟨s.1 ∩ t.1, s.2.subset Set.inter_subset_left⟩

theorem geometry_sound {g : PlaneSet} {p : ℝ × ℝ} (h : p ∈ g.1) :
    geometry.isEmpty g = false ∧ geometry.isValid g = true :=
  ⟨decide_eq_false (Set.nonempty_of_mem h).ne_empty, rfl⟩

theorem subset_enlarge (s : Set (ℝ × ℝ)) (radius : ℝ) : s ⊆ enlarge s radius := fun p hp =>
  ⟨p, hp, by simpa using sq_nonneg radius⟩

theorem geometry_documented : geometry.Documented Subtype.val where
  convexHull_mono _ _ h := convexHull_mono h
  buffer_mono _ _ _ h := by
    rintro q ⟨p, hp, hdist⟩
    exact ⟨p, h hp, hdist⟩
  unaryUnion_mono _ _ h := by
    intro p hp
    obtain ⟨g, hg, hp⟩ := Set.mem_iUnion₂.mp hp
    obtain ⟨g', hg', hsubset⟩ := h g hg
    exact Set.mem_iUnion₂.mpr ⟨g', hg', hsubset hp⟩
  area_intersection_mono polygon g g' h := by
    apply ENNReal.toReal_mono
    · exact (polygon.2.subset Set.inter_subset_left).measure_lt_top.ne
    · exact MeasureTheory.measure_mono (Set.inter_subset_inter_right _ h)
  buffer_convexHull points radius hpoints _ := by
    obtain ⟨p, hp⟩ := List.exists_mem_of_ne_nil points hpoints
    exact geometry_sound (subset_enlarge _ _ (subset_convexHull ℝ _ hp))
  buffer_point point radius _ := geometry_sound (subset_enlarge _ _ rfl)
  unaryUnion_sound gs hgs hsound := by
    obtain ⟨g, hg⟩ := List.exists_mem_of_ne_nil gs hgs
    have hsome : g.1 ≠ ∅ := of_decide_eq_false (hsound g hg).1
    obtain ⟨p, hp⟩ := Set.nonempty_iff_ne_empty.mpr hsome
    exact geometry_sound (Set.mem_iUnion₂.mpr ⟨g, hg, hp⟩)

/-- The region of a whole frame. -/
def wholeRoi : ROIConfig ℝ where
  roiId := "zone-3"
  polygon := [(0, 0), (1, 0), (1, 1), (0, 1)]
  roiId_bounds := by decide
  roiId_pattern := by decide
  polygon_unit := by simp [InUnit]
  polygon_valid := by
    have hdistinct : ([(0, 0), (1, 0), (1, 1), (0, 1)] : List (ℝ × ℝ)).dedup.length = 4 := by
      rw [List.Nodup.dedup (by simp)]
      rfl
    have harea : PointRing.shoelace ([(0, 0), (1, 0), (1, 1), (0, 1)] : List (ℝ × ℝ)) = 2 := by
      simp [PointRing.shoelace, PointRing.edges]
      norm_num
    rw [validatePolygon, if_neg (by simp), hdistinct, if_neg (by decide), harea]
    norm_num

theorem wholeRoi_pixels :
    ({ p | p ∈ wholeRoi.pixels 640 480 } : Set (ℝ × ℝ)) = {0, 640} ×ˢ {0, 480} := by
  ext ⟨x, y⟩
  simp [ROIConfig.pixels, wholeRoi, PointRing.scale]
  tauto

theorem wholeRoi_polygon :
    roiPolygonPixels geometry.toShapelyPolygons wholeRoi 640 480 =
      .ok (hull (wholeRoi.pixels 640 480)) := by
  have hhull : (hull (wholeRoi.pixels 640 480)).1 = Set.Icc 0 640 ×ˢ Set.Icc 0 480 := by
    change convexHull ℝ { p | p ∈ wholeRoi.pixels 640 480 } = _
    rw [wholeRoi_pixels, convexHull_prod, convexHull_pair, convexHull_pair,
      segment_eq_Icc (by norm_num), segment_eq_Icc (by norm_num)]
  have harea : geometry.area (hull (wholeRoi.pixels 640 480)) = 640 * 480 := by
    rw [geometry]
    simp only [hhull, MeasureTheory.Measure.volume_eq_prod, MeasureTheory.Measure.prod_prod,
      Real.volume_Icc]
    simp
  have hsize : ¬ ((640 : Int) ≤ 0 ∨ (480 : Int) ≤ 0) := by decide
  have hsome : geometry.isEmpty (hull (wholeRoi.pixels 640 480)) = false := by
    apply decide_eq_false
    rw [hhull]
    exact (Set.nonempty_of_mem (x := (0, 0)) (by simp)).ne_empty
  have hpositive : ¬ geometry.area (hull (wholeRoi.pixels 640 480)) ≤ 0 := by
    rw [harea]
    norm_num
  rw [roiPolygonPixels, if_neg hsize]
  change (if ¬ true = true then _ else if geometry.isEmpty (hull (wholeRoi.pixels 640 480)) ∨
    geometry.area (hull (wholeRoi.pixels 640 480)) ≤ 0 then _ else _) = _
  rw [if_neg (by simp), if_neg (by simp [hsome, hpositive])]
  rfl

/-- A pose of which the nose and the shoulders are visible. -/
def upperPose : PoseResult ℝ where
  cameraId := "cam-1"
  trackId := 1
  bbox := ⟨0, 0, 30, 90, by norm_num, by norm_num⟩
  keypoints :=
    [⟨"nose", some 15, some 12, 1, true, zero_le_one, le_rfl, rfl, rfl⟩,
      ⟨"left_shoulder", some 8, some 30, 1, true, zero_le_one, le_rfl, rfl, rfl⟩,
      ⟨"right_shoulder", some 22, some 30, 1, true, zero_le_one, le_rfl, rfl, rfl⟩,
      ⟨"left_ankle", none, none, 0, false, le_rfl, zero_le_one, rfl, rfl⟩]

theorem occlusion_upperPose :
    OcclusionLaws geometry wholeRoi 640 480 .fall upperPose :=
  occlusion_removes_evidence geometry_documented ⟨_, wholeRoi_polygon⟩ .fall upperPose

end PlaneSet
end EdgeSafety
