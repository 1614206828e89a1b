import EdgeSafety.Lib.Loops
import EdgeSafety.Shared.Configuration
import EdgeSafety.Shared.NdArray
import EdgeSafety.Shared.Vision
import Mathlib.Algebra.Order.Field.Rat
import Mathlib.Tactic.NormNum

/-!
# What the model pipelines share

The arrays that a model returns, its backend, and the batched call of `inference/pipelines`: both
pipelines stack their inputs, check the number of rows of the first output and give each input its
own row of every output. Floats are rationals.
-/

namespace EdgeSafety

/-! ## Arrays of numbers -/

/-- An `np.ndarray` of numbers, its elements in C order. -/
structure NumericArray where
  shape : List Nat
  values : List ℚ
  values_length : values.length = shape.prod
  deriving DecidableEq

namespace NumericArray

/-- `array.ndim`. -/
def ndim (array : NumericArray) : Nat := array.shape.length

/-- `array[0]`. -/
def first (array : NumericArray) : Except String NumericArray :=
  match h : array.shape with
  | [] => .error "too many indices for array: array is 0-dimensional, but 1 were indexed"
  | 0 :: _ => .error "index 0 is out of bounds for axis 0 with size 0"
  | (_ + 1) :: rest =>
    .ok
      { shape := rest
        values := array.values.take rest.prod
        values_length := by
          rw [List.length_take, array.values_length, h, List.prod_cons, Nat.succ_mul]
          omega }

/-- `array[0]` where the array has this many axes, and the array itself where it has not. -/
def squeezed (array : NumericArray) (axes : Nat) : Except String NumericArray :=
  if array.ndim = axes then array.first else .ok array

/-- `array[index : index + 1]`. -/
def slice (array : NumericArray) (index : Nat) : Except String NumericArray :=
  match h : array.shape with
  | [] => .error "too many indices for array: array is 0-dimensional, but 1 were indexed"
  | rows :: rest =>
    .ok
      { shape := min 1 (rows - index) :: rest
        values := (array.values.drop (index * rest.prod)).take (min 1 (rows - index) * rest.prod)
        values_length := by
          have hle : min 1 (rows - index) * rest.prod ≤ rows * rest.prod - index * rest.prod := by
            rw [← Nat.sub_mul]
            exact Nat.mul_le_mul_right _ (Nat.min_le_right _ _)
          rw [List.length_take, List.length_drop, array.values_length, h, List.prod_cons,
            List.prod_cons]
          exact Nat.min_eq_left hle }

/-- `np.stack` of rows of the same shape. -/
def stack (dimensions : List Nat) (rows : List { row : List ℚ // row.length = dimensions.prod }) :
    NumericArray where
  shape := rows.length :: dimensions
  values := rows.flatMap Subtype.val
  values_length := by
    induction rows with
    | nil => simp
    | cons row rows ih =>
      rw [List.prod_cons] at ih ⊢
      rw [List.flatMap_cons, List.length_append, ih, row.property, List.length_cons, Nat.succ_mul,
        Nat.add_comm]

theorem drop_take_stack {dimensions : List Nat}
    {rows : List { row : List ℚ // row.length = dimensions.prod }} {i : Nat}
    {row : { row : List ℚ // row.length = dimensions.prod }} (h : rows[i]? = some row) :
    ((rows.flatMap Subtype.val).drop (i * dimensions.prod)).take dimensions.prod = row.val := by
  induction rows generalizing i with
  | nil => cases h
  | cons first rows ih =>
    rw [List.flatMap_cons]
    cases i with
    | zero =>
      cases h
      rw [Nat.zero_mul, List.drop_zero]
      exact List.take_left' row.property
    | succ i =>
      rw [Nat.succ_mul, Nat.add_comm, ← List.drop_drop, List.drop_left' first.property]
      exact ih h

/-- The slices of a stack are its rows. -/
theorem slice_stack {dimensions : List Nat}
    {rows : List { row : List ℚ // row.length = dimensions.prod }} {i : Nat}
    {row : { row : List ℚ // row.length = dimensions.prod }} (h : rows[i]? = some row) :
    (stack dimensions rows).slice i = .ok (stack dimensions [row]) := by
  have hlt : i < rows.length := (List.getElem?_eq_some_iff.mp h).1
  have hone : min 1 (rows.length - i) = 1 := by omega
  have hvalues := drop_take_stack h
  simp only [slice, stack]
  simp only [hone, Nat.one_mul, hvalues]
  simp

end NumericArray

/-- How Python writes a shape. -/
def shapeText : List Nat → String
  | [n] => s!"({n},)"
  | shape => "(" ++ ", ".intercalate (shape.map toString) ++ ")"

/-! ## Models -/

/-- `ModelConfig`, with the fields that only the pipelines read. The schema leaves `input_shape`,
the height and width of a model's input, unchecked; no model has an input without pixels. -/
structure PipelineConfig extends ModelConfig where
  inputShape : Nat × Nat
  scoreThreshold : ℚ := 35 / 100
  keypointThreshold : ℚ := 30 / 100
  inputHeight_pos : 0 < inputShape.1 := by decide
  inputWidth_pos : 0 < inputShape.2 := by decide
  scoreThreshold_bounds : 0 ≤ scoreThreshold ∧ scoreThreshold ≤ 1 := by norm_num
  keypointThreshold_bounds : 0 ≤ keypointThreshold ∧ keypointThreshold ≤ 1 := by norm_num

theorem default_scoreThreshold : (0 : ℚ) ≤ 35 / 100 ∧ (35 / 100 : ℚ) ≤ 1 := by norm_num

theorem default_keypointThreshold : (0 : ℚ) ≤ 30 / 100 ∧ (30 / 100 : ℚ) ≤ 1 := by norm_num

/-- The pixels of a BGR image. -/
abbrev Pixels (height width : Nat) := Fin height → Fin width → Fin 3 → UInt8

/-- What a pipeline's `preprocess` makes of an image. -/
abbrev InputTensor (height width : Nat) := Fin 3 → Fin height → Fin width → ℚ

/-- `(image.astype(np.float32) - mean) / std`, with the channels first. -/
def normalized {height width : Nat} (mean std : Fin 3 → ℚ) (image : Pixels height width) :
    InputTensor height width :=
  fun channel row column => ((image row column channel).toNat - mean channel) / std channel

/-- An entry of the `input_shape` of a backend: a size, or the name of one that may vary. -/
inductive Dimension
  | fixed (size : Nat)
  | named (name : String)
  deriving DecidableEq

/-- A `ModelBackend` for inputs of one size: its `input_shape`, empty where it has none, and its
`infer` of the stacked inputs. -/
structure ModelBackend (height width : Nat) where
  inputShape : List Dimension := []
  infer : List (InputTensor height width) → Except String (List NumericArray)

/-- `BoundingBox(x1, y1, x2, y2)`. -/
def BoundingBox.make (x1 y1 x2 y2 : ℚ) : Except String (BoundingBox ℚ) :=
  if h : x1 ≤ x2 ∧ y1 ≤ y2 then
    .ok { x1, y1, x2, y2, x_ordered := h.1, y_ordered := h.2 }
  else .error "bounding box coordinates must be ordered"

/-- `Detection(bbox, score, class_id, class_name)`. -/
def Detection.make (bbox : BoundingBox ℚ) (score : ℚ) (classId : Int) (className : String) :
    Except String (Detection ℚ) :=
  if h : 0 ≤ score ∧ score ≤ 1 then
    .ok { bbox, score, classId, className, score_nonneg := h.1, score_le_one := h.2 }
  else .error "detection score must be in [0, 1]"

theorem BoundingBox.make_eq_ok {x1 y1 x2 y2 : ℚ} {box : BoundingBox ℚ}
    (h : BoundingBox.make x1 y1 x2 y2 = .ok box) :
    box.x1 = x1 ∧ box.y1 = y1 ∧ box.x2 = x2 ∧ box.y2 = y2 := by
  unfold BoundingBox.make at h
  split at h
  · cases h
    exact ⟨rfl, rfl, rfl, rfl⟩
  · cases h

theorem Detection.make_eq_ok {bbox : BoundingBox ℚ} {score : ℚ} {classId : Int}
    {className : String} {detection : Detection ℚ}
    (h : Detection.make bbox score classId className = .ok detection) :
    detection.bbox = bbox ∧ detection.score = score := by
  unfold Detection.make at h
  split at h
  · cases h
    exact ⟨rfl, rfl⟩
  · cases h

/-! ## The batched call -/

namespace ModelBackend

/-- `[output[index : index + 1] for output in outputs]`. -/
def rowOf (outputs : List NumericArray) (index : Nat) : Except String (List NumericArray) :=
  outputs.mapM fun output => output.slice index

/-- `if not outputs or outputs[0].shape[0] != batch: raise ValueError(text)`. -/
def checkRows (text : String) (outputs : List NumericArray) (batch : Nat) : Except String Unit :=
  match outputs with
  | [] => .error text
  | output :: _ =>
    match output.shape with
    | [] => .error "tuple index out of range"
    | rows :: _ => if rows = batch then .ok () else .error text

variable {height width : Nat} (backend : ModelBackend height width) {Item Result : Type}

/-- The call with all inputs stacked: every item gets its own row of every output. -/
def inferStacked (text : String) (tensor : Item → InputTensor height width)
    (decode : List NumericArray → Item → Except String Result) (items : List Item) :
    Except String (List Result) := do
  let outputs ← backend.infer (items.map tensor)
  checkRows text outputs items.length
  items.zipIdx.mapM fun pair => do decode (← rowOf outputs pair.2) pair.1

/-- The call with one input. -/
def inferSingle (tensor : Item → InputTensor height width)
    (decode : List NumericArray → Item → Except String Result) (item : Item) :
    Except String Result := do
  decode (← backend.infer [tensor item]) item

/-- The backend treats the rows of a batch independently: every output of the stacked call has one
row for each input, which is that output of the call with this input alone, and the stacked call
returns where the single ones do. -/
structure RowIndependent (batch : List (InputTensor height width)) : Prop where
  rows : ∀ outputs, backend.infer batch = .ok outputs → ∀ output ∈ outputs,
    output.shape.head? = some batch.length
  row : ∀ outputs, backend.infer batch = .ok outputs → ∀ i tensor, batch[i]? = some tensor →
    backend.infer [tensor] = rowOf outputs i
  returns : (∀ tensor ∈ batch, ∃ outputs, backend.infer [tensor] = .ok outputs) →
    ∃ outputs, backend.infer batch = .ok outputs

theorem checkRows_of_ne {text : String} {output : NumericArray} {rest : List NumericArray}
    {rows batch : Nat} {dimensions : List Nat} (hshape : output.shape = rows :: dimensions)
    (hne : rows ≠ batch) : checkRows text (output :: rest) batch = .error text := by
  simp [checkRows, hshape, hne]

theorem checkRows_of_head {text : String} {output : NumericArray} {rest : List NumericArray}
    {batch : Nat} (hhead : output.shape.head? = some batch) :
    checkRows text (output :: rest) batch = .ok () := by
  obtain ⟨dimensions, hshape⟩ := List.head?_eq_some_iff.mp hhead
  simp [checkRows, hshape]

section Stacked
variable {backend} {text : String} {tensor : Item → InputTensor height width}
  {decode : List NumericArray → Item → Except String Result} {items : List Item}

/-- The loop over the rows of the outputs does what the calls with one input do. -/
theorem mapM_rowOf (h : backend.RowIndependent (items.map tensor)) {outputs : List NumericArray}
    (houtputs : backend.infer (items.map tensor) = .ok outputs) :
    (items.zipIdx.mapM fun pair => do decode (← rowOf outputs pair.2) pair.1) =
      items.mapM (backend.inferSingle tensor decode) := by
  apply Loops.mapM_zipIdx 0
  intro i item hitem
  have hrow := h.row outputs houtputs i (tensor item) (by simp [hitem])
  rw [inferSingle, hrow, Nat.zero_add]

/-- The stacked call returns what the calls with one input return. -/
theorem inferStacked_eq_ok_iff (h : backend.RowIndependent (items.map tensor))
    (hitems : items ≠ []) (hdecode : ∀ item result, decode [] item ≠ .ok result)
    {results : List Result} :
    backend.inferStacked text tensor decode items = .ok results ↔
      items.mapM (backend.inferSingle tensor decode) = .ok results := by
  constructor
  · intro hstacked
    obtain ⟨outputs, houtputs, hstacked⟩ := Loops.bind_eq_ok hstacked
    obtain ⟨-, -, hstacked⟩ := Loops.bind_eq_ok hstacked
    rw [← mapM_rowOf h houtputs]
    exact hstacked
  · intro hsingle
    have hcalls : ∀ x ∈ items.map tensor, ∃ outputs, backend.infer [x] = .ok outputs := by
      intro x hx
      obtain ⟨item, hitem, rfl⟩ := List.mem_map.mp hx
      obtain ⟨i, hi⟩ := List.getElem?_of_mem hitem
      obtain ⟨result, -, hresult⟩ := Loops.getElem?_mapM hsingle hi
      obtain ⟨outputs, houtputs, -⟩ := Loops.bind_eq_ok hresult
      exact ⟨outputs, houtputs⟩
    obtain ⟨outputs, houtputs⟩ := h.returns hcalls
    rw [← mapM_rowOf h houtputs] at hsingle
    cases outputs with
    | nil =>
      obtain ⟨item, rest, rfl⟩ := List.exists_cons_of_ne_nil hitems
      obtain ⟨result, -, hresult⟩ := Loops.getElem?_mapM hsingle (j := 0) rfl
      exact absurd hresult (hdecode item result)
    | cons output rest =>
      have hrows := h.rows _ houtputs output List.mem_cons_self
      rw [List.length_map] at hrows
      rw [inferStacked, houtputs]
      show checkRows text (output :: rest) items.length >>= _ = _
      rw [checkRows_of_head hrows]
      exact hsingle

/-- A first output with another number of rows is not given to anyone. -/
theorem inferStacked_of_ne {output : NumericArray} {rest : List NumericArray} {rows : Nat}
    {dimensions : List Nat} (houtputs : backend.infer (items.map tensor) = .ok (output :: rest))
    (hshape : output.shape = rows :: dimensions) (hne : rows ≠ items.length) :
    backend.inferStacked text tensor decode items = .error text := by
  rw [inferStacked, houtputs]
  show checkRows text (output :: rest) items.length >>= _ = _
  rw [checkRows_of_ne hshape hne]
  rfl

end Stacked

/-- A model with two outputs, each of which has a row for every input. -/
def ofRows (inputShape : List Dimension) (first second : List Nat)
    (firstRow : InputTensor height width → { row : List ℚ // row.length = first.prod })
    (secondRow : InputTensor height width → { row : List ℚ // row.length = second.prod }) :
    ModelBackend height width where
  inputShape := inputShape
  infer batch :=
    .ok [.stack first (batch.map firstRow), .stack second (batch.map secondRow)]

/-- Such a model treats the rows of every batch independently. -/
theorem ofRows_rowIndependent {inputShape : List Dimension} {first second : List Nat}
    {firstRow : InputTensor height width → { row : List ℚ // row.length = first.prod }}
    {secondRow : InputTensor height width → { row : List ℚ // row.length = second.prod }}
    (batch : List (InputTensor height width)) :
    (ofRows inputShape first second firstRow secondRow).RowIndependent batch := by
  refine ⟨?_, ?_, ?_⟩
  · intro outputs houtputs output houtput
    cases houtputs
    rcases List.mem_cons.mp houtput with rfl | hsecond
    · simp [NumericArray.stack]
    · rw [List.mem_singleton.mp hsecond]
      simp [NumericArray.stack]
  · intro outputs houtputs i tensor htensor
    cases houtputs
    have hfirst : (batch.map firstRow)[i]? = some (firstRow tensor) := by simp [htensor]
    have hsecond : (batch.map secondRow)[i]? = some (secondRow tensor) := by simp [htensor]
    rw [rowOf, List.mapM_cons, List.mapM_cons, NumericArray.slice_stack hfirst,
      NumericArray.slice_stack hsecond]
    rfl
  · intro _
    exact ⟨_, rfl⟩

end ModelBackend
end EdgeSafety
