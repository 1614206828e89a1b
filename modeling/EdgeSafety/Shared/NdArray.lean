import Mathlib.Algebra.BigOperators.Group.List.Basic

/-!
# Arrays handed between components

The part of numpy's `ndarray` the runtime relies on: an element type, a shape and the elements in
C order, which is what `np.ascontiguousarray(a).reshape(-1)` lists whatever the strides of `a`.
-/

namespace EdgeSafety

/-- `dtype`. Only `uint8` is ever accepted, so the others are told apart by their size alone. -/
inductive DType
  | uint8
  | other (itemsize : Nat)
  deriving DecidableEq

/-- `dtype.itemsize`. -/
def DType.itemsize : DType → Nat
  | .uint8 => 1
  | .other itemsize => itemsize

/-- `np.ndarray`. -/
structure NdArray where
  dtype : DType
  shape : List Nat
  bytes : List UInt8
  bytes_length : bytes.length = shape.prod * dtype.itemsize
  deriving DecidableEq

namespace NdArray

/-- The height and width of a uint8 `HxWx3` array. -/
def bgrSize (frame : NdArray) : Option (Nat × Nat) :=
  match frame.dtype, frame.shape with
  | .uint8, [height, width, 3] => some (height, width)
  | _, _ => none

/-- `reshape(height, width, 3)` of a flat uint8 array. -/
def ofBgr (height width : Nat) (bytes : List UInt8) (h : bytes.length = height * width * 3) :
    NdArray where
  dtype := .uint8
  shape := [height, width, 3]
  bytes := bytes
  bytes_length := by simp [h, DType.itemsize, Nat.mul_assoc]

theorem bgrSize_eq_some {frame : NdArray} {height width : Nat} :
    frame.bgrSize = some (height, width) ↔
      frame.dtype = .uint8 ∧ frame.shape = [height, width, 3] := by
  constructor
  · intro h
    unfold bgrSize at h
    split at h
    · next hdtype hshape =>
      cases h
      exact ⟨hdtype, hshape⟩
    · cases h
  · rintro ⟨hdtype, hshape⟩
    simp [bgrSize, hdtype, hshape]

/-- A frame of known size has three bytes for each pixel. -/
theorem bytes_length_of_bgrSize {frame : NdArray} {height width : Nat}
    (h : frame.bgrSize = some (height, width)) :
    frame.bytes.length = height * width * 3 := by
  obtain ⟨hdtype, hshape⟩ := bgrSize_eq_some.mp h
  simp [frame.bytes_length, hdtype, hshape, DType.itemsize, Nat.mul_assoc]

/-- A frame is its size together with its bytes. -/
theorem ofBgr_bytes {frame : NdArray} {height width : Nat}
    (h : frame.bgrSize = some (height, width)) :
    ofBgr height width frame.bytes (bytes_length_of_bgrSize h) = frame := by
  obtain ⟨hdtype, hshape⟩ := bgrSize_eq_some.mp h
  cases frame
  simp only at hdtype hshape
  simp [ofBgr, hdtype, hshape]

end NdArray

/-- A picture without light. -/
def blackFrame (height width : Nat) : NdArray :=
  NdArray.ofBgr height width (List.replicate (height * width * 3) 0) List.length_replicate

end EdgeSafety
