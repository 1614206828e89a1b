import Mathlib.Tactic.NormNum
import EdgeSafety.Edge.CaptureDisplay

/-!
# The motion gate of the previews

The processor compares a frame with the last one it saw, of whatever camera. Two runs in which the
same happens to a camera ask the same previews of the processor, since each camera has a buffer of
its own; what the processor decides may differ (`decisions_eq_iff`).
-/

namespace EdgeSafety

namespace FrameProcessor

variable {Gray : Type} (cv2 : OpenCv Gray)

/-- Whether a frame is sent, and the frame remembered from then on. -/
def decide (p : FrameProcessor) (previous : Option Gray) (frame : NdArray) :
    Bool × Option Gray :=
  ((p.process cv2 previous frame).1.isSome, (p.process cv2 previous frame).2)

/-- Without a threshold every frame is sent. -/
theorem decide_of_nonpos {p : FrameProcessor} (h : p.motionThreshold ≤ 0) (previous : Option Gray)
    (frame : NdArray) : (p.decide cv2 previous frame).1 = true := by
  show (p.process cv2 previous frame).1.isSome = true
  rw [isSome_process, Option.all_eq_true]
  intro gray _
  exact decide_eq_true (h.trans (motionRatio_nonneg ..))

/-- With one, a frame is not sent after the same frame. -/
theorem decide_same {p : FrameProcessor} (h : 0 < p.motionThreshold) (frame : NdArray) :
    (p.decide cv2 (some (cv2.cvtColor frame)) frame).1 = false := by
  show (p.process cv2 _ frame).1.isSome = false
  rw [isSome_process, Option.all_some, motionRatio_self]
  simpa using h

end FrameProcessor

namespace Channel

variable {Gray Payload : Type} {setup : CaptureSetup Gray Payload}

/-- Where no slot is FREE and no result is new, a preview of the current frame is due. -/
theorem handle_of_full (setup : CaptureSetup Gray Payload) {buf : Channel setup.layout}
    (hfull : buf.memory.pickFree = none) (hold : buf.memory.resultSeq = buf.lastResultSeq)
    (frame : NdArray) :
    buf.handle setup frame = (some frame, buf) := by
  have hread : buf.memory.readResult setup.loads buf.lastResultSeq = (none, buf.lastResultSeq) :=
    if_pos hold
  simp [handle, writeFree, hfull, readBack, hread]

/-- A frame of one pixel fits into every slot, and fills it. -/
theorem writeFrame_pixel (setup : CaptureSetup Gray Payload) (slot : FrameSlot setup.layout) :
    (slot.writeFrame (blackFrame 1 1)).1 = .ok () ∧
      (slot.writeFrame (blackFrame 1 1)).2.state = .filled := by
  rcases FrameSlot.writeFrame_state slot (blackFrame 1 1) with ⟨⟨message, herror⟩, -⟩ | hok
  · exfalso
    have hshape : (blackFrame 1 1).shape = [1, 1, 3] := rfl
    have hfits : 1 ≤ setup.layout.maxHeight ∧ 1 ≤ setup.layout.maxWidth :=
      ⟨setup.maxHeight_pos, setup.maxWidth_pos⟩
    have hbytes : (blackFrame 1 1).bytes.length = 1 * 1 * 3 := rfl
    unfold FrameSlot.writeFrame at herror
    rw [hshape] at herror
    simp only [dif_pos hfits, dif_pos hbytes] at herror
    simp at herror
  · exact hok

/-- The frame of one pixel is written to a slot. -/
def showPixel (buf : Channel setup.layout) (b : Fin 2) : Channel setup.layout :=
  { buf with memory := (buf.memory.writeFrame b (blackFrame 1 1)).2 }

theorem state_showPixel (buf : Channel setup.layout) (b b' : Fin 2) :
    ((buf.showPixel b).memory.slot b').state =
      if b' = b then .filled else (buf.memory.slot b').state := by
  show (Function.update buf.memory.slot b _ b').state = _
  by_cases h : b' = b
  · subst h
    rw [Function.update_self, if_pos rfl]
    exact (writeFrame_pixel setup _).2
  · rw [Function.update_of_ne h, if_neg h]

/-- Such a frame fills the FREE slot it is written to, and a preview of it is due. -/
theorem handle_pixel (setup : CaptureSetup Gray Payload) {buf : Channel setup.layout}
    {b : Fin 2} (hfree : buf.memory.pickFree = some b)
    (hold : buf.memory.resultSeq = buf.lastResultSeq) :
    buf.handle setup (blackFrame 1 1) = (some (blackFrame 1 1), buf.showPixel b) := by
  have hok : (buf.memory.writeFrame b (blackFrame 1 1)).1 = .ok () :=
    (writeFrame_pixel setup (buf.memory.slot b)).1
  have hread : (buf.memory.writeFrame b (blackFrame 1 1)).2.readResult setup.loads
      buf.lastResultSeq = (none, buf.lastResultSeq) := if_pos hold
  simp [handle, writeFree, hfree, hok, readBack, hread, showPixel]

end Channel

namespace CaptureDisplay

variable {Gray Payload : Type} {setup : CaptureSetup Gray Payload}

/-- The images of which previews are due, in order, each with its camera. -/
def due (s : CaptureDisplay setup) (events : List (String × CameraEvent)) :
    List (String × Option NdArray) :=
  (Family.run (Channel.update setup) s.buffers events).1.map fun answer => (answer.1, answer.2.join)

/-- A run is the processor at work on the images of which previews are due. -/
theorem run_eq (s : CaptureDisplay setup) (events : List (String × CameraEvent)) :
    s.run events =
      SharedDevice.serve (setup.processor.decide setup.cv2) s.prevFrameGray (s.due events) := by
  induction events generalizing s with
  | nil => rfl
  | cons event events ih =>
    obtain ⟨camera, e⟩ := event
    rw [run, ih, due, due, Family.run, Family.call]
    cases hbuf : s.buffers camera with
    | none =>
      cases e with
      | frame frame => simp [step, handleFrame, hbuf, SharedDevice.serve]
      | inference call => simp [step, hbuf, SharedDevice.serve]
    | some buf =>
      cases e with
      | inference call => simp [step, hbuf, Channel.update, SharedDevice.serve]
      | frame frame =>
        cases himage : (buf.handle setup frame).1 with
        | none => simp [step, handleFrame, hbuf, himage, Channel.update, SharedDevice.serve]
        | some image =>
          simp [step, handleFrame, hbuf, himage, Channel.update, SharedDevice.serve,
            FrameProcessor.decide]

/-- The images of which previews of a camera are due, given what happens to it. -/
def previews (setup : CaptureSetup Gray Payload) (own : List CameraEvent) :
    List (Option NdArray) :=
  (Family.solo (Channel.update setup) (Channel.create setup.layout) own).2

theorem ofKey_map_join {β : Type} (camera : String) (answers : List (String × Option (Option β))) :
    Family.ofKey camera (answers.map fun answer => (answer.1, answer.2.join)) =
      (Family.ofKey camera answers).map Option.join := by
  induction answers with
  | nil => rfl
  | cons answer answers ih =>
    obtain ⟨other, a⟩ := answer
    by_cases h : other = camera
    · subst h
      rw [List.map_cons, Family.ofKey_cons_self, Family.ofKey_cons_self, List.map_cons, ih]
    · rw [List.map_cons, Family.ofKey_cons_of_ne h, Family.ofKey_cons_of_ne h, ih]

theorem buffers_init {camera : String} (h : camera ∈ setup.cameras) :
    (init setup).buffers camera = some (Channel.create setup.layout) := if_pos h

/-- What is due for a camera depends on what happens to that camera only. -/
theorem ofKey_due {camera : String} (h : camera ∈ setup.cameras)
    (events : List (String × CameraEvent)) :
    Family.ofKey camera ((init setup).due events) =
      previews setup (Family.ofKey camera events) := by
  have hmember := (Family.run_member (Channel.update setup) (buffers_init h) events).1
  rw [due, ofKey_map_join, hmember, List.map_map]
  exact List.map_id _

/-- Nothing is due for a camera without a buffer. -/
theorem ofKey_due_of_not_mem {camera : String} (h : camera ∉ setup.cameras)
    (events : List (String × CameraEvent)) :
    Family.ofKey camera ((init setup).due events) =
      (Family.ofKey camera events).map fun _ => none := by
  have hnone : (init setup).buffers camera = none := if_neg h
  have hstranger := Family.ofKey_run_of_stranger (Channel.update setup) hnone events
  rw [due, ofKey_map_join, hstranger, List.map_map]
  rfl

theorem decisions_eq (camera : String) (events : List (String × CameraEvent)) :
    decisions setup camera events =
      Family.ofKey camera (SharedDevice.serve (setup.processor.decide setup.cv2) none
        ((init setup).due events)) := by
  rw [decisions, run_eq]
  rfl

/-- The decisions for a camera are the same in any two runs in which the same happens to it. -/
def GatedPerCamera (setup : CaptureSetup Gray Payload) (camera : String)
    (own : List CameraEvent) : Prop :=
  ∀ events events' : List (String × CameraEvent), Family.ofKey camera events = own →
    Family.ofKey camera events' = own →
      decisions setup camera events = decisions setup camera events'

/-- Decisions that are a function of what happens to the camera. -/
theorem gatedPerCamera_of_eq {camera : String} {own : List CameraEvent}
    (answers : List (Option Bool))
    (h : ∀ events, Family.ofKey camera events = own → decisions setup camera events = answers) :
    GatedPerCamera setup camera own :=
  fun events events' hown hown' => (h events hown).trans (h events' hown').symm

/-- What a second camera shows: its two slots are filled, then it shows the image. -/
def interfering (image : NdArray) : List CameraEvent :=
  [.frame (blackFrame 1 1), .frame (blackFrame 1 1), .frame image]

theorem previews_interfering (setup : CaptureSetup Gray Payload) (image : NdArray) :
    previews setup (interfering image) =
      [some (blackFrame 1 1), some (blackFrame 1 1), some image] := by
  let buf := Channel.create setup.layout
  have hsecond : (buf.showPixel bufA).memory.pickFree = some bufB := by
    unfold FrameBuffer.pickFree FrameBuffer.find
    rw [Channel.state_showPixel, Channel.state_showPixel]
    rfl
  have hthird : ((buf.showPixel bufA).showPixel bufB).memory.pickFree = none := by
    unfold FrameBuffer.pickFree FrameBuffer.find
    rw [Channel.state_showPixel, Channel.state_showPixel, Channel.state_showPixel]
    rfl
  have h1 : buf.handle setup (blackFrame 1 1) = (some (blackFrame 1 1), buf.showPixel bufA) :=
    Channel.handle_pixel setup rfl rfl
  have h2 := Channel.handle_pixel setup hsecond rfl
  have h3 := Channel.handle_of_full setup hthird rfl image
  simp only [interfering, previews, Family.solo, Channel.update]
  rw [show Channel.create setup.layout = buf from rfl, h1]
  simp only [h2, h3]

/-- What is due when first something happens to one camera and then to another. -/
theorem due_append {camera other : String} (h : camera ∈ setup.cameras)
    (hother : other ∈ setup.cameras) (hne : other ≠ camera) (before own : List CameraEvent) :
    (init setup).due (before.map (other, ·) ++ own.map (camera, ·)) =
      (previews setup before).map (other, ·) ++ (previews setup own).map (camera, ·) := by
  have hbefore := Family.run_map (Channel.update setup) (buffers_init hother) before
  have hfamily := (Family.run_member (Channel.update setup) (buffers_init h)
    (before.map (other, ·))).2
  rw [Family.ofKey_map_of_ne hne] at hfamily
  rw [due, Family.run_append, List.map_append, hbefore, Family.run_map _ hfamily, List.map_map,
    List.map_map]
  rfl

/-- In a run in which nothing happens to other cameras, the first image is sent. -/
theorem first_decision_alone {camera : String} (h : camera ∈ setup.cameras)
    {own : List CameraEvent} {image : NdArray}
    (hfirst : (previews setup own).findSome? id = some image) :
    (decisions setup camera (own.map (camera, ·))).findSome? id = some true := by
  have hdue : (init setup).due (own.map (camera, ·)) =
      (previews setup own).map (camera, ·) := by
    rw [due, Family.run_map _ (buffers_init h), List.map_map]
    rfl
  rw [decisions_eq, hdue, SharedDevice.findSome?_serve, hfirst]
  rfl

/-- After a second camera showed the same image, it is not. -/
theorem first_decision_after {camera other : String} (h : camera ∈ setup.cameras)
    (hother : other ∈ setup.cameras) (hne : other ≠ camera) (hthreshold :
      0 < setup.processor.motionThreshold) {own : List CameraEvent} {image : NdArray}
    (hfirst : (previews setup own).findSome? id = some image) :
    (decisions setup camera
      ((interfering image).map (other, ·) ++ own.map (camera, ·))).findSome? id = some false := by
  have hremembered : SharedDevice.settle (setup.processor.decide setup.cv2) none
      ([some (blackFrame 1 1), some (blackFrame 1 1), some image].map (other, ·)) =
        some (setup.cv2.cvtColor image) := by
    simp only [List.map_cons, List.map_nil, SharedDevice.settle, FrameProcessor.decide,
      FrameProcessor.process_snd]
  rw [decisions_eq, due_append h hother hne, previews_interfering, SharedDevice.serve_append,
    Family.ofKey_append, hremembered]
  simp only [List.map_cons, List.map_nil, SharedDevice.serve, Family.ofKey_cons_of_ne hne]
  rw [show Family.ofKey camera [] = ([] : List (Option Bool)) from rfl, List.nil_append,
    SharedDevice.findSome?_serve, hfirst]
  exact congrArg some (FrameProcessor.decide_same setup.cv2 hthreshold image)

/-- Where no preview of a camera is due, nothing is decided for it. -/
theorem decisions_of_silent {camera : String} {events : List (String × CameraEvent)}
    (h : ∀ image ∈ Family.ofKey camera ((init setup).due events), image = none) :
    decisions setup camera events =
      (Family.ofKey camera ((init setup).due events)).map fun _ => none := by
  rw [decisions_eq, SharedDevice.ofKey_serve_of_silent h]

/-- No frame is held back for want of motion. -/
theorem gatedPerCamera_of_nonpos {setup : CaptureSetup Gray Payload} {camera : String}
    (hcamera : camera ∈ setup.cameras) (hthreshold : setup.processor.motionThreshold ≤ 0)
    (own : List CameraEvent) : GatedPerCamera setup camera own := by
  apply gatedPerCamera_of_eq ((previews setup own).map (Option.map fun _ => true))
  intro events hown
  rw [decisions_eq, SharedDevice.ofKey_serve_of_const
    (FrameProcessor.decide_of_nonpos setup.cv2 hthreshold), ofKey_due hcamera, hown]

/-- No other camera has a buffer. -/
theorem gatedPerCamera_of_alone {setup : CaptureSetup Gray Payload} {camera : String}
    (hcamera : camera ∈ setup.cameras) (halone : ∀ other ∈ setup.cameras, other = camera)
    (own : List CameraEvent) : GatedPerCamera setup camera own := by
  apply gatedPerCamera_of_eq (Family.ofKey camera (SharedDevice.serve
    (setup.processor.decide setup.cv2) none ((previews setup own).map (camera, ·))))
  intro events hown
  rw [decisions_eq, SharedDevice.ofKey_serve_alone ?_, ofKey_due hcamera, hown]
  -- what is due comes from a camera with a buffer
  rintro ⟨other, image⟩ hdue hne
  have hother : other ∉ setup.cameras := fun hmem => hne (halone other hmem)
  have himage := Family.mem_ofKey.mpr hdue
  rw [ofKey_due_of_not_mem hother, List.mem_map] at himage
  obtain ⟨_, -, rfl⟩ := himage
  rfl

/-- No preview of the camera is due. -/
theorem gatedPerCamera_of_silent {setup : CaptureSetup Gray Payload} {camera : String}
    (hcamera : camera ∈ setup.cameras) {own : List CameraEvent}
    (himages : ∀ image ∈ previews setup own, image = none) :
    GatedPerCamera setup camera own := by
  apply gatedPerCamera_of_eq ((previews setup own).map fun _ => none)
  intro events hown
  rw [decisions_of_silent ?_, ofKey_due hcamera, hown]
  rw [ofKey_due hcamera, hown]
  exact himages

/-- The camera has no buffer. -/
theorem gatedPerCamera_of_notMem {setup : CaptureSetup Gray Payload} {camera : String}
    (hcamera : camera ∉ setup.cameras) (own : List CameraEvent) :
    GatedPerCamera setup camera own := by
  apply gatedPerCamera_of_eq (own.map fun _ => none)
  intro events hown
  rw [decisions_of_silent ?_, ofKey_due_of_not_mem hcamera, hown, List.map_map]
  · rfl
  · simp [ofKey_due_of_not_mem hcamera]

/-- The decisions for a camera depend on what happens to that camera alone exactly when no frame is
ever held back for want of motion, or the camera has no buffer, or no other camera has one, or no
preview of the camera is due. -/
theorem gatedPerCamera_iff (setup : CaptureSetup Gray Payload) (camera : String)
    (own : List CameraEvent) :
    GatedPerCamera setup camera own ↔
      setup.processor.motionThreshold ≤ 0 ∨ camera ∉ setup.cameras ∨
        (∀ other ∈ setup.cameras, other = camera) ∨
        ∀ image ∈ previews setup own, image = none := by
  constructor
  · intro hgated
    by_contra hnot
    simp only [not_or, not_le, not_not] at hnot
    obtain ⟨hthreshold, hcamera, hothers, himages⟩ := hnot
    obtain ⟨other, hother, hne⟩ : ∃ other ∈ setup.cameras, other ≠ camera := by
      simpa using hothers
    obtain ⟨image, hfirst⟩ : ∃ image, (previews setup own).findSome? id = some image := by
      rw [← Option.ne_none_iff_exists', Ne, List.findSome?_eq_none_iff]
      exact himages
    have halone := first_decision_alone hcamera hfirst
    have hafter := first_decision_after hcamera hother hne hthreshold hfirst
    rw [hgated _ ((interfering image).map (other, ·) ++ own.map (camera, ·))
      (Family.ofKey_map_self ..) (by
        rw [Family.ofKey_append, Family.ofKey_map_of_ne hne, Family.ofKey_map_self]
        rfl), hafter] at halone
    cases halone
  · intro hcondition
    by_cases hcamera : camera ∈ setup.cameras
    · rcases hcondition with hthreshold | hnot | halone | himages
      · exact gatedPerCamera_of_nonpos hcamera hthreshold own
      · exact absurd hcamera hnot
      · exact gatedPerCamera_of_alone hcamera halone own
      · exact gatedPerCamera_of_silent hcamera himages
    · exact gatedPerCamera_of_notMem hcamera own

/-- Two cameras, and what OpenCV computes of black pictures. -/
def twoCameras : CaptureSetup (List UInt8) Unit where
  layout := {}
  maxWidth_pos := by decide
  maxHeight_pos := by decide
  cameras := ["cam-01", "cam-02"]
  processor := {}
  cv2 :=
    { cvtColor := fun frame => List.replicate (frame.bytes.length / 3) 0
      shrink := fun _ => Vector.replicate (160 * 120) 0
      resize := fun _ size => blackFrame size.2 size.1
      imencode := fun _ _ => [0xff, 0xd8] }
  loads _ := none
  overlay frame _ := frame
  parses _ := true

/-- The first frame of a camera is sent; after the same frame of another camera it is not. -/
theorem first_frame_withheld :
    decisions twoCameras "cam-01" [("cam-01", .frame (blackFrame 1 1))] = [some true] ∧
    decisions twoCameras "cam-01"
        [("cam-02", .frame (blackFrame 1 1)), ("cam-01", .frame (blackFrame 1 1))] =
      [some false] ∧
    ¬ GatedPerCamera twoCameras "cam-01" [.frame (blackFrame 1 1)] := by
  have hpixel : (Channel.create twoCameras.layout).handle twoCameras (blackFrame 1 1) =
      (some (blackFrame 1 1), (Channel.create twoCameras.layout).showPixel bufA) :=
    Channel.handle_pixel twoCameras rfl rfl
  have hpreview : previews twoCameras [.frame (blackFrame 1 1)] = [some (blackFrame 1 1)] := by
    simp only [previews, Family.solo, Channel.update, hpixel]
  have hfirst : "cam-01" ∈ twoCameras.cameras := by decide
  have hsecond : "cam-02" ∈ twoCameras.cameras := by decide
  have halone : decisions twoCameras "cam-01" [("cam-01", .frame (blackFrame 1 1))] =
      [some true] := by
    have hdue := due_append hfirst hsecond (by decide) [] [.frame (blackFrame 1 1)]
    rw [hpreview] at hdue
    rw [decisions_eq]
    exact congrArg (fun due => Family.ofKey "cam-01" (SharedDevice.serve _ none due)) hdue
  have hafter : decisions twoCameras "cam-01"
      [("cam-02", .frame (blackFrame 1 1)), ("cam-01", .frame (blackFrame 1 1))] =
        [some false] := by
    have hdue := due_append hfirst hsecond (by decide) [.frame (blackFrame 1 1)]
      [.frame (blackFrame 1 1)]
    rw [hpreview] at hdue
    have hskipped := FrameProcessor.decide_same twoCameras.cv2 (p := twoCameras.processor)
      (by norm_num [twoCameras]) (blackFrame 1 1)
    rw [decisions_eq]
    refine (congrArg (fun due => Family.ofKey "cam-01" (SharedDevice.serve _ none due)) hdue).trans
      ?_
    simp only [List.map_cons, List.map_nil, List.singleton_append, SharedDevice.serve,
      FrameProcessor.decide, FrameProcessor.process_snd] at hskipped ⊢
    rw [Family.ofKey_cons_of_ne (by decide), Family.ofKey_cons_self, hskipped]
    rfl
  refine ⟨halone, hafter, ?_⟩
  intro hgated
  have hsame := hgated [("cam-01", .frame (blackFrame 1 1))]
    [("cam-02", .frame (blackFrame 1 1)), ("cam-01", .frame (blackFrame 1 1))] rfl rfl
  rw [halone, hafter] at hsame
  cases hsame

end CaptureDisplay

end EdgeSafety
