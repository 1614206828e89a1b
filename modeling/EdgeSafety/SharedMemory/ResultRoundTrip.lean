import EdgeSafety.Detection.InferenceWorker

/-!
# Results through the result segment

A result that P2 builds and writes, and that P1 then reads. Whatever the segment held before, P1
gets the result back exactly where its text fits the segment and the sequence number tells of it
(`roundTrips_iff`); of a longer text the end is cut off, and P1 gets nothing.
-/

namespace EdgeSafety

variable {K : Type} {layout : FrameBufferLayout}

namespace InferenceWorker

/-- What JSON does with a result, which is an object: its text is read back, it has no NUL and more
than its two braces, and a text that is cut off within is not read. -/
structure JsonText (dumps : InferenceResult K → List UInt8)
    (loads : List UInt8 → Option (InferenceResult K)) (result : InferenceResult K) : Prop where
  round_trip : loads (dumps result) = some result
  nul_free : 0 ∉ dumps result
  braces : 2 < (dumps result).length
  cut_off : ∀ n < (dumps result).length, loads ((dumps result).take n) = none

/-- P2 writes a result, and P1 then reads it, with the index of the buffer. -/
def RoundTrips (dumps : InferenceResult K → List UInt8)
    (loads : List UInt8 → Option (InferenceResult K)) (buffer : FrameBuffer layout)
    (lastResultSeq : Nat) (bufIdx : Fin 2) (result : InferenceResult K) : Prop :=
  (buffer.writeResult (dumps result) bufIdx).1 = .ok () ∧
    ((buffer.writeResult (dumps result) bufIdx).2.readResult loads lastResultSeq).1 =
      some (result, (bufIdx.val : Int))

section RoundTrip
variable {dumps : InferenceResult K → List UInt8} {loads : List UInt8 → Option (InferenceResult K)}
  {result : InferenceResult K}

/-- What P1 decodes: the result, if its text fits the segment. -/
theorem JsonText.decoded (h : JsonText dumps loads result) (segment : List UInt8) :
    (FrameBuffer.resultText (FrameBuffer.terminated segment (dumps result))).bind loads =
      if (dumps result).length < resultSize then some result else none := by
  rw [FrameBuffer.resultText_of_nul_free segment h.braces h.nul_free, Option.bind_some]
  split
  · next hfits => rw [List.take_of_length_le (Nat.le_sub_one_of_lt hfits), h.round_trip]
  · next hlong =>
    apply h.cut_off
    have hsize : 0 < resultSize := by decide
    omega

theorem JsonText.delivered_iff (h : JsonText dumps loads result) (buffer : FrameBuffer layout)
    (lastResultSeq : Nat) (bufIdx : Fin 2) :
    RoundTrips dumps loads buffer lastResultSeq bufIdx result ↔
      (dumps result).length < resultSize ∧ buffer.resultSeq + 1 < 2 ^ 64 ∧
        buffer.resultSeq + 1 ≠ lastResultSeq := by
  unfold RoundTrips FrameBuffer.writeResult
  by_cases hseq : buffer.resultSeq + 1 < 2 ^ 64
  · simp only [hseq, if_true, true_and, FrameBuffer.readResult, h.decoded]
    by_cases hlast : buffer.resultSeq + 1 = lastResultSeq
    · simp [hlast]
    · by_cases hfits : (dumps result).length < resultSize
      · simp [hlast, hfits]
      · simp [hlast, hfits]
  · rw [if_neg hseq]
    constructor
    · rintro ⟨hraised, -⟩
      cases hraised
    · rintro ⟨-, hwritten, -⟩
      exact absurd hwritten hseq

/-- A result makes its way through the segment, whatever that held before, exactly where its text
fits and its sequence number can be written and is not the one that P1 read last. -/
theorem roundTrips_iff [Field K] [LinearOrder K] (buffer : FrameBuffer layout)
    (lastResultSeq : Nat) (bufIdx : Fin 2) (detections : List (ModelManager.Detection K))
    (scaleX scaleY : K) (timestamp : String)
    (hjson : JsonText dumps loads (buildResult detections scaleX scaleY timestamp)) :
    RoundTrips dumps loads buffer lastResultSeq bufIdx
        (buildResult detections scaleX scaleY timestamp) ↔
      (dumps (buildResult detections scaleX scaleY timestamp)).length < resultSize ∧
        buffer.resultSeq + 1 < 2 ^ 64 ∧ buffer.resultSeq + 1 ≠ lastResultSeq :=
  hjson.delivered_iff buffer lastResultSeq bufIdx

/-- JSON, as far as the text of one result goes. -/
theorem jsonText_exact {result : InferenceResult K} {text : List UInt8} (hnull : 0 ∉ text)
    (hlength : 2 < text.length) :
    JsonText (fun _ => text) (fun other => if other = text then some result else none) result where
  round_trip := if_pos rfl
  nul_free := hnull
  braces := hlength
  cut_off := by
    intro n hn
    apply if_neg
    intro heq
    have hcut := congrArg List.length heq
    rw [List.length_take] at hcut
    omega

end RoundTrip

/-- The bytes of an ASCII text. -/
def ascii (text : String) : List UInt8 := text.toList.map fun c => UInt8.ofNat c.toNat

/-- The text of a result without objects. -/
def emptyText : List UInt8 :=
  ascii "\x7b\"objects\": [], \"timestamp\": \"2024-05-01T12:00:00\"\x7d"

theorem emptyText_jsonText :
    JsonText (fun _ => emptyText)
      (fun other => if other = emptyText then some (buildResult [] 1 1 "2024-05-01T12:00:00")
        else none)
      (buildResult [] 1 1 "2024-05-01T12:00:00" : InferenceResult ℚ) :=
  jsonText_exact (by decide) (by decide)

theorem roundTrips_empty :
    RoundTrips (fun _ => emptyText)
      (fun other => if other = emptyText then some (buildResult [] 1 1 "2024-05-01T12:00:00")
        else none)
      (FrameBuffer.create ⟨1, 1⟩) 0 bufA
      (buildResult [] 1 1 "2024-05-01T12:00:00" : InferenceResult ℚ) :=
  (roundTrips_iff (FrameBuffer.create ⟨1, 1⟩) 0 bufA [] 1 1 "2024-05-01T12:00:00"
    emptyText_jsonText).mpr (by decide)

/-- A person, and its text as an object. -/
def person : ModelManager.Detection ℚ :=
  { bbox := ⟨0, 0, 64, 128⟩, clsId := 0, clsName := "person", conf := 1 / 2 }

def personText : String :=
  "\x7b\"cls\": \"person\", \"conf\": 0.5, " ++
    "\"bbox\": \x7b\"x1\": 0.0, \"y1\": 0.0, \"x2\": 64.0, \"y2\": 128.0\x7d\x7d"

/-- The text of a result with a hundred persons. -/
def crowdText : List UInt8 :=
  ascii "\x7b\"objects\": [" ++
    (ascii personText ++ (List.replicate 99 (ascii (", " ++ personText))).flatten) ++
    ascii "], \"timestamp\": \"2024-05-01T12:00:00\"\x7d"

theorem crowdText_length : resultSize ≤ crowdText.length := by
  have hperson : (ascii (", " ++ personText)).length = 89 := by decide
  simp only [crowdText, List.length_append, List.length_flatten, List.map_replicate,
    List.sum_replicate, hperson]
  unfold resultSize
  rw [smul_eq_mul]
  omega

theorem crowdText_nul_free : 0 ∉ crowdText := by
  have hfirst : 0 ∉ ascii personText := by decide
  have hperson : 0 ∉ ascii (", " ++ personText) := by decide
  have hhead : 0 ∉ ascii "\x7b\"objects\": [" := by decide
  have htail : 0 ∉ ascii "], \"timestamp\": \"2024-05-01T12:00:00\"\x7d" := by decide
  simp [crowdText, hfirst, hperson, hhead, htail]

/-- A hundred persons are more than the segment holds, and P1 gets no result. -/
theorem crowd_lost :
    let crowd : InferenceResult ℚ :=
      buildResult (List.replicate 100 person) 1 1 "2024-05-01T12:00:00"
    let loads := fun other => if other = crowdText then some crowd else none
    JsonText (fun _ => crowdText) loads crowd ∧
      ¬ RoundTrips (fun _ => crowdText) loads (FrameBuffer.create ⟨1, 1⟩) 0 bufA crowd := by
  intro crowd loads
  have hjson : JsonText (fun _ => crowdText) loads crowd :=
    jsonText_exact crowdText_nul_free (Nat.lt_of_lt_of_le (by decide) crowdText_length)
  refine ⟨hjson, fun h => ?_⟩
  obtain ⟨hfits, -⟩ := (hjson.delivered_iff (FrameBuffer.create ⟨1, 1⟩) 0 bufA).mp h
  exact absurd crowdText_length (Nat.not_le.mpr hfits)

end InferenceWorker
end EdgeSafety
