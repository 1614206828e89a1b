import Mathlib.Data.List.MinMax
import Mathlib.Data.Multiset.MapFold
import Mathlib.Data.Prod.Lex
import EdgeSafety.Capture.LatestFrameBuffer
import EdgeSafety.Lib.Heapq
import EdgeSafety.Lib.PriorityBag

/-!
# The bounded pose queue

`BoundedPoseQueue` of `inference/scheduler.py`. Its requests stand in a heap ordered by rank and
time of request; the victim of a full queue is found by a scan under another key and overwritten
in place. `queue_refines` says that the queue is a bounded priority bag.

A float of a bounding box is an element of `K`.
-/

namespace EdgeSafety

/-- `PosePriority`. -/
inductive PosePriority
  | low
  | medium
  | high
  deriving DecidableEq

/-- `_PRIORITY_RANK`. -/
def PosePriority.rank : PosePriority → Nat
  | .high => 0
  | .medium => 1
  | .low => 2

/-- `PoseRequest`. -/
structure PoseRequest (K : Type) where
  cameraId : String
  trackId : Int
  frame : FramePacket
  bboxXyxy : K × K × K × K
  priority : PosePriority
  requestedAtMonotonicNs : Int

/-- `_PrioritizedPoseRequest`, of which `put` is the only maker. -/
structure PrioritizedPoseRequest (K : Type) where
  rank : Nat
  requestedAtMonotonicNs : Int
  request : PoseRequest K
  rank_eq : rank = request.priority.rank
  requestedAt_eq : requestedAtMonotonicNs = request.requestedAtMonotonicNs

variable {K : Type}

/-- The item that `put` makes of a request. -/
def PrioritizedPoseRequest.of (request : PoseRequest K) : PrioritizedPoseRequest K :=
  ⟨request.priority.rank, request.requestedAtMonotonicNs, request, rfl, rfl⟩

/-- A pair of numbers, which Python compares lexicographically. -/
def PoseKey : Type := ℕ ×ₗ ℤ

instance : LinearOrder PoseKey :=
  @Prod.Lex.instLinearOrder ℕ ℤ Nat.instLinearOrder Int.instLinearOrder

/-- The pair of two numbers. -/
def PoseKey.of (rank : ℕ) (timeNs : ℤ) : PoseKey := toLex (rank, timeNs)

theorem PoseKey.of_le_of {rank rank' : ℕ} {timeNs timeNs' : ℤ} :
    of rank timeNs ≤ of rank' timeNs' ↔ rank < rank' ∨ rank = rank' ∧ timeNs ≤ timeNs' :=
  Prod.Lex.toLex_le_toLex

/-- What the generated `__lt__` compares. -/
def PrioritizedPoseRequest.orderKey (item : PrioritizedPoseRequest K) : PoseKey :=
  .of item.rank item.requestedAtMonotonicNs

/-- `BoundedPoseQueue`. -/
structure BoundedPoseQueue (K : Type) where
  maxsize : Nat
  heap : Array (PrioritizedPoseRequest K)
  dropped : Nat
  maxsize_pos : 1 ≤ maxsize
  isHeap : Heapq.IsHeap PrioritizedPoseRequest.orderKey heap
  size_le : heap.size ≤ maxsize

namespace BoundedPoseQueue

/-- A queue that holds nothing. -/
def empty (K : Type) (maxsize : Nat) (maxsize_pos : 1 ≤ maxsize) : BoundedPoseQueue K where
  maxsize := maxsize
  heap := #[]
  dropped := 0
  maxsize_pos := maxsize_pos
  isHeap := Heapq.isHeap_empty
  size_le := Nat.zero_le _

/-- `BoundedPoseQueue.__init__`. -/
def init (K : Type) (maxsize : Int) : Except String (BoundedPoseQueue K) :=
  if h : maxsize < 1 then .error "maxsize must be positive"
  else .ok (empty K maxsize.toNat (by omega))

/-- The key of the scan for the victim. -/
def worstKey (item : PrioritizedPoseRequest K) : PoseKey :=
  .of item.rank (-item.requestedAtMonotonicNs)

/-- `max(range(len(self._heap)), key=…)`, which is the first of the largest. -/
def worst? (heap : Array (PrioritizedPoseRequest K)) : Option (Fin heap.size) :=
  (List.finRange heap.size).argmax fun index => worstKey heap[index]

theorem worst?_isSome {heap : Array (PrioritizedPoseRequest K)} (h : 0 < heap.size) :
    (worst? heap).isSome := by
  rw [Option.isSome_iff_ne_none, worst?, Ne, List.argmax_eq_none, List.finRange_eq_nil_iff]
  omega

/-- `worst_index` in a queue that holds something. -/
def worstIndex (heap : Array (PrioritizedPoseRequest K)) (h : 0 < heap.size) : Fin heap.size :=
  (worst? heap).get (worst?_isSome h)

/-- `heapq.heappush(self._heap, item)`. -/
def push (q : BoundedPoseQueue K) (hroom : q.heap.size < q.maxsize)
    (item : PrioritizedPoseRequest K) : BoundedPoseQueue K :=
  { q with
    heap := Heapq.heappush PrioritizedPoseRequest.orderKey q.heap item
    isHeap := Heapq.heappush_isHeap q.isHeap item
    size_le := by
      rw [Heapq.size_heappush]
      exact hroom }

/-- `self._heap[worst_index] = item`, with `heapq.heapify(self._heap)`, and one more dropped. -/
def replace (q : BoundedPoseQueue K) (worstIndex : Fin q.heap.size)
    (item : PrioritizedPoseRequest K) : BoundedPoseQueue K :=
  { q with
    heap := Heapq.heapify PrioritizedPoseRequest.orderKey (q.heap.set worstIndex item)
    dropped := q.dropped + 1
    isHeap := Heapq.heapify_isHeap _
    size_le := by
      rw [Heapq.size_heapify, Array.size_set]
      exact q.size_le }

/-- `BoundedPoseQueue.put`. -/
def put (q : BoundedPoseQueue K) (request : PoseRequest K) : Bool × BoundedPoseQueue K :=
  let item := PrioritizedPoseRequest.of request
  if hroom : q.heap.size < q.maxsize then (true, q.push hroom item)
  else
    have hpos : 0 < q.heap.size := Nat.lt_of_lt_of_le q.maxsize_pos (Nat.not_lt.mp hroom)
    let worst := q.heap[worstIndex q.heap hpos]
    if item.rank > worst.rank then (false, { q with dropped := q.dropped + 1 })
    else (true, q.replace (worstIndex q.heap hpos) item)

/-- `BoundedPoseQueue.get`. -/
def get (q : BoundedPoseQueue K) : Option (PoseRequest K) × BoundedPoseQueue K :=
  match h : Heapq.heappop PrioritizedPoseRequest.orderKey q.heap with
  | none => (none, q)
  | some (item, rest) =>
    (some item.request, { q with
      heap := rest
      isHeap := (Heapq.heappop_spec q.isHeap h).2.1
      size_le := by
        have hsize := Heapq.size_heappop q.isHeap h
        have hle := q.size_le
        omega })

/-- The rank and the time of request, by which requests are taken and discarded. -/
def rank (request : PoseRequest K) : Nat := request.priority.rank

/-- The requests that are retained. -/
def bag (q : BoundedPoseQueue K) : Multiset (PoseRequest K) :=
  (q.heap.toList.map PrioritizedPoseRequest.request : List (PoseRequest K))

theorem card_bag (q : BoundedPoseQueue K) : q.bag.card = q.heap.size := by
  simp [bag]

/-- A call and its answer are a step of the bag. -/
structure Refines (q : BoundedPoseQueue K)
    (entry : PriorityBag.Entry (PoseRequest K)) (q' : BoundedPoseQueue K) : Prop where
  step : PriorityBag.Step rank PoseRequest.requestedAtMonotonicNs q.maxsize q.bag entry
  after : entry.after = q'.bag
  dropped : q'.dropped = q.dropped + entry.discarded.toList.length
  maxsize : q'.maxsize = q.maxsize

/-- The order of the heap is the order in which requests are taken. -/
theorem orderKey_le {first second : PrioritizedPoseRequest K} :
    first.orderKey ≤ second.orderKey ↔
      rank first.request < rank second.request ∨
        rank first.request = rank second.request ∧
          first.request.requestedAtMonotonicNs ≤ second.request.requestedAtMonotonicNs := by
  rw [PrioritizedPoseRequest.orderKey, PrioritizedPoseRequest.orderKey, PoseKey.of_le_of,
    first.rank_eq, second.rank_eq, first.requestedAt_eq, second.requestedAt_eq]
  rfl

/-- The request at the index is of the largest rank, and the oldest of its rank. -/
def IsWorst (heap : Array (PrioritizedPoseRequest K)) (index : Fin heap.size) : Prop :=
  ∀ other ∈ heap.toList, rank other.request ≤ rank heap[index].request ∧
    (rank other.request = rank heap[index].request →
      heap[index].request.requestedAtMonotonicNs ≤ other.request.requestedAtMonotonicNs)

theorem worstIndex_isWorst {heap : Array (PrioritizedPoseRequest K)} (h : 0 < heap.size) :
    IsWorst heap (worstIndex heap h) := by
  intro other hother
  obtain ⟨i, hi, rfl⟩ := List.getElem_of_mem hother
  have hmem : worstIndex heap h ∈ worst? heap := Option.get_mem _
  have hle : worstKey heap[i] ≤ worstKey heap[worstIndex heap h] :=
    List.le_of_mem_argmax (f := fun index : Fin heap.size => worstKey heap[index])
      (List.mem_finRange ⟨i, hi⟩) hmem
  rw [worstKey, worstKey, PoseKey.of_le_of, PrioritizedPoseRequest.rank_eq,
    PrioritizedPoseRequest.rank_eq, PrioritizedPoseRequest.requestedAt_eq,
    PrioritizedPoseRequest.requestedAt_eq] at hle
  simp only [Array.getElem_toList, rank] at hle ⊢
  omega

section Refines
variable {q : BoundedPoseQueue K} (item : PrioritizedPoseRequest K)

theorem push_refines (hroom : q.heap.size < q.maxsize) :
    Refines q ⟨.put item.request true, none, item.request ::ₘ q.bag⟩ (q.push hroom item) where
  step := .keep q.bag item.request (by rwa [card_bag])
  after := (Multiset.coe_eq_coe.mpr ((Heapq.heappush_perm q.heap item).map _)).symm
  dropped := rfl
  maxsize := rfl

theorem refuse_refines (hfull : q.heap.size = q.maxsize) {worstIndex : Fin q.heap.size}
    (hworst : IsWorst q.heap worstIndex)
    (hrank : q.heap[worstIndex].rank < item.rank) :
    Refines q ⟨.put item.request false, some item.request, q.bag⟩
      { q with dropped := q.dropped + 1 } where
  step := by
    refine .refuse q.bag item.request (by rwa [card_bag]) ?_
    intro other hother
    obtain ⟨another, hanother, rfl⟩ := List.mem_map.mp (Multiset.mem_coe.mp hother)
    rw [PrioritizedPoseRequest.rank_eq, item.rank_eq] at hrank
    exact (hworst another hanother).1.trans_lt hrank
  after := rfl
  dropped := rfl
  maxsize := rfl

theorem replace_refines (hfull : q.heap.size = q.maxsize) {worstIndex : Fin q.heap.size}
    (hworst : IsWorst q.heap worstIndex) (hrank : ¬ q.heap[worstIndex].rank < item.rank) :
    ∃ victim others, Refines q ⟨.put item.request true, some victim, item.request ::ₘ others⟩
      (q.replace worstIndex item) := by
  let others := (q.heap.toList.eraseIdx worstIndex).map PrioritizedPoseRequest.request
  have hbag : q.bag = q.heap[worstIndex].request ::ₘ (others : Multiset (PoseRequest K)) :=
    Multiset.coe_eq_coe.mpr ((List.getElem_cons_eraseIdx_perm worstIndex.isLt).symm.map _)
  have hothers : ∀ other ∈ others, ∃ another ∈ q.heap.toList, another.request = other := by
    intro other hother
    obtain ⟨another, hanother, rfl⟩ := List.mem_map.mp hother
    exact ⟨another, List.mem_of_mem_eraseIdx hanother, rfl⟩
  refine ⟨q.heap[worstIndex].request, others, ?_, ?_, rfl, rfl⟩
  · rw [hbag]
    refine .replace _ item.request _ ?_ ?_ ?_ ?_
    · rw [← hbag, card_bag, hfull]
    · rw [PrioritizedPoseRequest.rank_eq, item.rank_eq] at hrank
      exact Nat.not_lt.mp hrank
    · intro other hother
      obtain ⟨another, hanother, rfl⟩ := hothers other (Multiset.mem_coe.mp hother)
      exact (hworst another hanother).1
    · intro other hother
      obtain ⟨another, hanother, rfl⟩ := hothers other (Multiset.mem_coe.mp hother)
      exact (hworst another hanother).2
  · refine (Multiset.coe_eq_coe.mpr ?_).symm
    refine ((Heapq.heapify_perm _).map _).trans ?_
    rw [Array.toList_set]
    exact (List.set_perm_cons_eraseIdx worstIndex.isLt item).map _

theorem put_refines (q : BoundedPoseQueue K) (request : PoseRequest K) :
    ∃ entry, entry.exchange = .put request (q.put request).1 ∧
      Refines q entry (q.put request).2 := by
  unfold put
  by_cases hroom : q.heap.size < q.maxsize
  · simp only [dif_pos hroom]
    exact ⟨_, rfl, push_refines (.of request) hroom⟩
  · simp only [dif_neg hroom]
    have hfull : q.heap.size = q.maxsize := Nat.le_antisymm q.size_le (Nat.not_lt.mp hroom)
    have hpos : 0 < q.heap.size := Nat.lt_of_lt_of_le q.maxsize_pos (Nat.not_lt.mp hroom)
    have hworst := worstIndex_isWorst hpos
    by_cases hrank : q.heap[worstIndex q.heap hpos].rank < (PrioritizedPoseRequest.of request).rank
    · rw [if_pos hrank]
      exact ⟨_, rfl, refuse_refines (.of request) hfull hworst hrank⟩
    · rw [if_neg hrank]
      obtain ⟨victim, others, h⟩ := replace_refines (.of request) hfull hworst hrank
      exact ⟨_, rfl, h⟩

theorem get_refines (q : BoundedPoseQueue K) :
    ∃ entry, entry.exchange = .get q.get.1 ∧ Refines q entry q.get.2 := by
  unfold get
  split
  · next hnone =>
    have hempty : q.bag = 0 := by
      rw [bag, Heapq.heappop_eq_none.mp hnone]
      rfl
    refine ⟨⟨.get none, none, 0⟩, rfl, ?_, hempty.symm, rfl, rfl⟩
    rw [hempty]
    exact .none
  · next item rest hsome =>
    obtain ⟨hperm, -, hleast⟩ := Heapq.heappop_spec q.isHeap hsome
    have hbag : q.bag = item.request ::ₘ
        (rest.toList.map PrioritizedPoseRequest.request : List (PoseRequest K)) :=
      Multiset.coe_eq_coe.mpr (hperm.map _)
    refine ⟨⟨.get (some item.request), none, _⟩, rfl, ?_, rfl, rfl, rfl⟩
    rw [hbag]
    refine .take _ item.request ?_
    intro other hother
    obtain ⟨another, hanother, rfl⟩ := List.mem_map.mp (Multiset.mem_coe.mp hother)
    exact orderKey_le.mp (hleast another (hperm.mem_iff.mpr (List.mem_cons_of_mem _ hanother)))

end Refines

/-- A call. -/
inductive Call (K : Type)
  | put (request : PoseRequest K)
  | get

/-- A call, with its answer. -/
def call (q : BoundedPoseQueue K) :
    Call K → PriorityBag.Exchange (PoseRequest K) × BoundedPoseQueue K
  | .put request => (.put request (q.put request).1, (q.put request).2)
  | .get => (.get q.get.1, q.get.2)

/-- A run of calls, with their answers. -/
def run (q : BoundedPoseQueue K) :
    List (Call K) → List (PriorityBag.Exchange (PoseRequest K)) × BoundedPoseQueue K
  | [] => ([], q)
  | c :: calls => ((q.call c).1 :: ((q.call c).2.run calls).1, ((q.call c).2.run calls).2)

theorem call_refines (q : BoundedPoseQueue K) (c : Call K) :
    ∃ entry, entry.exchange = (q.call c).1 ∧ Refines q entry (q.call c).2 := by
  cases c with
  | put request => exact put_refines q request
  | get => exact get_refines q

theorem run_refines (q : BoundedPoseQueue K) (calls : List (Call K)) :
    ∃ log : List (PriorityBag.Entry (PoseRequest K)),
      log.map PriorityBag.Entry.exchange = (q.run calls).1 ∧
      PriorityBag.Run rank PoseRequest.requestedAtMonotonicNs q.maxsize q.bag log
        (q.run calls).2.bag ∧
      (q.run calls).2.dropped = q.dropped + (log.filterMap PriorityBag.Entry.discarded).length := by
  induction calls generalizing q with
  | nil => exact ⟨[], rfl, .nil _, rfl⟩
  | cons c calls ih =>
    obtain ⟨entry, hexchange, hrefines⟩ := call_refines q c
    obtain ⟨log, hanswers, hrun, hdropped⟩ := ih (q.call c).2
    rw [hrefines.maxsize, ← hrefines.after] at hrun
    refine ⟨entry :: log, ?_, .cons hrefines.step hrun, ?_⟩
    · rw [List.map_cons, hexchange, hanswers]
      rfl
    · rw [run, hdropped, hrefines.dropped, PriorityBag.length_discarded_cons, Nat.add_assoc]

/-- Over every sequence of calls the queue is a bounded priority bag: each answer is one that the
bag may give, the items that the bag discards are those that `dropped` counts, and none of them was
of a smaller rank than a request that is retained. What was put in is handed out, retained or
dropped, and no more than `maxsize` requests are retained. -/
theorem queue_refines (K : Type) {maxsize : Int} (hmaxsize : 1 ≤ maxsize) (calls : List (Call K)) :
    ∃ q, init K maxsize = .ok q ∧
      let answers := (q.run calls).1
      let q' := (q.run calls).2
      (∃ log : List (PriorityBag.Entry (PoseRequest K)),
        log.map PriorityBag.Entry.exchange = answers ∧
        PriorityBag.Run rank PoseRequest.requestedAtMonotonicNs maxsize.toNat 0 log q'.bag ∧
        q'.dropped = (log.filterMap PriorityBag.Entry.discarded).length ∧
        ∀ entry ∈ log, ∀ victim, entry.discarded = some victim →
          ∀ other ∈ entry.after, rank other ≤ rank victim) ∧
      (answers.map PriorityBag.Exchange.offered).sum =
        (answers.map PriorityBag.Exchange.handed).sum + q'.heap.size + q'.dropped ∧
      (q'.heap.size : Int) ≤ maxsize := by
  have hpos : 1 ≤ maxsize.toNat := by omega
  refine ⟨empty K maxsize.toNat hpos, dif_neg (Int.not_lt.mpr hmaxsize), ?_⟩
  intro answers q'
  obtain ⟨log, hanswers, hrun, hdropped⟩ := run_refines (empty K maxsize.toNat hpos) calls
  have hdropped : q'.dropped = (log.filterMap PriorityBag.Entry.discarded).length :=
    hdropped.trans (Nat.zero_add _)
  have hconserves := hrun.conserves
  have hcard : q'.bag.card ≤ maxsize.toNat := hrun.card_le (Nat.zero_le _)
  rw [card_bag] at hcard
  refine ⟨⟨log, hanswers, hrun, hdropped, hrun.discarded_largest⟩, ?_, ?_⟩
  · have hempty : (empty K maxsize.toNat hpos).bag.card = 0 := rfl
    rw [hempty, Nat.zero_add, card_bag, ← hdropped] at hconserves
    unfold answers
    rw [← hanswers, List.map_map, List.map_map]
    exact hconserves
  · omega

/-- A request for the pose of track 1 on camera "cam-0". -/
def poseRequest (priority : PosePriority) (requestedAtMonotonicNs : Int) : PoseRequest ℕ :=
  ⟨"cam-0", 1, ⟨"cam-0", 1, 0, 0, NdArray.ofBgr 1 1 [0, 0, 0] rfl⟩, (0, 0, 1, 1), priority,
    requestedAtMonotonicNs⟩

/-- A queue of one, to which a request of low and one of high priority are put. -/
theorem queue_refines_one :
    ∃ q, init ℕ 1 = .ok q ∧
      let q' := (q.run [.put (poseRequest .low 1), .put (poseRequest .high 2)]).2
      2 = q'.heap.size + q'.dropped ∧ (q'.heap.size : Int) ≤ 1 := by
  obtain ⟨q, hq, -, hconserves, hsize⟩ := queue_refines ℕ (by decide : (1 : Int) ≤ 1)
    [.put (poseRequest .low 1), .put (poseRequest .high 2)]
  refine ⟨q, hq, ?_, hsize⟩
  simpa [run, call, PriorityBag.Exchange.offered, PriorityBag.Exchange.handed] using hconserves

end BoundedPoseQueue

end EdgeSafety
