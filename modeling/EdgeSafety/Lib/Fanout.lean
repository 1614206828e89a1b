import Mathlib.Data.List.Nodup
import Mathlib.Data.List.Basic

/-!
# Rooms and their broadcasts

Members join a room once and may leave it at any time. A broadcast goes to those who are members
when it starts, one after another, and a send that fails puts its recipient out. Several broadcasts
may be under way at once, and a log lists what became of each send. Every recipient of a broadcast
is served once or still awaits it (`Accounted.once`).

The broadcasts of one party are in turn if it starts none before its last one has ended. What a
member gets from such a party is a stretch of its broadcasts, in order and without a gap, from the
time when the member joined (`InTurn`).
-/

namespace EdgeSafety.Fanout

variable {κ μ : Type}

/-- A broadcast: its message, and to whom it is still to be sent. -/
structure Call (κ μ : Type) where
  message : μ
  rest : List κ

/-- The members of a room and all its broadcasts, by number. -/
structure Room (κ μ : Type) where
  members : List κ := []
  calls : List (Call κ μ) := []

namespace Room

/-- To whom a broadcast is still to be sent. -/
def rest (r : Room κ μ) (n : Nat) : List κ := ((r.calls[n]?).map Call.rest).getD []

/-- The message of a broadcast. -/
def message? (r : Room κ μ) (n : Nat) : Option μ := (r.calls[n]?).map Call.message

def join (r : Room κ μ) (member : κ) : Room κ μ := { r with members := r.members ++ [member] }

def leave [DecidableEq κ] (r : Room κ μ) (member : κ) : Room κ μ :=
  { r with members := r.members.erase member }

/-- A broadcast starts. -/
def start (r : Room κ μ) (message : μ) : Room κ μ :=
  { r with calls := r.calls ++ [⟨message, r.members⟩] }

/-- A broadcast goes on to its next recipient. -/
def next (r : Room κ μ) (n : Nat) : Room κ μ :=
  { r with calls := r.calls.modify n fun call => { call with rest := call.rest.tail } }

/-- The send of a broadcast that is under way arrives or fails. -/
def send [DecidableEq κ] (r : Room κ μ) (n : Nat) (arrived : Bool) : Option (Room κ μ) :=
  match r.rest n with
  | [] => none
  | member :: _ => some (if arrived then r.next n else (r.next n).leave member)

end Room

/-- A send that came to its end. -/
structure Send (κ : Type) where
  call : Nat
  recipient : κ
  arrived : Bool

/-- Who joined, to whom each broadcast was to be sent, and the sends. -/
structure Log (κ : Type) where
  joined : List κ := []
  recipients : List (List κ) := []
  sends : List (Send κ) := []

namespace Log

/-- To whom a broadcast was to be sent. -/
def recipientsOf (l : Log κ) (n : Nat) : List κ := l.recipients.getD n []

/-- To whom a broadcast was sent. -/
def served (l : Log κ) (n : Nat) : List κ := (l.sends.filter (·.call = n)).map Send.recipient

/-- The broadcasts among `own` that arrived at a member. -/
def arrivals [DecidableEq κ] (l : Log κ) (own : List Nat) (member : κ) : List Nat :=
  (l.sends.filter fun s => s.arrived ∧ s.recipient = member ∧ s.call ∈ own).map Send.call

def join (l : Log κ) (member : κ) : Log κ := { l with joined := l.joined ++ [member] }

/-- A broadcast to `members` starts. -/
def start (l : Log κ) (members : List κ) : Log κ :=
  { l with recipients := l.recipients ++ [members] }

/-- A send comes to its end; `rest` is to whom the broadcast was still to be sent before it. -/
def send (l : Log κ) (n : Nat) (rest : List κ) (arrived : Bool) : Log κ :=
  { l with sends := l.sends ++ (rest.head?.map fun member => ⟨n, member, arrived⟩).toList }

end Log

section Operations
variable (r : Room κ μ) (l : Log κ)

@[simp] theorem rest_join (member : κ) (n : Nat) : (r.join member).rest n = r.rest n := rfl

@[simp] theorem rest_leave [DecidableEq κ] (member : κ) (n : Nat) :
    (r.leave member).rest n = r.rest n := rfl

theorem rest_start (message : μ) (n : Nat) :
    (r.start message).rest n = if n = r.calls.length then r.members else r.rest n := by
  unfold Room.rest Room.start
  split
  · next h => simp [h]
  · next h =>
    rw [List.getElem?_append]
    split
    · rfl
    · next hlt =>
      rw [List.getElem?_eq_none (by simp; omega), List.getElem?_eq_none (Nat.le_of_not_lt hlt)]

theorem rest_next (n m : Nat) :
    (r.next n).rest m = if m = n then (r.rest n).tail else r.rest m := by
  unfold Room.rest Room.next
  rw [List.getElem?_modify]
  by_cases h : m = n
  · subst h
    cases r.calls[m]? <;> simp
  · rw [if_neg h]
    cases r.calls[m]? <;> simp [Ne.symm h]

/-- Operations never change a message. -/
theorem message?_start {message : μ} {n : Nat} (h : n < r.calls.length) :
    (r.start message).message? n = r.message? n := by
  unfold Room.message? Room.start
  rw [List.getElem?_append_left h]

theorem message?_next (n m : Nat) : (r.next n).message? m = r.message? m := by
  unfold Room.message? Room.next
  rw [List.getElem?_modify]
  cases r.calls[m]? with
  | none => rfl
  | some call => by_cases h : n = m <;> simp [h]

theorem recipientsOf_start (members : List κ) (n : Nat) :
    (l.start members).recipientsOf n =
      if n = l.recipients.length then members else l.recipientsOf n := by
  unfold Log.recipientsOf Log.start
  rw [List.getD_eq_getElem?_getD, List.getD_eq_getElem?_getD]
  split
  · next h => simp [h]
  · next h =>
    rw [List.getElem?_append]
    split
    · rfl
    · next hlt =>
      rw [List.getElem?_eq_none (by simp; omega), List.getElem?_eq_none (Nat.le_of_not_lt hlt)]

theorem served_send (n m : Nat) (rest : List κ) (arrived : Bool) :
    (l.send n rest arrived).served m =
      l.served m ++ if n = m then rest.head?.toList else [] := by
  cases rest with
  | nil => simp [Log.served, Log.send]
  | cons member rest => by_cases h : n = m <;> simp [Log.served, Log.send, h]

end Operations

/-! ## Every recipient once -/

/-- The log of a room: nobody is a member twice, a broadcast was sent to the first of its recipients
and is still to be sent to the others, and who missed a send is no member. -/
structure Accounted (r : Room κ μ) (l : Log κ) : Prop where
  length : l.recipients.length = r.calls.length
  members : r.members.Nodup ∧ ∀ member ∈ r.members, member ∈ l.joined
  recipients : ∀ n, (l.recipientsOf n).Nodup ∧ ∀ member ∈ l.recipientsOf n, member ∈ l.joined
  split : ∀ n, l.recipientsOf n = l.served n ++ r.rest n
  failed : ∀ s ∈ l.sends, s.arrived = false → s.recipient ∉ r.members

theorem accounted_empty : Accounted ({} : Room κ μ) {} where
  length := rfl
  members := ⟨List.nodup_nil, nofun⟩
  recipients _ := ⟨List.nodup_nil, nofun⟩
  split _ := rfl
  failed := nofun

section Accounted
variable {r : Room κ μ} {l : Log κ}

/-- Nobody is a recipient of a broadcast that has not started. -/
theorem Accounted.recipientsOf_eq_nil (h : Accounted r l) {n : Nat} (hn : r.calls.length ≤ n) :
    l.recipientsOf n = [] := by
  rw [Log.recipientsOf, List.getD_eq_getElem?_getD, List.getElem?_eq_none (by rwa [h.length]),
    Option.getD_none]

theorem Accounted.mem_recipientsOf (h : Accounted r l) {s : Send κ} (hs : s ∈ l.sends) :
    s.recipient ∈ l.recipientsOf s.call := by
  rw [h.split]
  exact List.mem_append_left _ (List.mem_map_of_mem (List.mem_filter.mpr ⟨hs, by simp⟩))

theorem Accounted.call_lt (h : Accounted r l) {s : Send κ} (hs : s ∈ l.sends) :
    s.call < r.calls.length := by
  by_contra hnot
  have hmem := h.mem_recipientsOf hs
  rw [h.recipientsOf_eq_nil (Nat.le_of_not_lt hnot)] at hmem
  cases hmem

theorem Accounted.mem_joined_of_rest (h : Accounted r l) {n : Nat} {member : κ}
    (hmem : member ∈ r.rest n) : member ∈ l.joined := by
  apply (h.recipients n).2
  rw [h.split]
  exact List.mem_append_right _ hmem

/-- Someone joins for the first time. -/
theorem Accounted.join (h : Accounted r l) {member : κ} (hnew : member ∉ l.joined) :
    Accounted (r.join member) (l.join member) where
  length := h.length
  members := by
    refine ⟨List.nodup_append'.mpr ⟨h.members.1, List.nodup_singleton _, ?_⟩, ?_⟩
    · exact List.disjoint_singleton.mpr fun hmem => hnew (h.members.2 member hmem)
    · intro other hother
      rcases List.mem_append.mp hother with hother | hother
      · exact List.mem_append_left _ (h.members.2 other hother)
      · exact List.mem_append_right _ hother
  recipients n := ⟨(h.recipients n).1, fun other hother =>
    List.mem_append_left _ ((h.recipients n).2 other hother)⟩
  split := h.split
  failed s hs hfailed hmem := by
    rcases List.mem_append.mp hmem with hmem | hmem
    · exact h.failed s hs hfailed hmem
    · apply hnew
      rw [← List.mem_singleton.mp hmem]
      exact (h.recipients s.call).2 _ (h.mem_recipientsOf hs)

/-- Someone leaves. -/
theorem Accounted.leave [DecidableEq κ] (h : Accounted r l) (member : κ) :
    Accounted (r.leave member) l where
  length := h.length
  members := ⟨h.members.1.erase member, fun other hother =>
    h.members.2 other (List.mem_of_mem_erase hother)⟩
  recipients := h.recipients
  split := h.split
  failed s hs hfailed hmem := h.failed s hs hfailed (List.mem_of_mem_erase hmem)

/-- A broadcast starts. -/
theorem Accounted.start (h : Accounted r l) (message : μ) :
    Accounted (r.start message) (l.start r.members) where
  length := by simp [Room.start, Log.start, h.length]
  members := h.members
  recipients n := by
    rw [recipientsOf_start]
    split
    · exact h.members
    · exact h.recipients n
  split n := by
    rw [recipientsOf_start, rest_start, h.length]
    split
    · next hn =>
      have hnone : l.served n = [] := by
        have hsplit := h.split n
        rw [h.recipientsOf_eq_nil (Nat.le_of_eq hn.symm)] at hsplit
        exact (List.append_eq_nil_iff.mp hsplit.symm).1
      show r.members = l.served n ++ r.members
      rw [hnone, List.nil_append]
    · exact h.split n
  failed := h.failed

/-- A send comes to its end. -/
theorem Accounted.send [DecidableEq κ] (h : Accounted r l) {n : Nat} {arrived : Bool}
    {t : Room κ μ} (hsend : r.send n arrived = some t) :
    Accounted t (l.send n (r.rest n) arrived) := by
  unfold Room.send at hsend
  split at hsend
  · cases hsend
  · next member rest hrest =>
    have hnext : Accounted (r.next n) (l.send n (r.rest n) true) := by
      refine ⟨?_, h.members, h.recipients, ?_, ?_⟩
      · simp [Room.next, Log.send, h.length]
      · intro m
        show l.recipientsOf m = _
        rw [served_send, rest_next, h.split]
        by_cases hm : m = n
        · subst hm
          simp [hrest]
        · simp [hm, Ne.symm hm]
      · intro s hs hfailed
        rcases List.mem_append.mp hs with hs | hs
        · exact h.failed s hs hfailed
        · obtain ⟨other, -, rfl⟩ := Option.map_eq_some_iff.mp (Option.mem_toList.mp hs)
          cases hfailed
    cases arrived with
    | true =>
      obtain rfl := Option.some.inj hsend
      exact hnext
    | false =>
      obtain rfl := Option.some.inj hsend
      have hleave := hnext.leave member
      refine ⟨hleave.length, hleave.members, hleave.recipients, ?_, ?_⟩
      · intro m
        have hsplit := hleave.split m
        rw [served_send] at hsplit ⊢
        exact hsplit
      · intro s hs hfailed
        rcases List.mem_append.mp hs with hs | hs
        · exact fun hmem => h.failed s hs hfailed (List.mem_of_mem_erase hmem)
        · rw [hrest] at hs
          obtain rfl := List.mem_singleton.mp hs
          exact h.members.1.not_mem_erase

/-- Each recipient of a broadcast is served once or still awaits it, and nobody else is served. -/
theorem Accounted.once [DecidableEq κ] (h : Accounted r l) (n : Nat) (member : κ) :
    (l.served n).count member + (r.rest n).count member =
      if member ∈ l.recipientsOf n then 1 else 0 := by
  rw [← List.count_append, ← h.split]
  split
  · next hmem => exact List.count_eq_one_of_mem (h.recipients n).1 hmem
  · next hmem => exact List.count_eq_zero_of_not_mem hmem

end Accounted

/-! ## The broadcasts of one party -/

section InTurn
variable [DecidableEq κ]

/-- The broadcasts among `own` that are still to be sent to a member. -/
def Room.pending (r : Room κ μ) (own : List Nat) (member : κ) : List Nat :=
  own.filter fun n => member ∈ r.rest n

/-- A party started its broadcasts `own` one after another, and `since` tells how many of them had
started when someone joined. What arrived at a member, with what is under way to it, are all of
them that started since; when a member is gone, the last ones of these are missing. -/
structure InTurn (r : Room κ μ) (l : Log κ) (own : List Nat) (since : κ → Option Nat) : Prop where
  numbers : own.Nodup ∧ ∀ n ∈ own, n < r.calls.length
  ended : ∀ n ∈ own.dropLast, r.rest n = []
  known : ∀ member, (∃ p, since member = some p ∧ p ≤ own.length) ∨
    since member = none ∧ member ∉ l.joined
  gapless : ∀ member p, since member = some p →
    l.arrivals own member ++ r.pending own member <+: own.drop p
  complete : ∀ member p, since member = some p →
    member ∈ r.members ∨ r.pending own member ≠ [] →
    l.arrivals own member ++ r.pending own member = own.drop p

theorem inTurn_empty : InTurn ({} : Room κ μ) {} [] fun _ => none where
  numbers := ⟨List.nodup_nil, nofun⟩
  ended := nofun
  known _ := Or.inr ⟨rfl, nofun⟩
  gapless := nofun
  complete := nofun

variable {r t : Room κ μ} {l : Log κ} {own : List Nat} {since : κ → Option Nat}

/-- Nobody is owed a broadcast when all have ended. -/
theorem pending_eq_nil (h : ∀ n ∈ own, r.rest n = []) (member : κ) :
    r.pending own member = [] := by
  rw [Room.pending, List.filter_eq_nil_iff]
  intro n hn
  simp [h n hn]

/-- Nothing was sent, or is to be sent, to one who never joined. -/
theorem Accounted.stranger (h : Accounted r l) {member : κ} (hnew : member ∉ l.joined)
    (own : List Nat) : l.arrivals own member ++ r.pending own member = [] := by
  refine List.append_eq_nil_iff.mpr ⟨List.map_eq_nil_iff.mpr ?_, ?_⟩
  · rw [List.filter_eq_nil_iff]
    intro s hs hsent
    have hrecipient : s.recipient = member := (of_decide_eq_true hsent).2.1
    exact hnew (hrecipient ▸ (h.recipients s.call).2 _ (h.mem_recipientsOf hs))
  · rw [Room.pending, List.filter_eq_nil_iff]
    intro n _ hrest
    exact hnew (h.mem_joined_of_rest (of_decide_eq_true hrest))

/-- Someone joins for the first time. -/
theorem InTurn.join (h : InTurn r l own since) (ha : Accounted r l) {member : κ}
    (hnew : member ∉ l.joined) :
    InTurn (r.join member) (l.join member) own
      (Function.update since member (some own.length)) where
  numbers := h.numbers
  ended := h.ended
  known other := by
    by_cases hother : other = member
    · subst hother
      exact Or.inl ⟨own.length, Function.update_self .., Nat.le_refl _⟩
    · rw [Function.update_of_ne hother]
      refine (h.known other).imp id (And.imp id ?_)
      intro hunknown hmem
      rcases List.mem_append.mp hmem with hmem | hmem
      · exact hunknown hmem
      · exact hother (List.mem_singleton.mp hmem)
  gapless other p hp := by
    by_cases hother : other = member
    · subst hother
      exact (ha.stranger hnew own) ▸ List.nil_prefix
    · rw [Function.update_of_ne hother] at hp
      exact h.gapless other p hp
  complete other p hp hmem := by
    by_cases hother : other = member
    · subst hother
      rw [Function.update_self] at hp
      obtain rfl := Option.some.inj hp
      rw [List.drop_length]
      exact ha.stranger hnew own
    · rw [Function.update_of_ne hother] at hp
      refine h.complete other p hp (hmem.imp_left fun hmem => ?_)
      rcases List.mem_append.mp hmem with hmem | hmem
      · exact hmem
      · exact absurd (List.mem_singleton.mp hmem) hother

/-- Someone leaves. -/
theorem InTurn.leave (h : InTurn r l own since) (member : κ) :
    InTurn (r.leave member) l own since where
  numbers := h.numbers
  ended := h.ended
  known := h.known
  gapless := h.gapless
  complete other p hp hmem :=
    h.complete other p hp (hmem.imp_left List.mem_of_mem_erase)

/-- The first broadcasts of a list, after one more was started. -/
theorem pending_start (message : μ) (h : ∀ n ∈ own, n < r.calls.length) (member : κ) :
    (r.start message).pending own member = r.pending own member := by
  refine List.filter_congr fun n hn => ?_
  rw [rest_start, if_neg (Nat.ne_of_lt (h n hn))]

/-- Another party starts a broadcast. -/
theorem InTurn.startOther (h : InTurn r l own since) (message : μ) :
    InTurn (r.start message) (l.start r.members) own since where
  numbers := ⟨h.numbers.1, fun n hn => by
    have hlt := h.numbers.2 n hn
    simp only [Room.start, List.length_append, List.length_singleton]
    omega⟩
  ended n hn := by
    rw [rest_start, if_neg (Nat.ne_of_lt (h.numbers.2 n ((List.dropLast_sublist own).subset hn)))]
    exact h.ended n hn
  known := h.known
  gapless member p hp := by
    rw [pending_start message h.numbers.2]
    exact h.gapless member p hp
  complete member p hp hmem := by
    rw [pending_start message h.numbers.2] at hmem ⊢
    exact h.complete member p hp hmem

/-- The party starts its next broadcast after its last one has ended. -/
theorem InTurn.startOwn (h : InTurn r l own since) (ha : Accounted r l)
    (hended : ∀ n ∈ own, r.rest n = []) (message : μ) :
    InTurn (r.start message) (l.start r.members) (own ++ [r.calls.length]) since := by
  have hstart := h.startOther message
  have hrest : (r.start message).rest r.calls.length = r.members := by
    rw [rest_start, if_pos rfl]
  have harrivals : ∀ member, (l.start r.members).arrivals (own ++ [r.calls.length]) member =
      l.arrivals own member := by
    intro member
    refine congrArg (List.map Send.call) (List.filter_congr fun s hs => ?_)
    simp [Nat.ne_of_lt (ha.call_lt hs)]
  have hpending : ∀ member, (r.start message).pending (own ++ [r.calls.length]) member =
      if member ∈ r.members then [r.calls.length] else [] := by
    intro member
    have hold : (r.start message).pending own member = [] := by
      rw [pending_start message h.numbers.2, pending_eq_nil hended]
    show ((own ++ [r.calls.length]).filter _) = _
    rw [List.filter_append]
    show (r.start message).pending own member ++ _ = _
    rw [hold]
    simp only [List.filter_cons, List.filter_nil, hrest, List.nil_append, decide_eq_true_eq]
  have hreached : ∀ member p, since member = some p → member ∈ r.members →
      l.arrivals own member = own.drop p := by
    intro member p hp hmem
    have hcomplete := h.complete member p hp (Or.inl hmem)
    rwa [pending_eq_nil hended, List.append_nil] at hcomplete
  have hdrop : ∀ member p, since member = some p →
      (own ++ [r.calls.length]).drop p = own.drop p ++ [r.calls.length] := by
    intro member p hp
    rcases h.known member with ⟨q, hq, hle⟩ | ⟨hnone, -⟩
    · obtain rfl := Option.some.inj (hp.symm.trans hq)
      rw [List.drop_append_of_le_length hle]
    · rw [hp] at hnone
      cases hnone
  refine ⟨⟨?_, ?_⟩, ?_, ?_, ?_, ?_⟩
  · refine List.nodup_append'.mpr ⟨h.numbers.1, List.nodup_singleton _, ?_⟩
    exact List.disjoint_singleton.mpr fun hmem => Nat.lt_irrefl _ (h.numbers.2 _ hmem)
  · intro n hn
    rcases List.mem_append.mp hn with hn | hn
    · exact hstart.numbers.2 n hn
    · rw [List.mem_singleton.mp hn]
      simp [Room.start]
  · intro n hn
    rw [List.dropLast_concat] at hn
    rw [rest_start, if_neg (Nat.ne_of_lt (h.numbers.2 n hn))]
    exact hended n hn
  · intro member
    refine (h.known member).imp (fun ⟨p, hp, hle⟩ => ⟨p, hp, ?_⟩) id
    rw [List.length_append]
    omega
  · intro member p hp
    rw [harrivals, hpending, hdrop member p hp]
    split
    · next hmem =>
      exact hreached member p hp hmem ▸ List.prefix_rfl
    · have hgapless := h.gapless member p hp
      rw [pending_eq_nil hended, List.append_nil] at hgapless
      rw [List.append_nil]
      exact hgapless.trans (List.prefix_append _ _)
  · intro member p hp hmem
    rw [harrivals, hpending, hdrop member p hp]
    rw [hpending] at hmem
    have hmember : member ∈ r.members := by
      rcases hmem with hmem | hmem
      · exact hmem
      · by_contra hnot
        rw [if_neg hnot] at hmem
        exact hmem rfl
    rw [if_pos hmember, hreached member p hp hmember]

/-- The recipient whose send has come to its end. -/
theorem send_cases {n : Nat} {arrived : Bool} (hsend : r.send n arrived = some t) :
    ∃ member rest, r.rest n = member :: rest ∧
      t = if arrived then r.next n else (r.next n).leave member := by
  unfold Room.send at hsend
  split at hsend
  · cases hsend
  · next member rest hrest => exact ⟨member, rest, hrest, (Option.some.inj hsend).symm⟩

theorem rest_send {n : Nat} {arrived : Bool} (hsend : r.send n arrived = some t) (m : Nat) :
    t.rest m = if m = n then (r.rest n).tail else r.rest m := by
  obtain ⟨member, rest, -, rfl⟩ := send_cases hsend
  rw [← rest_next]
  cases arrived <;> rfl

theorem arrivals_send (l : Log κ) (n : Nat) (first : κ) (rest : List κ) (arrived : Bool)
    (own : List Nat) (member : κ) :
    (l.send n (first :: rest) arrived).arrivals own member =
      l.arrivals own member ++
        if arrived = true ∧ first = member ∧ n ∈ own then [n] else [] := by
  simp only [Log.arrivals, Log.send, List.head?_cons, Option.map_some, Option.toList_some,
    List.filter_append, List.map_append, List.filter_cons, List.filter_nil, decide_eq_true_eq]
  split <;> rfl

/-- Only the last broadcast of a party is under way. -/
theorem InTurn.pending_eq (h : InTurn r l own since) {n : Nat} (hn : n ∈ own) {member : κ}
    (hmem : member ∈ r.rest n) : r.pending own member = [n] := by
  have hne : own ≠ [] := List.ne_nil_of_mem hn
  have hlast : n = own.getLast hne := by
    rw [← List.dropLast_concat_getLast hne, List.mem_append, List.mem_singleton] at hn
    rcases hn with hn | hn
    · rw [h.ended n hn] at hmem
      cases hmem
    · exact hn
  have hinit : own.dropLast.filter (fun n => decide (member ∈ r.rest n)) = [] := by
    rw [List.filter_eq_nil_iff]
    intro m hm
    simp [h.ended m hm]
  rw [Room.pending, ← List.dropLast_concat_getLast hne, List.filter_append, hinit, ← hlast]
  simp [hmem]

/-- Whoever missed a send is out. -/
theorem Accounted.members_send (ha : Accounted r l) {n : Nat} {arrived : Bool} {first : κ}
    {rest : List κ} (hsend : r.send n arrived = some t) (hrest : r.rest n = first :: rest)
    {member : κ} (hmem : member ∈ t.members) :
    member ∈ r.members ∧ (first = member → arrived = true) := by
  obtain ⟨other, others, hother, rfl⟩ := send_cases hsend
  obtain ⟨rfl, rfl⟩ := List.cons.inj (hrest.symm.trans hother)
  cases arrived with
  | true => exact ⟨hmem, fun _ => rfl⟩
  | false =>
    refine ⟨List.mem_of_mem_erase hmem, ?_⟩
    rintro rfl
    exact absurd hmem ha.members.1.not_mem_erase

/-- A send takes a broadcast from what is under way to its recipient. -/
theorem InTurn.pending_send (h : InTurn r l own since) (ha : Accounted r l) {n : Nat}
    {arrived : Bool} {first : κ} {rest : List κ} (hsend : r.send n arrived = some t)
    (hrest : r.rest n = first :: rest) (member : κ) :
    t.pending own member = if first = member ∧ n ∈ own then [] else r.pending own member := by
  have hnodup : first ∉ rest := by
    have hrecipients := (ha.recipients n).1
    rw [ha.split, hrest] at hrecipients
    exact (List.nodup_cons.mp (List.nodup_append'.mp hrecipients).2.1).1
  split
  · next hfirst =>
    obtain ⟨rfl, hn⟩ := hfirst
    rw [Room.pending, List.filter_eq_nil_iff]
    intro m hm hmem
    replace hmem := of_decide_eq_true hmem
    rw [rest_send hsend] at hmem
    split at hmem
    · rw [hrest] at hmem
      exact hnodup hmem
    · next hne =>
      have hboth := (h.pending_eq hm hmem).symm.trans
        (h.pending_eq hn (by rw [hrest]; exact List.mem_cons_self))
      exact hne (List.singleton_inj.mp hboth)
  · next hother =>
    refine List.filter_congr fun m hm => decide_eq_decide.mpr ?_
    rw [rest_send hsend]
    split
    · next heq =>
      subst heq
      have hne : member ≠ first := fun heq => hother ⟨heq.symm, hm⟩
      rw [hrest, List.tail_cons, List.mem_cons, or_iff_right hne]
    · exact Iff.rfl

/-- A send comes to its end. -/
theorem InTurn.send (h : InTurn r l own since) (ha : Accounted r l) {n : Nat} {arrived : Bool}
    (hsend : r.send n arrived = some t) :
    InTurn t (l.send n (r.rest n) arrived) own since := by
  obtain ⟨first, rest, hrest, ht⟩ := send_cases hsend
  have hcalls : t.calls.length = r.calls.length := by
    rw [ht]
    cases arrived <;> simp [Room.next, Room.leave]
  have hpending := h.pending_send ha hsend hrest
  have harrivals := arrivals_send l n first rest arrived own
  rw [← hrest] at harrivals
  refine ⟨⟨h.numbers.1, fun m hm => hcalls ▸ h.numbers.2 m hm⟩, ?_, h.known, ?_, ?_⟩
  · intro m hm
    rw [rest_send hsend]
    split
    · next heq => rw [← heq, h.ended m hm, List.tail_nil]
    · exact h.ended m hm
  · intro member p hp
    have hgapless := h.gapless member p hp
    rw [harrivals, hpending]
    by_cases hfirst : first = member ∧ n ∈ own
    · rw [h.pending_eq hfirst.2 (by rw [hrest, hfirst.1]; exact List.mem_cons_self)] at hgapless
      rw [if_pos hfirst, List.append_nil]
      split
      · exact hgapless
      · rw [List.append_nil]
        exact (List.prefix_append _ _).trans hgapless
    · rw [if_neg hfirst, if_neg fun hboth => hfirst hboth.2, List.append_nil]
      exact hgapless
  · intro member p hp hmem
    rw [harrivals, hpending]
    rw [hpending] at hmem
    by_cases hfirst : first = member ∧ n ∈ own
    · have hpend := h.pending_eq hfirst.2 (by rw [hrest, hfirst.1]; exact List.mem_cons_self)
      have hcomplete := h.complete member p hp (Or.inr (by rw [hpend]; exact List.cons_ne_nil _ _))
      rw [hpend] at hcomplete
      rw [if_pos hfirst] at hmem
      rw [if_pos hfirst, if_pos, List.append_nil]
      · exact hcomplete
      · have hstays := (ha.members_send hsend hrest (hmem.resolve_right (not_not_intro rfl))).2
        exact ⟨hstays hfirst.1, hfirst⟩
    · rw [if_neg hfirst] at hmem
      rw [if_neg hfirst, if_neg fun hboth => hfirst hboth.2, List.append_nil]
      exact h.complete member p hp
        (hmem.imp_left fun hmem => (ha.members_send hsend hrest hmem).1)

end InTurn

end EdgeSafety.Fanout
