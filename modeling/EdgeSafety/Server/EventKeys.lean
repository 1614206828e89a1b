import EdgeSafety.Lib.Digits
import EdgeSafety.Server.Events

/-!
# Spellings of an event id

The body of a `POST /events` spells its event id in any way that the request model reads, and the
idempotency key is compared with `str` of what was read. A key that spells another id is always
rejected; one that repeats the body's own spelling is accepted exactly where that is the canonical
one (`identity_iff`).
-/

namespace EdgeSafety

/-- The digits that `str` writes. -/
def hexAlphabet : List Char := "0123456789abcdef".toList

/-- The value of a hexadecimal digit of either case. -/
def hexDigit (c : Char) : Option Nat := hexAlphabet.findIdx? (· = c.toLower)

/-- Hyphens between the groups of the digits. -/
def hyphenated (hex : List Char) : List Char :=
  hex.take 8 ++ '-' :: (hex.drop 8).take 4 ++ '-' :: (hex.drop 12).take 4 ++
    '-' :: (hex.drop 16).take 4 ++ '-' :: hex.drop 20

/-- What 32 hexadecimal digits spell. -/
def readHex (hex : List Char) : Option Uuid :=
  if hex.length = 32 then
    (hex.mapM hexDigit).map fun digits => ⟨BitVec.ofNat 128 (Digits.toNat 16 digits)⟩
  else none

/-- What a text spells that has the digits alone, or with the hyphens. -/
def hexUuid (s : String) : Option Uuid :=
  let hex := s.toList.filter (· ≠ '-')
  if s.toList = hex ∨ s.toList = hyphenated hex then readHex hex else none

example : hexUuid "0123456789ABCDEF0123456789ABCDEF" =
    hexUuid "01234567-89ab-cdef-0123-456789abcdef" := by decide

/-- Lower-case digits with hyphens. -/
def Canonical (s : String) : Prop :=
  ∃ hex : List Char, hex.length = 32 ∧ (∀ c ∈ hex, c ∈ hexAlphabet) ∧
    s = String.ofList (hyphenated hex)

section Spelling

theorem hexDigit_digitChar : ∀ d < 16, hexDigit (Nat.digitChar d) = some d := by decide

theorem mem_hexAlphabet {c : Char} : c ∈ hexAlphabet ↔ ∃ d < 16, Nat.digitChar d = c := by
  have hrange : hexAlphabet = (List.range 16).map Nat.digitChar := by decide
  simp only [hrange, List.mem_map, List.mem_range]

theorem hyphen_notMem : '-' ∉ hexAlphabet := by decide

theorem Uuid.hex_eq (uuid : Uuid) :
    uuid.hex = (Digits.ofNat 16 32 uuid.int.toNat).map Nat.digitChar := by
  simp [Uuid.hex, Digits.ofNat]

theorem Uuid.str_eq (uuid : Uuid) : uuid.str = String.ofList (hyphenated uuid.hex) := rfl

theorem Uuid.mem_hex (uuid : Uuid) : ∀ c ∈ uuid.hex, c ∈ hexAlphabet := by
  intro c hc
  rw [uuid.hex_eq] at hc
  obtain ⟨d, hd, rfl⟩ := List.mem_map.mp hc
  exact mem_hexAlphabet.mpr ⟨d, Digits.ofNat_lt (by decide) hd, rfl⟩

theorem Uuid.canonical_str (uuid : Uuid) : Canonical uuid.str :=
  ⟨uuid.hex, by simp [Uuid.hex], uuid.mem_hex, uuid.str_eq⟩

/-- Taking the hyphens out again leaves the digits. -/
theorem filter_hyphenated {hex : List Char} (hhex : ∀ c ∈ hex, c ∈ hexAlphabet) :
    (hyphenated hex).filter (· ≠ '-') = hex := by
  have hkept : ∀ cs : List Char, cs.Sublist hex → cs.filter (· ≠ '-') = cs := by
    intro cs hcs
    rw [List.filter_eq_self]
    intro c hc
    have hne : c ≠ '-' := by
      rintro rfl
      exact hyphen_notMem (hhex _ (hcs.subset hc))
    exact decide_eq_true hne
  have htake : ∀ n, ((hex.drop n).take 4).filter (· ≠ '-') = (hex.drop n).take 4 := fun n =>
    hkept _ ((List.take_sublist 4 _).trans (List.drop_sublist n hex))
  have hjoin : ∀ n, (hex.drop n).take 4 ++ hex.drop (n + 4) = hex.drop n := fun n => by
    rw [← List.drop_drop, List.take_append_drop]
  rw [hyphenated, List.filter_append, List.filter_append, List.filter_append, List.filter_append,
    hkept _ (List.take_sublist 8 hex)]
  simp only [List.filter_cons, ne_eq, not_true_eq_false, decide_false, Bool.false_eq_true,
    if_false]
  rw [htake, htake, htake, hkept _ (List.drop_sublist 20 hex)]
  rw [List.append_assoc, hjoin, List.append_assoc, hjoin, List.append_assoc, hjoin,
    List.take_append_drop]

/-- Digits are read back. -/
theorem mapM_hexDigit {digits : List Nat} (hdigits : ∀ d ∈ digits, d < 16) :
    (digits.map Nat.digitChar).mapM hexDigit = some digits := by
  induction digits with
  | nil => rfl
  | cons d digits ih =>
    rw [List.forall_mem_cons] at hdigits
    rw [List.map_cons, List.mapM_cons, hexDigit_digitChar d hdigits.1, ih hdigits.2]
    rfl

theorem exists_digits {hex : List Char} (hhex : ∀ c ∈ hex, c ∈ hexAlphabet) :
    ∃ digits : List Nat, (∀ d ∈ digits, d < 16) ∧ digits.map Nat.digitChar = hex := by
  induction hex with
  | nil => exact ⟨[], fun d hd => absurd hd List.not_mem_nil, rfl⟩
  | cons c hex ih =>
    rw [List.forall_mem_cons] at hhex
    obtain ⟨d, hd, rfl⟩ := mem_hexAlphabet.mp hhex.1
    obtain ⟨digits, hdigits, rfl⟩ := ih hhex.2
    exact ⟨d :: digits, List.forall_mem_cons.mpr ⟨hd, hdigits⟩, rfl⟩

theorem hexUuid_hyphenated {hex : List Char} (hhex : ∀ c ∈ hex, c ∈ hexAlphabet) :
    hexUuid (String.ofList (hyphenated hex)) = readHex hex := by
  unfold hexUuid
  rw [String.toList_ofList, filter_hyphenated hhex]
  exact if_pos (Or.inr rfl)

/-- A canonical spelling is what `str` writes of what it spells. -/
theorem Canonical.eq_str {s : String} (h : Canonical s) :
    ∃ uuid, hexUuid s = some uuid ∧ s = uuid.str := by
  obtain ⟨hex, hlength, hhex, rfl⟩ := h
  rw [hexUuid_hyphenated hhex, readHex, if_pos hlength]
  obtain ⟨digits, hdigits, rfl⟩ := exists_digits hhex
  rw [mapM_hexDigit hdigits]
  rw [List.length_map] at hlength
  refine ⟨_, rfl, ?_⟩
  have hlt : Digits.toNat 16 digits < 2 ^ 128 := by
    have := Digits.toNat_lt (by decide) hdigits
    rwa [hlength] at this
  rw [Uuid.str_eq, Uuid.hex_eq, BitVec.toNat_ofNat, Nat.mod_eq_of_lt hlt, ← hlength,
    Digits.ofNat_toNat (by decide) hdigits]

/-- What `str` writes is read back. -/
theorem hexUuid_str (uuid : Uuid) : hexUuid uuid.str = some uuid := by
  have hdigits : ∀ d ∈ Digits.ofNat 16 32 uuid.int.toNat, d < 16 := fun d hd =>
    Digits.ofNat_lt (by decide) hd
  rw [Uuid.str_eq, hexUuid_hyphenated uuid.mem_hex, readHex, if_pos (by simp [Uuid.hex]),
    Uuid.hex_eq, mapM_hexDigit hdigits, Option.map_some, Digits.toNat_ofNat,
    Nat.mod_eq_of_lt (Nat.lt_of_lt_of_eq uuid.int.isLt (by decide)), BitVec.ofNat_toNat,
    BitVec.setWidth_eq]

end Spelling

variable {Body : Type}

/-- The answers about an event with the id `uuid` that its body spells `s`: a key with the spelling
of the body is not rejected, and one that spells another id is. `accepts` reads a spelling. -/
structure RespectsIdentity (accepts : String → Option Uuid)
    (repository : InMemoryControlPlaneRepository Body) (event : SafetyEvent Body) (s : String) :
    Prop where
  own : ∀ detail, (ingestEvent repository ⟨event, some s⟩).1 ≠ .httpException 409 detail
  other : ∀ header uuid, accepts header = some uuid → uuid ≠ event.eventId →
    (ingestEvent repository ⟨event, some header⟩).1 =
      .httpException 409 "Idempotency-Key must equal event_id"

theorem rejected_iff {event : SafetyEvent Body} {key : String} :
    (EventRequest.mk event (some key)).Rejected ↔ key ≠ event.eventId.str := by
  constructor
  · rintro ⟨other, hother, hne⟩
    rwa [Option.some.inj hother]
  · exact fun hne => ⟨key, rfl, hne⟩

/-- A key is rejected exactly if it is not `str` of the event id. -/
theorem conflict_iff (repository : InMemoryControlPlaneRepository Body) (event : SafetyEvent Body)
    (key : String) :
    (∃ detail, (ingestEvent repository ⟨event, some key⟩).1 = .httpException 409 detail) ↔
      key ≠ event.eventId.str := by
  rw [← rejected_iff]
  by_cases h : (EventRequest.mk event (some key)).Rejected
  · rw [ingestEvent_rejected h]
    exact ⟨fun _ => h, fun _ => ⟨_, rfl⟩⟩
  · rw [ingestEvent_accepted h]
    constructor
    · rintro ⟨detail, hanswer⟩
      dsimp only at hanswer
      split at hanswer
      · cases hanswer
      · cases hanswer
    · exact fun hrejected => absurd hrejected h

/-- The spelling of an event id that the body has is accepted as the key exactly if it is canonical,
while other ids are always rejected. -/
theorem identity_iff {accepts : String → Option Uuid}
    (hhex : ∀ s uuid, hexUuid s = some uuid → accepts s = some uuid)
    (repository : InMemoryControlPlaneRepository Body) (event : SafetyEvent Body) {s : String}
    (hs : accepts s = some event.eventId) :
    RespectsIdentity accepts repository event s ↔ Canonical s := by
  constructor
  · intro h
    have heq : s = event.eventId.str := by
      by_contra hne
      obtain ⟨detail, hanswer⟩ := (conflict_iff repository event s).mpr hne
      exact h.own detail hanswer
    rw [heq]
    exact event.eventId.canonical_str
  · intro hcanonical
    obtain ⟨uuid, huuid, hstr⟩ := hcanonical.eq_str
    have hid : event.eventId = uuid := Option.some.inj (hs.symm.trans (hhex s uuid huuid))
    constructor
    · intro detail hanswer
      refine (conflict_iff repository event s).mp ⟨detail, hanswer⟩ ?_
      rw [hid, hstr]
    · intro header different hheader hne
      have hkey : header ≠ event.eventId.str := by
        intro hkey
        rw [hkey, hhex _ _ (hexUuid_str event.eventId)] at hheader
        exact hne (Option.some.inj hheader).symm
      rw [ingestEvent_rejected (rejected_iff.mpr hkey)]
      rfl

/-- `test_event_ingestion_is_idempotent` sends such a key. -/
theorem canonical_key_respected :
    RespectsIdentity hexUuid .init (SafetyEvent.mk ⟨0x0123456789abcdef0123456789abcdef⟩ ())
      "01234567-89ab-cdef-0123-456789abcdef" := by
  have hwritten : "01234567-89ab-cdef-0123-456789abcdef" =
      Uuid.str ⟨0x0123456789abcdef0123456789abcdef⟩ := by decide
  have hcanonical : Canonical "01234567-89ab-cdef-0123-456789abcdef" :=
    hwritten ▸ Uuid.canonical_str _
  exact (identity_iff (fun _ _ h => h) .init _ (by decide)).mpr hcanonical

/-- The same id in capitals: the request model reads it, and the key that repeats it is rejected. -/
theorem capital_key_rejected :
    hexUuid "01234567-89AB-CDEF-0123-456789ABCDEF" =
        some ⟨0x0123456789abcdef0123456789abcdef⟩ ∧
      ¬ RespectsIdentity hexUuid .init (SafetyEvent.mk ⟨0x0123456789abcdef0123456789abcdef⟩ ())
        "01234567-89AB-CDEF-0123-456789ABCDEF" := by
  refine ⟨by decide, fun h => ?_⟩
  exact h.own "Idempotency-Key must equal event_id" (by decide)

end EdgeSafety
