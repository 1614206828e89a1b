import EdgeSafety.Lib.Transition
import Mathlib.Logic.Function.Basic

/-!
# Installing the pretrained models

`download` and `fetch_pose` of `scripts/fetch_pretrained_models.py`, any number of them at once and
in any order, each of which may fail or be killed at any time. Both write to a temporary file beside
the destination, compare its SHA-256 digest and put it in the place of the destination. A step is
one call to the file system; what is downloaded or unpacked comes from outside.
-/

namespace EdgeSafety

/-- A path: that of an artifact, or one of the names that `tempfile` makes up. -/
inductive ModelPath
  | artifact (path : String)
  | temporary (name : Nat)
  deriving DecidableEq

/-- A call of `download`, or of `fetch_pose` with the suffix of the archive's member. -/
structure InstallJob where
  destination : String
  expectedSha256 : String
  memberSuffix : Option String

/-- `download`. -/
def download (destination expectedSha256 : String) : InstallJob :=
  { destination, expectedSha256, memberSuffix := none }

/-- `fetch_pose`, after its archive is downloaded into a directory of its own. -/
def fetchPose (runtimePath runtimeSha256 archiveMemberSuffix : String) : InstallJob :=
  { destination := runtimePath, expectedSha256 := runtimeSha256,
    memberSuffix := some archiveMemberSuffix }

/-- Whether a call cleans up if the copying fails: `fetch_pose` copies before its `try`. -/
def InstallJob.copiesInTry (job : InstallJob) : Bool := job.memberSuffix.isNone

/-- Where a call is, with the name of its temporary file. -/
inductive InstallPc
  | begin
  /-- About to create the temporary file. -/
  | creating
  | copying (name : Nat)
  | digesting (name : Nat)
  | replacing (name : Nat)
  /-- In `finally`, after the destination was replaced or an exception was raised. -/
  | cleaning (name : Nat) (replaced : Bool)
  | returned
  /-- An exception ended the call, and a temporary file may be left. -/
  | raised (left : Option Nat)
  /-- `unlink` raised. -/
  | notUnlinked (left : Option Nat)
  | killed (left : Option Nat)

/-- The temporary file that a call has made and not moved away. -/
def InstallPc.temporary? : InstallPc → Option Nat
  | .copying name | .digesting name | .replacing name | .cleaning name false => some name
  | .raised left | .notUnlinked left | .killed left => left
  | .begin | .creating | .cleaning _ true | .returned => none

/-- The call is over. -/
def InstallPc.over : InstallPc → Bool
  | .returned | .raised _ | .notUnlinked _ | .killed _ => true
  | .begin | .creating | .copying _ | .digesting _ | .replacing _ | .cleaning _ _ => false

/-- The file system, the names that were given to temporary files, and the calls. -/
structure Installs (ι : Type) where
  files : ModelPath → Option (List UInt8)
  used : List Nat := []
  calls : ι → InstallPc := fun _ => .begin

namespace Installs

variable {ι : Type} [DecidableEq ι]

/-- What happens next. -/
inductive Event (ι : Type)
  /-- `download` looks at the destination. -/
  | look (i : ι)
  /-- `fetch_pose` reads the names in its archive. -/
  | namelist (i : ι) (names : List String)
  /-- `NamedTemporaryFile`. -/
  | create (i : ι) (name : Nat)
  /-- `copyfileobj` writes a part. -/
  | write (i : ι) (part : List UInt8)
  | copied (i : ι)
  | digest (i : ι)
  | replace (i : ι)
  | unlink (i : ι)
  /-- The operation that is next raises an exception. -/
  | fail (i : ι)
  | kill (i : ι)

/-- The call goes on at `pc`. -/
def goTo (s : Installs ι) (i : ι) (pc : InstallPc) : Installs ι :=
  { s with calls := Function.update s.calls i pc }

/-- A path gets another file, or none. -/
def setFile (s : Installs ι) (path : ModelPath) (content : Option (List UInt8)) : Installs ι :=
  { s with files := Function.update s.files path content }

/-- The names of the members that `fetch_pose` looks for. -/
def matching (suffix : String) (names : List String) : List String :=
  names.filter fun name => suffix.toList.isSuffixOf name.toList

/-- Where an exception leads. -/
def onException (job : InstallJob) : InstallPc → Option InstallPc
  | .begin | .creating => some (.raised none)
  | .copying name => some (if job.copiesInTry then .cleaning name false else .raised (some name))
  | .digesting name | .replacing name => some (.cleaning name false)
  | .cleaning name replaced => some (.notUnlinked (if replaced then none else some name))
  | .returned | .raised _ | .notUnlinked _ | .killed _ => none

/-- One step of one call. The name of a temporary file is that of no file, and it was not given to
any before. -/
def step (sha256 : List UInt8 → String) (jobs : ι → InstallJob) (s : Installs ι) :
    Event ι → Option (Installs ι)
  | .look i =>
    match s.calls i, (jobs i).memberSuffix with
    | .begin, none =>
      let verified := (s.files (.artifact (jobs i).destination)).any fun content =>
        sha256 content = (jobs i).expectedSha256
      some (s.goTo i (if verified then .returned else .creating))
    | _, _ => none
  | .namelist i names =>
    match s.calls i, (jobs i).memberSuffix with
    | .begin, some suffix =>
      some (s.goTo i (if (matching suffix names).length ≠ 1 then .raised none else .creating))
    | _, _ => none
  | .create i name =>
    match s.calls i with
    | .creating =>
      if name ∈ s.used ∨ (s.files (.temporary name)).isSome then none
      else
        some (({ s with used := name :: s.used }.setFile (.temporary name) (some [])).goTo i
          (.copying name))
    | _ => none
  | .write i part =>
    match s.calls i with
    | .copying name =>
      some (s.setFile (.temporary name) ((s.files (.temporary name)).map (· ++ part)))
    | _ => none
  | .copied i =>
    match s.calls i with
    | .copying name => some (s.goTo i (.digesting name))
    | _ => none
  | .digest i =>
    match s.calls i with
    | .digesting name =>
      let actual := (s.files (.temporary name)).map sha256
      some (s.goTo i
        (if actual = some (jobs i).expectedSha256 then .replacing name else .cleaning name false))
    | _ => none
  | .replace i =>
    match s.calls i with
    | .replacing name =>
      match s.files (.temporary name) with
      | some content =>
        some (((s.setFile (.artifact (jobs i).destination) (some content)).setFile
          (.temporary name) none).goTo i (.cleaning name true))
      | none => some (s.goTo i (.cleaning name false))
    | _ => none
  | .unlink i =>
    match s.calls i with
    | .cleaning name replaced =>
      some ((s.setFile (.temporary name) none).goTo i
        (if replaced then .returned else .raised none))
    | _ => none
  | .fail i => (onException (jobs i) (s.calls i)).map (s.goTo i)
  | .kill i =>
    if (s.calls i).over then none else some (s.goTo i (.killed (s.calls i).temporary?))

/-- The file system and the calls after a run. -/
def run (sha256 : List UInt8 → String) (jobs : ι → InstallJob)
    (files : ModelPath → Option (List UInt8)) (events : List (Event ι)) : Installs ι :=
  Transition.exec (step sha256 jobs) { files } events

variable {sha256 : List UInt8 → String} {jobs : ι → InstallJob}
  {initial : ModelPath → Option (List UInt8)} {s t : Installs ι}

/-- A destination has a file that some call for it takes for the right one. -/
def Verified (sha256 : List UInt8 → String) (jobs : ι → InstallJob)
    (files : ModelPath → Option (List UInt8)) (path : String) : Prop :=
  ∃ content, files (.artifact path) = some content ∧
    ∃ i, (jobs i).destination = path ∧ sha256 content = (jobs i).expectedSha256

/-- What a step does: most steps leave the files alone. -/
inductive Stepped (sha256 : List UInt8 → String) (jobs : ι → InstallJob) (s : Installs ι) :
    Installs ι → Prop
  | goes (i : ι) (pc : InstallPc) (kept : pc.temporary? = (s.calls i).temporary?)
      (checked : ∀ name, pc = .replacing name →
        (s.files (.temporary name)).map sha256 = some (jobs i).expectedSha256)
      (unmoved : ∀ name, pc ≠ .cleaning name true)
      (verified : pc = .returned → Verified sha256 jobs s.files (jobs i).destination)
      (tidy : ∀ name, pc = .raised (some name) → (jobs i).copiesInTry = false) :
      Stepped sha256 jobs s (s.goTo i pc)
  | create (i : ι) (name : Nat) (pc : s.calls i = .creating) (fresh : name ∉ s.used)
      (absent : s.files (.temporary name) = none) :
      Stepped sha256 jobs s
        (({ s with used := name :: s.used }.setFile (.temporary name) (some [])).goTo i
          (.copying name))
  | write (i : ι) (name : Nat) (part : List UInt8) (pc : s.calls i = .copying name) :
      Stepped sha256 jobs s
        (s.setFile (.temporary name) ((s.files (.temporary name)).map (· ++ part)))
  | replace (i : ι) (name : Nat) (content : List UInt8) (pc : s.calls i = .replacing name)
      (present : s.files (.temporary name) = some content) :
      Stepped sha256 jobs s
        (((s.setFile (.artifact (jobs i).destination) (some content)).setFile
          (.temporary name) none).goTo i (.cleaning name true))
  | unlink (i : ι) (name : Nat) (replaced : Bool) (pc : s.calls i = .cleaning name replaced) :
      Stepped sha256 jobs s
        ((s.setFile (.temporary name) none).goTo i
          (if replaced then .returned else .raised none))

theorem temporary?_onException {job : InstallJob} {pc next : InstallPc}
    (h : onException job pc = some next) :
    next.temporary? = pc.temporary? ∧ (∀ name, next ≠ .replacing name) ∧
      (∀ name, next ≠ .cleaning name true) ∧ next ≠ .returned ∧
      ∀ name, next = .raised (some name) → job.copiesInTry = false := by
  cases pc with
  | begin | creating | digesting | replacing =>
    obtain rfl := Option.some.inj h
    exact ⟨rfl, by rintro _ ⟨⟩, by rintro _ ⟨⟩, by rintro ⟨⟩, by rintro _ ⟨⟩⟩
  | copying name =>
    obtain rfl := Option.some.inj h
    split
    · exact ⟨rfl, by rintro _ ⟨⟩, by rintro _ ⟨⟩, by rintro ⟨⟩, by rintro _ ⟨⟩⟩
    · next houtside =>
      exact ⟨rfl, by rintro _ ⟨⟩, by rintro _ ⟨⟩, by rintro ⟨⟩,
        fun _ _ => Bool.eq_false_iff.mpr houtside⟩
  | cleaning name replaced =>
    obtain rfl := Option.some.inj h
    cases replaced <;>
      exact ⟨rfl, by rintro _ ⟨⟩, by rintro _ ⟨⟩, by rintro ⟨⟩, by rintro _ ⟨⟩⟩
  | returned | raised | notUnlinked | killed => cases h

theorem step_cases {e : Event ι} (h : step sha256 jobs s e = some t) : Stepped sha256 jobs s t := by
  cases e with
  | look i =>
    simp only [step] at h
    split at h
    · next pc _ =>
      obtain rfl := Option.some.inj h
      split
      · next hverified =>
        obtain ⟨content, hcontent, hdigest⟩ := (Option.any_eq_true _ _).mp hverified
        refine .goes i .returned (by rw [pc]; rfl) (by rintro _ ⟨⟩) (by rintro _ ⟨⟩) (fun _ => ?_)
          (by rintro _ ⟨⟩)
        exact ⟨content, hcontent, i, rfl, of_decide_eq_true hdigest⟩
      · exact .goes i .creating (by rw [pc]; rfl) (by rintro _ ⟨⟩) (by rintro _ ⟨⟩) (by rintro ⟨⟩)
          (by rintro _ ⟨⟩)
    · cases h
  | namelist i names =>
    simp only [step] at h
    split at h
    · next pc _ =>
      obtain rfl := Option.some.inj h
      split <;>
        exact .goes i _ (by rw [pc]; rfl) (by rintro _ ⟨⟩) (by rintro _ ⟨⟩) (by rintro ⟨⟩)
          (by rintro _ ⟨⟩)
    · cases h
  | create i name =>
    simp only [step] at h
    split at h
    · next pc =>
      split at h
      · cases h
      · next hfresh =>
        obtain rfl := Option.some.inj h
        obtain ⟨hunused, habsent⟩ := not_or.mp hfresh
        exact .create i name pc hunused (by simpa using habsent)
    · cases h
  | write i part =>
    simp only [step] at h
    split at h
    · next name pc =>
      obtain rfl := Option.some.inj h
      exact .write i name part pc
    · cases h
  | copied i =>
    simp only [step] at h
    split at h
    · next name pc =>
      obtain rfl := Option.some.inj h
      exact .goes i (.digesting name) (by rw [pc]; rfl) (by rintro _ ⟨⟩) (by rintro _ ⟨⟩)
        (by rintro ⟨⟩) (by rintro _ ⟨⟩)
    · cases h
  | digest i =>
    simp only [step] at h
    split at h
    · next name pc =>
      obtain rfl := Option.some.inj h
      split
      · next hactual =>
        refine .goes i (.replacing name) (by rw [pc]; rfl) ?_ (by rintro _ ⟨⟩) (by rintro ⟨⟩)
          (by rintro _ ⟨⟩)
        rintro _ ⟨⟩
        exact hactual
      · exact .goes i (.cleaning name false) (by rw [pc]; rfl) (by rintro _ ⟨⟩) (by rintro _ ⟨⟩)
          (by rintro ⟨⟩) (by rintro _ ⟨⟩)
    · cases h
  | replace i =>
    simp only [step] at h
    split at h
    · next name pc =>
      split at h
      · next content hcontent =>
        obtain rfl := Option.some.inj h
        exact .replace i name content pc hcontent
      · obtain rfl := Option.some.inj h
        exact .goes i (.cleaning name false) (by rw [pc]; rfl) (by rintro _ ⟨⟩) (by rintro _ ⟨⟩)
          (by rintro ⟨⟩) (by rintro _ ⟨⟩)
    · cases h
  | unlink i =>
    simp only [step] at h
    split at h
    · next name replaced pc =>
      obtain rfl := Option.some.inj h
      exact .unlink i name replaced pc
    · cases h
  | fail i =>
    obtain ⟨next, hnext, rfl⟩ := Option.map_eq_some_iff.mp h
    obtain ⟨hkept, hchecked, hmoved, hreturned, htidy⟩ := temporary?_onException hnext
    exact .goes i next hkept (fun name hname => absurd hname (hchecked name)) hmoved
      (fun hname => absurd hname hreturned) htidy
  | kill i =>
    simp only [step] at h
    split at h
    · cases h
    · obtain rfl := Option.some.inj h
      exact .goes i _ rfl (by rintro _ ⟨⟩) (by rintro _ ⟨⟩) (by rintro ⟨⟩) (by rintro _ ⟨⟩)

end Installs

end EdgeSafety
