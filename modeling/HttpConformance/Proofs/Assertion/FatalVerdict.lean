import HttpConformance.Proofs.Assertion.Redirects
import HttpConformance.Proofs.Check.Evaluate

/-!
# Failures stand alone

A test that cannot be carried out has one diagnostic, about the failure that ended it, and no check
of a response adds to it.  A golden resource that cannot be loaded is such a failure as well,
although a response was received; once all of them are loaded, every check of the body finds its
resource.

Main definitions: `CheckKind.isFailure`, `CheckKind.isUnanswered`.

Main results:

- `Surroundings.goldens_eq_error_iff`: golden resources fail with the first one that fails.
- `Surroundings.lookup_of_goldens`: a golden resource is looked up under the path of its loading.
- `Surroundings.isFailure_evaluate`: the checks of a response report no failures.
- `Surroundings.failure_stands_alone`: the diagnostics of a run.
-/

namespace HttpConformance

namespace CheckKind

/-- The diagnostic says that the test could not be carried out. -/
def isFailure : CheckKind → Bool
  | connection | malformedResponse | resourceNotFound | configuration | redirect => true
  | _ => false

/-- The diagnostic says that there is no response to judge. -/
def isUnanswered : CheckKind → Bool
  | connection | malformedResponse | configuration | redirect => true
  | _ => false

theorem isFailure_of_isUnanswered {kind : CheckKind} (h : kind.isUnanswered = true) :
    kind.isFailure = true := by
  cases kind <;> first | rfl | cases h

/-- Only a resource that is missing is told as one that is not found. -/
theorem ofFailure_eq_resourceNotFound_iff {kind : FailureKind} :
    ofFailure kind = resourceNotFound ↔ kind = .resourceNotFound := by
  cases kind <;> simp [ofFailure]

/-- Every failure but that of a missing resource is told as an answer that did not come. -/
theorem isUnanswered_ofFailure_iff {kind : FailureKind} :
    (ofFailure kind).isUnanswered = true ↔ kind ≠ .resourceNotFound := by
  cases kind <;> simp [ofFailure, isUnanswered]

end CheckKind

namespace Surroundings

variable {world : Surroundings} {assertion : Assertion}

/-! ## Golden resources -/

/-- Golden resources fail with the first one that cannot be loaded. -/
theorem goldens_eq_error_iff {root : Text} {paths : List Text} {failure : Failure} :
    world.goldens root paths = .error failure ↔
      ∃ before path after, paths = before ++ path :: after ∧
        (∀ earlier ∈ before, ∃ content, world.resource root earlier = .ok content) ∧
        world.resource root path = .error failure := by
  induction paths with
  | nil =>
    constructor
    · intro h
      cases h
    · rintro ⟨before, path, after, hpaths, -⟩
      exact absurd hpaths (by simp)
  | cons first paths ih =>
    rw [goldens_cons]
    cases hfirst : world.resource root first with
    | error failed =>
      constructor
      · intro h
        cases h
        exact ⟨[], first, paths, rfl, by simp, hfirst⟩
      · rintro ⟨before, path, after, hpaths, hbefore, hfailure⟩
        cases before with
        | nil =>
          rw [(List.cons.inj hpaths).1, hfailure] at hfirst
          cases hfirst
          rfl
        | cons earlier before =>
          obtain ⟨content, hcontent⟩ := hbefore earlier List.mem_cons_self
          rw [(List.cons.inj hpaths).1, hcontent] at hfirst
          cases hfirst
    | ok content =>
      have hmap : (world.goldens root paths).map ((first, content) :: ·) = .error failure ↔
          world.goldens root paths = .error failure := by
        cases world.goldens root paths <;> simp [Except.map]
      dsimp only
      rw [hmap, ih]
      constructor
      · rintro ⟨before, path, after, rfl, hbefore, hfailure⟩
        refine ⟨first :: before, path, after, rfl, ?_, hfailure⟩
        intro earlier hearlier
        rcases List.mem_cons.1 hearlier with rfl | hmem
        · exact ⟨content, hfirst⟩
        · exact hbefore earlier hmem
      · rintro ⟨before, path, after, hpaths, hbefore, hfailure⟩
        cases before with
        | nil =>
          rw [(List.cons.inj hpaths).1, hfailure] at hfirst
          cases hfirst
        | cons earlier before =>
          exact ⟨before, path, after, (List.cons.inj hpaths).2,
            fun earlier hmem => hbefore earlier (List.mem_cons_of_mem _ hmem), hfailure⟩

/-- A golden resource that was loaded is looked up under the path of its loading. -/
theorem lookup_of_goldens {root : Text} {paths : List Text} {goldens : Goldens}
    (h : world.goldens root paths = .ok goldens) {path : Text} (hpath : path ∈ paths) :
    ∃ content, goldens.lookup path = some content ∧ world.resource root path = .ok content := by
  induction paths generalizing goldens with
  | nil => cases hpath
  | cons first paths ih =>
    rw [goldens_cons] at h
    cases hfirst : world.resource root first with
    | error failure =>
      rw [hfirst] at h
      cases h
    | ok content =>
      rw [hfirst] at h
      cases hrest : world.goldens root paths with
      | error failure =>
        rw [hrest] at h
        cases h
      | ok rest =>
        rw [hrest] at h
        cases h
        by_cases heq : path = first
        · subst heq
          exact ⟨content, List.lookup_cons_self, hfirst⟩
        · rw [List.lookup_cons, beq_eq_false_iff_ne.2 heq]
          exact ih hrest ((List.mem_cons.1 hpath).resolve_left heq)

/-! ## The verdict on a response -/

theorem mem_goldenPaths {vars : Variables} {expectations : List BodyExpectation} {path : Text}
    (h : .golden path ∈ expectations) : vars.substitute path ∈ goldenPaths vars expectations :=
  List.mem_filterMap.2 ⟨.golden path, h, rfl⟩

/-- A requirement to agree with a golden resource comes from an expectation of the body. -/
theorem golden_mem_of_mem_requirements {expectations : Expectations} {path : Text}
    (h : .golden path ∈ expectations.requirements) : .golden path ∈ expectations.body := by
  have hbody : .golden path ∈ expectations.body.flatMap BodyExpectation.requirements := by
    cases htype : expectations.contentType <;>
      simpa [Expectations.requirements, htype, ContentTypeExpectation.requirements] using h
  obtain ⟨expectation, hmem, hgolden⟩ := List.mem_flatMap.1 hbody
  cases expectation with
  | golden other =>
    cases List.mem_singleton.1 hgolden
    exact hmem
  | containsLines lines => simp [BodyExpectation.requirements] at hgolden
  | excludesLines lines => simp [BodyExpectation.requirements] at hgolden
  | empty => simp [BodyExpectation.requirements] at hgolden

/-- The checks of a response report no failures once the golden resources are loaded. -/
theorem isFailure_evaluate {root : Text} {expectations : Expectations} {vars : Variables}
    {goldens : Goldens}
    (hgoldens : world.goldens root (goldenPaths vars expectations.body) = .ok goldens)
    (response : Response) {diagnostic : Diagnostic}
    (h : diagnostic ∈ (evaluate response expectations vars goldens).diagnostics) :
    diagnostic.kind.isFailure = false := by
  have hkind := List.mem_map_of_mem (f := Diagnostic.kind) h
  rw [map_kind_evaluate] at hkind
  obtain ⟨requirement, hrequirement, heq⟩ := List.mem_map.1 hkind
  have hmem := (List.mem_filter.1 hrequirement).1
  rw [← heq]
  cases requirement with
  | golden path =>
    obtain ⟨content, hlookup, -⟩ :=
      lookup_of_goldens hgoldens (mem_goldenPaths (golden_mem_of_mem_requirements hmem))
    rw [Requirement.kind, hlookup]
    rfl
  | _ => rfl

/-! ## The verdict of a run -/

/-- A run without a response has not failed for want of a golden resource. -/
theorem kind_of_finalResponse {request : Request} {failure : Failure}
    (hprepare : assertion.prepare = .ok request)
    (h : (world.finalResponse assertion request).1 = .error failure) :
    failure.kind ≠ .resourceNotFound := by
  have hreceived {sent : List Sent} {failure : Failure} (h : world.received sent = .error failure) :
      failure.kind ≠ .resourceNotFound := by
    intro heq
    rcases kind_of_received world h with ⟨fault, hkind⟩ | ⟨fault, hkind⟩ <;>
      rw [hkind] at heq <;> cases heq
  cases hfollow : assertion.expectations.followRedirects with
  | false =>
    rw [finalResponse_eq] at h
    cases hfirst : world.received [.of assertion.options (assertion.start request)] with
    | error failed =>
      simp only [hfirst] at h
      cases h
      exact hreceived hfirst
    | ok response =>
      simp only [hfirst, hfollow] at h
      cases h
  | true =>
    have hends : world.Ends assertion assertion.configuration.maxRedirects.toNat
        (world.finalResponse assertion request) := ends_finalResponse hprepare hfollow
    generalize world.finalResponse assertion request = ending at h hends
    cases hends with
    | arrives hk hstage hnext => cases h
    | @strays k stage error hk hstage hnext =>
      cases h
      exact fun heq => by cases heq
    | @givesUp stage target hstage hnext =>
      cases h
      exact fun heq => by cases heq
    | fails hk hstage hsent hfailure =>
      cases h
      exact hreceived hfailure

/-- The verdict of a run, and the response if one was received. -/
def run (world : Surroundings) (assertion : Assertion) : Verdict × Option Response :=
  ((assertion.run world.client).run []).1

/-- A run sends what its execution sends. -/
theorem run_run (world : Surroundings) (assertion : Assertion) :
    (assertion.run world.client).run [] =
      (match (world.execute assertion).1 with
        | .ok (verdict, response) => (verdict, some response)
        | .error failure => (.ofFailure failure, none),
        (world.execute assertion).2) := by
  rw [Assertion.run, run_bind, execute]
  cases ((assertion.execute world.client).run []).1 with
  | error failure =>
    dsimp only
    rw [run_bind, run_log, run_bind, run_pure]
    dsimp only
    split <;> rw [run_bind, run_log, run_pure]
  | ok judged =>
    obtain ⟨verdict, response⟩ := judged
    dsimp only
    rw [run_bind, run_pure]
    dsimp only
    split <;> rw [run_bind, run_log, run_pure]

/-- The verdict of a run is the one of its execution, or tells of its failure alone. -/
theorem run_eq (world : Surroundings) (assertion : Assertion) :
    world.run assertion =
      match (world.execute assertion).1 with
      | .ok (verdict, response) => (verdict, some response)
      | .error failure => (.ofFailure failure, none) :=
  congrArg Prod.fst (run_run world assertion)

/-- The paths of the golden resources of an assertion. -/
def pathsOf (assertion : Assertion) : List Text :=
  goldenPaths assertion.configuration.substitutor assertion.expectations.body

/-- The first golden resource of an assertion that cannot be loaded fails in this way. -/
def FailsFirst (world : Surroundings) (assertion : Assertion) (failure : Failure) : Prop :=
  ∃ before path after, pathsOf assertion = before ++ path :: after ∧
    (∀ earlier ∈ before,
      ∃ content, world.resource assertion.configuration.resourceRoot earlier = .ok content) ∧
    world.resource assertion.configuration.resourceRoot path = .error failure

/-- Every golden resource of an assertion can be loaded. -/
def AllLoad (world : Surroundings) (assertion : Assertion) : Prop :=
  ∀ path ∈ pathsOf assertion,
    ∃ content, world.resource assertion.configuration.resourceRoot path = .ok content

/-- A run ends by a failure and without a response, by the failure of a golden resource, or with the
findings of the checks. -/
theorem run_cases (world : Surroundings) (assertion : Assertion) :
    (∃ failure, failure.kind ≠ .resourceNotFound ∧
        world.run assertion = (.ofFailure failure, none)) ∨
      (∃ failure response, failure.kind = .resourceNotFound ∧
        world.FailsFirst assertion failure ∧
        world.run assertion = (.ofFailure failure, some response)) ∨
      ∃ verdict response, world.AllLoad assertion ∧
        (∀ diagnostic ∈ verdict.diagnostics, diagnostic.kind.isFailure = false) ∧
        world.run assertion = (verdict, some response) := by
  rw [run_eq]
  cases hprepare : assertion.prepare with
  | error failure =>
    rw [execute_of_error world hprepare]
    refine Or.inl ⟨failure, ?_, rfl⟩
    rw [kind_of_prepare hprepare]
    exact fun heq => by cases heq
  | ok request =>
    rw [execute_of_ok world hprepare]
    cases hresponse : (world.finalResponse assertion request).1 with
    | error failure => exact Or.inl ⟨failure, kind_of_finalResponse hprepare hresponse, rfl⟩
    | ok response =>
      right
      cases hgoldens : world.goldens assertion.configuration.resourceRoot (pathsOf assertion) with
      | error failure =>
        obtain ⟨before, path, after, hpaths, hbefore, hfailure⟩ := goldens_eq_error_iff.1 hgoldens
        refine Or.inl ⟨failure, response, kind_of_resource world hfailure,
          ⟨before, path, after, hpaths, hbefore, hfailure⟩, ?_⟩
        dsimp only [judged, Except.map]
        rw [verdictOn, ← pathsOf, hgoldens]
      | ok goldens =>
        have hload : world.AllLoad assertion := by
          intro path hpath
          obtain ⟨content, -, hcontent⟩ := lookup_of_goldens hgoldens hpath
          exact ⟨content, hcontent⟩
        refine Or.inr ⟨_, response, hload, fun _ => isFailure_evaluate hgoldens response, ?_⟩
        dsimp only [judged, Except.map]
        rw [verdictOn, ← pathsOf, hgoldens]

/-- A failure is the only diagnostic of its run. -/
theorem diagnostics_of_isFailure {diagnostic : Diagnostic}
    (h : diagnostic ∈ (world.run assertion).1.diagnostics)
    (hkind : diagnostic.kind.isFailure = true) :
    (world.run assertion).1.diagnostics = [diagnostic] := by
  have halone {failure : Failure} (hmem : diagnostic ∈ (Verdict.ofFailure failure).diagnostics) :
      (Verdict.ofFailure failure).diagnostics = [diagnostic] := by
    rw [List.mem_singleton.1 hmem]
    rfl
  rcases run_cases world assertion with ⟨failure, -, hrun⟩ | ⟨failure, response, -, -, hrun⟩ |
    ⟨verdict, response, -, hchecks, hrun⟩
  · rw [hrun] at h ⊢
    exact halone h
  · rw [hrun] at h ⊢
    exact halone h
  · rw [hrun] at h
    rw [hchecks diagnostic h] at hkind
    cases hkind

/-- There is no response exactly when a diagnostic says so. -/
theorem response_eq_none_iff :
    (world.run assertion).2 = none ↔
      ∃ diagnostic ∈ (world.run assertion).1.diagnostics,
        diagnostic.kind.isUnanswered = true := by
  rcases run_cases world assertion with ⟨failure, hkind, hrun⟩ |
    ⟨failure, response, hkind, -, hrun⟩ | ⟨verdict, response, -, hchecks, hrun⟩
  · rw [hrun]
    exact iff_of_true rfl
      ⟨_, List.mem_singleton_self _, CheckKind.isUnanswered_ofFailure_iff.2 hkind⟩
  · rw [hrun]
    refine iff_of_false (Option.some_ne_none response) ?_
    rintro ⟨diagnostic, hmem, hunanswered⟩
    rw [List.mem_singleton.1 hmem] at hunanswered
    exact CheckKind.isUnanswered_ofFailure_iff.1 hunanswered hkind
  · rw [hrun]
    refine iff_of_false (Option.some_ne_none response) ?_
    rintro ⟨diagnostic, hmem, hunanswered⟩
    have hfailure := CheckKind.isFailure_of_isUnanswered hunanswered
    rw [hchecks diagnostic hmem] at hfailure
    cases hfailure

/-- A run fails for want of a golden resource exactly when there is a response and some golden
resource cannot be loaded. -/
theorem exists_resourceNotFound_iff :
    (∃ diagnostic ∈ (world.run assertion).1.diagnostics, diagnostic.kind = .resourceNotFound) ↔
      (world.run assertion).2 ≠ none ∧ ∃ path ∈ pathsOf assertion, ∃ failure,
        world.resource assertion.configuration.resourceRoot path = .error failure := by
  rcases run_cases world assertion with ⟨failure, hkind, hrun⟩ |
    ⟨failure, response, hkind, hfirst, hrun⟩ | ⟨verdict, response, hload, hchecks, hrun⟩
  · rw [hrun]
    refine iff_of_false ?_ fun h => h.1 rfl
    rintro ⟨diagnostic, hmem, heq⟩
    rw [List.mem_singleton.1 hmem] at heq
    exact hkind (CheckKind.ofFailure_eq_resourceNotFound_iff.1 heq)
  · rw [hrun]
    obtain ⟨before, path, after, hpaths, -, hfailure⟩ := hfirst
    refine iff_of_true
      ⟨_, List.mem_singleton_self _, CheckKind.ofFailure_eq_resourceNotFound_iff.2 hkind⟩
      ⟨Option.some_ne_none response, path, ?_, failure, hfailure⟩
    rw [hpaths]
    exact List.mem_append_right before List.mem_cons_self
  · rw [hrun]
    refine iff_of_false ?_ ?_
    · rintro ⟨diagnostic, hmem, heq⟩
      have hfailure := hchecks diagnostic hmem
      rw [heq] at hfailure
      cases hfailure
    · rintro ⟨-, path, hpath, failure, hfailure⟩
      obtain ⟨content, hcontent⟩ := hload path hpath
      rw [hcontent] at hfailure
      cases hfailure

/-- A run that fails for want of a golden resource fails as the first one does. -/
theorem failsFirst_of_resourceNotFound {diagnostic : Diagnostic}
    (h : diagnostic ∈ (world.run assertion).1.diagnostics)
    (hkind : diagnostic.kind = .resourceNotFound) :
    ∃ failure, world.FailsFirst assertion failure ∧
      (world.run assertion).1 = .ofFailure failure := by
  rcases run_cases world assertion with ⟨failure, hother, hrun⟩ |
    ⟨failure, response, -, hfirst, hrun⟩ | ⟨verdict, response, -, hchecks, hrun⟩
  · rw [hrun] at h
    rw [List.mem_singleton.1 h] at hkind
    exact absurd (CheckKind.ofFailure_eq_resourceNotFound_iff.1 hkind) hother
  · exact ⟨failure, hfirst, congrArg Prod.fst hrun⟩
  · rw [hrun] at h
    have hfailure := hchecks diagnostic h
    rw [hkind] at hfailure
    cases hfailure

/-- A failure stands alone among the diagnostics of a run.  It is one of those that leave a run
without a response exactly when there is no response, and about a golden resource exactly when there
is a response and some golden resource cannot be loaded; it is then the failure of the first one.
When all can be loaded, every one of them is found again by its path. -/
theorem failure_stands_alone (world : Surroundings) (assertion : Assertion) :
    let verdict := (world.run assertion).1
    let response := (world.run assertion).2
    let root := assertion.configuration.resourceRoot
    let vars := assertion.configuration.substitutor
    let expectations := assertion.expectations.body
    (∀ diagnostic ∈ verdict.diagnostics, diagnostic.kind.isFailure = true →
        verdict.diagnostics = [diagnostic]) ∧
      (response = none ↔
        ∃ diagnostic ∈ verdict.diagnostics, diagnostic.kind.isUnanswered = true) ∧
      ((∃ diagnostic ∈ verdict.diagnostics, diagnostic.kind = .resourceNotFound) ↔
        response ≠ none ∧ ∃ path ∈ pathsOf assertion, ∃ failure,
          world.resource root path = .error failure) ∧
      (∀ diagnostic ∈ verdict.diagnostics, diagnostic.kind = .resourceNotFound →
        ∃ failure, world.FailsFirst assertion failure ∧ verdict = .ofFailure failure) ∧
      (∀ sent goldens,
        ((Golden.loadAll world.client.readFile world.client.log root vars expectations).run
            sent).1 = .ok goldens →
          ∀ path, .golden path ∈ expectations →
            (goldens.lookup (vars.substitute path)).isSome = true) := by
  intro verdict response root vars expectations
  refine ⟨fun _ => diagnostics_of_isFailure, response_eq_none_iff, exists_resourceNotFound_iff,
    fun _ => failsFirst_of_resourceNotFound, ?_⟩
  intro sent goldens hload path hpath
  rw [run_loadAll] at hload
  obtain ⟨content, hlookup, -⟩ := lookup_of_goldens hload (mem_goldenPaths hpath)
  rw [hlookup]
  rfl

/-- An assertion whose second golden resource is missing. -/
def missingSecond : Assertion where
  id := "missing".toList
  configuration := {}
  source := some (.text "GET / HTTP/1.1\r\nHost: localhost\r\n\r\n".toList)
  expectations := { body := [.golden "a".toList, .golden "b".toList, .golden "c".toList] }

/-- A world with one file. -/
def oneFile : Surroundings where
  answer _ := .ok (Utf8.encode "HTTP/1.1 500 Oops\r\n\r\n".toList)
  file path := if path = ['a'] then .ok [] else .error (.plain "No such file or directory")

/-- The wrong status is not reported when a golden resource is missing. -/
example : (oneFile.run missingSecond).1.diagnostics.map (·.actual) =
      [("ResourceNotFoundError: Golden resource 'b' could not be read from 'b': " ++
        "No such file or directory").toList] ∧
    (oneFile.run missingSecond).2.map (·.code) = some 500 := by
  decide +kernel

end Surroundings

end HttpConformance
