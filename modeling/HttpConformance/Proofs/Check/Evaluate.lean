import HttpConformance.Proofs.Check.Requirement

/-!
# The verdict is what is violated

Each check looks for the violations of some requirements.  Together they report every requirement
that the response does not meet, once and in order, and nothing else.

Main definition: `Requirement.complaints`.

Main results:

- `Requirement.map_kind_ite`, `Requirement.map_kind_flatMap`: the kinds that a check reports, and a
  check of one item after the other.
- `map_kind_evaluate`: the kinds of a verdict's diagnostics.
- `evaluate_reports_violations`: the kinds are those of the violated requirements, and a test fails
  exactly when one is violated.
-/

namespace HttpConformance

/-! ## What the checks look for -/

/-- The check of the status code finds what is allowed. -/
theorem statusMatches_iff {code : Nat} {expectation : StatusExpectation} :
    Check.statusMatches code expectation = true ↔ expectation.Allows code := by
  cases expectation <;> simp [Check.statusMatches, StatusExpectation.Allows]

/-- The comparison of two values finds what the mode accepts. -/
theorem valueMatches_iff {mode : MatchMode} {value expected : Text} :
    valueMatches mode value expected = true ↔ mode.Accepts value expected := by
  cases mode with
  | exact => exact decide_eq_true_iff
  | substring => exact contains_eq_true_iff

/-- The check of a field finds what satisfies a predicate. -/
theorem headerMatches_iff {mode : MatchMode} {vars : Variables} {predicate : HeaderPredicate}
    {field : HeaderField} :
    headerMatches mode predicate.name (predicate.value.map vars.substitute) field = true ↔
      predicate.IsSatisfiedBy mode vars field := by
  unfold headerMatches HeaderPredicate.IsSatisfiedBy
  cases predicate.value with
  | none => simp
  | some value => simp [valueMatches_iff]

/-- The check of a content type finds the media type and the charset that are expected. -/
theorem contentTypeMatches_iff {mediaType actual : Text} {charset : Option Text} :
    Check.contentTypeMatches mediaType charset actual = true ↔
      IsOfContentType mediaType charset actual := by
  unfold Check.contentTypeMatches IsOfContentType
  cases charset with
  | none => simp
  | some expected => cases ContentType.charset? actual <;> simp

/-- One of the candidates of a name has the expected value exactly when one of the cookies satisfies
the expectation. -/
theorem any_candidates_iff {cookies : List Cookie} {vars : Variables}
    {expectation : CookieExpectation} :
    ((cookies.filter (·.name = expectation.name)).any fun candidate =>
        (expectation.value.map vars.substitute).all (candidate.value = ·)) = true ↔
      ∃ cookie ∈ cookies, expectation.IsSatisfiedBy vars cookie := by
  simp only [List.any_filter, List.any_eq_true, Bool.and_eq_true, decide_eq_true_eq,
    CookieExpectation.IsSatisfiedBy]
  cases expectation.value with
  | none => simp
  | some value => simp

/-! ## Golden resources -/

/-- Lists of lines differ somewhere exactly when they are not the same. -/
theorem firstDifference_eq_none_iff {expected actual : List Text} :
    Check.firstDifference expected actual = none ↔ expected = actual := by
  fun_induction Check.firstDifference expected actual with
  | case1 => simp
  | case2 => simp
  | case3 => simp
  | case4 as b bs ih => simp [ih]
  | case5 a as b bs hab => simp [hab]

/-- Two texts are split into the same lines exactly when they are the same up to the spelling of
line breaks. -/
theorem normalLines_eq_iff {first second : Text} :
    Check.normalLines first = Check.normalLines second ↔ normalText first = normalText second := by
  constructor
  · intro h
    have hjoined := congrArg (List.intercalate ['\n']) h
    rwa [Check.normalLines, Check.normalLines, List.intercalate_splitOn,
      List.intercalate_splitOn] at hjoined
  · intro h
    exact congrArg (List.splitOn '\n') h

/-- No required line is missed exactly when the body contains all of them. -/
theorem requiredLines_filter_eq_nil_iff {vars : Variables} {content : Bytes} {body : Text} :
    (Check.requiredLines vars content).filter (!contains · body) = [] ↔
      ContainsLinesOf (vars.substitute (Utf8.decodeLossy content)) body := by
  simp only [Check.requiredLines, ContainsLinesOf, List.filter_eq_nil_iff, List.mem_filter,
    List.mem_map, decide_eq_true_eq, Bool.not_eq_true', Bool.not_eq_false, contains_eq_true_iff]
  constructor
  · intro h line hline hne
    exact h _ ⟨⟨line, hline, rfl⟩, hne⟩
  · rintro h _ ⟨⟨line, hline, rfl⟩, hne⟩
    exact h line hline hne

namespace Requirement

variable {response : Response} {expectations : Expectations} {vars : Variables} {goldens : Goldens}

/-! ## Complaints -/

/-- The kinds to be reported for a requirement: its own when it is violated, and none otherwise. -/
def complaints (response : Response) (expectations : Expectations) (vars : Variables)
    (goldens : Goldens) (requirement : Requirement) : List CheckKind :=
  if requirement.Holds response expectations vars goldens then []
  else [requirement.kind vars goldens]

/-- A requirement that is met draws no complaint. -/
theorem complaints_of_holds {requirement : Requirement}
    (h : requirement.Holds response expectations vars goldens) :
    requirement.complaints response expectations vars goldens = [] :=
  if_pos h

/-- A requirement that is not met draws one complaint. -/
theorem complaints_of_not_holds {requirement : Requirement}
    (h : ¬ requirement.Holds response expectations vars goldens) :
    requirement.complaints response expectations vars goldens = [requirement.kind vars goldens] :=
  if_neg h

/-- The complaints about some requirements are those about the ones that are not met. -/
theorem flatMap_complaints (requirements : List Requirement) :
    requirements.flatMap (complaints response expectations vars goldens) =
      (requirements.filter fun requirement =>
        ¬ requirement.Holds response expectations vars goldens).map (kind vars goldens) := by
  induction requirements with
  | nil => rfl
  | cons requirement requirements ih =>
    rw [List.flatMap_cons, ih]
    by_cases h : requirement.Holds response expectations vars goldens
    · rw [complaints_of_holds h, List.filter_cons_of_neg (by simpa using h)]
      rfl
    · rw [complaints_of_not_holds h, List.filter_cons_of_pos (by simpa using h)]
      rfl

/-- A check that lets pass what meets a requirement, and reports the kind of the requirement
otherwise. -/
theorem map_kind_ite {passes : Prop} [Decidable passes] {diagnostic : Diagnostic}
    {requirement : Requirement}
    (hpasses : passes ↔ requirement.Holds response expectations vars goldens)
    (hkind : diagnostic.kind = requirement.kind vars goldens) :
    (if passes then [] else [diagnostic]).map (·.kind) =
      requirement.complaints response expectations vars goldens := by
  by_cases h : passes
  · rw [if_pos h, complaints_of_holds (hpasses.1 h), List.map_nil]
  · rw [if_neg h, complaints_of_not_holds (mt hpasses.2 h), List.map_singleton, hkind]

/-- A check of one item after the other reports what is to be reported of their requirements. -/
theorem map_kind_flatMap {α : Type} {check : α → List Diagnostic} {requirement : α → Requirement}
    (h : ∀ item, (check item).map (·.kind) =
      (requirement item).complaints response expectations vars goldens) (items : List α) :
    (items.flatMap check).map (·.kind) =
      (items.map requirement).flatMap (complaints response expectations vars goldens) := by
  rw [List.map_flatMap, List.flatMap_map]
  exact List.flatMap_congr fun item _ => h item

/-! ## The checks of the head -/

variable (response expectations vars goldens)

/-- The check of the status complains about the code, and behind it about the message. -/
theorem map_kind_status :
    (Check.status response expectations).map (·.kind) =
      (status expectations.status :: expectations.statusMessage.toList.map statusMessage).flatMap
        (complaints response expectations vars goldens) := by
  unfold Check.status
  rw [List.map_append, List.flatMap_cons]
  congr 1
  · exact map_kind_ite statusMatches_iff rfl
  · cases expectations.statusMessage with
    | none => rfl
    | some message =>
      rw [Option.toList_some, List.map_singleton, List.flatMap_singleton]
      exact map_kind_ite Iff.rfl rfl

/-- The check of an expected field complains when no field satisfies the predicate. -/
theorem map_kind_expectedHeader (predicate : HeaderPredicate) :
    (Check.expectedHeader response expectations.matchMode vars predicate).map (·.kind) =
      (headerPresent predicate).complaints response expectations vars goldens := by
  refine map_kind_ite ?_ rfl
  simp only [List.any_eq_true, headerMatches_iff, Holds]

/-- The check of an unexpected field complains when some field satisfies the predicate. -/
theorem map_kind_unexpectedHeader (predicate : HeaderPredicate) :
    (Check.unexpectedHeader response expectations.matchMode vars predicate).map (·.kind) =
      (headerAbsent predicate).complaints response expectations vars goldens := by
  unfold Check.unexpectedHeader
  dsimp only
  cases hfind : response.fields.find? (headerMatches expectations.matchMode predicate.name
      (predicate.value.map vars.substitute)) with
  | none =>
    rw [complaints_of_holds]
    · rfl
    · intro field hfield hsatisfied
      exact List.find?_eq_none.1 hfind field hfield (headerMatches_iff.2 hsatisfied)
  | some field =>
    rw [complaints_of_not_holds]
    · rfl
    · intro hholds
      exact hholds field (List.mem_of_find?_eq_some hfind)
        (headerMatches_iff.1 (List.find?_some hfind))

/-- The check of the content type complains when it is missing or another one. -/
theorem map_kind_contentType :
    (Check.contentType response expectations).map (·.kind) =
      expectations.contentType.requirements.flatMap
        (complaints response expectations vars goldens) := by
  unfold Check.contentType
  cases expectations.contentType with
  | any => rfl
  | mediaType expected charset =>
    rw [ContentTypeExpectation.requirements, List.flatMap_singleton]
    cases hactual : response.contentType? with
    | none =>
      rw [complaints_of_not_holds]
      · rfl
      · rintro ⟨actual, hmem, -⟩
        rw [hactual] at hmem
        cases hmem
    | some actual =>
      refine map_kind_ite ?_ rfl
      simp only [contentTypeMatches_iff, Holds, hactual, Option.mem_def, Option.some.injEq,
        exists_eq_left']

/-! ## The checks of the body -/

theorem map_kind_goldenText {path text body : Text} :
    (Check.goldenText path text body).map (·.kind) =
      if normalText text = normalText body then [] else [.body] := by
  unfold Check.goldenText
  split
  · rename_i hsame
    rw [if_pos (normalLines_eq_iff.1 (firstDifference_eq_none_iff.1 hsame))]
    rfl
  · rename_i hdifference
    rw [if_neg]
    · rfl
    · intro hsame
      rw [firstDifference_eq_none_iff.2 (normalLines_eq_iff.2 hsame)] at hdifference
      cases hdifference

/-- The exact comparison complains when the body is not the content. -/
theorem map_kind_goldenExact {path : Text} {content received : Bytes} {body : Text} :
    (Check.goldenExact vars path content received body).map (·.kind) =
      if IsContent (vars.substituteBytes content) received body then [] else [.body] := by
  unfold Check.goldenExact
  dsimp only
  split
  · rename_i text hdecode
    have hiff : IsContent (vars.substituteBytes content) received body ↔
        normalText text = normalText body := by simp [IsContent, hdecode]
    rw [map_kind_goldenText]
    exact if_congr hiff.symm rfl rfl
  · rename_i hdecode
    have hiff : IsContent (vars.substituteBytes content) received body ↔
        received = vars.substituteBytes content := by simp [IsContent, hdecode]
    by_cases hsame : received = vars.substituteBytes content
    · rw [if_pos hsame, if_pos (hiff.2 hsame)]
      rfl
    · rw [if_neg hsame, if_neg (mt hiff.1 hsame)]
      rfl

/-- The comparison by lines complains once, however many lines are missing. -/
theorem map_kind_goldenLines {path : Text} {content : Bytes} {body : Text} :
    (Check.goldenLines vars path content body).map (·.kind) =
      if ContainsLinesOf (vars.substitute (Utf8.decodeLossy content)) body then []
      else [.body] := by
  unfold Check.goldenLines
  split
  · rename_i hnone
    rw [if_pos (requiredLines_filter_eq_nil_iff.1 hnone)]
    rfl
  · rename_i hmissing
    rw [if_neg]
    · rfl
    · intro hcontains
      exact hmissing (requiredLines_filter_eq_nil_iff.2 hcontains)

/-- The check of a golden resource complains about the resource or about the body. -/
theorem map_kind_golden (path : Text) :
    (Check.golden response expectations.matchMode vars goldens
        (response.bodyText expectations.charsetOverride) path).map (·.kind) =
      (golden path).complaints response expectations vars goldens := by
  unfold Check.golden
  dsimp only
  split
  · rename_i hlookup
    rw [complaints_of_not_holds]
    · simp only [kind, hlookup, List.map_singleton]
    · rintro ⟨content, hmem, -⟩
      rw [hlookup] at hmem
      cases hmem
  · rename_i content hlookup
    have hiff : (golden path).Holds response expectations vars goldens ↔
        AgreesWithGolden expectations.matchMode vars content response.body
          (response.bodyText expectations.charsetOverride) := by
      simp [Holds, hlookup]
    have hkind : (golden path).kind vars goldens = .body := by simp only [kind, hlookup]
    rw [complaints, hkind, if_congr hiff rfl rfl]
    cases expectations.matchMode with
    | exact => exact map_kind_goldenExact vars
    | substring => exact map_kind_goldenLines vars

theorem map_kind_containedLine (line : Text) :
    (Check.containedLine vars (response.bodyText expectations.charsetOverride) line).map (·.kind) =
      (containsLine line).complaints response expectations vars goldens :=
  map_kind_ite contains_eq_true_iff rfl

theorem map_kind_excludedLine (line : Text) :
    (Check.excludedLine vars (response.bodyText expectations.charsetOverride) line).map (·.kind) =
      (excludesLine line).complaints response expectations vars goldens := by
  unfold Check.excludedLine
  rw [← ite_not]
  exact map_kind_ite (not_congr contains_eq_true_iff) rfl

/-- One expectation of the body is checked requirement by requirement. -/
theorem map_kind_bodyExpectation (expectation : BodyExpectation) :
    (Check.bodyExpectation response expectations.matchMode vars goldens
        (response.bodyText expectations.charsetOverride) expectation).map (·.kind) =
      expectation.requirements.flatMap (complaints response expectations vars goldens) := by
  cases expectation with
  | golden path =>
    rw [BodyExpectation.requirements, List.flatMap_singleton]
    exact map_kind_golden response expectations vars goldens path
  | containsLines lines =>
    exact map_kind_flatMap (map_kind_containedLine response expectations vars goldens) lines
  | excludesLines lines =>
    exact map_kind_flatMap (map_kind_excludedLine response expectations vars goldens) lines
  | empty =>
    rw [BodyExpectation.requirements, List.flatMap_singleton]
    exact map_kind_ite Iff.rfl rfl

/-- The expectations of the body are checked in order. -/
theorem map_kind_body :
    (Check.body response expectations vars goldens).map (·.kind) =
      (expectations.body.flatMap BodyExpectation.requirements).flatMap
        (complaints response expectations vars goldens) := by
  unfold Check.body
  rw [List.map_flatMap, List.flatMap_assoc]
  exact List.flatMap_congr fun expectation _ =>
    map_kind_bodyExpectation response expectations vars goldens expectation

/-! ## The checks of the cookies -/

theorem map_kind_cookie (expectation : CookieExpectation) :
    (Check.cookie (Cookie.ofFields response.fields) vars expectation).map (·.kind) =
      (cookie expectation).complaints response expectations vars goldens :=
  map_kind_ite any_candidates_iff rfl

end Requirement

/-! ## The verdict -/

/-- The kinds of a verdict's diagnostics are those of the violated requirements. -/
theorem map_kind_evaluate (response : Response) (expectations : Expectations) (vars : Variables)
    (goldens : Goldens) :
    (evaluate response expectations vars goldens).diagnostics.map (·.kind) =
      (expectations.requirements.filter fun requirement =>
        ¬ requirement.Holds response expectations vars goldens).map
          (Requirement.kind vars goldens) := by
  rw [← Requirement.flatMap_complaints]
  have hstatus := Requirement.map_kind_status response expectations vars goldens
  have hpresent := Requirement.map_kind_expectedHeader response expectations vars goldens
  have habsent := Requirement.map_kind_unexpectedHeader response expectations vars goldens
  have htype := Requirement.map_kind_contentType response expectations vars goldens
  have hbody := Requirement.map_kind_body response expectations vars goldens
  have hcookie := Requirement.map_kind_cookie response expectations vars goldens
  unfold evaluate Expectations.requirements Check.expectedHeaders Check.unexpectedHeaders
    Check.cookies
  simp only [List.map_append, List.flatMap_append]
  rw [hstatus, Requirement.map_kind_flatMap hpresent, Requirement.map_kind_flatMap habsent, htype,
    hbody, Requirement.map_kind_flatMap hcookie]

/-- The diagnostics of a verdict are about the requirements that the response does not meet: one for
each of them, in their order, and none besides.  A test fails exactly when there is one. -/
theorem evaluate_reports_violations (response : Response) (expectations : Expectations)
    (vars : Variables) (goldens : Goldens) :
    (evaluate response expectations vars goldens).diagnostics.map (·.kind) =
        (expectations.requirements.filter fun requirement =>
          ¬ requirement.Holds response expectations vars goldens).map
            (Requirement.kind vars goldens) ∧
      ((evaluate response expectations vars goldens).hasFailed = true ↔
        ∃ requirement ∈ expectations.requirements,
          ¬ requirement.Holds response expectations vars goldens) := by
  have hkinds := map_kind_evaluate response expectations vars goldens
  refine ⟨hkinds, ?_⟩
  have hempty : (evaluate response expectations vars goldens).diagnostics = [] ↔
      ∀ requirement ∈ expectations.requirements,
        requirement.Holds response expectations vars goldens := by
    rw [← List.map_eq_nil_iff, hkinds, List.map_eq_nil_iff, List.filter_eq_nil_iff]
    simp only [decide_not, Bool.not_eq_true', decide_eq_false_iff_not, not_not]
  rw [Verdict.hasFailed, decide_eq_true_eq, ne_eq, hempty]
  simp only [not_forall, exists_prop]

end HttpConformance
