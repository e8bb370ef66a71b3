import HttpConformance.Proofs.Assertion.FatalVerdict
import HttpConformance.Proofs.Expectation.Refusal
import HttpConformance.Proofs.Expectation.WrittenList

/-!
# Building an assertion

An assertion is built in any number of steps, in any order.  A step that is given a text it cannot
read leaves its error behind and nothing else, and no later step takes the error away again.  A run
of an assertion with errors, or of one that cannot be sent for another reason, is refused before the
first exchange, with all errors in the order of their steps.

Main definitions: `Assertion.Step`, `Assertion.build`, `Assertion.Step.IsRefusedWith`,
`Assertion.IsUnsendable`, `refusal`.

Main results:

- `Assertion.Step.apply_of_error?_eq_some`, `Assertion.Step.apply_of_error?_eq_none`: what one step
  does.
- `Assertion.Step.error?_eq_some_iff`, `Assertion.errorsOf_eq_nil_iff`: which steps are refused, and
  with which error.
- `Assertion.build_eq`: an assertion is built by the steps that are accepted.
- `Assertion.source_build`, `Assertion.cookies_build`: the request and the cookies of an assertion.
- `Assertion.exists_prepare_build_eq_error_iff`: when an assertion without errors cannot be sent.
- `Surroundings.run_of_prepare_eq_error`, `Surroundings.sent_ne_nil_of_prepare_eq_ok`: whether there
  is an exchange.
- `Surroundings.badly_built_sends_nothing`: what becomes of a badly built assertion.
-/

namespace HttpConformance

namespace Assertion

/-! ## Steps -/

/-- A step of building an assertion. -/
inductive Step where
  | describe (description : Text)
  | sendText (raw : Text)
  | sendRequest (request : Request)
  | sendCookie (cookie : Cookie)
  | waitAtMost (milliseconds : UInt64)
  | expectStatus (code : UInt16)
  | expectAnyStatus
  | expectStatusMessage (message : Text)
  | expectHeaders (text : Text)
  | rejectHeaders (text : Text)
  | expectContentType (text : Text)
  | expectAnyContentType
  | expectBody (expectation : BodyExpectation)
  | matchExactly (exact : Bool)
  | matchExactlyFlag (word : Text)
  | expectCookie (name : Text) (value : Option Text)
  | readAs (charset : Text)
  | followRedirects (follow : Bool)
  | withExpectations (expectations : Expectations)
  deriving DecidableEq, Repr

/-- The error of a reading, if it has failed. -/
def errorOf? {α ε : Type} (read : Except ε α) (toError : ε → SetupError) : Option SetupError :=
  match read with
  | .ok _ => none
  | .error error => some (toError error)

namespace Step

/-- What a step makes of an assertion. -/
def apply : Step → Assertion → Assertion
  | describe description => Assertion.describe description
  | sendText raw => Assertion.sendText raw
  | sendRequest request => Assertion.sendRequest request
  | sendCookie cookie => Assertion.sendCookie cookie
  | waitAtMost milliseconds => Assertion.waitAtMost milliseconds
  | expectStatus code => Assertion.expectStatus code
  | expectAnyStatus => Assertion.expectAnyStatus
  | expectStatusMessage message => Assertion.expectStatusMessage message
  | expectHeaders text => Assertion.expectHeaders text
  | rejectHeaders text => Assertion.rejectHeaders text
  | expectContentType text => Assertion.expectContentType text
  | expectAnyContentType => Assertion.expectAnyContentType
  | expectBody expectation => Assertion.expectBody expectation
  | matchExactly exact => Assertion.matchExactly exact
  | matchExactlyFlag word => Assertion.matchExactlyFlag word
  | expectCookie name value => Assertion.expectCookie name value
  | readAs charset => Assertion.readAs charset
  | followRedirects follow => Assertion.followRedirects follow
  | withExpectations expectations => Assertion.withExpectations expectations

/-- What is wrong with the text that a step is given, under a configuration. -/
def error? (configuration : Configuration) : Step → Option SetupError
  | expectHeaders text | rejectHeaders text =>
    errorOf? (HeaderPredicate.parseListWith
      (fun name => (configuration.substitutor.find? name).isSome) text) .header
  | expectContentType text => errorOf? (ContentTypeExpectation.parse text) .contentType
  | matchExactlyFlag word => errorOf? (Flag.parse word) .exactMatch
  | _ => none

/-- The request that a step sets. -/
def source? : Step → Option RequestSource
  | sendText raw => some (.text raw)
  | sendRequest request => some (.request request)
  | _ => none

/-- The cookie that a step adds. -/
def cookie? : Step → Option Cookie
  | sendCookie cookie => some cookie
  | _ => none

end Step

/-- The assertion that some steps build under a configuration. -/
def build (id : Text) (configuration : Configuration) (steps : List Step) : Assertion :=
  steps.foldl (fun assertion step => step.apply assertion) { id, configuration }

/-- The assertion with other errors left behind by its steps. -/
def withErrors (errors : List SetupError) (assertion : Assertion) : Assertion :=
  { assertion with setupErrors := errors }

variable {assertion : Assertion} {step : Step}

/-! ## What one step does -/

/-- A reading that fails leaves its error behind and nothing else. -/
theorem attempt_of_errorOf?_eq_some {α ε : Type} {read : Except ε α} {toError : ε → SetupError}
    {error : SetupError} (h : errorOf? read toError = some error)
    (change : α → Expectations → Expectations) :
    assertion.attempt read toError change =
      assertion.withErrors (assertion.setupErrors ++ [error]) := by
  cases read with
  | ok value => cases h
  | error failed =>
    cases h
    rfl

/-- A reading that succeeds leaves the errors as they are, and does not look at them. -/
theorem attempt_of_errorOf?_eq_none {α ε : Type} {read : Except ε α} {toError : ε → SetupError}
    (h : errorOf? read toError = none) (change : α → Expectations → Expectations)
    (errors : List SetupError) :
    (assertion.withErrors errors).attempt read toError change =
      (assertion.attempt read toError change).withErrors errors := by
  cases read with
  | ok value => rfl
  | error failed => cases h

section

variable {α ε : Type} (read : Except ε α) (toError : ε → SetupError)
  (change : α → Expectations → Expectations)

@[simp]
theorem configuration_attempt :
    (assertion.attempt read toError change).configuration = assertion.configuration := by
  cases read <;> rfl

@[simp]
theorem source_attempt :
    (assertion.attempt read toError change).source = assertion.source := by
  cases read <;> rfl

@[simp]
theorem cookies_attempt :
    (assertion.attempt read toError change).cookies = assertion.cookies := by
  cases read <;> rfl

end

namespace Step

/-- A step does not touch the configuration. -/
theorem configuration_apply (step : Step) (assertion : Assertion) :
    (step.apply assertion).configuration = assertion.configuration := by
  cases step with
  | expectHeaders text => exact configuration_attempt _ _ _
  | rejectHeaders text => exact configuration_attempt _ _ _
  | expectContentType text => exact configuration_attempt _ _ _
  | matchExactlyFlag word => exact configuration_attempt _ _ _
  | _ => rfl

/-- A step that is given a text it cannot read leaves its error behind and nothing else. -/
theorem apply_of_error?_eq_some {error : SetupError}
    (h : step.error? assertion.configuration = some error) :
    step.apply assertion = assertion.withErrors (assertion.setupErrors ++ [error]) := by
  cases step with
  | expectHeaders text => exact attempt_of_errorOf?_eq_some h _
  | rejectHeaders text => exact attempt_of_errorOf?_eq_some h _
  | expectContentType text => exact attempt_of_errorOf?_eq_some h _
  | matchExactlyFlag word => exact attempt_of_errorOf?_eq_some h _
  | _ => cases h

/-- A step that is accepted leaves the errors as they are, and does not look at them. -/
theorem apply_of_error?_eq_none (h : step.error? assertion.configuration = none)
    (errors : List SetupError) :
    step.apply (assertion.withErrors errors) = (step.apply assertion).withErrors errors := by
  cases step with
  | expectHeaders text => exact attempt_of_errorOf?_eq_none h _ _
  | rejectHeaders text => exact attempt_of_errorOf?_eq_none h _ _
  | expectContentType text => exact attempt_of_errorOf?_eq_none h _ _
  | matchExactlyFlag word => exact attempt_of_errorOf?_eq_none h _ _
  | _ => rfl

/-- A step without an error leaves the errors as they are. -/
theorem setupErrors_apply (h : step.error? assertion.configuration = none) :
    (step.apply assertion).setupErrors = assertion.setupErrors := by
  have hself : assertion.withErrors assertion.setupErrors = assertion := rfl
  have happly := apply_of_error?_eq_none h assertion.setupErrors
  rw [hself] at happly
  rw [happly]
  rfl

/-- A step sets the request or leaves it as it is. -/
theorem source_apply (step : Step) (assertion : Assertion) :
    (step.apply assertion).source = step.source?.or assertion.source := by
  cases step with
  | expectHeaders text => exact source_attempt _ _ _
  | rejectHeaders text => exact source_attempt _ _ _
  | expectContentType text => exact source_attempt _ _ _
  | matchExactlyFlag word => exact source_attempt _ _ _
  | _ => rfl

/-- A step adds a cookie or leaves the cookies as they are. -/
theorem cookies_apply (step : Step) (assertion : Assertion) :
    (step.apply assertion).cookies = assertion.cookies ++ step.cookie?.toList := by
  cases step with
  | sendCookie cookie => rfl
  | expectHeaders text => simp [apply, Assertion.expectHeaders, cookie?]
  | rejectHeaders text => simp [apply, Assertion.rejectHeaders, cookie?]
  | expectContentType text => simp [apply, Assertion.expectContentType, cookie?]
  | matchExactlyFlag word => simp [apply, Assertion.matchExactlyFlag, cookie?]
  | _ => exact (List.append_nil _).symm

end Step

/-! ## Steps that are refused -/

namespace Step

/-- The text that a step is given cannot be read under a configuration, with this error: a list of
predicates has a piece without a name, a content type has no slash before its first semicolon, or a
word is one for neither truth value. -/
inductive IsRefusedWith (configuration : Configuration) : Step → SetupError → Prop where
  | expectHeaders {text piece : Text}
      (h : (HeaderPredicate.splitList (fun name => (configuration.substitutor.find? name).isSome)
        text).find? (HeaderPredicate.IsNameless ·) = some piece) :
      IsRefusedWith configuration (expectHeaders text) (.header ⟨piece⟩)
  | rejectHeaders {text piece : Text}
      (h : (HeaderPredicate.splitList (fun name => (configuration.substitutor.find? name).isSome)
        text).find? (HeaderPredicate.IsNameless ·) = some piece) :
      IsRefusedWith configuration (rejectHeaders text) (.header ⟨piece⟩)
  | expectContentType {text : Text} (h : '/' ∉ text.takeWhile (· != ';')) :
      IsRefusedWith configuration (expectContentType text) (.contentType ⟨text⟩)
  | matchExactlyFlag {word : Text}
      (h : ∀ value, Text.lowerAscii (Text.trim word) ∉ Flag.wordsFor value) :
      IsRefusedWith configuration (matchExactlyFlag word)
        (.exactMatch ⟨Text.lowerAscii (Text.trim word)⟩)

/-- A reading has an error exactly when it fails. -/
theorem errorOf?_eq_some_iff {α ε : Type} {read : Except ε α} {toError : ε → SetupError}
    {error : SetupError} :
    errorOf? read toError = some error ↔
      ∃ failed, read = .error failed ∧ toError failed = error := by
  cases read <;> simp [errorOf?]

/-- A step has an error exactly when its text is refused with that error. -/
theorem error?_eq_some_iff {configuration : Configuration} {error : SetupError} :
    step.error? configuration = some error ↔ step.IsRefusedWith configuration error := by
  constructor
  · intro h
    cases step with
    | expectHeaders text =>
      obtain ⟨⟨piece⟩, hfailed, rfl⟩ := errorOf?_eq_some_iff.1 h
      exact .expectHeaders (HeaderPredicate.parseListWith_eq_error_iff.1 hfailed)
    | rejectHeaders text =>
      obtain ⟨⟨piece⟩, hfailed, rfl⟩ := errorOf?_eq_some_iff.1 h
      exact .rejectHeaders (HeaderPredicate.parseListWith_eq_error_iff.1 hfailed)
    | expectContentType text =>
      obtain ⟨failed, hfailed, rfl⟩ := errorOf?_eq_some_iff.1 h
      obtain ⟨hslash, rfl⟩ := ContentTypeExpectation.parse_eq_error_iff.1 hfailed
      exact .expectContentType hslash
    | matchExactlyFlag word =>
      obtain ⟨failed, hfailed, rfl⟩ := errorOf?_eq_some_iff.1 h
      obtain ⟨hword, rfl⟩ := Flag.parse_eq_error_iff.1 hfailed
      exact .matchExactlyFlag hword
    | _ => cases h
  · intro h
    cases h with
    | expectHeaders h =>
      exact errorOf?_eq_some_iff.2 ⟨_, HeaderPredicate.parseListWith_eq_error_iff.2 h, rfl⟩
    | rejectHeaders h =>
      exact errorOf?_eq_some_iff.2 ⟨_, HeaderPredicate.parseListWith_eq_error_iff.2 h, rfl⟩
    | expectContentType h =>
      exact errorOf?_eq_some_iff.2 ⟨_, ContentTypeExpectation.parse_eq_error_iff.2 ⟨h, rfl⟩, rfl⟩
    | matchExactlyFlag h =>
      exact errorOf?_eq_some_iff.2 ⟨_, Flag.parse_eq_error_iff.2 ⟨h, rfl⟩, rfl⟩

end Step

/-! ## What all steps do -/

/-- The steps that are accepted under a configuration. -/
def accepted (configuration : Configuration) (steps : List Step) : List Step :=
  steps.filter fun step => (step.error? configuration).isNone

/-- What is wrong with the texts that some steps are given, in the order of the steps. -/
def errorsOf (configuration : Configuration) (steps : List Step) : List SetupError :=
  steps.filterMap (Step.error? configuration)

/-- Nothing is wrong with the steps exactly when none of their texts is refused. -/
theorem errorsOf_eq_nil_iff {configuration : Configuration} {steps : List Step} :
    errorsOf configuration steps = [] ↔
      ∀ step ∈ steps, ∀ error, ¬ step.IsRefusedWith configuration error := by
  simp only [errorsOf, List.filterMap_eq_nil_iff, Option.eq_none_iff_forall_ne_some, ne_eq,
    Step.error?_eq_some_iff]

/-- Accepted steps do not look at the errors of others. -/
theorem foldl_apply_withErrors {steps : List Step}
    (h : ∀ step ∈ steps, step.error? assertion.configuration = none) (errors : List SetupError) :
    steps.foldl (fun assertion step => step.apply assertion) (assertion.withErrors errors) =
      (steps.foldl (fun assertion step => step.apply assertion) assertion).withErrors errors := by
  induction steps generalizing assertion with
  | nil => rfl
  | cons step steps ih =>
    have hstep := h step List.mem_cons_self
    rw [List.foldl_cons, List.foldl_cons, Step.apply_of_error?_eq_none hstep]
    refine ih fun later hlater => ?_
    rw [Step.configuration_apply]
    exact h later (List.mem_cons_of_mem step hlater)

/-- An assertion goes on being built by the accepted steps, and the errors of all others are kept in
their order. -/
theorem foldl_apply_eq (steps : List Step) (assertion : Assertion) :
    steps.foldl (fun assertion step => step.apply assertion) assertion =
      ((accepted assertion.configuration steps).foldl (fun assertion step => step.apply assertion)
        assertion).withErrors
          (assertion.setupErrors ++ errorsOf assertion.configuration steps) := by
  induction steps generalizing assertion with
  | nil =>
    dsimp only [accepted, errorsOf, List.filter_nil, List.filterMap_nil, List.foldl_nil, withErrors]
    rw [List.append_nil]
  | cons step steps ih =>
    rw [List.foldl_cons, ih, Step.configuration_apply]
    cases hstep : step.error? assertion.configuration with
    | some error =>
      have haccepted : accepted assertion.configuration (step :: steps) =
          accepted assertion.configuration steps :=
        List.filter_cons_of_neg (by rw [hstep]; exact Bool.false_ne_true)
      have herrors : errorsOf assertion.configuration (step :: steps) =
          error :: errorsOf assertion.configuration steps := by
        rw [errorsOf, List.filterMap_cons_some hstep]
        rfl
      have hall : ∀ later ∈ accepted assertion.configuration steps,
          later.error? assertion.configuration = none := by
        intro later hlater
        exact Option.isNone_iff_eq_none.1 (List.mem_filter.1 hlater).2
      rw [Step.apply_of_error?_eq_some hstep, foldl_apply_withErrors hall, haccepted, herrors]
      dsimp only [withErrors]
      rw [List.append_assoc, List.singleton_append]
    | none =>
      have haccepted : accepted assertion.configuration (step :: steps) =
          step :: accepted assertion.configuration steps :=
        List.filter_cons_of_pos (by rw [hstep]; rfl)
      have herrors : errorsOf assertion.configuration (step :: steps) =
          errorsOf assertion.configuration steps := by
        rw [errorsOf, List.filterMap_cons_none hstep]
        rfl
      rw [haccepted, herrors, List.foldl_cons, Step.setupErrors_apply hstep]

/-- An assertion is built by the accepted steps, and the errors of all others are left behind in
their order. -/
theorem build_eq (id : Text) (configuration : Configuration) (steps : List Step) :
    build id configuration steps =
      (build id configuration (accepted configuration steps)).withErrors
        (errorsOf configuration steps) :=
  foldl_apply_eq steps _

/-- The errors of an assertion are those of its steps. -/
theorem setupErrors_build (id : Text) (configuration : Configuration) (steps : List Step) :
    (build id configuration steps).setupErrors = errorsOf configuration steps := by
  rw [build_eq]
  rfl

/-- An assertion has the configuration that it is built under. -/
theorem configuration_build (id : Text) (configuration : Configuration) (steps : List Step) :
    (build id configuration steps).configuration = configuration := by
  have hfoldl (steps : List Step) (assertion : Assertion) :
      (steps.foldl (fun assertion step => step.apply assertion) assertion).configuration =
        assertion.configuration := by
    induction steps generalizing assertion with
    | nil => rfl
    | cons step steps ih => rw [List.foldl_cons, ih, Step.configuration_apply]
  exact hfoldl steps _

/-- The last request that is set is the one of the assertion. -/
theorem source_build (id : Text) (configuration : Configuration) (steps : List Step) :
    (build id configuration steps).source = (steps.filterMap Step.source?).getLast? := by
  have hfoldl (steps : List Step) (assertion : Assertion) :
      (steps.foldl (fun assertion step => step.apply assertion) assertion).source =
        (steps.filterMap Step.source?).getLast?.or assertion.source := by
    induction steps generalizing assertion with
    | nil => rfl
    | cons step steps ih =>
      rw [List.foldl_cons, ih, Step.source_apply]
      cases hsource : step.source? with
      | none => rw [List.filterMap_cons_none hsource, Option.none_or]
      | some source =>
        rw [List.filterMap_cons_some hsource, List.getLast?_cons]
        cases (steps.filterMap Step.source?).getLast? <;> rfl
  rw [build, hfoldl, Option.or_none]

/-- All cookies that are added are those of the assertion. -/
theorem cookies_build (id : Text) (configuration : Configuration) (steps : List Step) :
    (build id configuration steps).cookies = steps.filterMap Step.cookie? := by
  have hfoldl (steps : List Step) (assertion : Assertion) :
      (steps.foldl (fun assertion step => step.apply assertion) assertion).cookies =
        assertion.cookies ++ steps.filterMap Step.cookie? := by
    induction steps generalizing assertion with
    | nil => exact (List.append_nil _).symm
    | cons step steps ih =>
      rw [List.foldl_cons, ih, Step.cookies_apply]
      cases hcookie : step.cookie? with
      | none => rw [List.filterMap_cons_none hcookie, Option.toList_none, List.append_nil]
      | some cookie =>
        rw [List.filterMap_cons_some hcookie, Option.toList_some, List.append_assoc,
          List.singleton_append]
  exact hfoldl steps _

/-! ## Assertions that cannot be sent -/

/-- Why an assertion cannot be sent although all its steps were accepted. -/
inductive IsUnsendable (configuration : Configuration) (steps : List Step) : Prop where
  | misconfigured (h : configuration.errors ≠ [])
  | withoutRequest (h : steps.filterMap Step.source? = [])
  | unreadable {raw : Text} {error : RequestError}
      (hsource : (steps.filterMap Step.source?).getLast? = some (.text raw))
      (h : Request.parse (configuration.substitutor.substitute raw) = .error error)
  | cookiesOnVerbatim {request : Request}
      (hsource : (steps.filterMap Step.source?).getLast? = some (.request request))
      (h : request.isVerbatim = true) (hcookies : steps.filterMap Step.cookie? ≠ [])

/-- The errors of the steps are all that is said of a badly built assertion. -/
theorem prepare_of_setupErrors_ne_nil (h : assertion.setupErrors ≠ []) :
    assertion.prepare =
      .error (.configuration (joinMessages (assertion.setupErrors.map SetupError.message))) :=
  if_pos h

/-- A text is never read as a verbatim request. -/
theorem isVerbatim_of_parse {text : Text} {request : Request}
    (h : Request.parse text = .ok request) : request.isVerbatim = false := by
  unfold Request.parse at h
  dsimp only at h
  split at h
  · cases h
  · cases h
    rfl

/-- A configuration without errors, a source that can be read and no cookies on a verbatim request
leave nothing in the way of sending. -/
theorem not_isUnsendable {configuration : Configuration} {steps : List Step}
    {source : RequestSource} (hconfiguration : configuration.errors = [])
    (hsource : (steps.filterMap Step.source?).getLast? = some source)
    (htext : ∀ raw error, source = .text raw →
      Request.parse (configuration.substitutor.substitute raw) ≠ .error error)
    (hrequest : ∀ request, source = .request request →
      ¬ (request.isVerbatim = true ∧ steps.filterMap Step.cookie? ≠ [])) :
    ¬ IsUnsendable configuration steps := by
  intro h
  cases h with
  | misconfigured h => exact h hconfiguration
  | withoutRequest h =>
    rw [h] at hsource
    cases hsource
  | unreadable hother h =>
    rw [hsource] at hother
    exact htext _ _ (Option.some.inj hother) h
  | cookiesOnVerbatim hother h hcookies =>
    rw [hsource] at hother
    exact hrequest _ (Option.some.inj hother) ⟨h, hcookies⟩

/-- Preparing an assertion without errors of its steps fails exactly when it cannot be sent. -/
theorem exists_prepare_build_eq_error_iff (id : Text) {configuration : Configuration}
    {steps : List Step} (herrors : errorsOf configuration steps = []) :
    (∃ failure, (build id configuration steps).prepare = .error failure) ↔
      IsUnsendable configuration steps := by
  have hok {request : Request} :
      ¬ ∃ failure, (.ok request : Except Failure Request) = .error failure := by
    rintro ⟨failure, h⟩
    cases h
  rw [prepare, setupErrors_build, configuration_build, cookies_build, sourceRequest, source_build,
    configuration_build, if_neg (not_not_intro herrors)]
  by_cases hconfiguration : configuration.errors = []
  · rw [if_neg (not_not_intro hconfiguration)]
    cases hsource : (steps.filterMap Step.source?).getLast? with
    | none => exact iff_of_true ⟨_, rfl⟩ (.withoutRequest (List.getLast?_eq_none_iff.1 hsource))
    | some source =>
      cases source with
      | text raw =>
        dsimp only
        cases hparse : Request.parse (configuration.substitutor.substitute raw) with
        | error error => exact iff_of_true ⟨_, rfl⟩ (.unreadable hsource hparse)
        | ok request =>
          have hverbatim : ¬ (request.isVerbatim = true ∧ steps.filterMap Step.cookie? ≠ []) := by
            rw [isVerbatim_of_parse hparse]
            exact fun h => Bool.false_ne_true h.1
          dsimp only [Except.mapError]
          rw [if_neg hverbatim]
          refine iff_of_false hok (not_isUnsendable hconfiguration hsource ?_ ?_)
          · intro other error hother herror
            cases hother
            rw [hparse] at herror
            cases herror
          · intro other hother
            cases hother
      | request request =>
        dsimp only
        by_cases hverbatim : request.isVerbatim = true ∧ steps.filterMap Step.cookie? ≠ []
        · rw [if_pos hverbatim]
          exact iff_of_true ⟨_, rfl⟩ (.cookiesOnVerbatim hsource hverbatim.1 hverbatim.2)
        · rw [if_neg hverbatim]
          refine iff_of_false hok (not_isUnsendable hconfiguration hsource ?_ ?_)
          · intro other error hother
            cases hother
          · intro other hother
            cases hother
            exact hverbatim
  · rw [if_pos hconfiguration]
    exact iff_of_true ⟨_, rfl⟩ (.misconfigured hconfiguration)

end Assertion

/-- The outcome of a run that is refused. -/
def refusal (message : Text) : Verdict × Option Response :=
  (⟨[⟨.configuration, "no error".toList, "ConfigurationError: ".toList ++ message⟩]⟩, none)

theorem ofFailure_configuration (message : Text) :
    (Verdict.ofFailure (.configuration message), none) = refusal message :=
  rfl

namespace Surroundings

variable {world : Surroundings} {assertion : Assertion}

/-! ## Refused runs -/

/-- An assertion that cannot be prepared is refused without an exchange. -/
theorem run_of_prepare_eq_error {message : Text}
    (h : assertion.prepare = .error (.configuration message)) :
    (assertion.run world.client).run [] = (refusal message, []) := by
  rw [run_run, execute_of_error world h, ← ofFailure_configuration]

/-- An assertion that can be prepared is sent. -/
theorem sent_ne_nil_of_prepare_eq_ok {request : Request} (h : assertion.prepare = .ok request) :
    ((assertion.run world.client).run []).2 ≠ [] := by
  rw [run_run, execute_of_ok world h]
  refine List.ne_nil_of_length_pos ?_
  cases hfollow : assertion.expectations.followRedirects with
  | false =>
    have hone : (world.finalResponse assertion request).2.length = 1 :=
      length_finalResponse_of_not_follow hfollow
    dsimp only
    omega
  | true => exact (ends_finalResponse h hfollow).length_pos

/-- A badly built assertion is built by its other steps alone, and its run is refused before the
first exchange with all errors in the order of their steps.  An assertion without errors that cannot
be sent is refused before the first exchange as well, and every other one is sent. -/
theorem badly_built_sends_nothing (world : Surroundings) (id : Text)
    (configuration : Configuration) (steps : List Assertion.Step) :
    let assertion := Assertion.build id configuration steps
    let accepted := Assertion.accepted configuration steps
    let errors := Assertion.errorsOf configuration steps
    let ran := (assertion.run world.client).run []
    assertion = (Assertion.build id configuration accepted).withErrors errors ∧
      (errors ≠ [] →
        ran = (refusal (Text.join "; ".toList (errors.map SetupError.message)), [])) ∧
      (errors = [] → Assertion.IsUnsendable configuration steps →
        ∃ message, ran = (refusal message, [])) ∧
      (errors = [] → ¬ Assertion.IsUnsendable configuration steps → ran.2 ≠ []) := by
  intro assertion accepted errors ran
  refine ⟨Assertion.build_eq id configuration steps, ?_, ?_, ?_⟩
  · intro herrors
    have hsetup : assertion.setupErrors = errors :=
      Assertion.setupErrors_build id configuration steps
    have hprepare := Assertion.prepare_of_setupErrors_ne_nil (hsetup ▸ herrors)
    rw [hsetup] at hprepare
    exact run_of_prepare_eq_error hprepare
  · intro herrors hunsendable
    obtain ⟨⟨kind, message⟩, hprepare⟩ :=
      (Assertion.exists_prepare_build_eq_error_iff id herrors).2 hunsendable
    obtain rfl : kind = .configuration := kind_of_prepare hprepare
    exact ⟨message, run_of_prepare_eq_error hprepare⟩
  · intro herrors hsendable
    cases hprepare : assertion.prepare with
    | error failure =>
      exact absurd
        ((Assertion.exists_prepare_build_eq_error_iff id herrors).1 ⟨failure, hprepare⟩) hsendable
    | ok request => exact sent_ne_nil_of_prepare_eq_ok hprepare

/-- Errors outlive the expectations that they were to be about. -/
example : (Assertion.errorsOf {} [.matchExactlyFlag "maybe".toList, .withExpectations {},
      .expectContentType "text".toList]).map SetupError.message =
    ["exactMatch: Not a boolean flag: \"maybe\"".toList,
      "Invalid content type: \"text\"".toList] := by
  decide +kernel

end Surroundings

end HttpConformance
