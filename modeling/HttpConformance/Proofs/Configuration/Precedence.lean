import HttpConformance.Configuration.Load

/-!
# The command line over the environment

What the command line gives of a configuration replaces what the environment gives, so two
environments that differ only there make the same configuration.  A run may still tell them apart: a
port in the environment that cannot be read ends the loading before the command line is reached, and
its text is in the error.

Main definitions: `Overrides.covers`, `Overrides.AgreeBeyond`, `outcome`, `unreadablePort?`.

Main results:

- `Overrides.AgreeBeyond.apply_applyEnvironment`: nothing that the command line covers gets into the
  configuration.
- `outcome_ok`: what an unreadable port does to a run.
- `outcome_eq_iff`: which environments have the same outcome.
-/

namespace HttpConformance.Configuration

/-! ## Environments that agree -/

/-- The variable gives what the command line gives too. -/
def Overrides.covers (overrides : Overrides) (name : Text) : Bool :=
  if name = hostVariable then overrides.host.isSome
  else if name = portVariable then overrides.port.isSome
  else if name = resourcesVariable then overrides.resourceRoot.isSome
  else false

/-- The environments differ only in variables that the command line covers. -/
def Overrides.AgreeBeyond (overrides : Overrides) (first second : Environment) : Prop :=
  ∀ name, overrides.covers name = false → first name = second name

section Agreement

variable {overrides : Overrides} {first second : Environment}

/-- What is taken from a variable when the command line does not give it is the same. -/
theorem Overrides.AgreeBeyond.getD_eq {α : Type} (h : overrides.AgreeBeyond first second)
    {name : Text} {given : Option α} (hcovers : overrides.covers name = given.isSome)
    (read : Option Text → α) :
    given.getD (read (first name)) = given.getD (read (second name)) := by
  cases given with
  | some value => rfl
  | none => rw [h name hcovers]

/-- Nothing that the command line covers gets into the configuration. -/
theorem Overrides.AgreeBeyond.apply_applyEnvironment (h : overrides.AgreeBeyond first second)
    (base : Configuration) :
    overrides.apply (base.applyEnvironment first) =
      overrides.apply (base.applyEnvironment second) := by
  have hhost : overrides.host.getD ((first hostVariable).getD base.host) =
      overrides.host.getD ((second hostVariable).getD base.host) :=
    h.getD_eq rfl (·.getD base.host)
  have hport : overrides.port.getD ((environmentPort? first).getD base.port) =
      overrides.port.getD ((environmentPort? second).getD base.port) :=
    h.getD_eq rfl fun port =>
      (port.bind fun value => Numeral.readPort? (Text.trim value)).getD base.port
  have hresources : overrides.resourceRoot.getD ((first resourcesVariable).getD base.resourceRoot) =
      overrides.resourceRoot.getD ((second resourcesVariable).getD base.resourceRoot) :=
    h.getD_eq rfl (·.getD base.resourceRoot)
  have hclientIp : first clientIpVariable = second clientIpVariable := h clientIpVariable rfl
  have hclientHost : first clientHostVariable = second clientHostVariable :=
    h clientHostVariable rfl
  simp only [Overrides.apply, applyEnvironment, hhost, hport, hresources, hclientIp, hclientHost]

end Agreement

/-- The environment that gives these values. -/
def given (entries : List (Text × Text)) : Environment :=
  fun name => entries.lookup name

/-- Entries that overrides cover give nothing to a name that they do not cover. -/
theorem given_eq_none {overrides : Overrides} {entries : List (Text × Text)}
    (h : ∀ entry ∈ entries, overrides.covers entry.1 = true) {name : Text}
    (hname : overrides.covers name = false) : given entries name = none := by
  refine List.lookup_eq_none_iff.2 fun entry hentry => ?_
  rw [bne_iff_ne]
  rintro rfl
  rw [h entry hentry] at hname
  cases hname

/-- Environments that give nothing but what the command line covers agree beyond it. -/
theorem agreeBeyond_given {overrides : Overrides} {entries others : List (Text × Text)}
    (hentries : ∀ entry ∈ entries, overrides.covers entry.1 = true)
    (hothers : ∀ entry ∈ others, overrides.covers entry.1 = true) :
    overrides.AgreeBeyond (given entries) (given others) := by
  intro name hname
  rw [given_eq_none hentries hname, given_eq_none hothers hname]

/-! ## Errors of the environment -/

/-- The port that the environment gives, if it cannot be read. -/
def unreadablePort? (environment : Environment) : Option Text :=
  (environment portVariable).filter fun value => (Numeral.readPort? (Text.trim value)).isNone

/-- An unreadable port is all that can be wrong with an environment. -/
theorem environmentErrors_eq (environment : Environment) :
    environmentErrors environment =
      (unreadablePort? environment).toList.map (.invalidPort portVariable) := by
  unfold environmentErrors unreadablePort?
  cases environment portVariable with
  | none => rfl
  | some value => cases hread : Numeral.readPort? (Text.trim value) <;> simp [Option.filter, hread]

/-- No error of a configuration reads like that of an unreadable port. -/
theorem Error.message_ne_invalidPort (error : Error) (value : Text) :
    error.message ≠ (LoadError.invalidPort portVariable value).message := by
  -- The two begin with different letters, whatever text is put into them.
  have hport : (LoadError.invalidPort portVariable value).message.take 2 = "HT".toList :=
    List.take_append_of_le_length
      (by decide : 2 ≤ (portVariable ++ " is not a valid port: ".toList).length)
  have hopening {front : Text} (h : 2 ≤ front.length ∧ front.take 2 ≠ "HT".toList) (rest : Text) :
      (front ++ rest).take 2 ≠ "HT".toList := by
    rw [List.take_append_of_le_length h.1]
    exact h.2
  have herror : error.message.take 2 ≠ "HT".toList := by
    cases error with
    | invalidHost host => exact hopening (by decide) host
    | invalidClientIp address => exact hopening (by decide) address
    | unknownLogLevel level => exact hopening (by decide) level
    | markInVariableName name => exact hopening (by decide) name
    | _ => decide
  intro h
  exact herror (h ▸ hport)

/-- Messages about a port that cannot be read are told apart by its text. -/
theorem LoadError.message_invalidPort_inj {name first second : Text} :
    (LoadError.invalidPort name first).message = (LoadError.invalidPort name second).message ↔
      first = second :=
  List.append_right_inj _

/-! ## Outcomes -/

/-- What a run comes to know of its configuration: the configuration, or what is wrong with it in
words. -/
def outcome (file : Option (Except LoadError Configuration)) (environment : Environment)
    (overrides : Overrides) : Except (List Text) Configuration :=
  (assemble file environment overrides.apply).mapError (·.map LoadError.message)

/-- The configuration put in order, or what is wrong with it in words. -/
def checked (configuration : Configuration) : Except (List Text) Configuration :=
  match configuration.sanitize.errors with
  | [] => .ok configuration.sanitize
  | errors => .error (errors.map Error.message)

/-- An unreadable port is all that a run comes to know of, if there is one. -/
theorem outcome_ok (base : Configuration) (environment : Environment) (overrides : Overrides) :
    outcome (some (.ok base)) environment overrides =
      match unreadablePort? environment with
      | some value => .error [(LoadError.invalidPort portVariable value).message]
      | none => checked (overrides.apply (base.applyEnvironment environment)) := by
  rw [outcome, assemble, environmentErrors_eq]
  cases unreadablePort? environment with
  | some value => rfl
  | none =>
    simp only [Option.getD_some, Option.toList_none, List.map_nil, checked]
    cases (overrides.apply (base.applyEnvironment environment)).sanitize.errors with
    | nil => rfl
    | cons error errors => exact congrArg Except.error (List.map_map ..)

/-- What is wrong with a configuration is never told as a port that cannot be read. -/
theorem checked_ne_invalidPort (configuration : Configuration) (value : Text) :
    checked configuration ≠ .error [(LoadError.invalidPort portVariable value).message] := by
  rw [checked]
  split
  · exact nofun
  · intro h
    obtain ⟨error, -, hmessage⟩ := List.map_eq_singleton_iff.1 (Except.error.inj h)
    exact error.message_ne_invalidPort value hmessage

/-- Two environments that agree beyond the command line have the same outcome exactly when the same
unreadable port is in both of them or in none, unless the file has ended the loading before. -/
theorem outcome_eq_iff (file : Option (Except LoadError Configuration)) (overrides : Overrides)
    {first second : Environment} (h : overrides.AgreeBeyond first second) :
    outcome file first overrides = outcome file second overrides ↔
      (∃ error, file = some (.error error)) ∨ unreadablePort? first = unreadablePort? second := by
  have hok (base : Configuration) :
      outcome (some (.ok base)) first overrides = outcome (some (.ok base)) second overrides ↔
        unreadablePort? first = unreadablePort? second := by
    rw [outcome_ok, outcome_ok, h.apply_applyEnvironment]
    -- Both runs have the same configuration to check, so only the ports can tell them apart.
    cases unreadablePort? first with
    | none =>
      cases unreadablePort? second with
      | none => simp
      | some value => simp [checked_ne_invalidPort]
    | some value =>
      cases unreadablePort? second with
      | none => simp [(checked_ne_invalidPort _ _).symm]
      | some other => simp [LoadError.message_invalidPort_inj]
  match file with
  | some (.error error) => exact iff_of_true rfl (Or.inl ⟨error, rfl⟩)
  | some (.ok base) => simpa using hok base
  | none =>
    have hdefault (environment : Environment) :
        outcome none environment overrides = outcome (some (.ok {})) environment overrides := rfl
    rw [hdefault, hdefault, hok {}]
    simp

/-- A command line that gives all that it can of what the environment gives. -/
def everythingGiven : Overrides where
  host := "tck.local".toList
  port := some 9090
  resourceRoot := "golden".toList

/-- Values that would be wrong if they were used, and none at all. -/
theorem outcome_eq_iff_everythingGiven :
    let first := given [(hostVariable, "a b".toList), (portVariable, " 0 ".toList),
      (resourcesVariable, [])]
    everythingGiven.AgreeBeyond first (given []) ∧
      outcome none first everythingGiven = outcome none (given []) everythingGiven := by
  intro first
  have hagree : everythingGiven.AgreeBeyond first (given []) :=
    agreeBeyond_given (by decide) (by decide)
  exact ⟨hagree, (outcome_eq_iff none everythingGiven hagree).2 (Or.inr (by decide))⟩

/-- A command line that gives the port alone. -/
def portGiven : Overrides where
  port := some 9090

/-- A port that is not used ends the loading when it is no number. -/
theorem not_outcome_eq :
    ¬ ∀ (file : Option (Except LoadError Configuration)) (overrides : Overrides)
        (first second : Environment), overrides.AgreeBeyond first second →
          outcome file first overrides = outcome file second overrides := by
  intro h
  have hagree : portGiven.AgreeBeyond (given [(portVariable, "http".toList)]) (given []) :=
    agreeBeyond_given (by decide) (by decide)
  have hfirst : outcome none (given [(portVariable, "http".toList)]) portGiven =
      .error ["HTTP_ASSERT_PORT is not a valid port: http".toList] := rfl
  have hsecond : outcome none (given []) portGiven = .ok { port := 9090 } := rfl
  have heq := h none portGiven _ _ hagree
  rw [hfirst, hsecond] at heq
  cases heq

end HttpConformance.Configuration
