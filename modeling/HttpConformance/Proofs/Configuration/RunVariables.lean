import HttpConformance.Suite.Run
import HttpConformance.Proofs.Substitution.Idempotence
import HttpConformance.Proofs.Variables

/-!
# Variables of a run

The variables of a run come from three places: those that every run has win over those of its
configuration, and these win over those of the suite.  A configuration without errors has no
variable whose name is empty or has a mark in it, but it may have one whose name no reference can
have, such as a name with a blank.  Such a variable is known and yet cannot be used: what is written
as a reference to it stays as it is.

Main definitions: `Variables.Inserts`, `Variables.Leaves`, `Suite.valueOf?`.

Main results:

- `Variables.inserts_of_isName`, `Variables.leaves_of_not_isName`: what becomes of a reference to a
  name, and of what looks like one.
- `Suite.find?_substitutor_configure`: which place a value comes from.
- `Suite.not_inserts_variable`: some variables of a run cannot be used.
- `Suite.inserts_variable_iff`: which ones can.
-/

namespace HttpConformance

namespace Variables

/-! ## References to one name -/

/-- What is written as a reference to the name is replaced by the value, between both kinds of
marks. -/
structure Inserts (vars : Variables) (name value : Text) : Prop where
  braced : vars.substitute ('$' :: '\x7b' :: name ++ ['\x7d']) = value
  barred : vars.substitute ('|' :: name ++ ['|']) = value

instance (vars : Variables) (name value : Text) : Decidable (vars.Inserts name value) :=
  decidable_of_iff
    (vars.substitute ('$' :: '\x7b' :: name ++ ['\x7d']) = value ∧
      vars.substitute ('|' :: name ++ ['|']) = value)
    ⟨fun h => ⟨h.1, h.2⟩, fun h => ⟨h.braced, h.barred⟩⟩

/-- What is written as a reference to the name stays as it is, between both kinds of marks. -/
structure Leaves (vars : Variables) (name : Text) : Prop where
  braced : vars.substitute ('$' :: '\x7b' :: name ++ ['\x7d']) = '$' :: '\x7b' :: name ++ ['\x7d']
  barred : vars.substitute ('|' :: name ++ ['|']) = '|' :: name ++ ['|']

variable {vars : Variables} {name value : Text}

/-- A variable with a name is inserted for its references. -/
theorem inserts_of_isName (hname : IsName name) (hfind : vars.find? name = some value) :
    vars.Inserts name value := by
  have hmem := find?_eq_some_iff.1 hfind
  have hwhole {reference : Text} (h : vars.IsReference reference value) :
      vars.substitute reference = value := by
    have hpass := substitute_append_of_isReference h []
    rwa [List.append_nil, substitute_nil, List.append_nil] at hpass
  exact ⟨hwhole (.braced hname hmem), hwhole (.barred hname hmem)⟩

/-- Two braces with something else than a name between them are no reference. -/
theorem not_beginsReference_braced {inner : Text} (hbrace : '\x7d' ∉ inner) (hname : ¬ IsName inner)
    (rest : Text) : ¬ vars.BeginsReference ('$' :: '\x7b' :: (inner ++ '\x7d' :: rest)) := by
  rintro ⟨reference, value, after, hreference, heq⟩
  cases hreference with
  | @braced name _ hname' hmem =>
    have hbrace' : '\x7d' ∉ name := fun hc => absurd (hname'.letters _ hc) (by decide)
    have hinner : inner ++ '\x7d' :: rest = name ++ '\x7d' :: after := by
      simpa using (List.cons.inj (List.cons.inj heq).2).2
    rw [((append_cons_inj hbrace hbrace').1 hinner).1] at hname
    exact hname hname'
  | barred hname' hmem =>
    have hmark : '$' = '|' := (List.cons.inj heq).1
    exact absurd hmark (by decide)

/-- What looks like a reference stays as it is when no reference can have the name. -/
theorem leaves_of_not_isName (hmarks : ∀ c ∈ name, ¬ IsMark c) (hname : ¬ IsName name) :
    vars.Leaves name := by
  have hout {mark : Char} (hmark : IsMark mark) : mark ∉ name := fun hmem => hmarks mark hmem hmark
  have hplain : ∀ c ∈ name, c ≠ '$' ∧ c ≠ '|' := by
    intro c hc
    exact ⟨fun heq => hmarks c hc (Or.inl heq), fun heq => hmarks c hc (Or.inr (Or.inl heq))⟩
  constructor
  · have hbraced : ∀ c ∈ '\x7b' :: name ++ ['\x7d'], c ≠ '$' ∧ c ≠ '|' := by
      simp only [List.cons_append, List.mem_cons, List.mem_append, List.not_mem_nil, or_false]
      rintro c (rfl | hc | rfl)
      · decide
      · exact hplain c hc
      · decide
    have hrest : vars.substitute ('\x7b' :: name ++ ['\x7d']) = '\x7b' :: name ++ ['\x7d'] := by
      have hpass : vars.substitute (_ ++ []) = _ := substitute_plain_append hbraced []
      rwa [List.append_nil, substitute_nil, List.append_nil] at hpass
    have hnone : ¬ vars.BeginsReference ('$' :: '\x7b' :: (name ++ ['\x7d'])) :=
      not_beginsReference_braced (hout (by decide)) hname []
    exact (substitute_cons hnone).trans (congrArg ('$' :: ·) hrest)
  · have hnone : ¬ vars.BeginsReference ('|' :: (name ++ ['|'])) :=
      not_beginsReference_barred (hout (by decide)) hname []
    have hrest : vars.substitute (name ++ ['|']) = name ++ ['|'] := by
      rw [substitute_plain_append hplain, substitute_bar]
    exact (substitute_cons hnone).trans (congrArg ('|' :: ·) hrest)

/-- A name that no reference can have is not replaced by anything. -/
theorem Leaves.not_inserts (h : vars.Leaves name) (value : Text) : ¬ vars.Inserts name value := by
  intro hinserts
  have hbraced := h.braced.symm.trans hinserts.braced
  have hbarred := h.barred.symm.trans hinserts.barred
  have hmark : '$' = '|' := (List.cons.inj (hbraced.trans hbarred.symm)).1
  exact absurd hmark (by decide)

end Variables

/-! ## The three places -/

namespace Configuration

/-- The names of the variables that every run has can be referred to, and are different. -/
theorem isName_of_mem_builtInVariables (configuration : Configuration) :
    ∀ name ∈ configuration.builtInVariables.map (·.1), Variables.IsName name := by
  have hnames : ∀ name ∈ ["host".toList, "port".toList, "client.ip".toList, "client.host".toList],
      Variables.IsName name := by decide
  exact hnames

/-- No built-in variable has the name of another one. -/
theorem nodup_builtInVariables (configuration : Configuration) :
    (configuration.builtInVariables.map (·.1)).Nodup := by
  have hnodup :
      ["host".toList, "port".toList, "client.ip".toList, "client.host".toList].Nodup := by decide
  exact hnodup

/-- The variables that every run has win over those of the configuration. -/
theorem find?_substitutor (configuration : Configuration) (name : Text) :
    configuration.substitutor.find? name =
      (configuration.builtInVariables.lookup name).or (configuration.vars.find? name) :=
  Variables.find?_foldl_insert configuration.nodup_builtInVariables configuration.vars name

theorem isMark_eq_true_iff {c : Char} : isMark c = true ↔ Variables.IsMark c := by
  simp only [isMark, Variables.IsMark, Bool.or_eq_true, beq_iff_eq]
  tauto

/-- The names of the variables of a configuration without errors have no marks in them. -/
theorem not_isMark_of_errors_eq_nil {configuration : Configuration}
    (h : configuration.errors = []) {name : Text} (hname : name ∈ configuration.vars.names) :
    ∀ c ∈ name, ¬ Variables.IsMark c := by
  have hnames := (List.append_eq_nil_iff.1 h).2
  have herrors := List.flatMap_eq_nil_iff.1 hnames name hname
  intro c hc hmark
  have hany : name.any isMark = true := List.any_eq_true.2 ⟨c, hc, isMark_eq_true_iff.2 hmark⟩
  rw [variableNameErrors, if_neg (List.ne_nil_of_mem hc), if_pos hany] at herrors
  exact absurd herrors (List.cons_ne_nil _ _)

end Configuration

namespace Suite

open Variables

/-- What a name stands for when a suite is run: what every run has comes before what the
configuration says, and this before what the suite says. -/
def valueOf? (suite : Suite) (configuration : Configuration) (name : Text) : Option Text :=
  (configuration.builtInVariables.lookup name).or
    ((configuration.vars.find? name).or (suite.vars.find? name))

/-- The table of a run has the value of the place that comes first. -/
theorem find?_substitutor_configure (suite : Suite) (configuration : Configuration) (name : Text) :
    (suite.configure configuration).substitutor.find? name =
      suite.valueOf? configuration name := by
  rw [Configuration.find?_substitutor]
  exact congrArg _ (find?_withDefaults configuration.vars suite.vars name)

/-- A name that a suite sets up has a value there. -/
theorem exists_valueOf?_of_mem_names {suite : Suite} {configuration : Configuration} {name : Text}
    (h : name ∈ (suite.configure configuration).vars.names) :
    ∃ value, suite.valueOf? configuration name = some value := by
  obtain ⟨value, hvalue⟩ := mem_names_iff.1 h
  rw [← find?_substitutor_configure, Configuration.find?_substitutor, hvalue]
  cases (suite.configure configuration).builtInVariables.lookup name with
  | some builtIn => exact ⟨builtIn, rfl⟩
  | none => exact ⟨value, rfl⟩

/-- A built-in variable has a value under every suite. -/
theorem exists_valueOf?_of_mem_builtInVariables (suite : Suite) {configuration : Configuration}
    {name : Text} (h : name ∈ configuration.builtInVariables.map (·.1)) :
    ∃ value, suite.valueOf? configuration name = some value := by
  cases hlookup : configuration.builtInVariables.lookup name with
  | some builtIn => exact ⟨builtIn, by rw [valueOf?, hlookup, Option.some_or]⟩
  | none =>
    obtain ⟨entry, hentry, rfl⟩ := List.mem_map.1 h
    have hne := List.lookup_eq_none_iff.1 hlookup entry hentry
    exact absurd rfl (bne_iff_ne.1 hne)

/-! ## Which variables can be used -/

/-- A suite with a variable that its run gives another value, one that every run has, and one whose
name has a blank. -/
def greeting : Suite where
  name := "greeting".toList
  vars := ⟨[("context".toList, "/suite".toList), ("host".toList, "suite.local".toList),
    ("user name".toList, "tck".toList)], by decide⟩
  cases := [{ name := "hello".toList, request := "GET |context|/hello HTTP/1.0".toList }]

/-- The configuration of a run of the suite. -/
def greetingRun : Configuration where
  host := "tck.local".toList
  vars := ⟨[("context".toList, "/run".toList)], by decide⟩

/-- A configuration without errors may have variables that cannot be used: nothing keeps a blank out
of a name, and no reference has a name with a blank. -/
theorem not_inserts_variable :
    ¬ ∀ (suite : Suite) (configuration : Configuration),
      (suite.configure configuration).errors = [] →
        ∀ name, name ∈ configuration.builtInVariables.map (·.1) ∨
            name ∈ (suite.configure configuration).vars.names →
          ∃ value, suite.valueOf? configuration name = some value ∧
            (suite.configure configuration).substitutor.Inserts name value := by
  intro h
  have hname : "user name".toList ∈ (greeting.configure greetingRun).vars.names := by decide
  have hvalid : (greeting.configure greetingRun).errors = [] := by decide
  obtain ⟨value, -, hinserts⟩ := h greeting greetingRun hvalid _ (Or.inr hname)
  have hleaves : (greeting.configure greetingRun).substitutor.Leaves "user name".toList :=
    leaves_of_not_isName (Configuration.not_isMark_of_errors_eq_nil hvalid hname) (by decide)
  exact hleaves.not_inserts value hinserts

/-- In a run whose configuration has no errors, what is written as a reference to a variable that
every run has is replaced by its value.  Every other variable has a value as well, from the
configuration or else from the suite; what is written as a reference to it is replaced by this value
exactly when its name is made of the letters that a reference can have, and stays as it is
otherwise. -/
theorem inserts_variable_iff (suite : Suite) (configuration : Configuration)
    (hvalid : (suite.configure configuration).errors = []) :
    let substitutor := (suite.configure configuration).substitutor
    (∀ name ∈ configuration.builtInVariables.map (·.1),
        ∃ value, suite.valueOf? configuration name = some value ∧
          substitutor.Inserts name value) ∧
      ∀ name ∈ (suite.configure configuration).vars.names,
        ∃ value, suite.valueOf? configuration name = some value ∧
          (substitutor.Inserts name value ↔ IsName name) ∧
          (¬ IsName name → substitutor.Leaves name) := by
  intro substitutor
  have hinserts {name value : Text} (hname : IsName name)
      (hvalue : suite.valueOf? configuration name = some value) :
      substitutor.Inserts name value := by
    rw [← find?_substitutor_configure] at hvalue
    exact inserts_of_isName hname hvalue
  refine ⟨fun name hmem => ?_, fun name hmem => ?_⟩
  · obtain ⟨value, hvalue⟩ := exists_valueOf?_of_mem_builtInVariables suite hmem
    have hname := configuration.isName_of_mem_builtInVariables name hmem
    exact ⟨value, hvalue, hinserts hname hvalue⟩
  · obtain ⟨value, hvalue⟩ := exists_valueOf?_of_mem_names hmem
    have hleaves : ¬ IsName name → substitutor.Leaves name :=
      leaves_of_not_isName (Configuration.not_isMark_of_errors_eq_nil hvalid hmem)
    refine ⟨value, hvalue, ⟨fun h => ?_, fun hname => hinserts hname hvalue⟩, hleaves⟩
    by_contra hname
    exact (hleaves hname).not_inserts value h

/-- The host of the run wins over a variable of that name, the value of the configuration over that
of the suite, and the name with a blank is left standing. -/
theorem inserts_variable_greeting :
    (greeting.configure greetingRun).errors = [] ∧
      (greeting.configure greetingRun).substitutor.Inserts "host".toList "tck.local".toList ∧
      (greeting.configure greetingRun).substitutor.Inserts "context".toList "/run".toList ∧
      (greeting.configure greetingRun).substitutor.Leaves "user name".toList := by
  have hvalid : (greeting.configure greetingRun).errors = [] := by decide
  obtain ⟨hbuiltIn, hothers⟩ := inserts_variable_iff greeting greetingRun hvalid
  obtain ⟨host, hhost, hinsertsHost⟩ := hbuiltIn "host".toList (by decide)
  obtain ⟨context, hcontext, hinsertsContext, -⟩ := hothers "context".toList (by decide)
  obtain ⟨_, -, -, hleaves⟩ := hothers "user name".toList (by decide)
  obtain rfl : "tck.local".toList = host := Option.some.inj hhost
  obtain rfl : "/run".toList = context := Option.some.inj hcontext
  exact ⟨hvalid, hinsertsHost, hinsertsContext.2 (by decide), hleaves (by decide)⟩

end Suite

end HttpConformance
