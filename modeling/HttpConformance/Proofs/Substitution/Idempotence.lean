import HttpConformance.Proofs.Substitution.OnePass

/-!
# Substituting twice

A value is not read again in the pass that inserts it, but a second pass reads it.  Values without
marks do not settle what the second pass finds: a mark that the first pass leaves as it is may stand
before a value, and the two may begin a reference that was not there before.  Substitution repeats
without effect on every text exactly when no value that can be inserted is a part of a name that can
be referred to.

Main definitions: `Variables.HasPlainValues`, `Variables.KeepsApart`.

Main results:

- `Variables.substitute_eq_self_iff`: which texts a pass leaves as they are.
- `Variables.not_hasReference_substitute`: when a pass leaves no references behind.
- `Variables.not_substitute_substitute`: a second pass may change what the first one leaves.
- `Variables.substitute_substitute_iff`: when it does not.
-/

namespace HttpConformance.Variables

/-- A character that marks a reference. -/
def IsMark (c : Char) : Prop :=
  c = '$' ∨ c = '|' ∨ c = '\x7b' ∨ c = '\x7d'

instance (c : Char) : Decidable (IsMark c) :=
  inferInstanceAs (Decidable (_ ∨ _))

/-- No value of the table has a mark in it. -/
def HasPlainValues (vars : Variables) : Prop :=
  ∀ entry ∈ vars.entries, ∀ c ∈ entry.2, ¬ IsMark c

instance (vars : Variables) : Decidable vars.HasPlainValues :=
  have (entry : Text × Text) : Decidable (∀ c ∈ entry.2, ¬ IsMark c) :=
    List.decidableBAll (¬ IsMark ·) entry.2
  List.decidableBAll (fun entry : Text × Text => ∀ c ∈ entry.2, ¬ IsMark c) vars.entries

/-- No value that a reference inserts is a part of a name that can be referred to. -/
def KeepsApart (vars : Variables) : Prop :=
  ∀ inserted ∈ vars.entries, ∀ named ∈ vars.entries,
    IsName inserted.1 → IsName named.1 → ¬ inserted.2 <:+: named.1

instance (vars : Variables) : Decidable vars.KeepsApart :=
  inferInstanceAs (Decidable (∀ inserted ∈ vars.entries, ∀ named ∈ vars.entries,
    IsName inserted.1 → IsName named.1 → ¬ inserted.2 <:+: named.1))

variable {vars : Variables} {reference value : Text}

/-! ## Marks and values -/

theorem not_isMark_of_isNameLetter {c : Char} (h : IsNameLetter c) : ¬ IsMark c := by
  rintro (rfl | rfl | rfl | rfl) <;> exact absurd h (by decide)

/-- A plain value has no marks. -/
theorem HasPlainValues.countP_isMark (hvalues : vars.HasPlainValues)
    (h : vars.IsReference reference value) : value.countP (IsMark ·) = 0 := by
  obtain ⟨name, -, hmem⟩ := h.exists_name
  rw [List.countP_eq_zero]
  intro c hc
  simpa using hvalues _ hmem c hc

/-- A pass makes no marks when the values have none. -/
theorem countP_isMark_substitute_le (hvalues : vars.HasPlainValues) (text : Text) :
    (vars.substitute text).countP (IsMark ·) ≤ text.countP (IsMark ·) := by
  induction text using substitute_induction vars with
  | nil => exact Nat.le_of_eq (congrArg (List.countP _) (substitute_nil vars))
  | reference reference value rest hreference ih =>
    have hvalue := hvalues.countP_isMark hreference
    rw [substitute_append_of_isReference hreference, List.countP_append, List.countP_append]
    omega
  | kept c rest hnone ih =>
    rw [substitute_cons hnone, List.countP_cons, List.countP_cons]
    omega

/-- A pass leaves exactly the texts without references as they are. -/
theorem substitute_eq_self_iff (hvalues : vars.HasPlainValues) {text : Text} :
    vars.substitute text = text ↔ ¬ vars.HasReference text := by
  refine ⟨?_, substitute_of_not_hasReference⟩
  intro heq hreference
  obtain ⟨before, reference, value, after, hfirst⟩ := hreference.exists_isFirstReference
  rw [hfirst.substitute_eq, hfirst.eq_append, List.append_assoc, List.append_assoc] at heq
  have hrest := List.append_cancel_left heq
  -- The marks of the reference are gone, and none come in their place.
  have hvalue := hvalues.countP_isMark hfirst.isReference
  have hle := countP_isMark_substitute_le hvalues after
  obtain ⟨mark, tail, rfl, hmark⟩ := hfirst.isReference.exists_cons
  have hisMark : IsMark mark := hmark.elim Or.inl fun h => Or.inr (Or.inl h)
  have hcount := congrArg (List.countP (IsMark ·)) hrest
  rw [List.countP_append, List.countP_append, List.countP_cons, hvalue,
    if_pos (decide_eq_true hisMark)] at hcount
  omega

/-! ## When a pass leaves no references -/

/-- What a pass leaves of a part of a name and a mark behind it was there before. -/
theorem eq_append_of_substitute_eq (hvalues : vars.HasPlainValues) (hapart : vars.KeepsApart)
    {named : Text × Text} (hmem : named ∈ vars.entries) (hname : IsName named.1) {mark : Char}
    (hmark : IsMark mark) {text front after : Text} (hfront : front <:+: named.1)
    (h : vars.substitute text = front ++ mark :: after) :
    ∃ rest, text = front ++ mark :: rest ∧ vars.substitute rest = after := by
  induction text using substitute_induction vars generalizing front with
  | nil => simp at h
  | reference reference value rest hreference ih =>
    obtain ⟨inserted, hinserted, hentry⟩ := hreference.exists_name
    have hout : ¬ value <+: front := by
      intro hbegins
      have hinfix : value <:+: named.1 := (List.IsPrefix.isInfix hbegins).trans hfront
      exact hapart _ hentry _ hmem hinserted hname hinfix
    rw [substitute_append_of_isReference hreference] at h
    rcases List.append_eq_append_iff.1 h with ⟨tail, hlong, -⟩ | ⟨tail, hshort, htail⟩
    · exact absurd ⟨tail, hlong.symm⟩ hout
    · cases tail with
      | nil =>
        rw [List.append_nil] at hshort
        exact absurd (hshort ▸ List.prefix_rfl) hout
      | cons c tail =>
        rw [List.cons_append] at htail
        obtain rfl : mark = c := (List.cons.inj htail).1
        have hmarkMem : mark ∈ value := by
          rw [hshort]
          exact List.mem_append_right _ List.mem_cons_self
        exact absurd hmark (hvalues _ hentry _ hmarkMem)
  | kept c rest hnone ih =>
    rw [substitute_cons hnone] at h
    cases front with
    | nil =>
      obtain ⟨rfl, hafter⟩ := List.cons.inj h
      exact ⟨rest, rfl, hafter⟩
    | cons b front =>
      rw [List.cons_append] at h
      obtain ⟨rfl, hrest⟩ := List.cons.inj h
      obtain ⟨tail, rfl, hafter⟩ := ih ((List.suffix_cons c front).isInfix.trans hfront) hrest
      exact ⟨tail, rfl, hafter⟩

/-- A text without marks begins no reference, and ends none that goes on behind it. -/
theorem HasReference.of_plain_append {plain text : Text} (hplain : ∀ c ∈ plain, ¬ IsMark c)
    (h : vars.HasReference (plain ++ text)) : vars.HasReference text := by
  induction plain with
  | nil => exact h
  | cons c plain ih =>
    have hc := hplain c List.mem_cons_self
    have hbegins : ¬ vars.BeginsReference (c :: (plain ++ text)) :=
      not_beginsReference_cons ⟨fun heq => hc (Or.inl heq), fun heq => hc (Or.inr (Or.inl heq))⟩ _
    exact ih (fun b hb => hplain b (List.mem_cons_of_mem c hb)) (h.of_cons hbegins)

/-- A pass leaves no references behind when values and names are kept apart. -/
theorem not_hasReference_substitute (hvalues : vars.HasPlainValues) (hapart : vars.KeepsApart)
    (text : Text) : ¬ vars.HasReference (vars.substitute text) := by
  induction text using substitute_induction vars with
  | nil =>
    rintro ⟨before, reference, value, after, hreference, heq⟩
    rw [substitute_nil] at heq
    exact absurd heq.symm (by simp [hreference.ne_nil])
  | reference reference value rest hreference ih =>
    obtain ⟨name, -, hmem⟩ := hreference.exists_name
    rw [substitute_append_of_isReference hreference]
    exact fun h => ih (h.of_plain_append (hvalues _ hmem))
  | kept c rest hnone ih =>
    rw [substitute_cons hnone]
    intro h
    by_cases hbegins : vars.BeginsReference (c :: vars.substitute rest)
    · -- A reference that begins here would have begun here before.
      obtain ⟨reference, value, after, hreference, heq⟩ := hbegins
      cases hreference with
      | @braced name _ hname hmem =>
        obtain ⟨rfl, hinner⟩ := List.cons.inj heq
        have hopened : vars.substitute rest = [] ++ '\x7b' :: (name ++ '\x7d' :: after) := by
          simpa using hinner
        obtain ⟨inner, rfl, hname'⟩ := eq_append_of_substitute_eq hvalues hapart hmem hname
          (by decide) List.nil_infix hopened
        obtain ⟨tail, rfl, -⟩ := eq_append_of_substitute_eq hvalues hapart hmem hname
          (by decide) List.infix_rfl hname'
        exact hnone ⟨_, _, tail, .braced hname hmem, by simp⟩
      | @barred name _ hname hmem =>
        obtain ⟨rfl, hinner⟩ := List.cons.inj heq
        have hname' : vars.substitute rest = name ++ '|' :: after := by
          simpa using hinner
        obtain ⟨tail, rfl, -⟩ := eq_append_of_substitute_eq hvalues hapart hmem hname
          (by decide) List.infix_rfl hname'
        exact hnone ⟨_, _, tail, .barred hname hmem, by simp⟩
    · exact ih (h.of_cons hbegins)

/-! ## When a pass leaves a reference -/

/-- Two bars with something else than a name between them are no reference. -/
theorem not_beginsReference_barred {inner : Text} (hbar : '|' ∉ inner) (hname : ¬ IsName inner)
    (rest : Text) : ¬ vars.BeginsReference ('|' :: (inner ++ '|' :: rest)) := by
  rintro ⟨reference, value, after, hreference, heq⟩
  cases hreference with
  | braced hname' hmem =>
    have hmark : '|' = '$' := (List.cons.inj heq).1
    exact absurd hmark (by decide)
  | @barred name _ hname' hmem =>
    have hbar' : '|' ∉ name := fun hc => absurd (hname'.letters _ hc) (by decide)
    have hinner : inner ++ '|' :: rest = name ++ '|' :: after := by
      simpa using (List.cons.inj heq).2
    rw [((append_cons_inj hbar hbar').1 hinner).1] at hname
    exact hname hname'

/-- Letters before a text stay as they are. -/
theorem substitute_letters_append {letters : Text} (h : ∀ c ∈ letters, IsNameLetter c)
    (rest : Text) : vars.substitute (letters ++ rest) = letters ++ vars.substitute rest := by
  refine substitute_plain_append (fun c hc => ?_) rest
  have hmark := not_isMark_of_isNameLetter (h c hc)
  exact ⟨fun heq => hmark (Or.inl heq), fun heq => hmark (Or.inr (Or.inl heq))⟩

/-- A bar alone stands for itself. -/
theorem substitute_bar (vars : Variables) : vars.substitute ['|'] = ['|'] := by
  have hnone : ¬ vars.BeginsReference ['|'] := by
    rintro ⟨reference, value, after, hreference, heq⟩
    cases hreference with
    | braced hname hmem => exact absurd (List.cons.inj heq).1 (by decide)
    | barred hname hmem => exact absurd (List.cons.inj heq).2.symm (by simp)
  rw [substitute_cons hnone, substitute_nil]

/-- Where a value is a part of a name, some text is a reference after a pass and none before. -/
theorem exists_hasReference_substitute (hapart : ¬ vars.KeepsApart) :
    ∃ text, vars.HasReference (vars.substitute text) := by
  simp only [KeepsApart, not_forall, not_not] at hapart
  obtain ⟨⟨name, value⟩, hmem, ⟨named, namedValue⟩, hnamedMem, hname, hnamed, before, after, heq⟩ :=
    hapart
  dsimp only at hname hnamed heq
  have hletters : ∀ c ∈ before ++ value ++ after, IsNameLetter c := heq ▸ hnamed.letters
  have hbefore : ∀ c ∈ before, IsNameLetter c := fun c hc => hletters c (by simp [hc])
  have hafter : ∀ c ∈ after, IsNameLetter c := fun c hc => hletters c (by simp [hc])
  -- The name with a reference in the place of the value, between two bars.
  have hreference : vars.IsReference ('$' :: '\x7b' :: name ++ ['\x7d']) value := .braced hname hmem
  generalize hwritten : '$' :: '\x7b' :: name ++ ['\x7d'] = written at hreference
  have hinner : '|' ∉ before ++ written ++ after := by
    have hno {letters : Text} (h : ∀ c ∈ letters, IsNameLetter c) : '|' ∉ letters :=
      fun hc => absurd (h _ hc) (by decide)
    rw [← hwritten]
    simp [hno hbefore, hno hafter, hno hname.letters]
  have hnotName : ¬ IsName (before ++ written ++ after) := by
    intro h
    exact absurd (h.letters '$' (by simp [← hwritten])) (by decide)
  have hpass : vars.substitute ('|' :: (before ++ written ++ after ++ ['|'])) =
      '|' :: named ++ ['|'] := by
    rw [substitute_cons (not_beginsReference_barred hinner hnotName []), List.append_assoc,
      List.append_assoc, substitute_letters_append hbefore,
      substitute_append_of_isReference hreference, substitute_letters_append hafter,
      substitute_bar, ← heq]
    simp only [List.append_assoc, List.cons_append]
  exact ⟨_, [], _, namedValue, [], .barred hnamed hnamedMem, by
    rw [hpass, List.append_nil, List.nil_append]⟩

/-! ## A second pass -/

/-- A table in which one value is the name of another variable. -/
def aliased : Variables :=
  ⟨[("alias".toList, "host".toList), ("host".toList, "tck.local".toList)], by decide⟩

/-- Values without marks do not make substitution idempotent: a bar that belongs to no reference may
stand before an inserted value. -/
theorem not_substitute_substitute :
    ¬ ∀ vars : Variables, vars.HasPlainValues →
      ∀ text, vars.substitute (vars.substitute text) = vars.substitute text := by
  intro h
  have hsecond : aliased.substitute (aliased.substitute "|$\x7balias\x7d|".toList) =
      aliased.substitute "|$\x7balias\x7d|".toList := h aliased (by decide) _
  exact absurd hsecond (by decide +kernel)

/-- With values that have no marks, a second pass changes a text exactly when the first one leaves a
reference in it, and it changes no text exactly when no value that can be inserted is a part of a
name that can be referred to. -/
theorem substitute_substitute_iff (vars : Variables) (hvalues : vars.HasPlainValues) :
    (∀ text, vars.substitute (vars.substitute text) = vars.substitute text ↔
        ¬ vars.HasReference (vars.substitute text)) ∧
      ((∀ text, vars.substitute (vars.substitute text) = vars.substitute text) ↔
        vars.KeepsApart) := by
  refine ⟨fun text => substitute_eq_self_iff hvalues, ?_, ?_⟩
  · intro hidempotent
    by_contra hapart
    obtain ⟨text, hreference⟩ := exists_hasReference_substitute hapart
    exact (substitute_eq_self_iff hvalues).1 (hidempotent text) hreference
  · intro hapart text
    exact (substitute_eq_self_iff hvalues).2 (not_hasReference_substitute hvalues hapart text)

/-- A table of a server and a client. -/
def addresses : Variables :=
  ⟨[("client.host".toList, "client.local".toList), ("client.ip".toList, "10.1.2.3".toList),
      ("host".toList, "tck.local".toList), ("port".toList, "8080".toList)], by decide⟩

/-- Addresses are no parts of the names they go by. -/
theorem substitute_substitute_addresses :
    addresses.HasPlainValues ∧
      ∀ text, addresses.substitute (addresses.substitute text) = addresses.substitute text := by
  have hvalues : addresses.HasPlainValues := by decide +kernel
  have hapart : addresses.KeepsApart := by decide +kernel
  exact ⟨hvalues, (substitute_substitute_iff addresses hvalues).2.2 hapart⟩

end HttpConformance.Variables
