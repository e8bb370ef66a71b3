import HttpConformance.Substitution
import HttpConformance.Proofs.Text.Cut

/-!
# Substitution in one pass

Substitution said without the scan that performs it.  A reference is a name of the table between the
marks of one kind; a text without references stays as it is, and in every other text the first
reference is replaced by its value and the pass goes on behind it.  Nothing that looks like a
reference and is none, whatever it has in common with one, makes a difference.

Main definitions: `Variables.IsReference`, `Variables.HasReference`, `Variables.IsFirstReference`.

Main results:

- `Variables.find?_eq_some_iff`: looking up a name.
- `placeholder?_eq_some_iff`: a reference at the front of a text.
- `Variables.substitute_append_of_isReference`, `Variables.substitute_cons`: what one step of the
  pass does.
- `Variables.substitute_induction`: induction along the pass.
- `Variables.substitute_append_cons`: a character that belongs to no reference parts the pass.
- `Variables.substitute_one_pass`: substitution by way of the first reference.
-/

namespace HttpConformance

namespace Variables

/-! ## The table -/

/-- A name stands for a value exactly when the table has the two as an entry. -/
theorem find?_eq_some_iff {vars : Variables} {name value : Text} :
    vars.find? name = some value ↔ (name, value) ∈ vars.entries := by
  obtain ⟨entries, hsorted⟩ := vars
  dsimp only [find?]
  induction entries with
  | nil => simp
  | cons entry entries ih =>
    rw [List.pairwise_cons] at hsorted
    rw [List.lookup_cons, List.mem_cons]
    by_cases hname : name = entry.1
    · -- No later entry has the name of the first one.
      have hlater : (name, value) ∉ entries := by
        intro hmem
        have hlt := hsorted.1 _ hmem
        rw [hname] at hlt
        exact List.lt_irrefl _ hlt
      rw [hname, beq_self_eq_true] at *
      simp only [Option.some.injEq, hlater, or_false]
      constructor
      · rintro rfl
        rfl
      · intro heq
        exact congrArg Prod.snd heq.symm
    · have hfirst : (name, value) ≠ entry := fun heq => hname (congrArg Prod.fst heq)
      rw [beq_eq_false_iff_ne.2 hname]
      simp only [ih hsorted.2, hfirst, false_or]

/-! ## References -/

/-- The letters of the names that can be referred to. -/
def IsNameLetter (c : Char) : Prop :=
  'a' ≤ c ∧ c ≤ 'z' ∨ 'A' ≤ c ∧ c ≤ 'Z' ∨ '0' ≤ c ∧ c ≤ '9' ∨ c = '.' ∨ c = '_' ∨ c = '-'

instance (c : Char) : Decidable (IsNameLetter c) :=
  inferInstanceAs (Decidable (_ ∨ _))

/-- A name that can be referred to. -/
structure IsName (name : Text) : Prop where
  ne_nil : name ≠ []
  letters : ∀ c ∈ name, IsNameLetter c

-- The instances for all characters of a text are given by name: a search finds the ones that go
-- through all characters there are.
instance (name : Text) : Decidable (IsName name) :=
  have : Decidable (∀ c ∈ name, IsNameLetter c) := List.decidableBAll IsNameLetter name
  decidable_of_iff (name ≠ [] ∧ ∀ c ∈ name, IsNameLetter c)
    ⟨fun h => ⟨h.1, h.2⟩, fun h => ⟨h.ne_nil, h.letters⟩⟩

/-- A reference to a variable, and the value that the variable stands for. -/
inductive IsReference (vars : Variables) : Text → Text → Prop where
  | braced {name value : Text} (hname : IsName name) (hmem : (name, value) ∈ vars.entries) :
      IsReference vars ('$' :: '\x7b' :: name ++ ['\x7d']) value
  | barred {name value : Text} (hname : IsName name) (hmem : (name, value) ∈ vars.entries) :
      IsReference vars ('|' :: name ++ ['|']) value

/-- A reference stands at the front of the text. -/
def BeginsReference (vars : Variables) (text : Text) : Prop :=
  ∃ reference value rest, vars.IsReference reference value ∧ text = reference ++ rest

/-- A reference stands somewhere in the text. -/
def HasReference (vars : Variables) (text : Text) : Prop :=
  ∃ before reference value after,
    vars.IsReference reference value ∧ text = before ++ reference ++ after

/-- The reference stands in the text, and none begins before it. -/
structure IsFirstReference (vars : Variables) (text before reference value after : Text) :
    Prop where
  isReference : vars.IsReference reference value
  eq_append : text = before ++ reference ++ after
  length_le : ∀ before' reference' value' after', vars.IsReference reference' value' →
    text = before' ++ reference' ++ after' → before.length ≤ before'.length

variable {vars : Variables} {reference value : Text}

theorem isNameChar_eq_true_iff {c : Char} : isNameChar c = true ↔ IsNameLetter c := by
  have hupper : c.isUpper = decide ('A' ≤ c ∧ c ≤ 'Z') := rfl
  have hlower : c.isLower = (decide ('a' ≤ c) && decide (c ≤ 'z')) := rfl
  have hdigit : c.isDigit = (decide ('0' ≤ c) && decide (c ≤ '9')) := rfl
  have hname : isNameChar c =
      (c.isUpper || c.isLower || c.isDigit || c == '.' || c == '_' || c == '-') := rfl
  rw [hname, hupper, hlower, hdigit]
  simp only [IsNameLetter, Bool.or_eq_true, Bool.and_eq_true, decide_eq_true_eq, beq_iff_eq]
  tauto

theorem isReferenceName_eq_true_iff {name : Text} : isReferenceName name = true ↔ IsName name := by
  simp only [isReferenceName, Bool.and_eq_true, decide_eq_true_eq, List.all_eq_true,
    isNameChar_eq_true_iff]
  exact ⟨fun h => ⟨h.1, h.2⟩, fun h => ⟨h.ne_nil, h.letters⟩⟩

/-- Every reference has the name of a variable. -/
theorem IsReference.exists_name (h : vars.IsReference reference value) :
    ∃ name, IsName name ∧ (name, value) ∈ vars.entries := by
  cases h with
  | braced hname hmem => exact ⟨_, hname, hmem⟩
  | barred hname hmem => exact ⟨_, hname, hmem⟩

/-- A reference begins with a mark. -/
theorem IsReference.exists_cons (h : vars.IsReference reference value) :
    ∃ c tail, reference = c :: tail ∧ (c = '$' ∨ c = '|') := by
  cases h with
  | braced hname hmem => exact ⟨_, _, rfl, Or.inl rfl⟩
  | barred hname hmem => exact ⟨_, _, rfl, Or.inr rfl⟩

/-- A reference is made of marks and letters. -/
theorem IsReference.mark_or_letter (h : vars.IsReference reference value) {c : Char}
    (hc : c ∈ reference) : c ∈ ['$', '\x7b', '\x7d', '|'] ∨ IsNameLetter c := by
  cases h with
  | braced hname hmem =>
    have := hname.letters c
    simp only [List.cons_append, List.mem_cons, List.mem_append, List.not_mem_nil] at hc ⊢
    tauto
  | barred hname hmem =>
    have := hname.letters c
    simp only [List.cons_append, List.mem_cons, List.mem_append, List.not_mem_nil] at hc ⊢
    tauto

theorem IsReference.ne_nil (h : vars.IsReference reference value) : reference ≠ [] := by
  obtain ⟨c, tail, rfl, -⟩ := h.exists_cons
  exact List.cons_ne_nil c tail

/-- A text without a mark at its front does not begin with a reference. -/
theorem not_beginsReference_cons {c : Char} (h : c ≠ '$' ∧ c ≠ '|') (rest : Text) :
    ¬ vars.BeginsReference (c :: rest) := by
  rintro ⟨reference, value, after, hreference, heq⟩
  obtain ⟨mark, tail, rfl, hmark⟩ := hreference.exists_cons
  rw [(List.cons.inj heq).1] at h
  exact hmark.elim h.1 h.2

/-- What begins with a reference still does when more follows. -/
theorem BeginsReference.append {text : Text} (h : vars.BeginsReference text) (more : Text) :
    vars.BeginsReference (text ++ more) := by
  obtain ⟨reference, value, rest, hreference, rfl⟩ := h
  exact ⟨reference, value, rest ++ more, hreference, List.append_assoc _ _ _⟩

end Variables

/-! ## One step of the pass -/

open Variables

/-- What is enclosed stands between a dollar sign with a brace and a brace, or between two bars. -/
theorem enclosed?_eq_some_iff {text name rest : Text} :
    enclosed? text = some (name, rest) ↔
      text = '$' :: '\x7b' :: name ++ '\x7d' :: rest ∧ '\x7d' ∉ name ∨
        text = '|' :: name ++ '|' :: rest ∧ '|' ∉ name := by
  unfold enclosed?
  split
  · rw [cutAt_eq_some_iff]
    simp
  · rw [cutAt_eq_some_iff]
    simp
  · rename_i hbraced hbarred
    simp only [reduceCtorEq, false_iff]
    rintro (⟨rfl, -⟩ | ⟨rfl, -⟩)
    · exact hbraced _ rfl
    · exact hbarred _ rfl

/-- The scan finds a reference at the front of a text exactly when one is there. -/
theorem placeholder?_eq_some_iff {vars : Variables} {text value rest : Text} :
    placeholder? vars text = some (value, rest) ↔
      ∃ reference, vars.IsReference reference value ∧ text = reference ++ rest := by
  constructor
  · intro h
    unfold placeholder? at h
    split at h
    · cases h
    · rename_i name after henclosed
      split at h
      · rename_i hname
        obtain ⟨found, hfind, heq⟩ := Option.map_eq_some_iff.1 h
        cases heq
        have hname := isReferenceName_eq_true_iff.1 hname
        have hmem := find?_eq_some_iff.1 hfind
        rcases enclosed?_eq_some_iff.1 henclosed with ⟨rfl, -⟩ | ⟨rfl, -⟩
        · exact ⟨_, .braced hname hmem, by simp⟩
        · exact ⟨_, .barred hname hmem, by simp⟩
      · cases h
  · rintro ⟨reference, hreference, rfl⟩
    -- The letters of the name are no marks, so the scan stops at the closing mark and not before.
    have hnotMem {name : Text} {mark : Char} (hname : IsName name) (hmark : ¬ IsNameLetter mark) :
        mark ∉ name := fun hmem => hmark (hname.letters mark hmem)
    cases hreference with
    | @braced name _ hname hmem =>
      have henclosed : enclosed? ('$' :: '\x7b' :: name ++ ['\x7d'] ++ rest) = some (name, rest) :=
        enclosed?_eq_some_iff.2 (Or.inl ⟨by simp, hnotMem hname (by decide)⟩)
      rw [placeholder?, henclosed]
      dsimp only
      rw [if_pos (isReferenceName_eq_true_iff.2 hname), find?_eq_some_iff.2 hmem]
      rfl
    | @barred name _ hname hmem =>
      have henclosed : enclosed? ('|' :: name ++ ['|'] ++ rest) = some (name, rest) :=
        enclosed?_eq_some_iff.2 (Or.inr ⟨by simp, hnotMem hname (by decide)⟩)
      rw [placeholder?, henclosed]
      dsimp only
      rw [if_pos (isReferenceName_eq_true_iff.2 hname), find?_eq_some_iff.2 hmem]
      rfl

/-- Nothing is replaced where no reference begins. -/
theorem placeholder?_eq_none_iff {vars : Variables} {text : Text} :
    placeholder? vars text = none ↔ ¬ vars.BeginsReference text := by
  constructor
  · rintro hnone ⟨reference, value, rest, hreference, heq⟩
    rw [placeholder?_eq_some_iff.2 ⟨reference, hreference, heq⟩] at hnone
    cases hnone
  · intro h
    cases hsome : placeholder? vars text with
    | none => rfl
    | some found =>
      obtain ⟨reference, hreference, heq⟩ := placeholder?_eq_some_iff.1 hsome
      exact absurd ⟨reference, found.1, found.2, hreference, heq⟩ h

namespace Variables

variable {vars : Variables} {reference value : Text}

@[simp]
theorem substitute_nil (vars : Variables) : vars.substitute [] = [] := by
  rw [substitute]

/-- A reference is replaced by its value, and the pass goes on behind it. -/
theorem substitute_append_of_isReference (h : vars.IsReference reference value) (rest : Text) :
    vars.substitute (reference ++ rest) = value ++ vars.substitute rest := by
  have hfound : placeholder? vars (reference ++ rest) = some (value, rest) :=
    placeholder?_eq_some_iff.2 ⟨reference, h, rfl⟩
  obtain ⟨c, tail, rfl, -⟩ := h.exists_cons
  rw [List.cons_append] at hfound ⊢
  rw [substitute]
  split
  · rename_i found after heq
    rw [hfound] at heq
    cases heq
    rfl
  · rename_i heq
    rw [hfound] at heq
    cases heq

/-- A character that begins no reference stays as it is. -/
theorem substitute_cons {c : Char} {rest : Text} (h : ¬ vars.BeginsReference (c :: rest)) :
    vars.substitute (c :: rest) = c :: vars.substitute rest := by
  have hnone := placeholder?_eq_none_iff.2 h
  rw [substitute]
  split
  · rename_i heq
    rw [hnone] at heq
    cases heq
  · rfl

/-- Induction along the pass: behind a reference, or behind a character that begins none. -/
@[elab_as_elim]
theorem substitute_induction (vars : Variables) {motive : Text → Prop} (nil : motive [])
    (reference : ∀ reference value rest, vars.IsReference reference value → motive rest →
      motive (reference ++ rest))
    (kept : ∀ c rest, ¬ vars.BeginsReference (c :: rest) → motive rest → motive (c :: rest))
    (text : Text) : motive text := by
  induction text using substitute.induct vars with
  | case1 => exact nil
  | case2 c rest value after hfound _ ih =>
    obtain ⟨found, hfound, heq⟩ := placeholder?_eq_some_iff.1 hfound
    rw [heq]
    exact reference found value after hfound ih
  | case3 c rest hnone ih => exact kept c rest (placeholder?_eq_none_iff.1 hnone) ih

/-! ## Several steps -/

/-- What precedes the first place where a reference begins stays as it is. -/
theorem substitute_append_of_none {front rest : Text}
    (h : ∀ tail, tail <:+ front → tail ≠ [] → ¬ vars.BeginsReference (tail ++ rest)) :
    vars.substitute (front ++ rest) = front ++ vars.substitute rest := by
  induction front with
  | nil => rfl
  | cons c front ih =>
    have hfirst := h (c :: front) List.suffix_rfl (List.cons_ne_nil c front)
    have hlater : ∀ tail, tail <:+ front → tail ≠ [] → ¬ vars.BeginsReference (tail ++ rest) := by
      intro tail htail
      exact h tail (htail.trans (List.suffix_cons c front))
    rw [List.cons_append] at hfirst ⊢
    rw [substitute_cons hfirst, ih hlater, List.cons_append]

/-- A text without opening marks stays as it is in front of another one. -/
theorem substitute_plain_append {plain : Text} (h : ∀ c ∈ plain, c ≠ '$' ∧ c ≠ '|')
    (rest : Text) : vars.substitute (plain ++ rest) = plain ++ vars.substitute rest := by
  refine substitute_append_of_none fun tail htail hne => ?_
  obtain ⟨c, tail, rfl⟩ := List.exists_cons_of_ne_nil hne
  exact not_beginsReference_cons (h c (htail.subset List.mem_cons_self)) _

/-- A character that belongs to no reference parts the pass in two. -/
theorem substitute_append_cons {c : Char} (hc : c ∉ ['$', '\x7b', '\x7d', '|'])
    (hletter : ¬ IsNameLetter c) (front rest : Text) :
    vars.substitute (front ++ c :: rest) = vars.substitute front ++ c :: vars.substitute rest := by
  have hmark : c ≠ '$' ∧ c ≠ '|' := by
    constructor <;> rintro rfl <;> exact hc (by decide)
  induction front using substitute_induction vars with
  | nil =>
    rw [List.nil_append, substitute_cons (not_beginsReference_cons hmark rest), substitute_nil,
      List.nil_append]
  | reference reference value after hreference ih =>
    rw [List.append_assoc, substitute_append_of_isReference hreference, ih,
      substitute_append_of_isReference hreference, List.append_assoc]
  | kept a front hnone ih =>
    have hwhole : ¬ vars.BeginsReference (a :: (front ++ c :: rest)) := by
      rintro ⟨reference, value, after, hreference, heq⟩
      rw [← List.cons_append] at heq
      rcases List.append_eq_append_iff.1 heq with ⟨tail, hlong, htail⟩ | ⟨tail, hshort, -⟩
      · -- The reference would have the character in it.
        cases tail with
        | nil =>
          rw [List.append_nil] at hlong
          exact hnone ⟨reference, value, [], hreference, by rw [hlong, List.append_nil]⟩
        | cons b tail =>
          rw [List.cons_append] at htail
          obtain rfl : c = b := (List.cons.inj htail).1
          have hmem : c ∈ reference := by
            rw [hlong]
            exact List.mem_append_right _ List.mem_cons_self
          exact (hreference.mark_or_letter hmem).elim hc hletter
      · exact hnone ⟨reference, value, tail, hreference, hshort⟩
    rw [List.cons_append, substitute_cons hwhole, ih, substitute_cons hnone, List.cons_append]

/-! ## The first reference -/

/-- Where no reference begins at the front of a text, every reference stands behind the first
character. -/
theorem IsReference.behind_of_not_beginsReference {c : Char} {text before after : Text}
    (h : vars.IsReference reference value) (hbegins : ¬ vars.BeginsReference (c :: text))
    (heq : c :: text = before ++ reference ++ after) :
    ∃ tail, before = c :: tail ∧ text = tail ++ reference ++ after := by
  cases before with
  | nil => exact absurd ⟨reference, value, after, h, heq⟩ hbegins
  | cons b tail =>
    rw [List.cons_append, List.cons_append] at heq
    obtain ⟨rfl, htext⟩ := List.cons.inj heq
    exact ⟨tail, rfl, htext⟩

/-- A reference that does not begin at the front is behind it. -/
theorem HasReference.of_cons {c : Char} {text : Text} (h : vars.HasReference (c :: text))
    (hbegins : ¬ vars.BeginsReference (c :: text)) : vars.HasReference text := by
  obtain ⟨before, reference, value, after, hreference, heq⟩ := h
  obtain ⟨tail, -, htext⟩ := hreference.behind_of_not_beginsReference hbegins heq
  exact ⟨tail, reference, value, after, hreference, htext⟩

/-- A text with a reference has a first one. -/
theorem HasReference.exists_isFirstReference {text : Text} (h : vars.HasReference text) :
    ∃ before reference value after, vars.IsFirstReference text before reference value after := by
  induction text with
  | nil =>
    obtain ⟨before, reference, value, after, hreference, heq⟩ := h
    exact absurd heq.symm (by simp [hreference.ne_nil])
  | cons c text ih =>
    by_cases hbegins : vars.BeginsReference (c :: text)
    · obtain ⟨reference, value, rest, hreference, heq⟩ := hbegins
      exact ⟨[], reference, value, rest, hreference, heq, fun _ _ _ _ _ _ => Nat.zero_le _⟩
    · obtain ⟨before, reference, value, after, hfirst⟩ := ih (h.of_cons hbegins)
      refine ⟨c :: before, reference, value, after, hfirst.isReference, ?_, ?_⟩
      · rw [hfirst.eq_append, List.cons_append, List.cons_append]
      · intro before' reference' value' after' hreference' heq'
        obtain ⟨tail, rfl, htext⟩ := hreference'.behind_of_not_beginsReference hbegins heq'
        exact Nat.succ_le_succ (hfirst.length_le tail reference' value' after' hreference' htext)

/-- A text without references stays as it is. -/
theorem substitute_of_not_hasReference {text : Text} (h : ¬ vars.HasReference text) :
    vars.substitute text = text := by
  have hnone : ∀ tail, tail <:+ text → tail ≠ [] → ¬ vars.BeginsReference (tail ++ []) := by
    rintro tail ⟨front, rfl⟩ - hbegins
    obtain ⟨reference, value, rest, hreference, heq⟩ := hbegins
    rw [List.append_nil] at heq
    exact h ⟨front, reference, value, rest, hreference, by rw [heq, List.append_assoc]⟩
  have hpass := substitute_append_of_none hnone
  rwa [List.append_nil, substitute_nil, List.append_nil] at hpass

/-- The first reference is replaced by its value, and the pass goes on behind it. -/
theorem IsFirstReference.substitute_eq {text before reference value after : Text}
    (h : vars.IsFirstReference text before reference value after) :
    vars.substitute text = before ++ value ++ vars.substitute after := by
  have hnone : ∀ tail, tail <:+ before → tail ≠ [] →
      ¬ vars.BeginsReference (tail ++ (reference ++ after)) := by
    rintro tail ⟨front, hfront⟩ hne ⟨reference', value', rest, hreference', heq⟩
    have htext : text = front ++ reference' ++ rest := by
      rw [h.eq_append, ← hfront, List.append_assoc, List.append_assoc, heq, List.append_assoc]
    have hle := h.length_le front reference' value' rest hreference' htext
    rw [← hfront, List.length_append] at hle
    have hpos := List.length_pos_iff.2 hne
    omega
  rw [h.eq_append, List.append_assoc, substitute_append_of_none hnone,
    substitute_append_of_isReference h.isReference, List.append_assoc]

/-- Every reference has one of the two opening marks in it. -/
theorem HasReference.mark_mem {text : Text} (h : vars.HasReference text) :
    ['$', '\x7b'] <:+: text ∨ '|' ∈ text := by
  obtain ⟨before, reference, value, after, hreference, rfl⟩ := h
  cases hreference with
  | @braced name _ hname hmem => exact Or.inl ⟨before, name ++ ['\x7d'] ++ after, by simp⟩
  | barred hname hmem => exact Or.inr (by simp)

/-- Substitution replaces the first reference of a text by its value and goes on behind it, so that
a value is not read again; a text without references stays as it is, whatever else it has of their
marks, and a text without opening marks has no references. -/
theorem substitute_one_pass (vars : Variables) (text : Text) :
    (¬ vars.HasReference text → vars.substitute text = text) ∧
      (vars.HasReference text → ∃ before reference value after,
        vars.IsFirstReference text before reference value after) ∧
      (∀ before reference value after, vars.IsFirstReference text before reference value after →
        vars.substitute text = before ++ value ++ vars.substitute after) ∧
      (¬ ['$', '\x7b'] <:+: text → '|' ∉ text → vars.substitute text = text) := by
  refine ⟨substitute_of_not_hasReference, HasReference.exists_isFirstReference,
    fun _ _ _ _ => IsFirstReference.substitute_eq, ?_⟩
  intro hbraced hbarred
  exact substitute_of_not_hasReference fun h => h.mark_mem.elim hbraced hbarred

/-- An unknown name between bars takes its second bar away from no reference. -/
example : (⟨[("host".toList, "tck.local".toList)], by decide⟩ : Variables).substitute
    "|nothing|host|$|host|".toList = "|nothingtck.local$tck.local".toList := by
  decide +kernel

end Variables

end HttpConformance
