import HttpConformance.Proofs.Expectation.PredicateList
import HttpConformance.Proofs.Substitution.OnePass

/-!
# Lists of predicates with variables

A list of header predicates is parted at its bars before variables are substituted in its pieces,
and a bar may as well be the mark of a reference.  Parting looks for references of one kind only and
asks nothing but whether their names are known, while substitution looks for both kinds and minds
the letters of the names.  The two agree as long as every known name can be referred to: no
reference lies across two pieces, and every bar inside a piece belongs to a reference.

Main definitions: `Variables.HasLetterNames`, `Variables.KeepsBars`.

Main results:

- `Variables.splitList_append_of_isReference`, `Variables.splitList_cons`: parting goes along with
  the pass of substitution.
- `Variables.keepsBars_of_mem_splitList`: the bars inside a piece.
- `Variables.substitute_splitList`: a list is substituted piece by piece.
-/

namespace HttpConformance.Variables

open HeaderPredicate

/-- All names of the table are made of letters that a reference can have. -/
def HasLetterNames (vars : Variables) : Prop :=
  ∀ entry ∈ vars.entries, ∀ c ∈ entry.1, IsNameLetter c

instance (vars : Variables) : Decidable vars.HasLetterNames :=
  have (entry : Text × Text) : Decidable (∀ c ∈ entry.1, IsNameLetter c) :=
    List.decidableBAll IsNameLetter entry.1
  List.decidableBAll (fun entry : Text × Text => ∀ c ∈ entry.1, IsNameLetter c) vars.entries

/-- Whether a name stands for something. -/
def isKnown (vars : Variables) (name : Text) : Bool :=
  (vars.find? name).isSome

/-- Every bar of the text belongs to a reference. -/
inductive KeepsBars (vars : Variables) : Text → Prop where
  | nil : KeepsBars vars []
  | reference {reference value rest : Text} (hreference : vars.IsReference reference value)
      (hrest : KeepsBars vars rest) : KeepsBars vars (reference ++ rest)
  | cons {c : Char} {rest : Text} (hc : c ≠ '|') (hrest : KeepsBars vars rest) :
      KeepsBars vars (c :: rest)

variable {vars : Variables} {reference value : Text}

/-! ## Parting along the pass -/

theorem isKnown_eq_true_iff {name : Text} :
    vars.isKnown name = true ↔ ∃ value, (name, value) ∈ vars.entries := by
  simp only [isKnown, Option.isSome_iff_exists, find?_eq_some_iff]

theorem IsName.bar_notMem {name : Text} (h : IsName name) : '|' ∉ name := by
  intro hmem
  exact absurd (h.letters '|' hmem) (by decide)

/-- A reference of either kind stays inside its piece. -/
theorem splitList_append_of_isReference (h : vars.IsReference reference value) (rest : Text) :
    splitList vars.isKnown (reference ++ rest) =
      (splitList vars.isKnown rest).modifyHead (reference ++ ·) := by
  cases h with
  | @braced name _ hname hmem =>
    refine splitList_append_of_notMem ?_ rest
    have hbar := hname.bar_notMem
    simp [hbar]
  | @barred name _ hname hmem =>
    have hknown : vars.isKnown name = true := isKnown_eq_true_iff.2 ⟨_, hmem⟩
    exact splitList_reference hname.bar_notMem hname.ne_nil hknown rest

/-- A bar that begins no reference parts the list, and any other character that begins none stays
inside its piece. -/
theorem splitList_cons (hnames : vars.HasLetterNames) {c : Char} {rest : Text}
    (h : ¬ vars.BeginsReference (c :: rest)) :
    splitList vars.isKnown (c :: rest) =
      if c = '|' then [] :: splitList vars.isKnown rest
      else (splitList vars.isKnown rest).modifyHead (c :: ·) := by
  split
  · rename_i hc
    subst hc
    refine splitList_bar (Option.eq_none_iff_forall_ne_some.2 ?_)
    rintro ⟨name, after⟩ hfound
    obtain ⟨htext, -, hne, hknown⟩ := reference?_eq_some_iff.1 hfound
    obtain ⟨value, hmem⟩ := isKnown_eq_true_iff.1 hknown
    have hname : IsName name := ⟨hne, hnames _ hmem⟩
    exact h ⟨_, value, after, .barred hname hmem, by simpa using htext⟩
  · rename_i hc
    exact splitList_cons_of_ne hc rest

/-! ## The pieces -/

/-- What is true of all pieces stays true when the first one is changed. -/
theorem forall_mem_modifyHead {P : Text → Prop} {change : Text → Text} {pieces : List Text}
    (hchange : ∀ piece, P piece → P (change piece)) (h : ∀ piece ∈ pieces, P piece) :
    ∀ piece ∈ pieces.modifyHead change, P piece := by
  cases pieces with
  | nil => exact h
  | cons first others =>
    rw [List.modifyHead_cons, List.forall_mem_cons]
    rw [List.forall_mem_cons] at h
    exact ⟨hchange first h.1, h.2⟩

/-- Every bar inside a piece belongs to a reference. -/
theorem keepsBars_of_mem_splitList (hnames : vars.HasLetterNames) (text : Text) :
    ∀ piece ∈ splitList vars.isKnown text, vars.KeepsBars piece := by
  induction text using substitute_induction vars with
  | nil =>
    rw [splitList, List.forall_mem_singleton]
    exact .nil
  | reference reference value rest hreference ih =>
    rw [splitList_append_of_isReference hreference]
    exact forall_mem_modifyHead (fun _ => .reference hreference) ih
  | kept c rest hnone ih =>
    rw [splitList_cons hnames hnone]
    split
    · exact List.forall_mem_cons.2 ⟨.nil, ih⟩
    · rename_i hc
      exact forall_mem_modifyHead (fun _ => .cons hc) ih

/-- What is substituted in a list is what is substituted in its pieces. -/
theorem substitute_eq_join (hnames : vars.HasLetterNames) (text : Text) :
    vars.substitute text =
      Text.join ['|'] ((splitList vars.isKnown text).map vars.substitute) := by
  induction text using substitute_induction vars with
  | nil =>
    rw [splitList, List.map_singleton, substitute_nil]
    exact List.intercalate_singleton.symm
  | reference reference value rest hreference ih =>
    obtain ⟨first, others, hpieces⟩ := List.exists_cons_of_ne_nil (splitList_ne_nil rest)
    rw [hpieces, List.map_cons, join_cons] at ih
    rw [splitList_append_of_isReference hreference, hpieces, List.modifyHead_cons, List.map_cons,
      join_cons, substitute_append_of_isReference hreference,
      substitute_append_of_isReference hreference, ih, List.append_assoc]
  | kept c rest hnone ih =>
    obtain ⟨first, others, hpieces⟩ := List.exists_cons_of_ne_nil (splitList_ne_nil rest)
    rw [splitList_cons hnames hnone, substitute_cons hnone, ih, hpieces]
    split
    · rename_i hc
      simp only [hc, List.map_cons, substitute_nil]
      rw [join_nil_cons _ (List.cons_ne_nil _ _), List.singleton_append]
    · -- What begins no reference before the whole rest begins none before its first piece.
      have hfirst : ¬ vars.BeginsReference (c :: first) := by
        intro hbegins
        obtain ⟨more, hmore⟩ := prefix_of_splitList_eq_cons hpieces
        have hlonger := hbegins.append more
        rw [List.cons_append, hmore] at hlonger
        exact hnone hlonger
      rw [List.modifyHead_cons, List.map_cons, List.map_cons, join_cons, join_cons,
        substitute_cons hfirst, List.cons_append]

/-- Parting a list of predicates breaks no reference, when every known name can be referred to: the
pieces, put together again, are the list; each bar inside a piece belongs to a reference; and the
list is substituted by substituting its pieces one by one. -/
theorem substitute_splitList (vars : Variables) (hnames : vars.HasLetterNames) (text : Text) :
    let pieces := splitList (fun name => (vars.find? name).isSome) text
    Text.join ['|'] pieces = text ∧ (∀ piece ∈ pieces, vars.KeepsBars piece) ∧
      vars.substitute text = Text.join ['|'] (pieces.map vars.substitute) :=
  ⟨join_splitList text, keepsBars_of_mem_splitList hnames text, substitute_eq_join hnames text⟩

/-- A table of a client, with a name that has no letters. -/
def client : Variables :=
  ⟨[([], "nobody".toList), ("client.host".toList, "client.local".toList),
      ("client.ip".toList, "10.1.2.3".toList)], by decide⟩

/-- Bars of references, bars between predicates and bars of an unknown name stand side by side, and
a reference in braces has a bar before its closing brace. -/
theorem substitute_splitList_client :
    client.HasLetterNames ∧
      let list := "X-Addr:|client.ip||X-Host:|client.host| (|client.ip|)||X-$\x7bclient.ip|me|\x7d"
      let pieces := splitList (fun name => (client.find? name).isSome) list.toList
      Text.join ['|'] pieces = list.toList ∧ (∀ piece ∈ pieces, client.KeepsBars piece) ∧
        client.substitute list.toList = Text.join ['|'] (pieces.map client.substitute) := by
  have hnames : client.HasLetterNames := by decide
  exact ⟨hnames, substitute_splitList client hnames _⟩

end HttpConformance.Variables
