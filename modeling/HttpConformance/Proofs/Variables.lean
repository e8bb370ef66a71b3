import HttpConformance.Variables

/-!
# Looking up variables

What a name stands for in a table that was put together: after one more entry, after several, and
with the entries of another table for the names that the first one lacks.

Main results:

- `Variables.find?_insert`: an entry takes the place of the one of the same name.
- `Variables.find?_foldl_insert`: entries win over the table they are put into.
- `Variables.mem_of_mem_ofList`, `Variables.ofList_entries`: the entries of a table that is put
  together, and a table put together from its own entries.
- `Variables.find?_withDefaults`: a table wins over the one that completes it.
- `Variables.mem_names_iff`: the names of a table.
-/

namespace HttpConformance.Variables

/-! ## Inserting -/

theorem lookup_cons_eq_ite (name : Text) (entry : Text × Text) (entries : List (Text × Text)) :
    (entry :: entries).lookup name =
      if name = entry.1 then some entry.2 else entries.lookup name := by
  by_cases hname : name = entry.1
  · rw [List.lookup_cons, if_pos hname, beq_iff_eq.2 hname]
  · rw [List.lookup_cons, if_neg hname, beq_eq_false_iff_ne.2 hname]

/-- An entry that is put in changes what is found under its own name alone. -/
theorem lookup_insertEntry (name value other : Text) (entries : List (Text × Text)) :
    (insertEntry name value entries).lookup other =
      if other = name then some value else entries.lookup other := by
  induction entries with
  | nil => rw [insertEntry, lookup_cons_eq_ite]
  | cons entry entries ih =>
    unfold insertEntry
    split
    · rw [lookup_cons_eq_ite]
    · split
      · rename_i hlt
        have hne : entry.1 ≠ name := fun heq => List.lt_irrefl _ (heq ▸ hlt)
        rw [lookup_cons_eq_ite, ih, lookup_cons_eq_ite]
        grind
      · rename_i hge hle
        have heq : entry.1 = name := List.le_antisymm hge hle
        rw [lookup_cons_eq_ite, lookup_cons_eq_ite]
        grind

theorem find?_insert (vars : Variables) (name value other : Text) :
    (vars.insert name value).find? other =
      if other = name then some value else vars.find? other :=
  lookup_insertEntry name value other vars.entries

/-- Entries of different names win over those of the table that they are put into. -/
theorem find?_foldl_insert {entries : List (Text × Text)} (h : (entries.map (·.1)).Nodup)
    (vars : Variables) (name : Text) :
    (entries.foldl (fun vars entry => vars.insert entry.1 entry.2) vars).find? name =
      (entries.lookup name).or (vars.find? name) := by
  induction entries generalizing vars with
  | nil => rfl
  | cons entry entries ih =>
    rw [List.map_cons, List.nodup_cons] at h
    rw [List.foldl_cons, ih h.2, find?_insert, lookup_cons_eq_ite]
    by_cases hname : name = entry.1
    · have hlater : entries.lookup name = none := by
        rw [List.lookup_eq_none_iff]
        intro later hlater
        rw [bne_iff_ne, hname]
        exact fun heq => h.1 (List.mem_map.2 ⟨later, hlater, heq.symm⟩)
      rw [hlater, if_pos hname, if_pos hname]
      rfl
    · rw [if_neg hname, if_neg hname]

/-! ## Tables from entries -/

/-- The entries of a table that others are put into come from the one or the other. -/
theorem mem_of_mem_foldl_insert {entries : List (Text × Text)} {vars : Variables}
    {entry : Text × Text}
    (h : entry ∈ (entries.foldl (fun vars entry => vars.insert entry.1 entry.2) vars).entries) :
    entry ∈ vars.entries ∨ entry ∈ entries := by
  induction entries generalizing vars with
  | nil => exact Or.inl h
  | cons first entries ih =>
    rcases ih h with hvars | hlater
    · rcases mem_of_mem_insertEntry hvars with rfl | hbefore
      · exact Or.inr List.mem_cons_self
      · exact Or.inl hbefore
    · exact Or.inr (List.mem_cons_of_mem first hlater)

theorem mem_of_mem_ofList {entries : List (Text × Text)} {entry : Text × Text}
    (h : entry ∈ (ofList entries).entries) : entry ∈ entries :=
  (mem_of_mem_foldl_insert h).resolve_left List.not_mem_nil

/-- An entry whose name comes last is put at the end. -/
theorem insertEntry_eq_concat {name value : Text} {entries : List (Text × Text)}
    (h : ∀ entry ∈ entries, entry.1 < name) :
    insertEntry name value entries = entries ++ [(name, value)] := by
  induction entries with
  | nil => rfl
  | cons first entries ih =>
    obtain ⟨hfirst, hentries⟩ := List.forall_mem_cons.1 h
    rw [insertEntry, if_neg (List.lt_asymm hfirst), if_pos hfirst, ih hentries, List.cons_append]

/-- Entries in order, all behind those of a table, are put behind them. -/
theorem entries_foldl_insert {entries : List (Text × Text)} {vars : Variables}
    (h : (vars.entries ++ entries).Pairwise fun a b => a.1 < b.1) :
    (entries.foldl (fun vars entry => vars.insert entry.1 entry.2) vars).entries =
      vars.entries ++ entries := by
  induction entries generalizing vars with
  | nil => exact (List.append_nil _).symm
  | cons first entries ih =>
    have hfirst : ∀ entry ∈ vars.entries, entry.1 < first.1 := fun entry hentry =>
      (List.pairwise_append.1 h).2.2 entry hentry first List.mem_cons_self
    have hinsert : (vars.insert first.1 first.2).entries = vars.entries ++ [first] :=
      insertEntry_eq_concat hfirst
    have hsplit : vars.entries ++ first :: entries = vars.entries ++ [first] ++ entries := by
      rw [List.append_assoc, List.singleton_append]
    rw [hsplit, ← hinsert] at h ⊢
    exact ih h

/-- A table is put together from its own entries. -/
theorem ofList_entries (vars : Variables) : ofList vars.entries = vars := by
  have hentries : (ofList vars.entries).entries = vars.entries := entries_foldl_insert vars.sorted
  cases hvars : ofList vars.entries
  cases vars
  simpa [hvars] using hentries

/-! ## Defaults -/

/-- The entries of a table win over those that complete it. -/
theorem find?_withDefaults (vars defaults : Variables) (name : Text) :
    (vars.withDefaults defaults).find? name = (vars.find? name).or (defaults.find? name) := by
  unfold withDefaults
  rw [find?.eq_def name defaults]
  generalize defaults.entries = entries
  induction entries generalizing vars with
  | nil => exact (Option.or_none).symm
  | cons entry entries ih =>
    rw [List.foldl_cons, ih, lookup_cons_eq_ite]
    split
    · rename_i hknown
      obtain ⟨value, hvalue⟩ := Option.isSome_iff_exists.1 hknown
      split
      · rename_i hname
        rw [hname, hvalue, Option.some_or, Option.some_or]
      · rfl
    · rename_i hunknown
      rw [Option.not_isSome_iff_eq_none] at hunknown
      rw [find?_insert]
      split
      · rename_i hname
        rw [hname, hunknown, Option.some_or, Option.none_or]
      · rfl

/-! ## Names -/

/-- The names of a table are those under which something is found. -/
theorem mem_names_iff {vars : Variables} {name : Text} :
    name ∈ vars.names ↔ ∃ value, vars.find? name = some value := by
  unfold names find?
  induction vars.entries with
  | nil => simp
  | cons entry entries ih =>
    rw [List.map_cons, List.mem_cons, ih, lookup_cons_eq_ite]
    split
    · rename_i hname
      exact iff_of_true (Or.inl hname) ⟨entry.2, rfl⟩
    · rename_i hname
      exact or_iff_right hname

end HttpConformance.Variables
