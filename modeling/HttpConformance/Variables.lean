import HttpConformance.Text.Basic

/-!
# Variables

A table of named texts, kept in the order of the names so that two tables with the same content are
equal.

Main definitions: `Variables`, with `find?`, `insert`, `ofList` and `withDefaults`.

Main results: `pairwise_insertEntry`, that inserting keeps the order.
-/

namespace HttpConformance

/-- Named texts in strictly ascending order of the names. -/
structure Variables where
  entries : List (Text × Text)
  sorted : entries.Pairwise fun a b => a.1 < b.1
  deriving DecidableEq, Repr

namespace Variables

/-! ## Inserting -/

/-- The entries with one more, in place of the one of the same name if there is one. -/
def insertEntry (name value : Text) : List (Text × Text) → List (Text × Text)
  | [] => [(name, value)]
  | entry :: rest =>
    if name < entry.1 then (name, value) :: entry :: rest
    else if entry.1 < name then entry :: insertEntry name value rest
    else (name, value) :: rest

/-- An entry of the table is the new one or was there before. -/
theorem mem_of_mem_insertEntry {name value : Text} {entries : List (Text × Text)}
    {entry : Text × Text} (h : entry ∈ insertEntry name value entries) :
    entry = (name, value) ∨ entry ∈ entries := by
  induction entries with
  | nil => simpa [insertEntry] using h
  | cons first rest ih => grind [insertEntry]

/-- Inserting keeps the names in order. -/
theorem pairwise_insertEntry {name value : Text} {entries : List (Text × Text)}
    (h : entries.Pairwise fun a b => a.1 < b.1) :
    (insertEntry name value entries).Pairwise fun a b => a.1 < b.1 := by
  induction entries with
  | nil => simp [insertEntry]
  | cons first rest ih =>
    rw [List.pairwise_cons] at h
    simp only [insertEntry]
    split
    · rename_i hlt
      refine .cons ?_ (.cons h.1 h.2)
      intro entry he
      rcases List.mem_cons.1 he with rfl | he
      · exact hlt
      · exact List.lt_trans hlt (h.1 entry he)
    · split
      · rename_i hgt
        refine .cons ?_ (ih h.2)
        intro entry he
        rcases mem_of_mem_insertEntry he with rfl | he
        · exact hgt
        · exact h.1 entry he
      · rename_i hle hge
        refine .cons ?_ h.2
        intro entry he
        have hname : name = first.1 := List.le_antisymm hge hle
        simpa [hname] using h.1 entry he

/-- The table without entries. -/
def empty : Variables :=
  ⟨[], .nil⟩

/-- The table in which `name` stands for `value`. -/
def insert (name value : Text) (vars : Variables) : Variables :=
  ⟨insertEntry name value vars.entries, pairwise_insertEntry vars.sorted⟩

/-- The table of some entries, of which a later one wins over an earlier one of the same name. -/
def ofList (entries : List (Text × Text)) : Variables :=
  entries.foldl (fun vars entry => vars.insert entry.1 entry.2) empty

/-! ## Looking up -/

/-- What `name` stands for. -/
def find? (name : Text) (vars : Variables) : Option Text :=
  vars.entries.lookup name

/-- The names, in order. -/
def names (vars : Variables) : List Text :=
  vars.entries.map (·.1)

/-- The table, with the entries of `defaults` for the names that it lacks. -/
def withDefaults (vars defaults : Variables) : Variables :=
  defaults.entries.foldl
    (fun vars entry =>
      if (vars.find? entry.1).isSome then vars else vars.insert entry.1 entry.2)
    vars

end Variables

end HttpConformance
