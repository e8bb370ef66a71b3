import HttpConformance.Message.Request
import HttpConformance.Proofs.Message.BlankLine
import HttpConformance.Proofs.Substitution.OnePass
import Mathlib.Data.List.DropRight

/-!
# Substitution line by line

References have no line breaks in them and are not blank.  When this is so of the values as well,
substitution neither makes nor takes away line breaks, empty lines or blank lines: every way of
cutting a text at its line breaks cuts it in the same places before and after substitution.

Main definitions: `Variables.HasLineValues`, `Variables.IsInline`.

Main results:

- `Variables.isAllBlank_substitute`, `Variables.substitute_eq_nil_iff`: blank and empty texts.
- `Variables.splitOn_substitute`, `Variables.headLines_substitute`: the lines of a text.
- `Variables.partAtBlankLine?_substitute`: the first blank line of a text.
- `Variables.dropEndWhile_substitute`: the line breaks at the end of a text.
-/

namespace HttpConformance.Variables

/-- Every value is a part of a line that is not blank. -/
def HasLineValues (vars : Variables) : Prop :=
  ∀ entry ∈ vars.entries,
    '\r' ∉ entry.2 ∧ '\n' ∉ entry.2 ∧ ∃ c ∈ entry.2, Text.isBlank c = false

instance (vars : Variables) : Decidable vars.HasLineValues :=
  have (entry : Text × Text) : Decidable (∃ c ∈ entry.2, Text.isBlank c = false) :=
    List.decidableBEx (Text.isBlank · = false) entry.2
  List.decidableBAll (fun entry : Text × Text => '\r' ∉ entry.2 ∧ '\n' ∉ entry.2 ∧
    ∃ c ∈ entry.2, Text.isBlank c = false) vars.entries

/-- A part of a line that is not blank. -/
structure IsInline (piece : Text) : Prop where
  isBreak_eq_false : ∀ c ∈ piece, Request.isBreak c = false
  exists_visible : ∃ c ∈ piece, Text.isBlank c = false

variable {vars : Variables} {reference value piece : Text}

/-! ## Parts of lines -/

theorem isBreak_eq_true_iff {c : Char} : Request.isBreak c = true ↔ c = '\r' ∨ c = '\n' := by
  simp only [Request.isBreak, Bool.or_eq_true, beq_iff_eq]

/-- A line break is no part of a reference. -/
theorem not_mem_marks_of_isBreak {c : Char} (h : Request.isBreak c = true) :
    c ∉ ['$', '\x7b', '\x7d', '|'] ∧ ¬ IsNameLetter c := by
  rcases isBreak_eq_true_iff.1 h with rfl | rfl <;> decide

theorem IsReference.isInline (h : vars.IsReference reference value) : IsInline reference where
  isBreak_eq_false := by
    intro c hc
    rw [← Bool.not_eq_true]
    intro hbreak
    have hout := not_mem_marks_of_isBreak hbreak
    exact (h.mark_or_letter hc).elim hout.1 hout.2
  exists_visible := by
    obtain ⟨c, tail, rfl, hc⟩ := h.exists_cons
    refine ⟨c, List.mem_cons_self, ?_⟩
    rcases hc with rfl | rfl <;> decide

theorem HasLineValues.isInline (h : vars.HasLineValues)
    (hreference : vars.IsReference reference value) : IsInline value := by
  obtain ⟨name, -, hmem⟩ := hreference.exists_name
  obtain ⟨hcr, hlf, hvisible⟩ := h _ hmem
  refine ⟨fun c hc => ?_, hvisible⟩
  rw [← Bool.not_eq_true, isBreak_eq_true_iff]
  rintro (rfl | rfl)
  · exact hcr hc
  · exact hlf hc

theorem IsInline.ne_nil (h : IsInline piece) : piece ≠ [] := by
  obtain ⟨c, hc, -⟩ := h.exists_visible
  exact List.ne_nil_of_mem hc

theorem IsInline.isAllBlank_append (h : IsInline piece) (rest : Text) :
    Text.isAllBlank (piece ++ rest) = false := by
  obtain ⟨c, hc, hvisible⟩ := h.exists_visible
  rw [Text.isAllBlank, List.all_eq_false]
  exact ⟨c, List.mem_append_left rest hc, by rw [hvisible]; exact Bool.false_ne_true⟩

/-! ## Blank and empty texts -/

/-- A text is blank exactly when it is after substitution. -/
theorem isAllBlank_substitute (hvalues : vars.HasLineValues) (text : Text) :
    Text.isAllBlank (vars.substitute text) = Text.isAllBlank text := by
  induction text using substitute_induction vars with
  | nil => rw [substitute_nil]
  | reference reference value rest hreference ih =>
    rw [substitute_append_of_isReference hreference,
      (hvalues.isInline hreference).isAllBlank_append, hreference.isInline.isAllBlank_append]
  | kept c rest hnone ih =>
    rw [Text.isAllBlank, Text.isAllBlank] at ih
    rw [substitute_cons hnone, Text.isAllBlank, Text.isAllBlank, List.all_cons, List.all_cons, ih]

/-- A text is empty exactly when it is after substitution. -/
theorem substitute_eq_nil_iff (hvalues : vars.HasLineValues) {text : Text} :
    vars.substitute text = [] ↔ text = [] := by
  induction text using substitute_induction vars with
  | nil => simp
  | reference reference value rest hreference ih =>
    rw [substitute_append_of_isReference hreference]
    simp [(hvalues.isInline hreference).ne_nil, hreference.ne_nil]
  | kept c rest hnone ih =>
    rw [substitute_cons hnone]
    simp

/-! ## Lines -/

/-- Substitution brings in no line breaks. -/
theorem mem_of_mem_substitute (hvalues : vars.HasLineValues) {c : Char}
    (hc : Request.isBreak c = true) {text : Text} (h : c ∈ vars.substitute text) : c ∈ text := by
  induction text using substitute_induction vars with
  | nil => rwa [substitute_nil] at h
  | reference reference value rest hreference ih =>
    rw [substitute_append_of_isReference hreference, List.mem_append] at h
    rcases h with hmem | hmem
    · rw [(hvalues.isInline hreference).isBreak_eq_false c hmem] at hc
      cases hc
    · exact List.mem_append_right reference (ih hmem)
  | kept a rest hnone ih =>
    rw [substitute_cons hnone, List.mem_cons] at h
    rw [List.mem_cons]
    exact h.imp_right ih

/-- The lines of a text are substituted one by one. -/
theorem splitOn_substitute (hvalues : vars.HasLineValues) {c : Char}
    (hc : Request.isBreak c = true) (text : Text) :
    (vars.substitute text).splitOn c = (text.splitOn c).map vars.substitute := by
  have hout := not_mem_marks_of_isBreak hc
  induction hlength : text.length using Nat.strongRecOn generalizing text with
  | _ length ih =>
    by_cases hmem : c ∈ text
    · obtain ⟨line, rest, rfl, hline⟩ := List.eq_append_cons_of_mem hmem
      have hline' : c ∉ vars.substitute line := fun h => hline (mem_of_mem_substitute hvalues hc h)
      have hrest := ih rest.length (by simp [← hlength]; omega) rest rfl
      rw [substitute_append_cons hout.1 hout.2, List.splitOn_append_cons_self_of_not_mem hline',
        List.splitOn_append_cons_self_of_not_mem hline, hrest, List.map_cons]
    · have hmem' : c ∉ vars.substitute text := fun h => hmem (mem_of_mem_substitute hvalues hc h)
      rw [List.splitOn_eq_singleton hmem', List.splitOn_eq_singleton hmem, List.map_singleton]

/-- A line break at the end of a text after substitution was there before. -/
theorem getLast?_of_getLast?_substitute (hvalues : vars.HasLineValues) {c : Char}
    (hc : Request.isBreak c = true) {text : Text}
    (h : (vars.substitute text).getLast? = some c) : text.getLast? = some c := by
  induction text using substitute_induction vars with
  | nil => rwa [substitute_nil] at h
  | reference reference value rest hreference ih =>
    rw [substitute_append_of_isReference hreference] at h
    by_cases hrest : rest = []
    · rw [hrest, substitute_nil, List.append_nil] at h
      rw [(hvalues.isInline hreference).isBreak_eq_false c (List.mem_of_getLast? h)] at hc
      cases hc
    · have hrest' : vars.substitute rest ≠ [] := fun hnil =>
        hrest ((substitute_eq_nil_iff hvalues).1 hnil)
      rw [List.getLast?_append_of_ne_nil _ hrest'] at h
      rw [List.getLast?_append_of_ne_nil _ hrest, ih h]
  | kept a rest hnone ih =>
    rw [substitute_cons hnone] at h
    by_cases hrest : rest = []
    · rw [hrest, substitute_nil] at h
      rwa [hrest]
    · have hrest' : vars.substitute rest ≠ [] := fun hnil =>
        hrest ((substitute_eq_nil_iff hvalues).1 hnil)
      rw [List.getLast?_cons_of_ne_nil hrest'] at h
      rw [List.getLast?_cons_of_ne_nil hrest, ih h]

/-- A line break at the end of a text is there after substitution. -/
theorem substitute_concat {c : Char} (hc : Request.isBreak c = true) (text : Text) :
    vars.substitute (text ++ [c]) = vars.substitute text ++ [c] := by
  have hout := not_mem_marks_of_isBreak hc
  rw [substitute_append_cons hout.1 hout.2, substitute_nil]

/-- A CR at the end of a line may be dropped before the references are replaced, or after. -/
theorem withoutLast_substitute (hvalues : vars.HasLineValues) (line : Text) :
    withoutLast '\r' (vars.substitute line) = vars.substitute (withoutLast '\r' line) := by
  have hbreak : Request.isBreak '\r' = true := by decide
  by_cases hlast : line.getLast? = some '\r'
  · obtain ⟨front, rfl⟩ := List.getLast?_eq_some_iff.1 hlast
    rw [substitute_concat hbreak, withoutLast_concat, withoutLast_concat]
  · have hlast' : (vars.substitute line).getLast? ≠ some '\r' := fun h =>
      hlast (getLast?_of_getLast?_substitute hvalues hbreak h)
    rw [withoutLast, withoutLast, if_neg hlast, if_neg hlast']

/-- The lines of the head of a request, after substitution. -/
theorem headLines_substitute (hvalues : vars.HasLineValues) (head : Text) :
    Request.headLines (vars.substitute head) =
      (Request.headLines head).map vars.substitute := by
  rw [Request.headLines, Request.headLines, splitOn_substitute hvalues (by decide), List.map_map,
    List.map_map]
  exact List.map_congr_left fun line _ => withoutLast_substitute hvalues line

/-- The line breaks at the end of a text are there after substitution. -/
theorem dropEndWhile_substitute (hvalues : vars.HasLineValues) (text : Text) :
    dropEndWhile Request.isBreak (vars.substitute text) =
      vars.substitute (dropEndWhile Request.isBreak text) := by
  have hdrop := dropEndWhile_eq_rdropWhile Request.isBreak
  induction text using List.reverseRecOn with
  | nil => rw [substitute_nil, hdrop, List.rdropWhile_nil, substitute_nil]
  | append_singleton text c ih =>
    by_cases hc : Request.isBreak c = true
    · rw [substitute_concat hc, hdrop, hdrop, List.rdropWhile_concat_pos _ _ _ hc,
        List.rdropWhile_concat_pos _ _ _ hc, ← hdrop, ih, hdrop]
    · rw [hdrop, hdrop, List.rdropWhile_concat_neg _ _ _ hc]
      rcases List.eq_nil_or_concat (vars.substitute (text ++ [c])) with hnil | ⟨front, d, hfront⟩
      · rw [hnil, List.rdropWhile_nil]
      · -- The last character after substitution is no line break, as the last one before is none.
        rw [List.concat_eq_append] at hfront
        have hd : ¬ Request.isBreak d = true := by
          intro hbreak
          have hlast := getLast?_of_getLast?_substitute hvalues hbreak
            (hfront ▸ List.getLast?_concat)
          rw [List.getLast?_concat] at hlast
          cases hlast
          exact hc hbreak
        rw [hfront, List.rdropWhile_concat_neg _ _ _ hd]

/-! ## The blank line -/

/-- A line break does not begin in a piece of a line. -/
theorem IsInline.isPrefixOf?_append (h : IsInline piece) {c : Char}
    (hc : Request.isBreak c = true) (front rest : Text) :
    (c :: front).isPrefixOf? (piece ++ rest) = none := by
  obtain ⟨a, tail, rfl⟩ := List.exists_cons_of_ne_nil h.ne_nil
  have hne : (c == a) = false := by
    rw [beq_eq_false_iff_ne]
    rintro rfl
    rw [h.isBreak_eq_false _ List.mem_cons_self] at hc
    cases hc
  rw [List.cons_append, List.isPrefixOf?, hne]
  rfl

/-- Line breaks at the front of a text are there after substitution. -/
theorem isPrefixOf?_substitute (hvalues : vars.HasLineValues) {front : Text}
    (hfront : ∀ c ∈ front, Request.isBreak c = true) (text : Text) :
    front.isPrefixOf? (vars.substitute text) = (front.isPrefixOf? text).map vars.substitute := by
  induction front generalizing text with
  | nil => rfl
  | cons c front ih =>
    have hc := hfront c List.mem_cons_self
    induction text using substitute_induction vars with
    | nil =>
      rw [substitute_nil]
      rfl
    | reference reference value rest hreference =>
      rw [substitute_append_of_isReference hreference,
        (hvalues.isInline hreference).isPrefixOf?_append hc,
        hreference.isInline.isPrefixOf?_append hc]
      rfl
    | kept a rest hnone =>
      rw [substitute_cons hnone, List.isPrefixOf?, List.isPrefixOf?]
      split
      · exact ih (fun b hb => hfront b (List.mem_cons_of_mem c hb)) rest
      · rfl

/-- A blank line at the front of a text is there after substitution. -/
theorem blankLine?_substitute (hvalues : vars.HasLineValues) (text : Text) :
    blankLine? '\r' '\n' (vars.substitute text) =
      (blankLine? '\r' '\n' text).map fun (gap, rest) => (gap, vars.substitute rest) := by
  have hlong : ∀ c ∈ ['\r', '\n', '\r', '\n'], Request.isBreak c = true := by
    simp [Request.isBreak]
  have hshort : ∀ c ∈ ['\n', '\n'], Request.isBreak c = true := by
    simp [Request.isBreak]
  rw [blankLine?, blankLine?, isPrefixOf?_substitute hvalues hlong,
    isPrefixOf?_substitute hvalues hshort]
  cases ['\r', '\n', '\r', '\n'].isPrefixOf? text with
  | some rest => rfl
  | none => cases ['\n', '\n'].isPrefixOf? text <;> rfl

/-- The blank line of a text is found behind a piece of a line, too. -/
theorem IsInline.partAtBlankLine?_append (h : IsInline piece) (rest : Text) :
    partAtBlankLine? '\r' '\n' (piece ++ rest) =
      (partAtBlankLine? '\r' '\n' rest).map fun parted =>
        { parted with head := piece ++ parted.head } := by
  refine partAtBlankLine?_append_of_none fun tail htail hne => ?_
  obtain ⟨c, tail, rfl⟩ := List.exists_cons_of_ne_nil hne
  have hc := h.isBreak_eq_false c (htail.subset List.mem_cons_self)
  have hcr : ('\r' == c) = false := by
    rw [beq_eq_false_iff_ne]
    rintro rfl
    cases hc
  have hlf : ('\n' == c) = false := by
    rw [beq_eq_false_iff_ne]
    rintro rfl
    cases hc
  simp [blankLine?, List.isPrefixOf?, hcr, hlf]

/-- The first blank line of a text is the first one after substitution. -/
theorem partAtBlankLine?_substitute (hvalues : vars.HasLineValues) (text : Text) :
    partAtBlankLine? '\r' '\n' (vars.substitute text) =
      (partAtBlankLine? '\r' '\n' text).map fun parted =>
        ⟨vars.substitute parted.head, parted.gap, vars.substitute parted.body⟩ := by
  induction text using substitute_induction vars with
  | nil =>
    rw [substitute_nil]
    rfl
  | reference reference value rest hreference ih =>
    rw [substitute_append_of_isReference hreference,
      (hvalues.isInline hreference).partAtBlankLine?_append,
      hreference.isInline.partAtBlankLine?_append, ih, Option.map_map, Option.map_map]
    refine congrArg (Option.map · _) (funext fun parted => ?_)
    simp only [Function.comp_apply, substitute_append_of_isReference hreference]
  | kept c rest hnone ih =>
    have hblank := blankLine?_substitute hvalues (c :: rest)
    rw [substitute_cons hnone] at hblank ⊢
    rw [partAtBlankLine?, partAtBlankLine?, hblank]
    cases blankLine? '\r' '\n' (c :: rest) with
    | some found =>
      simp only [Option.map_some, substitute_nil]
    | none =>
      simp only [Option.map_none, ih]
      cases hparted : partAtBlankLine? '\r' '\n' rest with
      | none => rfl
      | some parted =>
        -- The head is a front of the text, so that no reference begins at its front either.
        obtain ⟨gap, -, -, hrest⟩ := eq_append_of_partAtBlankLine? (by decide) hparted
        have hhead : ¬ vars.BeginsReference (c :: parted.head) := by
          intro hbegins
          have hlonger := hbegins.append (gap ++ parted.body)
          rw [List.cons_append, ← List.append_assoc, ← hrest] at hlonger
          exact hnone hlonger
        simp only [Option.map_some, substitute_cons hhead]

end HttpConformance.Variables
