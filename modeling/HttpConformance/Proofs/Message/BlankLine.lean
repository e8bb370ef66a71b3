import HttpConformance.Message.BlankLine
import Mathlib.Data.List.Infix

/-!
# The first blank line

Where a message is parted at its blank line, said without the search: the units before it, one of
the two spellings of a blank line, and the units after it.  Units that are put at the end of a
message do not move its blank line, although the two spellings compete: no blank line begins inside
another one.

Main definition: `IsGap`.

Main results:

- `blankLine?_eq_some_iff`: a blank line at the front of a message.
- `eq_append_of_partAtBlankLine?`: the parts of a message put together again.
- `partAtBlankLine?_append`: the blank line of a longer message.
- `partAtBlankLine?_append_gap`, `partAtBlankLine?_line`: the blank line behind one line, and behind
  more lines.
-/

namespace HttpConformance

variable {α : Type} [DecidableEq α] {cr lf : α}

/-- The two spellings of a blank line. -/
def IsGap (cr lf : α) (gap : List α) : Prop :=
  gap = [cr, lf, cr, lf] ∨ gap = [lf, lf]

/-- A blank line at the front of a message, and what follows it. -/
theorem blankLine?_eq_some_iff (hne : cr ≠ lf) {message rest : List α} {size : Nat} :
    blankLine? cr lf message = some (size, rest) ↔
      ∃ gap, IsGap cr lf gap ∧ size = gap.length ∧ message = gap ++ rest := by
  constructor
  · intro h
    unfold blankLine? at h
    split at h
    · rename_i tail hfront
      cases h
      exact ⟨[cr, lf, cr, lf], Or.inl rfl, rfl, eq_append_of_isPrefixOf? hfront⟩
    · obtain ⟨tail, hfront, heq⟩ := Option.map_eq_some_iff.1 h
      cases heq
      exact ⟨[lf, lf], Or.inr rfl, rfl, eq_append_of_isPrefixOf? hfront⟩
  · rintro ⟨gap, rfl | rfl, rfl, rfl⟩
    · simp [blankLine?, List.isPrefixOf?]
    · simp [blankLine?, List.isPrefixOf?, hne]

/-- The parts of a message put together again. -/
theorem eq_append_of_partAtBlankLine? (hne : cr ≠ lf) {message : List α} {parted : Parted α}
    (h : partAtBlankLine? cr lf message = some parted) :
    ∃ gap, IsGap cr lf gap ∧ parted.gap = gap.length ∧
      message = parted.head ++ gap ++ parted.body := by
  induction message generalizing parted with
  | nil => cases h
  | cons a message ih =>
    rw [partAtBlankLine?] at h
    split at h
    · rename_i size body hblank
      cases h
      exact (blankLine?_eq_some_iff hne).1 hblank
    · obtain ⟨inner, hinner, rfl⟩ := Option.map_eq_some_iff.1 h
      obtain ⟨gap, hgap, hsize, hmessage⟩ := ih hinner
      exact ⟨gap, hgap, hsize, congrArg (a :: ·) hmessage⟩

/-! ## Longer messages -/

/-- No blank line has another one begun inside it, behind its first unit. -/
theorem partAtBlankLine?_of_prefix_gap (hne : cr ≠ lf) {a : α} {message tail gap : List α}
    (hgap : IsGap cr lf gap) (h : gap = a :: message ++ tail) :
    partAtBlankLine? cr lf message = none := by
  have hprefix : message <+: [lf, cr, lf] := by
    rcases hgap with rfl | rfl
    · exact ⟨tail, (List.cons.inj h).2.symm⟩
    · have hone : message <+: [lf] := ⟨tail, (List.cons.inj h).2.symm⟩
      exact hone.trans (List.prefix_append [lf] [cr, lf])
  rw [List.prefix_iff_eq_take.1 hprefix]
  generalize message.length = n
  rcases n with _ | _ | _ | n <;>
    simp [partAtBlankLine?, blankLine?, List.isPrefixOf?, hne, hne.symm]

/-- A message with a blank line behind its first unit has none at its front that only later units
complete. -/
theorem blankLine?_append_eq_none (hne : cr ≠ lf) {a : α} {message : List α} {parted : Parted α}
    (hnone : blankLine? cr lf (a :: message) = none)
    (hparted : partAtBlankLine? cr lf message = some parted) (more : List α) :
    blankLine? cr lf (a :: message ++ more) = none := by
  cases hsome : blankLine? cr lf (a :: message ++ more) with
  | none => rfl
  | some found =>
    obtain ⟨gap, hgap, -, heq⟩ := (blankLine?_eq_some_iff hne).1 hsome
    rcases List.append_eq_append_iff.1 heq with ⟨tail, hinside, -⟩ | ⟨tail, hmessage, -⟩
    · rw [partAtBlankLine?_of_prefix_gap hne hgap hinside] at hparted
      cases hparted
    · rw [(blankLine?_eq_some_iff hne).2 ⟨gap, hgap, rfl, hmessage⟩] at hnone
      cases hnone

/-- More units at the end of a message stand at the end of its body. -/
theorem partAtBlankLine?_append (hne : cr ≠ lf) {message : List α} {parted : Parted α}
    (h : partAtBlankLine? cr lf message = some parted) (more : List α) :
    partAtBlankLine? cr lf (message ++ more) =
      some { parted with body := parted.body ++ more } := by
  induction message generalizing parted with
  | nil => cases h
  | cons a message ih =>
    rw [partAtBlankLine?] at h
    rw [List.cons_append, partAtBlankLine?, ← List.cons_append]
    split at h
    · rename_i size body hblank
      cases h
      obtain ⟨gap, hgap, hsize, hmessage⟩ := (blankLine?_eq_some_iff hne).1 hblank
      have hmore : blankLine? cr lf (a :: message ++ more) = some (size, body ++ more) :=
        (blankLine?_eq_some_iff hne).2 ⟨gap, hgap, hsize, by rw [hmessage, List.append_assoc]⟩
      rw [hmore]
    · rename_i hnone
      obtain ⟨inner, hinner, rfl⟩ := Option.map_eq_some_iff.1 h
      rw [blankLine?_append_eq_none hne hnone hinner more, ih hinner]
      rfl

/-! ## Messages line by line -/

/-- What precedes the first place where a blank line can stand belongs to the head. -/
theorem partAtBlankLine?_append_of_none {front rest : List α}
    (h : ∀ tail, tail <:+ front → tail ≠ [] → blankLine? cr lf (tail ++ rest) = none) :
    partAtBlankLine? cr lf (front ++ rest) =
      (partAtBlankLine? cr lf rest).map fun parted =>
        { parted with head := front ++ parted.head } := by
  induction front with
  | nil => cases hparted : partAtBlankLine? cr lf rest <;> rw [List.nil_append, hparted] <;> rfl
  | cons a front ih =>
    have hnone := h (a :: front) List.suffix_rfl (List.cons_ne_nil a front)
    have hfront : ∀ tail, tail <:+ front → tail ≠ [] → blankLine? cr lf (tail ++ rest) = none := by
      intro tail htail
      exact h tail (htail.trans (List.suffix_cons a front))
    rw [List.cons_append] at hnone
    rw [List.cons_append, partAtBlankLine?, hnone, ih hfront, Option.map_map]
    rfl

/-- A blank line that begins inside a line begins with the CR at the end of that line. -/
theorem blankLine?_line_append_eq_none (hne : cr ≠ lf) {line rest : List α} (hline : lf ∉ line)
    (hnil : line ≠ []) (hrest : cr ∈ line → ¬ [lf, cr, lf] <+: rest) :
    blankLine? cr lf (line ++ rest) = none := by
  cases hsome : blankLine? cr lf (line ++ rest) with
  | none => rfl
  | some found =>
    obtain ⟨gap, hgap, -, heq⟩ := (blankLine?_eq_some_iff hne).1 hsome
    obtain ⟨a, line, rfl⟩ := List.exists_cons_of_ne_nil hnil
    rw [List.mem_cons, not_or] at hline
    rcases hgap with rfl | rfl
    · cases line with
      | nil =>
        have ha : a = cr := (List.cons.inj heq).1
        refine absurd ⟨found.2, ?_⟩ (hrest (ha ▸ List.mem_cons_self))
        exact (List.cons.inj heq).2.symm
      | cons b line =>
        have hb : b = lf := (List.cons.inj (List.cons.inj heq).2).1
        exact absurd (hb ▸ List.mem_cons_self) hline.2
    · exact absurd (List.cons.inj heq).1.symm hline.1

/-- A blank line behind one line is the first one. -/
theorem partAtBlankLine?_append_gap (hne : cr ≠ lf) {line gap : List α} (hline : lf ∉ line)
    (hgap : IsGap cr lf gap) (rest : List α) :
    partAtBlankLine? cr lf (line ++ (gap ++ rest)) = some ⟨line, gap.length, rest⟩ := by
  have hfound : partAtBlankLine? cr lf (gap ++ rest) = some ⟨[], gap.length, rest⟩ := by
    have hblank : blankLine? cr lf (gap ++ rest) = some (gap.length, rest) :=
      (blankLine?_eq_some_iff hne).2 ⟨gap, hgap, rfl, rfl⟩
    rcases hgap with rfl | rfl
    · rw [List.cons_append, partAtBlankLine?, ← List.cons_append, hblank]
    · rw [List.cons_append, partAtBlankLine?, ← List.cons_append, hblank]
  have hgapFront : ¬ [lf, cr, lf] <+: gap ++ rest := by
    rintro ⟨tail, heq⟩
    rcases hgap with rfl | rfl
    · exact hne (List.cons.inj heq).1.symm
    · exact hne (List.cons.inj (List.cons.inj heq).2).1
  rw [partAtBlankLine?_append_of_none, hfound]
  · rw [Option.map_some, List.append_nil]
  · intro tail htail hnil
    have htailLine : lf ∉ tail := fun hmem => hline (htail.subset hmem)
    exact blankLine?_line_append_eq_none hne htailLine hnil fun _ => hgapFront

/-- The first blank line of a message is that of what follows its first line, unless this begins
with a line break.  It may begin with a CR if the line has none. -/
theorem partAtBlankLine?_line (hne : cr ≠ lf) {line rest : List α} (hline : lf ∉ line)
    (hcr : cr ∈ line → rest.head? ≠ some cr) (hlf : rest.head? ≠ some lf) :
    partAtBlankLine? cr lf (line ++ lf :: rest) =
      (partAtBlankLine? cr lf rest).map fun parted =>
        { parted with head := line ++ lf :: parted.head } := by
  have hbreak : blankLine? cr lf (lf :: rest) = none := by
    cases hsome : blankLine? cr lf (lf :: rest) with
    | none => rfl
    | some found =>
      obtain ⟨gap, hgap, -, heq⟩ := (blankLine?_eq_some_iff hne).1 hsome
      rcases hgap with rfl | rfl
      · exact absurd (List.cons.inj heq).1.symm hne
      · rw [(List.cons.inj heq).2] at hlf
        exact absurd rfl hlf
  have hfront (hmem : cr ∈ line) : ¬ [lf, cr, lf] <+: lf :: rest := by
    rintro ⟨tail, heq⟩
    rw [← (List.cons.inj heq).2] at hcr
    exact hcr hmem rfl
  rw [partAtBlankLine?_append_of_none, partAtBlankLine?, hbreak, Option.map_map]
  · rfl
  · intro tail htail hnil
    have htailLine : lf ∉ tail := fun hmem => hline (htail.subset hmem)
    exact blankLine?_line_append_eq_none hne htailLine hnil fun hmem => hfront (htail.subset hmem)

end HttpConformance
