import HttpConformance.Proofs.Text.Cut

/-!
# Trimmed texts

A text is trimmed when it neither begins nor ends with a blank, and blanks in front of a text or
behind it do not count when it is trimmed.

Main definitions: `Text.IsTrimmed`, `Text.blankCodes`.

Main results:

- `Text.not_isBlank_of_blankCodes`: characters that are no blanks, by the code points of the blanks.
- `Text.IsTrimmed.not_isBlank_of_head?`, `Text.IsTrimmed.not_isBlank_of_getLast?`: the ends of a
  trimmed text.
- `Text.isTrimmed_trim`: trimming twice is trimming once.
- `Text.trim_append_of_isBlank`, `Text.trim_append_blanks`: blanks around a text do not count.
- `Text.isTrimmed_of_ends`: a text whose ends are no blanks is trimmed.
- `Text.exists_eq_append_trim`: a text is what is left of it between some blanks.
- `Text.mem_trim_of_not_isBlank`: characters that are no blanks are left.
- `Text.trim_eq_nil_iff`: texts of which nothing is left.
-/

namespace HttpConformance.Text

/-! ## Blanks -/

/-- The code points of the blanks. -/
def blankCodes : List Nat :=
  List.range' 0x9 5 ++ [0x20, 0x85, 0xA0, 0x1680] ++ List.range' 0x2000 11 ++
    [0x2028, 0x2029, 0x202F, 0x205F, 0x3000]

theorem toNat_mem_blankCodes {c : Char} (h : isBlank c = true) : c.toNat ∈ blankCodes := by
  simp only [isBlank, Bool.or_eq_true, Bool.and_eq_true, decide_eq_true_eq, beq_iff_eq] at h
  simp only [blankCodes, List.mem_append, List.mem_range'_1, List.mem_cons, List.not_mem_nil,
    or_false]
  omega

/-- A character is no blank if it is what no blank is. -/
theorem not_isBlank_of_blankCodes {holds : Char → Bool} {c : Char}
    (hcodes : blankCodes.all (fun n => !holds (Char.ofNat n)) = true) (h : holds c = true) :
    isBlank c = false := by
  rw [← Bool.not_eq_true]
  intro hblank
  have hc := List.all_eq_true.1 hcodes c.toNat (toNat_mem_blankCodes hblank)
  rw [Char.ofNat_toNat, h] at hc
  cases hc

/-! ## Trimming -/

/-- The text has no blanks at its two ends. -/
def IsTrimmed (text : Text) : Prop :=
  trim text = text

instance (text : Text) : Decidable text.IsTrimmed :=
  inferInstanceAs (Decidable (trim text = text))

theorem IsTrimmed.dropWhile_eq {text : Text} (h : text.IsTrimmed) :
    text.dropWhile isBlank = text := by
  have hsub := text.dropWhile_sublist isBlank
  have hle := (List.rdropWhile_prefix isBlank (text.dropWhile isBlank)).length_le
  rw [← dropEndWhile_eq_rdropWhile, ← trim, h] at hle
  exact hsub.eq_of_length_le hle

theorem IsTrimmed.dropWhile_reverse_eq {text : Text} (h : text.IsTrimmed) :
    text.reverse.dropWhile isBlank = text.reverse := by
  have htrim : dropEndWhile isBlank (text.dropWhile isBlank) = text := h
  rw [h.dropWhile_eq, dropEndWhile, List.reverse_eq_iff] at htrim
  exact htrim

/-- What is left after the blanks at the front of a text does not begin with one. -/
theorem not_isBlank_of_dropWhile_eq {text : Text} (h : text.dropWhile isBlank = text) {c : Char}
    (hc : text.head? = some c) : isBlank c = false := by
  have hhead := List.head?_dropWhile_not isBlank text
  rw [h, hc] at hhead
  simpa using hhead

/-- A trimmed text does not begin with a blank. -/
theorem IsTrimmed.not_isBlank_of_head? {text : Text} (h : text.IsTrimmed) {c : Char}
    (hc : text.head? = some c) : isBlank c = false :=
  not_isBlank_of_dropWhile_eq h.dropWhile_eq hc

/-- A trimmed text that is not empty is not blank. -/
theorem IsTrimmed.isAllBlank_eq_false {text : Text} (h : text.IsTrimmed) (hne : text ≠ []) :
    isAllBlank text = false := by
  obtain ⟨c, rest, rfl⟩ := List.exists_cons_of_ne_nil hne
  rw [isAllBlank, List.all_cons, h.not_isBlank_of_head? rfl, Bool.false_and]

/-- A trimmed text does not end with a blank. -/
theorem IsTrimmed.not_isBlank_of_getLast? {text : Text} (h : text.IsTrimmed) {c : Char}
    (hc : text.getLast? = some c) : isBlank c = false := by
  rw [← List.head?_reverse] at hc
  exact not_isBlank_of_dropWhile_eq h.dropWhile_reverse_eq hc

/-- What is trimmed is trimmed. -/
theorem isTrimmed_trim (text : Text) : (trim text).IsTrimmed := by
  have hfront : (trim text).dropWhile isBlank = trim text := by
    cases htrim : trim text with
    | nil => rfl
    | cons c rest =>
      obtain ⟨dropped, hdropped⟩ := List.rdropWhile_prefix isBlank (text.dropWhile isBlank)
      rw [← dropEndWhile_eq_rdropWhile, ← trim, htrim, List.cons_append] at hdropped
      have hc : isBlank c = false := by
        refine not_isBlank_of_dropWhile_eq (List.dropWhile_idempotent isBlank text) ?_
        rw [← hdropped]
        rfl
      exact List.dropWhile_cons_of_neg (by simp [hc])
  have hend : dropEndWhile isBlank (trim text) = trim text := List.rdropWhile_idempotent isBlank _
  rw [IsTrimmed, trim, hfront, hend]

/-- Blanks in front of a text do not count. -/
theorem trim_append_of_isBlank {blanks : Text} (h : ∀ c ∈ blanks, isBlank c = true)
    (text : Text) : trim (blanks ++ text) = trim text := by
  rw [trim, List.dropWhile_append_of_pos h, ← trim]

/-- Blanks behind a text do not count. -/
theorem trim_append_blanks (text : Text) {blanks : Text} (h : ∀ c ∈ blanks, isBlank c = true) :
    trim (text ++ blanks) = trim text := by
  rw [trim, trim, List.dropWhile_append]
  split
  · rename_i hempty
    rw [List.isEmpty_iff.1 hempty, List.dropWhile_eq_nil_iff.2 h]
  · exact dropEndWhile_append_of_forall h _

/-- A text without the blanks at its end is trimmed like the whole. -/
theorem trim_dropEndWhile (text : Text) : trim (dropEndWhile isBlank text) = trim text := by
  obtain ⟨blanks, hblanks, heq⟩ := exists_eq_dropEndWhile_append isBlank text
  calc trim (dropEndWhile isBlank text)
      = trim (dropEndWhile isBlank text ++ blanks) := (trim_append_blanks _ hblanks).symm
    _ = trim text := by rw [← heq]

/-- A text that begins with no blank is trimmed at its end only. -/
theorem trim_eq_dropEndWhile {text : Text} (h : ∀ c, text.head? = some c → isBlank c = false) :
    trim text = dropEndWhile isBlank text := by
  cases text with
  | nil => rfl
  | cons c rest => rw [trim, List.dropWhile_cons_of_neg (by simp [h c rfl])]

/-- A character that is no blank stays at the front. -/
theorem trim_cons {c : Char} (hc : isBlank c = false) (text : Text) :
    trim (c :: text) = c :: dropEndWhile isBlank text := by
  rw [trim_eq_dropEndWhile (by rintro _ ⟨rfl⟩; exact hc), dropEndWhile_cons_of_kept hc]

/-- A text whose ends are no blanks is trimmed. -/
theorem isTrimmed_of_ends {text : Text} (hhead : ∀ c, text.head? = some c → isBlank c = false)
    (hlast : ∀ c, text.getLast? = some c → isBlank c = false) : text.IsTrimmed := by
  rw [IsTrimmed, trim_eq_dropEndWhile hhead, dropEndWhile_eq_rdropWhile,
    List.rdropWhile_eq_self_iff]
  intro hne
  simp [hlast _ (List.getLast?_eq_some_getLast hne)]

/-- A text without blanks is trimmed. -/
theorem isTrimmed_of_not_isBlank {text : Text} (h : ∀ c ∈ text, isBlank c = false) :
    text.IsTrimmed := by
  apply isTrimmed_of_ends
  · intro c hc
    exact h c (List.mem_of_head? hc)
  · intro c hc
    exact h c (List.mem_of_getLast? hc)

/-- A text is what is left of it between some blanks. -/
theorem exists_eq_append_trim (text : Text) :
    ∃ before after, (∀ c ∈ before, isBlank c = true) ∧ (∀ c ∈ after, isBlank c = true) ∧
      text = before ++ (trim text ++ after) := by
  obtain ⟨after, hafter, heq⟩ :=
    exists_eq_dropEndWhile_append isBlank (text.dropWhile isBlank)
  refine ⟨text.takeWhile isBlank, after, fun c hc => List.mem_takeWhile_imp hc, hafter, ?_⟩
  rw [trim, ← heq, List.takeWhile_append_dropWhile]

theorem mem_of_mem_trim {text : Text} {c : Char} (h : c ∈ trim text) : c ∈ text := by
  obtain ⟨before, after, -, -, htext⟩ := exists_eq_append_trim text
  rw [htext]
  simp [h]

/-- A character that is no blank occurs in what is left of a text between its blanks. -/
theorem mem_trim_of_not_isBlank {text : Text} {c : Char} (hc : isBlank c = false)
    (h : c ∈ text) : c ∈ trim text := by
  obtain ⟨before, after, hbefore, hafter, heq⟩ := exists_eq_append_trim text
  rw [heq, List.mem_append, List.mem_append] at h
  rcases h with hmem | hmem | hmem
  · rw [hbefore c hmem] at hc
    cases hc
  · exact hmem
  · rw [hafter c hmem] at hc
    cases hc

/-- Nothing is left of a text exactly when it has nothing but blanks. -/
theorem trim_eq_nil_iff {text : Text} : trim text = [] ↔ isAllBlank text = true := by
  rw [isAllBlank, List.all_eq_true]
  constructor
  · intro hnil c hc
    by_contra hblank
    have hmem := mem_trim_of_not_isBlank (Bool.eq_false_iff.2 hblank) hc
    rw [hnil] at hmem
    cases hmem
  · intro hall
    rw [← List.append_nil text, trim_append_of_isBlank hall]
    rfl

end HttpConformance.Text
