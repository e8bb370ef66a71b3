import HttpConformance.Proofs.Text.Cut

/-!
# Words

The words of a text, the longest parts of it without blanks.

Main results:

- `Text.words_append_blank`: words are parted at a blank.
- `Text.not_isBlank_of_mem_words`: words are not empty and have no blanks.
- `Text.exists_words_cons`: a text that begins with no blank begins with its first word.
- `Text.words_eq_nil_iff`: the texts without words.
-/

namespace HttpConformance.Text

/-- Words are parted at a blank. -/
theorem words_append_blank {c : Char} (hc : isBlank c = true) (front rest : Text) :
    words (front ++ c :: rest) = words front ++ words rest := by
  simp only [words, List.splitOnP_append_cons front rest hc, List.filter_append]

/-- A blank at the end of a text belongs to no word. -/
theorem words_append_singleton {c : Char} (hc : isBlank c = true) (text : Text) :
    words (text ++ [c]) = words text := by
  have hnil : words [] = [] := rfl
  rw [words_append_blank hc, hnil, List.append_nil]

/-- A text without blanks is one word. -/
theorem words_of_not_isBlank {text : Text} (hne : text ≠ [])
    (h : ∀ c ∈ text, isBlank c = false) : words text = [text] := by
  rw [words, List.splitOnP_eq_singleton h]
  simp [hne]

/-- Words are not empty and have no blanks. -/
theorem not_isBlank_of_mem_words {text word : Text} (h : word ∈ words text) :
    word ≠ [] ∧ ∀ c ∈ word, isBlank c = false := by
  rw [words, List.mem_filter, decide_eq_true_eq] at h
  exact ⟨h.2, not_of_mem_splitOnP h.1⟩

/-- A word is the only word that it has. -/
theorem words_of_mem_words {text word : Text} (h : word ∈ words text) : words word = [word] := by
  obtain ⟨hne, hblank⟩ := not_isBlank_of_mem_words h
  exact words_of_not_isBlank hne hblank

/-- A text that begins with no blank begins with its first word. -/
theorem exists_words_cons {c : Char} (hc : isBlank c = false) (rest : Text) :
    ∃ word others, words (c :: rest) = (c :: word) :: others := by
  obtain ⟨piece, pieces, hpieces⟩ :=
    List.exists_cons_of_ne_nil (List.splitOnP_ne_nil isBlank rest)
  refine ⟨piece, pieces.filter (· ≠ []), ?_⟩
  rw [words, List.splitOnP_cons_eq_if_modifyHead, if_neg (by simp [hc]), hpieces,
    List.modifyHead_cons, List.filter_cons_of_pos (by simp)]

/-- The texts without words are those of blanks only. -/
theorem words_eq_nil_iff {text : Text} : words text = [] ↔ isAllBlank text = true := by
  induction text with
  | nil => exact ⟨fun _ => rfl, fun _ => rfl⟩
  | cons c text ih =>
    by_cases hc : isBlank c = true
    · have hnil : words [] = [] := rfl
      have hcons : words (c :: text) = words text := by
        rw [← List.nil_append (c :: text), words_append_blank hc, hnil, List.nil_append]
      rw [hcons, ih, isAllBlank, isAllBlank, List.all_cons, hc, Bool.true_and]
    · have hwords : words (c :: text) ≠ [] := by
        obtain ⟨word, others, heq⟩ := exists_words_cons (Bool.eq_false_iff.2 hc) text
        rw [heq]
        exact List.cons_ne_nil _ _
      have hall : ¬ isAllBlank (c :: text) = true := by
        rw [isAllBlank, List.all_cons, Bool.and_eq_true]
        exact fun h => hc h.1
      exact iff_of_false hwords hall

end HttpConformance.Text
