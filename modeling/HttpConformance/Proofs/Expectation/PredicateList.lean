import HttpConformance.Expectation
import HttpConformance.Proofs.Text.Cut
import HttpConformance.Proofs.Text.Join

/-!
# Lists of predicates

How a list of header predicates is parted at its bars, one step at a time: at a reference between
two bars, at a bar that belongs to none, and at any other character.

Main results:

- `HeaderPredicate.reference?_eq_some_iff`: a reference at the front of a list.
- `HeaderPredicate.splitList_reference`, `HeaderPredicate.splitList_bar`,
  `HeaderPredicate.splitList_append_of_notMem`: what is parted in one step.
- `HeaderPredicate.join_splitList`: the pieces put together again.
-/

namespace HttpConformance.HeaderPredicate

variable {isPlaceholder : Text → Bool}

/-! ## References at the front -/

/-- A reference at the front of a text is a known name between two bars. -/
theorem reference?_eq_some_iff {text name rest : Text} :
    reference? isPlaceholder text = some (name, rest) ↔
      text = '|' :: name ++ '|' :: rest ∧ '|' ∉ name ∧ name ≠ [] ∧ isPlaceholder name = true := by
  have hbarred : barred? text = some (name, rest) ↔
      text = '|' :: name ++ '|' :: rest ∧ '|' ∉ name := by
    unfold barred?
    split
    · rw [cutAt_eq_some_iff, List.cons_append, List.cons.injEq]
      simp only [true_and]
    · rename_i hother
      refine iff_of_false (by simp) ?_
      rintro ⟨rfl, -⟩
      exact hother _ rfl
  simp only [reference?, Option.filter_eq_some_iff, hbarred, Bool.and_eq_true, decide_eq_true_eq,
    and_assoc]

/-- Only a bar begins a reference. -/
theorem reference?_cons_of_ne {c : Char} (hc : c ≠ '|') (rest : Text) :
    reference? isPlaceholder (c :: rest) = none := by
  rw [Option.eq_none_iff_forall_ne_some]
  rintro ⟨name, after⟩ h
  exact hc (List.cons.inj (reference?_eq_some_iff.1 h).1).1

/-! ## One step -/

/-- A reference stays inside its piece. -/
theorem splitList_reference {name : Text} (hbar : '|' ∉ name) (hne : name ≠ [])
    (hname : isPlaceholder name = true) (rest : Text) :
    splitList isPlaceholder ('|' :: name ++ ['|'] ++ rest) =
      (splitList isPlaceholder rest).modifyHead (('|' :: name ++ ['|']) ++ ·) := by
  have hfound : reference? isPlaceholder ('|' :: (name ++ ['|'] ++ rest)) = some (name, rest) :=
    reference?_eq_some_iff.2 ⟨by simp, hbar, hne, hname⟩
  rw [List.cons_append, List.cons_append, splitList]
  split
  · rename_i found after heq
    rw [hfound] at heq
    cases heq
    rfl
  · rename_i heq
    rw [hfound] at heq
    cases heq

/-- A bar that belongs to no reference parts the list. -/
theorem splitList_bar {rest : Text} (h : reference? isPlaceholder ('|' :: rest) = none) :
    splitList isPlaceholder ('|' :: rest) = [] :: splitList isPlaceholder rest := by
  rw [splitList]
  split
  · rename_i heq
    rw [h] at heq
    cases heq
  · exact if_pos rfl

/-- Any other character belongs to its piece. -/
theorem splitList_cons_of_ne {c : Char} (hc : c ≠ '|') (rest : Text) :
    splitList isPlaceholder (c :: rest) = (splitList isPlaceholder rest).modifyHead (c :: ·) := by
  rw [splitList]
  split
  · rename_i heq
    rw [reference?_cons_of_ne hc] at heq
    cases heq
  · exact if_neg hc

/-- A text without bars belongs to its piece. -/
theorem splitList_append_of_notMem {front : Text} (h : '|' ∉ front) (rest : Text) :
    splitList isPlaceholder (front ++ rest) =
      (splitList isPlaceholder rest).modifyHead (front ++ ·) := by
  induction front with
  | nil => cases hpieces : splitList isPlaceholder rest <;> rw [List.nil_append, hpieces] <;> rfl
  | cons c front ih =>
    rw [List.mem_cons, not_or] at h
    rw [List.cons_append, splitList_cons_of_ne (Ne.symm h.1), ih h.2, List.modifyHead_modifyHead]
    rfl

/-! ## All pieces -/

/-- There is always a piece, if only an empty one. -/
theorem splitList_ne_nil (text : Text) : splitList isPlaceholder text ≠ [] := by
  induction text using splitList.induct isPlaceholder with
  | case1 =>
    rw [splitList]
    exact List.cons_ne_nil [] []
  | case2 c rest name after hfound _ ih =>
    obtain ⟨htext, hbar, hne, hname⟩ := reference?_eq_some_iff.1 hfound
    have hshape : c :: rest = '|' :: name ++ ['|'] ++ after := by simpa using htext
    rw [hshape, splitList_reference hbar hne hname]
    exact mt List.modifyHead_eq_nil_iff.1 ih
  | case3 rest hnone ih =>
    rw [splitList_bar hnone]
    exact List.cons_ne_nil _ _
  | case4 c rest hnone hc ih =>
    rw [splitList_cons_of_ne hc]
    exact mt List.modifyHead_eq_nil_iff.1 ih

/-- Nothing but the bars between the pieces is taken away. -/
theorem join_splitList (text : Text) : Text.join ['|'] (splitList isPlaceholder text) = text := by
  induction text using splitList.induct isPlaceholder with
  | case1 =>
    rw [splitList]
    exact List.intercalate_singleton
  | case2 c rest name after hfound _ ih =>
    obtain ⟨htext, hbar, hne, hname⟩ := reference?_eq_some_iff.1 hfound
    have hshape : c :: rest = '|' :: name ++ ['|'] ++ after := by simpa using htext
    rw [hshape, splitList_reference hbar hne hname, join_modifyHead _ _ (splitList_ne_nil after),
      ih]
  | case3 rest hnone ih =>
    rw [splitList_bar hnone, join_nil_cons _ (splitList_ne_nil rest), ih, List.singleton_append]
  | case4 c rest hnone hc ih =>
    have hne : splitList isPlaceholder rest ≠ [] := splitList_ne_nil rest
    have hjoin := join_modifyHead ['|'] [c] hne
    rw [ih] at hjoin
    rw [splitList_cons_of_ne hc]
    exact hjoin

/-- The first piece is a front of the list. -/
theorem prefix_of_splitList_eq_cons {text piece : Text} {pieces : List Text}
    (h : splitList isPlaceholder text = piece :: pieces) : piece <+: text := by
  have hjoin : Text.join ['|'] (splitList isPlaceholder text) = text := join_splitList text
  rw [h, join_cons] at hjoin
  exact ⟨_, hjoin⟩

end HttpConformance.HeaderPredicate
