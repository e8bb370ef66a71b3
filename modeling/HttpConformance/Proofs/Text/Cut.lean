import HttpConformance.Text.Basic
import Mathlib.Data.List.Basic
import Mathlib.Data.List.DropRight

/-!
# Cutting lists

What the cuts of `HttpConformance.Text.Basic` say about the list that was cut, without the search
that finds them.

Main results:

- `cutAt_eq_some_iff`, `cutAt_eq_none_iff`: a cut at a separator is at its first occurrence.
- `append_cons_inj`: a list has one part before its first separator and one behind it.
- `cutAt_append`: items that are put at the end of a list do not move a cut that was found.
- `contains_eq_true_iff`: a list is contained in another one exactly when it is an infix of it.
- `infix_or_infix_of_append_cons`: what occurs in a list occurs before or behind its separator.
- `not_of_mem_splitOnP`, `notMem_of_mem_splitOn`, `getLast?_splitOn_ne_nil`: the pieces of a list
  that is split.
- `takeWhile_append_of_head?`, `dropWhile_append_of_head?`: the items that are kept at the front.
- `takeWhile_append_cons`: what stands in front of the first separator.
- `dropEndWhile_append_of_exists`, `dropEndWhile_append_of_forall`: items dropped at the end of a
  list that is put together from two.
- `exists_eq_dropEndWhile_append`: a list is what is left of it and what is dropped.
- `exists_foldlM_cons`, `exists_foldlM_append`: a fold that may fail, over a list that is put
  together from two.
-/

namespace HttpConformance

/-! ## Pieces -/

/-- The pieces of a list that is split have none of the items at which it is split. -/
theorem not_of_mem_splitOnP {α : Type} {splits : α → Bool} {items piece : List α}
    (h : piece ∈ items.splitOnP splits) : ∀ a ∈ piece, splits a = false := by
  induction items generalizing piece with
  | nil =>
    rw [List.splitOnP_nil, List.mem_singleton] at h
    rw [h]
    exact fun a ha => absurd ha List.not_mem_nil
  | cons b items ih =>
    rw [List.splitOnP_cons_eq_if_modifyHead] at h
    split at h
    · rcases List.mem_cons.1 h with rfl | hrest
      · exact fun a ha => absurd ha List.not_mem_nil
      · exact ih hrest
    · rename_i hb
      obtain ⟨first, others, hpieces⟩ :=
        List.exists_cons_of_ne_nil (List.splitOnP_ne_nil splits items)
      rw [hpieces, List.modifyHead_cons] at h
      rcases List.mem_cons.1 h with rfl | hrest
      · have hfirst := ih (hpieces ▸ List.mem_cons_self)
        exact List.forall_mem_cons.2 ⟨Bool.eq_false_iff.2 hb, hfirst⟩
      · exact ih (hpieces ▸ List.mem_cons_of_mem first hrest)

/-- The pieces of a list that is split at a separator do not have it. -/
theorem notMem_of_mem_splitOn {α : Type} [DecidableEq α] {separator : α} {items piece : List α}
    (h : piece ∈ items.splitOn separator) : separator ∉ piece := by
  rw [List.splitOn_eq_splitOnP] at h
  intro hmem
  have hne := not_of_mem_splitOnP h separator hmem
  rw [beq_self_eq_true] at hne
  cases hne

/-- The last piece is not empty if the list does not end in the separator. -/
theorem getLast?_splitOn_ne_nil {α : Type} [DecidableEq α] {separator : α} {items : List α}
    (hne : items ≠ []) (hlast : items.getLast? ≠ some separator) :
    (items.splitOn separator).getLast? ≠ some [] := by
  induction items with
  | nil => exact absurd rfl hne
  | cons a items ih =>
    rw [List.splitOn_cons_eq_if_modifyHead]
    cases items with
    | nil =>
      have ha : ¬ (a == separator) = true := by simpa using hlast
      simp [ha, List.splitOn_nil]
    | cons b items =>
      have ih := ih (List.cons_ne_nil b items) (by simpa using hlast)
      obtain ⟨piece, pieces, hpieces⟩ :=
        List.exists_cons_of_ne_nil (List.splitOn_ne_nil separator (b :: items))
      rw [hpieces] at ih ⊢
      cases pieces with
      | nil => split <;> simp_all
      | cons next pieces => split <;> simp_all

/-! ## Occurrences -/

/-- What begins a list and does not have its separator ends before the separator. -/
theorem prefix_of_prefix_append_cons {α : Type} {separator : α} {piece front rest : List α}
    (hpiece : separator ∉ piece) (h : piece <+: front ++ separator :: rest) : piece <+: front := by
  rcases List.prefix_or_prefix_of_prefix h (List.prefix_append front (separator :: rest)) with
    hshort | ⟨tail, rfl⟩
  · exact hshort
  · cases tail with
    | nil => simp
    | cons a tail =>
      have htail := (List.prefix_append_right_inj front).1 h
      obtain rfl : a = separator := (List.cons_prefix_cons.1 htail).1
      exact absurd (List.mem_append_right front List.mem_cons_self) hpiece

/-- What occurs in a list and does not have its separator occurs before or behind the separator. -/
theorem infix_or_infix_of_append_cons {α : Type} {separator : α} {piece front rest : List α}
    (hpiece : separator ∉ piece) (h : piece <:+: front ++ separator :: rest) :
    piece <:+: front ∨ piece <:+: rest := by
  induction front with
  | nil =>
    rcases List.infix_cons_iff.1 h with hprefix | hrest
    · have hfront : piece <+: [] ++ separator :: rest := hprefix
      exact Or.inl (prefix_of_prefix_append_cons hpiece hfront).isInfix
    · exact Or.inr hrest
  | cons a front ih =>
    rcases List.infix_cons_iff.1 h with hprefix | hlater
    · exact Or.inl (prefix_of_prefix_append_cons hpiece hprefix).isInfix
    · rcases ih hlater with hfront | hrest
      · exact Or.inl (hfront.trans (List.suffix_cons a front).isInfix)
      · exact Or.inr hrest

/-! ## Items at the front -/

/-- The items of a list are others than one that it does not have. -/
theorem bne_of_notMem {α : Type} [DecidableEq α] {a : α} {items : List α} (h : a ∉ items) :
    ∀ b ∈ items, (b != a) = true :=
  fun _ hb => bne_iff_ne.2 fun heq => h (heq ▸ hb)

section

variable {α : Type} {keeps : α → Bool} {front rest : List α}

/-- What is kept at the front of a list ends where the next item is not kept. -/
theorem takeWhile_append_of_head? (hfront : ∀ a ∈ front, keeps a = true)
    (hrest : ∀ a, rest.head? = some a → keeps a = false) :
    (front ++ rest).takeWhile keeps = front := by
  rw [List.takeWhile_append_of_pos hfront]
  cases rest with
  | nil => exact List.append_nil front
  | cons a rest => rw [List.takeWhile_cons_of_neg (by simp [hrest a rfl]), List.append_nil]

/-- What stands in front of the first separator. -/
theorem takeWhile_append_cons [DecidableEq α] {separator : α} (h : separator ∉ front)
    (rest : List α) : (front ++ separator :: rest).takeWhile (· != separator) = front :=
  takeWhile_append_of_head? (bne_of_notMem h) (by rintro _ ⟨rfl⟩; exact bne_self_eq_false _)

/-- A list without the separator stands in front of it as a whole. -/
theorem takeWhile_eq_self_of_notMem [DecidableEq α] {separator : α} (h : separator ∉ front) :
    front.takeWhile (· != separator) = front :=
  List.takeWhile_eq_self_iff.2 (bne_of_notMem h)

/-- What is dropped at the front of a list ends where the next item is kept. -/
theorem dropWhile_append_of_head? (hfront : ∀ a ∈ front, keeps a = true)
    (hrest : ∀ a, rest.head? = some a → keeps a = false) :
    (front ++ rest).dropWhile keeps = rest := by
  rw [List.dropWhile_append_of_pos hfront]
  cases rest with
  | nil => rfl
  | cons a rest => exact List.dropWhile_cons_of_neg (by simp [hrest a rfl])

end

/-! ## Items at the end -/

section

variable {α : Type} {drops : α → Bool}

/-- Dropping items at the end is the library's `rdropWhile`. -/
theorem dropEndWhile_eq_rdropWhile (drops : α → Bool) (items : List α) :
    dropEndWhile drops items = items.rdropWhile drops :=
  rfl

/-- Nothing is dropped in front of an item that is kept. -/
theorem dropEndWhile_append_of_exists {rest : List α} (h : ∃ a ∈ rest, drops a = false)
    (front : List α) : dropEndWhile drops (front ++ rest) = front ++ dropEndWhile drops rest := by
  obtain ⟨a, ha, hkept⟩ := h
  have hne : rest.reverse.dropWhile drops ≠ [] := by
    intro hnil
    rw [List.dropWhile_eq_nil_iff.1 hnil a (List.mem_reverse.2 ha)] at hkept
    cases hkept
  rw [dropEndWhile, List.reverse_append, List.dropWhile_append, if_neg (by simpa using hne),
    List.reverse_append, List.reverse_reverse, ← dropEndWhile]

/-- Items that are dropped do not count at the end of a list. -/
theorem dropEndWhile_append_of_forall {rest : List α} (h : ∀ a ∈ rest, drops a = true)
    (front : List α) : dropEndWhile drops (front ++ rest) = dropEndWhile drops front := by
  have hreverse : ∀ a ∈ rest.reverse, drops a = true := fun a ha => h a (List.mem_reverse.1 ha)
  rw [dropEndWhile, List.reverse_append, List.dropWhile_append_of_pos hreverse, ← dropEndWhile]

/-- An item that is kept stays in front of what is left of the items behind it. -/
theorem dropEndWhile_cons_of_kept {a : α} (h : drops a = false) (items : List α) :
    dropEndWhile drops (a :: items) = a :: dropEndWhile drops items := by
  by_cases hitems : ∃ b ∈ items, drops b = false
  · exact dropEndWhile_append_of_exists hitems [a]
  · have hall : ∀ b ∈ items, drops b = true := by simpa using hitems
    have hcons := dropEndWhile_append_of_forall hall [a]
    have hnil := dropEndWhile_append_of_forall hall []
    rw [List.nil_append] at hnil
    rw [← List.singleton_append, hcons, hnil]
    simp [dropEndWhile, h]

/-- Items are dropped only behind the last one that is kept. -/
theorem dropEndWhile_append_cons_of_kept {a : α} (h : drops a = false) (front items : List α) :
    dropEndWhile drops (front ++ a :: items) = front ++ a :: dropEndWhile drops items := by
  rw [dropEndWhile_append_of_exists ⟨a, List.mem_cons_self, h⟩, dropEndWhile_cons_of_kept h]

/-- A list is what is left of it, and behind this what is dropped. -/
theorem exists_eq_dropEndWhile_append (drops : α → Bool) (items : List α) :
    ∃ dropped, (∀ a ∈ dropped, drops a = true) ∧ items = dropEndWhile drops items ++ dropped := by
  refine ⟨(items.reverse.takeWhile drops).reverse, fun a ha => ?_, ?_⟩
  · exact List.mem_takeWhile_imp (List.mem_reverse.1 ha)
  · rw [dropEndWhile, ← List.reverse_append, List.takeWhile_append_dropWhile, List.reverse_reverse]

/-- A list without items to drop stays as it is. -/
theorem dropEndWhile_eq_self {items : List α} (h : ∀ a ∈ items, drops a = false) :
    dropEndWhile drops items = items := by
  rw [dropEndWhile_eq_rdropWhile, List.rdropWhile_eq_self_iff]
  intro hne
  rw [h _ (List.getLast_mem hne)]
  exact Bool.false_ne_true

end

variable {α : Type} [DecidableEq α]

/-- Nothing is dropped at the end of a list that does not end in the item to drop. -/
theorem dropEndWhile_beq_eq_self_iff {a : α} {items : List α} :
    dropEndWhile (· == a) items = items ↔ items.getLast? ≠ some a := by
  rw [dropEndWhile_eq_rdropWhile, List.rdropWhile_eq_self_iff]
  constructor
  · intro h hlast
    have hne : items ≠ [] := by
      rintro rfl
      cases hlast
    rw [List.getLast?_eq_some_getLast hne, Option.some.injEq] at hlast
    exact h hne (beq_iff_eq.2 hlast)
  · intro h hne hlast
    rw [List.getLast?_eq_some_getLast hne, beq_iff_eq.1 hlast] at h
    exact h rfl

theorem withoutLast_concat (last : α) (items : List α) :
    withoutLast last (items ++ [last]) = items := by
  rw [withoutLast, if_pos List.getLast?_concat, List.dropLast_concat]

/-! ## Cuts at a separator -/

theorem cutAt_cons_self (separator : α) (items : List α) :
    cutAt separator (separator :: items) = some ([], items) := by
  simp [cutAt]

/-- An item that is no separator is put in front of the cut. -/
theorem cutAt_cons_of_ne {separator a : α} (h : a ≠ separator) (items : List α) :
    cutAt separator (a :: items) =
      (cutAt separator items).map fun (front, rest) => (a :: front, rest) := by
  have hne : (a != separator) = true := by simpa using h
  simp only [cutAt, List.dropWhile_cons, List.takeWhile_cons, hne, if_true]
  split <;> rfl

/-- A list is cut at the first separator that it has. -/
theorem cutAt_append_cons {separator : α} {front : List α} (h : separator ∉ front)
    (rest : List α) : cutAt separator (front ++ separator :: rest) = some (front, rest) := by
  induction front with
  | nil => exact cutAt_cons_self separator rest
  | cons a front ih =>
    have ha : a ≠ separator := fun heq => h (heq ▸ List.mem_cons_self)
    have hfront : separator ∉ front := fun hmem => h (List.mem_cons_of_mem a hmem)
    rw [List.cons_append, cutAt_cons_of_ne ha, ih hfront]
    rfl

/-- A list has one part before its first separator and one behind it. -/
theorem append_cons_inj {separator : α} {front front' rest rest' : List α}
    (h : separator ∉ front) (h' : separator ∉ front') :
    front ++ separator :: rest = front' ++ separator :: rest' ↔ front = front' ∧ rest = rest' := by
  constructor
  · intro heq
    have hcut := cutAt_append_cons h rest
    rw [heq, cutAt_append_cons h' rest', Option.some.injEq, Prod.mk.injEq] at hcut
    exact ⟨hcut.1.symm, hcut.2.symm⟩
  · rintro ⟨rfl, rfl⟩
    rfl

/-- The parts of a cut, put together again. -/
theorem cutAt_eq_some_iff {separator : α} {items front rest : List α} :
    cutAt separator items = some (front, rest) ↔
      items = front ++ separator :: rest ∧ separator ∉ front := by
  constructor
  · intro h
    induction items generalizing front with
    | nil => simp [cutAt] at h
    | cons a items ih =>
      by_cases ha : a = separator
      · subst ha
        rw [cutAt_cons_self] at h
        cases h
        simp
      · rw [cutAt_cons_of_ne ha, Option.map_eq_some_iff] at h
        rcases h with ⟨⟨inner, tail⟩, hcut, heq⟩
        cases heq
        obtain ⟨hitems, hnot⟩ := ih hcut
        exact ⟨by rw [hitems, List.cons_append], by simp [hnot, Ne.symm ha]⟩
  · rintro ⟨rfl, h⟩
    exact cutAt_append_cons h rest

/-- A list that has the separator is cut. -/
theorem isSome_cutAt_iff {separator : α} {items : List α} :
    (cutAt separator items).isSome = true ↔ separator ∈ items := by
  constructor
  · intro h
    obtain ⟨⟨front, rest⟩, hcut⟩ := Option.isSome_iff_exists.1 h
    rw [(cutAt_eq_some_iff.1 hcut).1]
    exact List.mem_append_right front List.mem_cons_self
  · intro h
    obtain ⟨front, rest, rfl, hfront⟩ := List.eq_append_cons_of_mem h
    rw [cutAt_append_cons hfront rest]
    rfl

/-- A list without the separator is not cut. -/
theorem cutAt_eq_none_iff {separator : α} {items : List α} :
    cutAt separator items = none ↔ separator ∉ items := by
  rw [← isSome_cutAt_iff, Option.not_isSome_iff_eq_none]

/-- More items at the end do not move a cut. -/
theorem cutAt_append {separator : α} {items front rest : List α}
    (h : cutAt separator items = some (front, rest)) (more : List α) :
    cutAt separator (items ++ more) = some (front, rest ++ more) := by
  obtain ⟨rfl, hfront⟩ := cutAt_eq_some_iff.1 h
  rw [List.append_assoc, List.cons_append]
  exact cutAt_append_cons hfront (rest ++ more)

/-! ## Occurrences of one list in another -/

/-- A cut at an occurrence leaves what is before and after it. -/
theorem eq_append_of_cutAtList {needle items front rest : List α}
    (h : cutAtList needle items = some (front, rest)) : items = front ++ needle ++ rest := by
  induction items generalizing front with
  | nil =>
    obtain ⟨tail, htail, heq⟩ := Option.map_eq_some_iff.1 h
    cases heq
    simpa using (List.append_eq_of_isPrefixOf?_eq_some htail).symm
  | cons a items ih =>
    rw [cutAtList] at h
    split at h
    · rename_i tail htail
      cases h
      simpa using (List.append_eq_of_isPrefixOf?_eq_some htail).symm
    · obtain ⟨⟨inner, tail⟩, hcut, heq⟩ := Option.map_eq_some_iff.1 h
      cases heq
      rw [ih hcut]
      simp

/-- A list that occurs in another one is found there. -/
theorem isSome_cutAtList {needle : List α} (front rest : List α) :
    (cutAtList needle (front ++ needle ++ rest)).isSome := by
  have hfront (tail : List α) : needle.isPrefixOf? (needle ++ tail) = some tail :=
    List.isPrefixOf?_eq_some_iff_append_eq.2 rfl
  induction front with
  | nil =>
    rw [List.nil_append]
    cases hitems : needle ++ rest with
    | nil => rw [cutAtList, ← hitems, hfront]; rfl
    | cons a items => rw [cutAtList, ← hitems, hfront]; rfl
  | cons a front ih =>
    rw [List.cons_append, List.cons_append, cutAtList]
    split
    · rfl
    · rw [Option.isSome_map]
      exact ih

/-- A list is contained in another one exactly when it is an infix of it. -/
theorem contains_eq_true_iff {needle items : List α} :
    contains needle items = true ↔ needle <:+: items := by
  constructor
  · intro h
    obtain ⟨⟨front, rest⟩, hcut⟩ := Option.isSome_iff_exists.1 h
    exact ⟨front, rest, (eq_append_of_cutAtList hcut).symm⟩
  · rintro ⟨front, rest, rfl⟩
    exact isSome_cutAtList front rest

/-! ## Folds that may fail -/

section

variable {α β ε : Type} {step : β → α → Except ε β} {before after : β} {front rest : List α}

/-- A fold that gets through a list gets through its first item, and from there through the rest. -/
theorem exists_foldlM_cons {a : α} (h : (a :: rest).foldlM step before = .ok after) :
    ∃ between, step before a = .ok between ∧ rest.foldlM step between = .ok after := by
  rw [List.foldlM_cons] at h
  cases ha : step before a with
  | error fault =>
    rw [ha] at h
    cases h
  | ok between =>
    rw [ha] at h
    exact ⟨between, rfl, h⟩

/-- A fold that gets through a list gets through its front, and from there through the rest. -/
theorem exists_foldlM_append (h : (front ++ rest).foldlM step before = .ok after) :
    ∃ between, front.foldlM step before = .ok between ∧ rest.foldlM step between = .ok after := by
  rw [List.foldlM_append] at h
  cases hfront : front.foldlM step before with
  | error fault =>
    rw [hfront] at h
    cases h
  | ok between =>
    rw [hfront] at h
    exact ⟨between, rfl, h⟩

end

end HttpConformance
