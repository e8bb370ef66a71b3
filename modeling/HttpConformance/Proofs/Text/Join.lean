import HttpConformance.Text.Basic
import Mathlib.Data.List.Basic

/-!
# Joined texts

A text put together from parts, seen from its first part, and lists of parts with others that do not
count put in between.

Main definition: `IsPadded`.

Main results:

- `join_cons`: the first part, and the others with a separator before each.
- `join_modifyHead`: a text in front of the first part is in front of the whole.
- `infix_join_of_mem`, `infix_of_mem_splitOn`: a part occurs in the whole.
- `exists_mem_of_mem_join`: a character of the whole is a character of a part.
- `IsPadded.foldl_eq`, `IsPadded.filter_eq`: fillers that change nothing, and fillers that are
  dropped.
-/

namespace HttpConformance

/-! ## Joined parts -/

/-- Joined parts are the first one and then the others, each behind a separator. -/
theorem join_cons (separator front : Text) (parts : List Text) :
    Text.join separator (front :: parts) = front ++ parts.flatMap (separator ++ ·) := by
  unfold Text.join
  induction parts generalizing front with
  | nil => rw [List.intercalate_singleton, List.flatMap_nil, List.append_nil]
  | cons part parts ih =>
    rw [List.intercalate_cons_cons, ih, List.flatMap_cons]
    simp only [List.append_assoc]

/-- A text in front of the first part is in front of the whole. -/
theorem join_modifyHead (separator front : Text) {parts : List Text} (h : parts ≠ []) :
    Text.join separator (parts.modifyHead (front ++ ·)) = front ++ Text.join separator parts := by
  obtain ⟨part, parts, rfl⟩ := List.exists_cons_of_ne_nil h
  rw [List.modifyHead_cons, join_cons, join_cons, List.append_assoc]

/-- An empty first part leaves its separator in front of the others. -/
theorem join_nil_cons (separator : Text) {parts : List Text} (h : parts ≠ []) :
    Text.join separator ([] :: parts) = separator ++ Text.join separator parts := by
  obtain ⟨part, parts, rfl⟩ := List.exists_cons_of_ne_nil h
  rw [join_cons, join_cons, List.nil_append, List.flatMap_cons, List.append_assoc]

/-- A part that is not the last one has a separator behind it. -/
theorem join_cons_of_ne_nil (separator front : Text) {parts : List Text} (h : parts ≠ []) :
    Text.join separator (front :: parts) = front ++ (separator ++ Text.join separator parts) := by
  rw [Text.join, List.intercalate_cons_of_ne_nil h, List.append_assoc]
  rfl

/-- A part occurs in the whole. -/
theorem infix_join_of_mem (separator : Text) {parts : List Text} {part : Text} (h : part ∈ parts) :
    part <:+: Text.join separator parts := by
  induction parts with
  | nil => exact absurd h List.not_mem_nil
  | cons front parts ih =>
    rcases List.mem_cons.1 h with rfl | hrest
    · rw [join_cons]
      exact (List.prefix_append _ _).isInfix
    · rw [join_cons_of_ne_nil separator front (List.ne_nil_of_mem hrest), ← List.append_assoc]
      exact (ih hrest).trans (List.suffix_append _ _).isInfix

/-- A piece of a text that is split occurs in it. -/
theorem infix_of_mem_splitOn {separator : Char} {text piece : Text}
    (h : piece ∈ text.splitOn separator) : piece <:+: text := by
  have hjoined := infix_join_of_mem [separator] h
  rwa [Text.join, List.intercalate_splitOn] at hjoined

/-- A character that is no separator is a character of a part. -/
theorem exists_mem_of_mem_join {separator : Text} {parts : List Text} {c : Char}
    (hc : c ∉ separator) (h : c ∈ Text.join separator parts) : ∃ part ∈ parts, c ∈ part := by
  cases parts with
  | nil => cases h
  | cons part parts =>
    rw [join_cons, List.mem_append] at h
    rcases h with hfirst | hlater
    · exact ⟨part, List.mem_cons_self, hfirst⟩
    · obtain ⟨other, hother, hmem⟩ := List.mem_flatMap.1 hlater
      exact ⟨other, List.mem_cons_of_mem part hother, (List.mem_append.1 hmem).resolve_left hc⟩

/-! ## Padded lists -/

/-- The second list has the items of the first one in their order, with any number of fillers
before, between and behind them. -/
inductive IsPadded {α : Type} (IsFiller : α → Prop) : List α → List α → Prop where
  | nil : IsPadded IsFiller [] []
  | item (a : α) {items padded : List α} (hrest : IsPadded IsFiller items padded) :
      IsPadded IsFiller (a :: items) (a :: padded)
  | filler {a : α} {items padded : List α} (ha : IsFiller a)
      (hrest : IsPadded IsFiller items padded) : IsPadded IsFiller items (a :: padded)

namespace IsPadded

variable {α β : Type} {IsFiller : α → Prop} {items padded : List α}

/-- A padded list has nothing but items and fillers. -/
theorem mem_or (h : IsPadded IsFiller items padded) : ∀ a ∈ padded, a ∈ items ∨ IsFiller a := by
  induction h with
  | nil => exact fun a ha => absurd ha List.not_mem_nil
  | item a hrest ih =>
    rw [List.forall_mem_cons]
    refine ⟨Or.inl List.mem_cons_self, fun b hb => ?_⟩
    exact (ih b hb).imp_left (List.mem_cons_of_mem a)
  | filler ha hrest ih => exact List.forall_mem_cons.2 ⟨Or.inr ha, ih⟩

/-- Fillers that change nothing do not count. -/
theorem foldl_eq (h : IsPadded IsFiller items padded) {step : β → α → β}
    (hfiller : ∀ a, IsFiller a → ∀ b, step b a = b) (b : β) :
    padded.foldl step b = items.foldl step b := by
  induction h generalizing b with
  | nil => rfl
  | item a hrest ih => rw [List.foldl_cons, List.foldl_cons, ih]
  | filler ha hrest ih => rw [List.foldl_cons, hfiller _ ha, ih]

/-- The items are left when the fillers are dropped. -/
theorem filter_eq (h : IsPadded IsFiller items padded) {keeps : α → Bool}
    (hitem : ∀ a ∈ items, keeps a = true) (hfiller : ∀ a, IsFiller a → keeps a = false) :
    padded.filter keeps = items := by
  induction h with
  | nil => rfl
  | item a hrest ih =>
    rw [List.forall_mem_cons] at hitem
    rw [List.filter_cons_of_pos hitem.1, ih hitem.2]
  | filler ha hrest ih => rw [List.filter_cons_of_neg (by simp [hfiller _ ha]), ih hitem]

end IsPadded

end HttpConformance
