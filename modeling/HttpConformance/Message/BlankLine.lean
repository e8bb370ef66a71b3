import HttpConformance.Text.Basic

/-!
# The blank line after a head

The head of a message ends at the first blank line, which is two line breaks in a row: both CR LF,
or both a bare LF. The same rule serves the bytes of a response and the text of a request, so it is
stated for lists of any kind of unit.

Main definitions: `Parted`, `partAtBlankLine?`.

Main result: `length_lt_of_partAtBlankLine?`, that what follows the blank line is shorter.
-/

namespace HttpConformance

/-- A message parted at its blank line: what comes before it, how many units it has, and what comes
after it. -/
structure Parted (α : Type) where
  head : List α
  gap : Nat
  body : List α
  deriving DecidableEq, Repr

section

variable {α : Type} [DecidableEq α]

/-- The length of the blank line at the front of a message, and what follows it. -/
def blankLine? (cr lf : α) (message : List α) : Option (Nat × List α) :=
  match [cr, lf, cr, lf].isPrefixOf? message with
  | some rest => some (4, rest)
  | none => ([lf, lf].isPrefixOf? message).map (2, ·)

/-- A message parted at its first blank line. -/
def partAtBlankLine? (cr lf : α) : List α → Option (Parted α)
  | [] => none
  | a :: rest =>
    match blankLine? cr lf (a :: rest) with
    | some (gap, body) => some ⟨[], gap, body⟩
    | none =>
      (partAtBlankLine? cr lf rest).map fun parted => { parted with head := a :: parted.head }

theorem eq_append_of_isPrefixOf? {front items rest : List α}
    (h : front.isPrefixOf? items = some rest) : items = front ++ rest := by
  induction front generalizing items with
  | nil => exact Option.some.inj h
  | cons a front ih =>
    cases items with
    | nil =>
      replace h : none = some rest := h
      exact absurd h (by simp)
    | cons b items =>
      replace h : (if a == b then front.isPrefixOf? items else none) = some rest := h
      split at h
      · rename_i hab
        rw [ih h, eq_of_beq hab, List.cons_append]
      · exact absurd h (by simp)

theorem length_lt_of_blankLine? {cr lf : α} {message rest : List α} {gap : Nat}
    (h : blankLine? cr lf message = some (gap, rest)) : rest.length < message.length := by
  unfold blankLine? at h
  split at h
  · rename_i tail hfront
    have heq := eq_append_of_isPrefixOf? hfront
    simp only [Option.some.injEq, Prod.mk.injEq] at h
    rw [heq, ← h.2]
    simp only [List.length_append, List.length_cons, List.length_nil]
    omega
  · obtain ⟨tail, hfront, heq⟩ := Option.map_eq_some_iff.1 h
    rw [eq_append_of_isPrefixOf? hfront, ← (Prod.mk.inj heq).2]
    simp only [List.length_append, List.length_cons, List.length_nil]
    omega

/-- What follows the blank line is shorter than the message. -/
theorem length_lt_of_partAtBlankLine? {cr lf : α} {message : List α} {parted : Parted α}
    (h : partAtBlankLine? cr lf message = some parted) :
    parted.body.length < message.length := by
  induction message generalizing parted with
  | nil => simp [partAtBlankLine?] at h
  | cons a rest ih =>
    simp only [partAtBlankLine?] at h
    split at h
    · rename_i gap body hblank
      rw [← Option.some.inj h]
      exact length_lt_of_blankLine? hblank
    · obtain ⟨inner, hinner, heq⟩ := Option.map_eq_some_iff.1 h
      subst heq
      have hbody : inner.body.length < rest.length := ih hinner
      exact Nat.lt_succ_of_lt hbody

end

end HttpConformance
