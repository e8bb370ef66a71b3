import HttpConformance.Proofs.Message.StatusLine
import HttpConformance.Proofs.Text.Utf8

/-!
# Heads line by line

A head put together from its lines, with one kind of line break throughout, and taken apart again.
The blank line behind the head is the first one of the message because no line is empty, and the
lines are as they were because none of them ends with a CR of its own.

Main definitions: `LineBreak`, `IsHeadLine`, `IsLineText`.

Main results:

- `IsLineText.isHeadLine_encode`: the bytes of a line of text are a line of a head.
- `partMessage?_headOfLines`: a message is parted behind the last line of its head.
- `linesOf_headOfLines`: the lines of a head.
-/

namespace HttpConformance

/-- What ends every line of a head. -/
inductive LineBreak where
  | crlf
  | bare
  deriving DecidableEq, Repr

namespace LineBreak

/-- The bytes of a line break. -/
def bytes : LineBreak → Bytes
  | .crlf => [cr, lf]
  | .bare => [lf]

/-- Two line breaks in a row are a blank line. -/
theorem isGap_bytes (lineBreak : LineBreak) : IsGap cr lf (lineBreak.bytes ++ lineBreak.bytes) := by
  cases lineBreak
  · exact Or.inl rfl
  · exact Or.inr rfl

/-- A line break is a line feed, perhaps behind a CR. -/
theorem bytes_eq (lineBreak : LineBreak) :
    ∃ front, lineBreak.bytes = front ++ [lf] ∧ (front = [] ∨ front = [cr]) := by
  cases lineBreak
  · exact ⟨[cr], rfl, Or.inr rfl⟩
  · exact ⟨[], rfl, Or.inl rfl⟩

end LineBreak

/-! ## Lines -/

/-- A line of a head, without its line break. -/
structure IsHeadLine (line : Bytes) : Prop where
  ne_nil : line ≠ []
  lf_notMem : lf ∉ line
  head_ne_cr : line.head? ≠ some cr
  last_ne_cr : line.getLast? ≠ some cr

/-- The text of a line: not empty, without a line feed and with no CR at its ends. -/
structure IsLineText (text : Text) : Prop where
  ne_nil : text ≠ []
  lf_notMem : '\n' ∉ text
  head_ne_cr : text.head? ≠ some '\r'
  last_ne_cr : text.getLast? ≠ some '\r'

/-- The bytes of a line of text are a line of a head. -/
theorem IsLineText.isHeadLine_encode {text : Text} (h : IsLineText text) :
    IsHeadLine (Utf8.encode text) where
  ne_nil := Utf8.encode_ne_nil h.ne_nil
  lf_notMem := fun hmem => h.lf_notMem (Utf8.mem_of_mem_encode (by decide) hmem)
  head_ne_cr := fun hhead => h.head_ne_cr (Utf8.head?_of_head?_encode (by decide) hhead)
  last_ne_cr := fun hlast => h.last_ne_cr (Utf8.getLast?_of_getLast?_encode (by decide) hlast)

/-- A line is read without the CR of its line break. -/
theorem IsHeadLine.withoutLast_append {line front : Bytes} (h : IsHeadLine line)
    (hfront : front = [] ∨ front = [cr]) : withoutLast cr (line ++ front) = line := by
  rcases hfront with rfl | rfl
  · rw [List.append_nil, withoutLast, if_neg h.last_ne_cr]
  · exact withoutLast_concat cr line

/-- A line with a CR behind it has no LF. -/
theorem IsHeadLine.lf_notMem_append {line front : Bytes} (h : IsHeadLine line)
    (hfront : front = [] ∨ front = [cr]) : lf ∉ line ++ front := by
  rw [List.mem_append, not_or]
  refine ⟨h.lf_notMem, ?_⟩
  rcases hfront with rfl | rfl <;> decide

/-- A word is a line of text. -/
theorem isLineText_of_not_isBlank {text : Text} (hne : text ≠ [])
    (h : ∀ c ∈ text, Text.isBlank c = false) : IsLineText text where
  ne_nil := hne
  lf_notMem := fun hmem => absurd (h '\n' hmem) (by decide)
  head_ne_cr := fun hhead => absurd (h '\r' (List.mem_of_head? hhead)) (by decide)
  last_ne_cr := fun hlast => absurd (h '\r' (List.mem_of_getLast? hlast)) (by decide)

/-! ## Heads -/

/-- The lines of a head with a line break between neighbours. -/
def headOfLines (lineBreak : LineBreak) (lines : List Bytes) : Bytes :=
  lineBreak.bytes.intercalate lines

@[simp]
theorem headOfLines_singleton (lineBreak : LineBreak) (line : Bytes) :
    headOfLines lineBreak [line] = line :=
  List.intercalate_singleton

@[simp]
theorem headOfLines_cons_cons (lineBreak : LineBreak) (line next : Bytes) (lines : List Bytes) :
    headOfLines lineBreak (line :: next :: lines) =
      line ++ lineBreak.bytes ++ headOfLines lineBreak (next :: lines) :=
  List.intercalate_cons_cons

/-- A head begins with the character that its first line begins with. -/
theorem head?_headOfLines (lineBreak : LineBreak) {line : Bytes} (h : line ≠ [])
    (lines : List Bytes) (rest : Bytes) :
    (headOfLines lineBreak (line :: lines) ++ rest).head? = line.head? := by
  obtain ⟨b, tail, rfl⟩ := List.exists_cons_of_ne_nil h
  cases lines with
  | nil => rw [headOfLines_singleton, List.cons_append]; rfl
  | cons next lines => rw [headOfLines_cons_cons]; rfl

/-- A message is parted behind the last line of its head. -/
theorem partMessage?_headOfLines (lineBreak : LineBreak) {lines : List Bytes} (hne : lines ≠ [])
    (h : ∀ line ∈ lines, IsHeadLine line) (after : Bytes) :
    partMessage? (headOfLines lineBreak lines ++ (lineBreak.bytes ++ lineBreak.bytes ++ after)) =
      some ⟨headOfLines lineBreak lines, (lineBreak.bytes ++ lineBreak.bytes).length, after⟩ := by
  induction lines with
  | nil => exact absurd rfl hne
  | cons line lines ih =>
    have hline := h line List.mem_cons_self
    cases lines with
    | nil =>
      rw [headOfLines_singleton]
      exact partAtBlankLine?_append_gap (by decide) hline.lf_notMem lineBreak.isGap_bytes after
    | cons next lines =>
      have hnext := h next (List.mem_cons_of_mem line List.mem_cons_self)
      have hrest := ih (List.cons_ne_nil next lines) fun line hmem =>
        h line (List.mem_cons_of_mem _ hmem)
      rw [headOfLines_cons_cons]
      generalize hafter : lineBreak.bytes ++ lineBreak.bytes ++ after = gapAndBody at hrest ⊢
      have hhead := head?_headOfLines lineBreak hnext.ne_nil lines gapAndBody
      obtain ⟨front, hbreak, hfront⟩ := lineBreak.bytes_eq
      -- The CR of the line break counts as the end of the line here.
      have hlf := hline.lf_notMem_append hfront
      have hcrNext : (headOfLines lineBreak (next :: lines) ++ gapAndBody).head? ≠ some cr := by
        rw [hhead]
        exact hnext.head_ne_cr
      have hlfNext : (headOfLines lineBreak (next :: lines) ++ gapAndBody).head? ≠ some lf := by
        rw [hhead]
        exact fun hsome => hnext.lf_notMem (List.mem_of_head? hsome)
      have hshape : line ++ lineBreak.bytes ++ headOfLines lineBreak (next :: lines) ++ gapAndBody =
          (line ++ front) ++ lf :: (headOfLines lineBreak (next :: lines) ++ gapAndBody) := by
        rw [hbreak]
        simp only [List.append_assoc, List.cons_append, List.nil_append]
      rw [hshape, partMessage?, partAtBlankLine?_line (by decide) hlf (fun _ => hcrNext) hlfNext,
        ← partMessage?, hrest, hbreak]
      simp only [Option.map_some, List.append_assoc, List.singleton_append]

/-! ## The lines of a head -/

theorem linesOf_of_lf_notMem {line : Bytes} (h : lf ∉ line) :
    linesOf line = [withoutLast cr line] := by
  have hall : ∀ b ∈ line, (b == lf) = false := by
    intro b hb
    rw [beq_eq_false_iff_ne]
    rintro rfl
    exact h hb
  rw [linesOf, List.splitOn, List.splitOnP_eq_singleton hall]
  rfl

theorem linesOf_append_lf {line : Bytes} (h : lf ∉ line) (rest : Bytes) :
    linesOf (line ++ lf :: rest) = withoutLast cr line :: linesOf rest := by
  have hsplit : (line ++ lf :: rest).splitOn lf = line.splitOn lf ++ rest.splitOn lf :=
    List.splitOnP_append_cons line rest (by decide)
  rw [linesOf, hsplit, List.map_append, ← linesOf, ← linesOf, linesOf_of_lf_notMem h]
  rfl

/-- A line is read without its line break. -/
theorem IsHeadLine.linesOf_append {line : Bytes} (h : IsHeadLine line) (lineBreak : LineBreak)
    (rest : Bytes) : linesOf (line ++ lineBreak.bytes ++ rest) = line :: linesOf rest := by
  obtain ⟨front, hbreak, hfront⟩ := lineBreak.bytes_eq
  have hshape : line ++ lineBreak.bytes ++ rest = (line ++ front) ++ lf :: rest := by
    rw [hbreak]
    simp only [List.append_assoc, List.cons_append, List.nil_append]
  rw [hshape, linesOf_append_lf (h.lf_notMem_append hfront), h.withoutLast_append hfront]

/-- The lines of a head are those that it was put together from. -/
theorem linesOf_headOfLines (lineBreak : LineBreak) {lines : List Bytes} (hne : lines ≠ [])
    (h : ∀ line ∈ lines, IsHeadLine line) : linesOf (headOfLines lineBreak lines) = lines := by
  induction lines with
  | nil => exact absurd rfl hne
  | cons line lines ih =>
    have hline := h line List.mem_cons_self
    cases lines with
    | nil =>
      have hwhole : withoutLast cr (line ++ []) = line := hline.withoutLast_append (Or.inl rfl)
      rw [List.append_nil] at hwhole
      rw [headOfLines_singleton, linesOf_of_lf_notMem hline.lf_notMem, hwhole]
    | cons next lines =>
      have hrest := ih (List.cons_ne_nil next lines) fun line hmem =>
        h line (List.mem_cons_of_mem _ hmem)
      rw [headOfLines_cons_cons, hline.linesOf_append, hrest]

end HttpConformance
