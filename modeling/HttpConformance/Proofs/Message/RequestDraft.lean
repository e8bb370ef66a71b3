import HttpConformance.Proofs.Message.HeadLines
import HttpConformance.Proofs.Message.RequestText

/-!
# Drafts of requests

A draft is a request text before it is written: every line of the head, and the blank line as well,
comes with a line break of its own choice.  The reader looks for the blank line as two equal line
breaks in a row.  It finds CR LF and a bare line feed too, where the CR counts as the end of the
last line, but not a bare line feed and CR LF; a body behind these is read as more lines of the
head.

Main definitions: `WrittenLine`, `RequestDraft`, `RequestDraft.IsWritable`,
`RequestDraft.HidesBody`.

Main results:

- `RequestText.ofText_written_append`, `RequestText.ofText_lines_append`: the parts of a text that
  begins with a line, and with more lines.
- `RequestDraft.ofText_text`, `RequestDraft.ofText_of_hidesBody`: the parts that a draft is read as.
- `RequestText.eq_of_sent_eq`: parts that are sent alike are equal.
- `RequestDraft.wire_eq_sent_iff`: a draft is sent as written unless it hides its body.
-/

namespace HttpConformance

/-! ## Lines -/

/-- The characters of a line break. -/
def LineBreak.chars : LineBreak → Text
  | .crlf => ['\r', '\n']
  | .bare => ['\n']

/-- Two line breaks in a row are a blank line, perhaps behind the CR of a line, but for a line feed
before CR LF. -/
theorem LineBreak.exists_gap {last blank : LineBreak} (h : ¬ (last = .bare ∧ blank = .crlf)) :
    ∃ front gap, (front = [] ∨ front = ['\r']) ∧ IsGap '\r' '\n' gap ∧
      last.chars ++ blank.chars = front ++ gap := by
  cases last <;> cases blank
  · exact ⟨[], ['\r', '\n', '\r', '\n'], Or.inl rfl, Or.inl rfl, rfl⟩
  · exact ⟨['\r'], ['\n', '\n'], Or.inr rfl, Or.inr rfl, rfl⟩
  · exact absurd ⟨rfl, rfl⟩ h
  · exact ⟨[], ['\n', '\n'], Or.inl rfl, Or.inr rfl, rfl⟩

theorem LineBreak.isBreak_of_mem_chars {lineBreak : LineBreak} :
    ∀ c ∈ lineBreak.chars, Request.isBreak c = true := by
  rw [← List.all_eq_true]
  cases lineBreak <;> rfl

/-- A line of a request text, and the line break behind it. -/
structure WrittenLine where
  text : Text
  lineBreak : LineBreak
  deriving DecidableEq, Repr

namespace WrittenLine

/-- What is written for the line. -/
def written (line : WrittenLine) : Text :=
  line.text ++ line.lineBreak.chars

/-- The line is not empty, and its only line break is the one behind it. -/
structure IsWritable (line : WrittenLine) : Prop where
  ne_nil : line.text ≠ []
  cr_notMem : '\r' ∉ line.text
  lf_notMem : '\n' ∉ line.text

instance (line : WrittenLine) : Decidable line.IsWritable :=
  decidable_of_iff (line.text ≠ [] ∧ '\r' ∉ line.text ∧ '\n' ∉ line.text)
    ⟨fun ⟨hne, hcr, hlf⟩ => ⟨hne, hcr, hlf⟩, fun h => ⟨h.ne_nil, h.cr_notMem, h.lf_notMem⟩⟩

variable {line : WrittenLine}

/-- A line has no line breaks. -/
theorem IsWritable.isBreak_eq_false (h : line.IsWritable) :
    ∀ c ∈ line.text, Request.isBreak c = false := by
  intro c hc
  rw [Request.isBreak, Bool.or_eq_false_iff, beq_eq_false_iff_ne, beq_eq_false_iff_ne]
  exact ⟨ne_of_mem_of_not_mem hc h.cr_notMem, ne_of_mem_of_not_mem hc h.lf_notMem⟩

/-- A line with the CR of its line break is read without it. -/
theorem IsWritable.withoutLast_append (h : line.IsWritable) {front : Text}
    (hfront : front = [] ∨ front = ['\r']) :
    '\n' ∉ line.text ++ front ∧ withoutLast '\r' (line.text ++ front) = line.text := by
  rcases hfront with rfl | rfl
  · rw [List.append_nil, withoutLast, if_neg fun hlast => h.cr_notMem (List.mem_of_getLast? hlast)]
    exact ⟨h.lf_notMem, rfl⟩
  · rw [withoutLast_concat, List.mem_append, not_or]
    exact ⟨⟨h.lf_notMem, by decide⟩, rfl⟩

/-- A line ends at its line feed, and only the CR of its line break is in front of this. -/
theorem exists_written_append (line : WrittenLine) :
    ∃ front, (front = [] ∨ front = ['\r']) ∧ (front = [] ∨ line.lineBreak = .crlf) ∧
      ∀ rest, line.written ++ rest = (line.text ++ front) ++ '\n' :: rest := by
  obtain ⟨text, lineBreak⟩ := line
  cases lineBreak with
  | crlf => exact ⟨['\r'], Or.inr rfl, Or.inr rfl, fun rest => by simp [written, LineBreak.chars]⟩
  | bare => exact ⟨[], Or.inl rfl, Or.inl rfl, fun rest => by simp [written, LineBreak.chars]⟩

end WrittenLine

/-! ## Lines of a head -/

namespace Request

theorem headLines_ne_nil (head : Text) : headLines head ≠ [] := by
  rw [headLines, Ne, List.map_eq_nil_iff]
  exact List.splitOn_ne_nil '\n' head

theorem headLines_append_lf {line : Text} (h : '\n' ∉ line) (rest : Text) :
    headLines (line ++ '\n' :: rest) = withoutLast '\r' line :: headLines rest := by
  rw [headLines, List.splitOn_append_cons_self_of_not_mem h, List.map_cons, ← headLines]

theorem headLines_of_lf_notMem {line : Text} (h : '\n' ∉ line) :
    headLines line = [withoutLast '\r' line] := by
  rw [headLines, List.splitOn_eq_singleton h, List.map_singleton]

/-- The first line of a head is read without its line break. -/
theorem headLines_written_append {line : WrittenLine} (h : line.IsWritable) (rest : Text) :
    headLines (line.written ++ rest) = line.text :: headLines rest := by
  obtain ⟨front, hfront, -, hshape⟩ := line.exists_written_append
  obtain ⟨hlf, hline⟩ := h.withoutLast_append hfront
  rw [hshape, headLines_append_lf hlf, hline]

theorem partText_of_some {text : Text} {parted : Parted Char}
    (h : partAtBlankLine? '\r' '\n' text = some parted) :
    partText text = (parted.head, parted.body) := by
  rw [partText, h]

theorem partText_of_none {text : Text} (h : partAtBlankLine? '\r' '\n' text = none) :
    partText text = (dropEndWhile isBreak text, []) := by
  rw [partText, h]

/-- The first blank line of a text is that of what follows its first line.  What follows may begin
with a CR if there is none in front of the line feed. -/
theorem partAtBlankLine?_written_append {line : WrittenLine} (h : line.IsWritable) {rest : Text}
    (hcr : line.lineBreak = .crlf → rest.head? ≠ some '\r') (hlf : rest.head? ≠ some '\n') :
    partAtBlankLine? '\r' '\n' (line.written ++ rest) =
      (partAtBlankLine? '\r' '\n' rest).map fun parted =>
        { parted with head := line.written ++ parted.head } := by
  obtain ⟨front, hfront, hbreak, hshape⟩ := line.exists_written_append
  have hcr' (hmem : '\r' ∈ line.text ++ front) : rest.head? ≠ some '\r' := by
    rcases hbreak with rfl | hcrlf
    · rw [List.append_nil] at hmem
      exact absurd hmem h.cr_notMem
    · exact hcr hcrlf
  rw [hshape, partAtBlankLine?_line (by decide) (h.withoutLast_append hfront).1 hcr' hlf]
  simp only [hshape]

/-- A line in front of a text that does not begin with a line break belongs to its head. -/
theorem partText_written_append {line : WrittenLine} (h : line.IsWritable) {c : Char} {rest : Text}
    (hc : isBreak c = false) :
    partText (line.written ++ c :: rest) =
      (line.written ++ (partText (c :: rest)).1, (partText (c :: rest)).2) := by
  have hvisible := hc
  rw [isBreak, Bool.or_eq_false_iff, beq_eq_false_iff_ne, beq_eq_false_iff_ne] at hvisible
  have hparted : partAtBlankLine? '\r' '\n' (line.written ++ c :: rest) =
      (partAtBlankLine? '\r' '\n' (c :: rest)).map fun parted =>
        { parted with head := line.written ++ parted.head } :=
    partAtBlankLine?_written_append h (fun _ hcr => hvisible.1 (Option.some.inj hcr))
      fun hlf => hvisible.2 (Option.some.inj hlf)
  cases hrest : partAtBlankLine? '\r' '\n' (c :: rest) with
  | some parted =>
    rw [hrest, Option.map_some] at hparted
    rw [partText_of_some hparted, partText_of_some hrest]
  | none =>
    rw [hrest, Option.map_none] at hparted
    have hkept : ∃ a ∈ c :: rest, isBreak a = false := ⟨c, List.mem_cons_self, hc⟩
    rw [partText_of_none hparted, partText_of_none hrest, dropEndWhile_append_of_exists hkept]

/-! ## The last line -/

/-- A blank line behind a line is found, and a CR in front of it is at the end of the line. -/
theorem partText_blank {line : WrittenLine} (h : line.IsWritable) {blank : LineBreak}
    (hgap : ¬ (line.lineBreak = .bare ∧ blank = .crlf)) (body : Text) :
    ∃ front, (front = [] ∨ front = ['\r']) ∧
      partText (line.written ++ (blank.chars ++ body)) = (line.text ++ front, body) := by
  obtain ⟨front, gap, hfront, hisGap, hbreaks⟩ := LineBreak.exists_gap hgap
  have hshape : line.written ++ (blank.chars ++ body) = line.text ++ front ++ (gap ++ body) := by
    rw [WrittenLine.written, List.append_assoc, ← List.append_assoc line.lineBreak.chars, hbreaks]
    simp only [List.append_assoc]
  have hlf := (h.withoutLast_append hfront).1
  refine ⟨front, hfront, ?_⟩
  rw [hshape, partText_of_some (partAtBlankLine?_append_gap (by decide) hlf hisGap body)]

/-- Line breaks at the end of a text are not read. -/
theorem partText_breaks {line : WrittenLine} (h : line.IsWritable) {breaks : Text}
    (hbreaks : ∀ c ∈ breaks, isBreak c = true)
    (hnone : partAtBlankLine? '\r' '\n' (line.written ++ breaks) = none) :
    partText (line.written ++ breaks) = (line.text, []) := by
  have hall : ∀ c ∈ line.lineBreak.chars ++ breaks, isBreak c = true := by
    intro c hc
    rcases List.mem_append.1 hc with hmem | hmem
    · exact LineBreak.isBreak_of_mem_chars c hmem
    · exact hbreaks c hmem
  rw [partText_of_none hnone, WrittenLine.written, List.append_assoc,
    dropEndWhile_append_of_forall hall, dropEndWhile_eq_self h.isBreak_eq_false]

/-- Behind CR LF at the front of a text, the body does not begin at once. -/
theorem length_partText_crlf {body : Text} (hbody : body ≠ []) :
    (partText (LineBreak.crlf.chars ++ body)).2.length < body.length := by
  cases hparted : partAtBlankLine? '\r' '\n' (LineBreak.crlf.chars ++ body) with
  | none =>
    rw [partText_of_none hparted]
    exact List.length_pos_iff.2 hbody
  | some parted =>
    obtain ⟨gap, hgap, -, hshape⟩ := eq_append_of_partAtBlankLine? (by decide) hparted
    have hlength := congrArg List.length hshape
    simp only [LineBreak.chars, List.length_append, List.length_cons, List.length_nil] at hlength
    rw [partText_of_some hparted]
    dsimp only
    rcases hgap with rfl | rfl
    · simp only [List.length_cons, List.length_nil] at hlength
      omega
    · -- The text begins with a CR, which is none of the two line feeds.
      have hhead : parted.head ≠ [] := by
        intro hnil
        rw [hnil] at hshape
        cases hshape
      have hpos := List.length_pos_iff.2 hhead
      simp only [List.length_cons, List.length_nil] at hlength
      omega

end Request

/-! ## The parts of a text -/

namespace RequestText

variable {line : WrittenLine} {text head body : Text}

/-- The parts of a text are the lines of its head and its body. -/
theorem ofText_eq {first : Text} {others : List Text} (hpart : Request.partText text = (head, body))
    (hlines : Request.headLines head = first :: others) :
    ofText text = ⟨first, others.filter (· ≠ []), body⟩ := by
  rw [ofText, hpart]
  simp only [hlines, List.headD_cons, List.tail_cons]

/-- A line in front of a text is the first line of its head. -/
theorem ofText_written_append (h : line.IsWritable) {c : Char} {rest : Text} {parts : RequestText}
    (hc : Request.isBreak c = false) (hrest : ofText (c :: rest) = parts)
    (hne : parts.line ≠ []) :
    ofText (line.written ++ c :: rest) = ⟨line.text, parts.line :: parts.others, parts.body⟩ := by
  obtain ⟨head, body, hpart⟩ : ∃ head body, Request.partText (c :: rest) = (head, body) :=
    ⟨_, _, rfl⟩
  obtain ⟨first, others, hlines⟩ := List.exists_cons_of_ne_nil (Request.headLines_ne_nil head)
  have hshape : Request.partText (line.written ++ c :: rest) = (line.written ++ head, body) := by
    rw [Request.partText_written_append h hc, hpart]
  have hwritten : Request.headLines (line.written ++ head) = line.text :: first :: others := by
    rw [Request.headLines_written_append h, hlines]
  rw [ofText_eq hpart hlines] at hrest
  subst hrest
  replace hne : first ≠ [] := hne
  have hkept : (first :: others).filter (· ≠ []) = first :: others.filter (· ≠ []) :=
    List.filter_cons_of_pos (decide_eq_true hne)
  rw [ofText_eq hshape hwritten, hkept]

/-- A body behind a blank line that is found. -/
theorem ofText_blank (h : line.IsWritable) {blank : LineBreak}
    (hgap : ¬ (line.lineBreak = .bare ∧ blank = .crlf)) (body : Text) :
    ofText (line.written ++ (blank.chars ++ body)) = ⟨line.text, [], body⟩ := by
  obtain ⟨front, hfront, hpart⟩ := Request.partText_blank h hgap body
  obtain ⟨hlf, hline⟩ := h.withoutLast_append hfront
  have hlines : Request.headLines (line.text ++ front) = [line.text] := by
    rw [Request.headLines_of_lf_notMem hlf, hline]
  exact ofText_eq hpart hlines

/-- A text that ends in line breaks, none of them a blank line that is found. -/
theorem ofText_breaks (h : line.IsWritable) {breaks : Text}
    (hbreaks : ∀ c ∈ breaks, Request.isBreak c = true)
    (hnone : partAtBlankLine? '\r' '\n' (line.written ++ breaks) = none) :
    ofText (line.written ++ breaks) = ⟨line.text, [], []⟩ := by
  have hlines : Request.headLines line.text = [line.text] := by
    obtain ⟨-, hline⟩ := h.withoutLast_append (Or.inl rfl)
    rw [List.append_nil] at hline
    rw [Request.headLines_of_lf_notMem h.lf_notMem, hline]
  exact ofText_eq (Request.partText_breaks h hbreaks hnone) hlines

/-- The first line of a text is read as such, and its body is that of what follows, unless a blank
line begins at the line feed. -/
theorem exists_ofText_written_append (h : line.IsWritable) {rest : Text}
    (hcr : line.lineBreak = .crlf → rest.head? ≠ some '\r') (hlf : rest.head? ≠ some '\n') :
    ∃ more, ofText (line.written ++ rest) = ⟨line.text, more, (Request.partText rest).2⟩ := by
  have hparted := Request.partAtBlankLine?_written_append h hcr hlf
  cases hrest : partAtBlankLine? '\r' '\n' rest with
  | some parted =>
    rw [hrest, Option.map_some] at hparted
    have hpart := Request.partText_of_some hparted
    rw [Request.partText_of_some hrest]
    exact ⟨_, ofText_eq hpart (Request.headLines_written_append h parted.head)⟩
  | none =>
    rw [hrest, Option.map_none] at hparted
    rw [Request.partText_of_none hrest]
    by_cases hall : ∀ c ∈ rest, Request.isBreak c = true
    · exact ⟨[], ofText_breaks h hall hparted⟩
    · have hkept : ∃ c ∈ rest, Request.isBreak c = false := by simpa using hall
      have hpart := Request.partText_of_none hparted
      rw [dropEndWhile_append_of_exists hkept] at hpart
      exact ⟨_, ofText_eq hpart (Request.headLines_written_append h _)⟩

/-- Behind a bare line feed the line break CR LF is not found as a blank line: only a part of the
body is read as the body. -/
theorem exists_ofText_crlf (h : line.IsWritable) (hbreak : line.lineBreak = .bare) {body : Text}
    (hbody : body ≠ []) :
    ∃ more read, ofText (line.written ++ (LineBreak.crlf.chars ++ body)) =
      ⟨line.text, more, read⟩ ∧ read.length < body.length := by
  have hcr : line.lineBreak = .crlf → (LineBreak.crlf.chars ++ body).head? ≠ some '\r' := by
    rw [hbreak]
    exact fun heq => nomatch heq
  obtain ⟨more, hparts⟩ := exists_ofText_written_append h hcr (by simp [LineBreak.chars])
  exact ⟨more, _, hparts, Request.length_partText_crlf hbody⟩

/-- The lines in front of the last one are read one by one. -/
theorem ofText_lines_append {first : WrittenLine} {others : List WrittenLine}
    (hfirst : first.IsWritable) (hothers : ∀ line ∈ others, line.IsWritable) {ending read : Text}
    {more : List Text}
    (hlast : ofText ((others.getLastD first).written ++ ending) =
      ⟨(others.getLastD first).text, more, read⟩) :
    ofText (first.written ++ (others.flatMap WrittenLine.written ++ ending)) =
      ⟨first.text, others.map WrittenLine.text ++ more, read⟩ := by
  induction others generalizing first with
  | nil => exact hlast
  | cons next others ih =>
    have hnext := hothers next List.mem_cons_self
    have hrest := ih hnext (fun line hmem => hothers line (List.mem_cons_of_mem next hmem))
      (by rwa [List.getLastD_cons] at hlast)
    obtain ⟨c, tail, htext⟩ := List.exists_cons_of_ne_nil hnext.ne_nil
    have hc := hnext.isBreak_eq_false c (htext ▸ List.mem_cons_self)
    rw [List.flatMap_cons, List.append_assoc]
    have hshape (rest : Text) :
        next.written ++ rest = c :: (tail ++ next.lineBreak.chars ++ rest) := by
      rw [WrittenLine.written, htext]
      rfl
    rw [hshape] at hrest ⊢
    rw [ofText_written_append hfirst hc hrest hnext.ne_nil, List.map_cons, List.cons_append]

/-! ## What is sent for some parts -/

/-- The lines of the parts have no line feeds, and those behind the first one are not empty. -/
structure IsLinewise (parts : RequestText) : Prop where
  lf_notMem : '\n' ∉ parts.line
  others : ∀ line ∈ parts.others, line ≠ [] ∧ '\n' ∉ line

/-- A line is cut off at its line feed. -/
theorem eq_of_append_eq {a b rest rest' : Text} (ha : '\n' ∉ a) (hb : '\n' ∉ b)
    (h : a ++ ['\r', '\n'] ++ rest = b ++ ['\r', '\n'] ++ rest') : a = b ∧ rest = rest' := by
  have hshape (line rest : Text) :
      line ++ ['\r', '\n'] ++ rest = (line ++ ['\r']) ++ '\n' :: rest := by simp
  have hout {line : Text} (hline : '\n' ∉ line) : '\n' ∉ line ++ ['\r'] := by simpa using hline
  rw [hshape, hshape, append_cons_inj (hout ha) (hout hb)] at h
  exact ⟨List.append_cancel_right h.1, h.2⟩

theorem writeLines_cons_append (line : Text) (lines : List Text) (rest : Text) :
    writeLines (line :: lines) ++ rest = line ++ ['\r', '\n'] ++ (writeLines lines ++ rest) := by
  rw [writeLines_cons, List.append_assoc]

/-- The blank line is the first line that is empty. -/
theorem eq_of_writeLines_eq {lines lines' : List Text} {body body' : Text}
    (h : ∀ line ∈ lines, line ≠ [] ∧ '\n' ∉ line) (h' : ∀ line ∈ lines', line ≠ [] ∧ '\n' ∉ line)
    (heq : writeLines lines ++ (writeLines [[]] ++ body) =
      writeLines lines' ++ (writeLines [[]] ++ body')) : lines = lines' ∧ body = body' := by
  have hnil (rest : Text) : writeLines [] ++ rest = rest := rfl
  have hblank : '\n' ∉ ([] : Text) := List.not_mem_nil
  induction lines generalizing lines' with
  | nil =>
    cases lines' with
    | nil =>
      rw [hnil, hnil, writeLines_cons_append, writeLines_cons_append] at heq
      exact ⟨rfl, (eq_of_append_eq hblank hblank heq).2⟩
    | cons line lines' =>
      have hline := h' line List.mem_cons_self
      rw [hnil, writeLines_cons_append, writeLines_cons_append] at heq
      exact absurd (eq_of_append_eq hblank hline.2 heq).1.symm hline.1
  | cons line lines ih =>
    have hline := h line List.mem_cons_self
    cases lines' with
    | nil =>
      rw [hnil, writeLines_cons_append, writeLines_cons_append] at heq
      exact absurd (eq_of_append_eq hline.2 hblank heq).1 hline.1
    | cons line' lines' =>
      have hline' := h' line' List.mem_cons_self
      rw [writeLines_cons_append line lines, writeLines_cons_append line' lines'] at heq
      obtain ⟨rfl, hrest⟩ := eq_of_append_eq hline.2 hline'.2 heq
      obtain ⟨rfl, hbody⟩ := ih (fun line hmem => h line (List.mem_cons_of_mem _ hmem))
        (fun line hmem => h' line (List.mem_cons_of_mem _ hmem)) hrest
      exact ⟨rfl, hbody⟩

/-- Parts that are sent alike are equal. -/
theorem eq_of_sent_eq {parts parts' : RequestText} (h : parts.IsLinewise) (h' : parts'.IsLinewise)
    (heq : parts.sent = parts'.sent) : parts = parts' := by
  obtain ⟨line, others, body⟩ := parts
  obtain ⟨line', others', body'⟩ := parts'
  rw [sent, sent, List.append_assoc, List.append_assoc] at heq
  dsimp only at heq
  rw [writeLines_cons_append line others, writeLines_cons_append line' others'] at heq
  obtain ⟨rfl, hrest⟩ := eq_of_append_eq h.lf_notMem h'.lf_notMem heq
  obtain ⟨rfl, rfl⟩ := eq_of_writeLines_eq h.others h'.others hrest
  rfl

/-- The lines of a head have no line feeds. -/
theorem lf_notMem_of_mem_headLines {head line : Text} (h : line ∈ Request.headLines head) :
    '\n' ∉ line := by
  rw [Request.headLines, List.mem_map] at h
  obtain ⟨piece, hpiece, rfl⟩ := h
  have hlf := notMem_of_mem_splitOn hpiece
  rw [withoutLast]
  split
  · exact fun hmem => hlf (List.mem_of_mem_dropLast hmem)
  · exact hlf

/-- The parts that a text is read as have one line each. -/
theorem isLinewise_ofText (text : Text) : (ofText text).IsLinewise := by
  obtain ⟨head, body, hpart⟩ : ∃ head body, Request.partText text = (head, body) := ⟨_, _, rfl⟩
  obtain ⟨first, others, hlines⟩ := List.exists_cons_of_ne_nil (Request.headLines_ne_nil head)
  have hlf (line : Text) (hmem : line ∈ first :: others) : '\n' ∉ line :=
    lf_notMem_of_mem_headLines (hlines ▸ hmem)
  rw [ofText_eq hpart hlines]
  refine ⟨hlf first List.mem_cons_self, fun line hmem => ?_⟩
  rw [List.mem_filter, decide_eq_true_eq] at hmem
  exact ⟨hmem.2, hlf line (List.mem_cons_of_mem first hmem.1)⟩

end RequestText

/-! ## Drafts -/

/-- A request text before it is written: its first line, the lines behind it, the line break of the
blank line, and the body. -/
structure RequestDraft where
  first : WrittenLine
  others : List WrittenLine
  blank : LineBreak
  body : Text
  deriving DecidableEq, Repr

namespace RequestDraft

/-- The text. -/
def text (draft : RequestDraft) : Text :=
  draft.first.written ++
    (draft.others.flatMap WrittenLine.written ++ (draft.blank.chars ++ draft.body))

/-- The parts of the request that is drafted. -/
def parts (draft : RequestDraft) : RequestText :=
  ⟨draft.first.text, draft.others.map WrittenLine.text, draft.body⟩

/-- The line in front of the blank line. -/
def last (draft : RequestDraft) : WrittenLine :=
  draft.others.getLastD draft.first

/-- Every line is one, and the first one is not blank. -/
structure IsWritable (draft : RequestDraft) : Prop where
  first : draft.first.IsWritable
  isAllBlank_eq_false : Text.isAllBlank draft.first.text = false
  others : ∀ line ∈ draft.others, line.IsWritable

instance (draft : RequestDraft) : Decidable draft.IsWritable :=
  decidable_of_iff
    (draft.first.IsWritable ∧ Text.isAllBlank draft.first.text = false ∧
      ∀ line ∈ draft.others, line.IsWritable)
    ⟨fun ⟨hfirst, hblank, hothers⟩ => ⟨hfirst, hblank, hothers⟩,
      fun h => ⟨h.first, h.isAllBlank_eq_false, h.others⟩⟩

/-- The body is behind a blank line that is not found: CR LF behind a bare line feed. -/
structure HidesBody (draft : RequestDraft) : Prop where
  last : draft.last.lineBreak = .bare
  blank : draft.blank = .crlf
  body_ne_nil : draft.body ≠ []

variable {draft : RequestDraft}

theorem IsWritable.last (h : draft.IsWritable) : draft.last.IsWritable := by
  unfold RequestDraft.last
  cases hothers : draft.others.getLast? with
  | none => rw [List.getLastD_eq_getLast?, hothers]; exact h.first
  | some line =>
    rw [List.getLastD_eq_getLast?, hothers]
    exact h.others line (List.mem_of_getLast? hothers)

/-- The parts of a draft are those of its last line, with the other lines in front. -/
theorem ofText_of_last (h : draft.IsWritable) {more : List Text} {read : Text}
    (hlast : RequestText.ofText (draft.last.written ++ (draft.blank.chars ++ draft.body)) =
      ⟨draft.last.text, more, read⟩) :
    RequestText.ofText draft.text = ⟨draft.first.text, draft.parts.others ++ more, read⟩ :=
  RequestText.ofText_lines_append h.first h.others hlast

/-- A draft is read as its own parts. -/
theorem ofText_text (h : draft.IsWritable) (hbody : ¬ draft.HidesBody) :
    RequestText.ofText draft.text = draft.parts := by
  have hlast : RequestText.ofText (draft.last.written ++ (draft.blank.chars ++ draft.body)) =
      ⟨draft.last.text, [], draft.body⟩ := by
    by_cases hgap : draft.last.lineBreak = .bare ∧ draft.blank = .crlf
    · -- Nothing is behind the blank line, which is taken for line breaks at the end.
      have hnil : draft.body = [] := by
        by_contra hne
        exact hbody ⟨hgap.1, hgap.2, hne⟩
      rw [hnil, hgap.2, List.append_nil]
      refine RequestText.ofText_breaks h.last LineBreak.isBreak_of_mem_chars ?_
      have hcr : draft.last.lineBreak = .crlf → LineBreak.crlf.chars.head? ≠ some '\r' := by
        rw [hgap.1]
        exact fun heq => nomatch heq
      rw [Request.partAtBlankLine?_written_append h.last hcr (by decide)]
      rfl
    · exact RequestText.ofText_blank h.last hgap draft.body
  rw [ofText_of_last h hlast, List.append_nil]
  rfl

/-- Of a hidden body only a part is read as a body. -/
theorem ofText_of_hidesBody (h : draft.IsWritable) (hbody : draft.HidesBody) :
    ∃ more read, RequestText.ofText draft.text =
      ⟨draft.first.text, draft.parts.others ++ more, read⟩ ∧ read.length < draft.body.length := by
  obtain ⟨more, read, hlast, hlength⟩ :=
    RequestText.exists_ofText_crlf h.last hbody.last hbody.body_ne_nil
  rw [← hbody.blank] at hlast
  exact ⟨more, read, ofText_of_last h hlast, hlength⟩

theorem isLinewise_parts (h : draft.IsWritable) : draft.parts.IsLinewise where
  lf_notMem := h.first.lf_notMem
  others := by
    intro line hmem
    obtain ⟨written, hwritten, rfl⟩ := List.mem_map.1 hmem
    exact ⟨(h.others written hwritten).ne_nil, (h.others written hwritten).lf_notMem⟩

/-- A draft is read as a request. -/
theorem parse_text (h : draft.IsWritable) :
    Request.parse draft.text = .ok (RequestText.ofText draft.text).request := by
  have hline : (RequestText.ofText draft.text).line = draft.first.text := by
    by_cases hbody : draft.HidesBody
    · obtain ⟨more, read, hparts, -⟩ := ofText_of_hidesBody h hbody
      rw [hparts]
    · rw [ofText_text h hbody]
      rfl
  rw [RequestText.parse_eq, hline, if_neg (by simp [h.isAllBlank_eq_false])]

/-- A draft is sent as its own parts unless it hides its body. -/
theorem sent_ofText_text_iff (h : draft.IsWritable) :
    (RequestText.ofText draft.text).sent = draft.parts.sent ↔ ¬ draft.HidesBody := by
  constructor
  · intro hsent hbody
    obtain ⟨more, read, hparts, hlength⟩ := ofText_of_hidesBody h hbody
    have heq := RequestText.eq_of_sent_eq (RequestText.isLinewise_ofText draft.text)
      (isLinewise_parts h) hsent
    rw [hparts] at heq
    have hread : read = draft.body := congrArg RequestText.body heq
    rw [hread] at hlength
    exact absurd hlength (Nat.lt_irrefl _)
  · intro hbody
    rw [ofText_text h hbody]

/-- A draft is read as a request, and the request is sent as it was drafted, each line with CR LF
behind it, exactly when the draft does not hide its body. -/
theorem wire_eq_sent_iff (draft : RequestDraft) (h : draft.IsWritable) :
    ∃ request, Request.parse draft.text = .ok request ∧
      (request.wire = Utf8.encode draft.parts.sent ↔ ¬ draft.HidesBody) := by
  refine ⟨(RequestText.ofText draft.text).request, parse_text h, ?_⟩
  rw [RequestText.wire_request, Utf8.encode_inj, sent_ofText_text_iff h]

/-- A form with a line break of each kind, and a blank line in its body. -/
def form : RequestDraft where
  first := ⟨"POST /form HTTP/1.0".toList, .bare⟩
  others := [⟨"Content-Length: 6".toList, .crlf⟩]
  blank := .bare
  body := ['a', '\n', '\n', 'b', '\r', '\n']

/-- A form with line breaks of each kind is sent as it is written exactly when no line of its body
is hidden. -/
theorem wire_eq_sent_form :
    form.IsWritable ∧ ∃ request, Request.parse form.text = .ok request ∧
      (request.wire = Utf8.encode form.parts.sent ↔ ¬ form.HidesBody) :=
  have hform : form.IsWritable := by decide
  ⟨hform, wire_eq_sent_iff form hform⟩

/-- The same form with a bare line feed in front of a blank line that is CR LF. -/
def hiddenForm : RequestDraft :=
  { form with others := [⟨"Content-Length: 6".toList, .bare⟩], blank := .crlf }

/-- Not every draft is sent as written. -/
theorem not_wire_eq_sent :
    ¬ ∀ draft : RequestDraft, draft.IsWritable →
      ∃ request, Request.parse draft.text = .ok request ∧
        request.wire = Utf8.encode draft.parts.sent := by
  intro h
  have hform : hiddenForm.IsWritable := by decide
  obtain ⟨request, hparse, hwire⟩ := h hiddenForm hform
  rw [parse_text hform] at hparse
  cases hparse
  rw [RequestText.wire_request, Utf8.encode_inj, sent_ofText_text_iff hform] at hwire
  exact hwire ⟨rfl, rfl, by decide⟩

end RequestDraft

end HttpConformance
