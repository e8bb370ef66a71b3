import HttpConformance.Proofs.Message.RequestDraft
import HttpConformance.Proofs.Text.Join
import Mathlib.Data.List.Chain

/-!
# Requests read back

What is sent for a request is a text again.  Reading drops the empty lines of the head, and of a CR
in front of a line feed it does not matter whether it was there, so the text that is sent need not
be the text that was read.  But when no CR stands anywhere else, the parts that were read have no
line breaks left in them: they are sent as a draft in which every line break is CR LF, and such a
draft is read as its own parts.

Main definitions: `Text.HasNoStrayCr`, `RequestText.draft`.

Main results:

- `Text.HasNoStrayCr.cr_notMem_of_mem_headLines`: the lines of a head have no CR left.
- `RequestText.ofText_sent`: parts without line breaks are read as they were sent.
- `Request.parse_wire_of_parse`: a request that was read is read again from what is sent for it.
-/

namespace HttpConformance

/-! ## Texts without stray CRs -/

/-- Nothing but a line feed stands behind a CR of the text. -/
def Text.HasNoStrayCr (text : Text) : Prop :=
  text.IsChain fun c next => c = '\r' → next = '\n'

instance (text : Text) : Decidable text.HasNoStrayCr :=
  inferInstanceAs (Decidable (List.IsChain _ text))

namespace Text.HasNoStrayCr

variable {text part : Text}

theorem of_infix (h : text.HasNoStrayCr) (hpart : part <:+: text) : part.HasNoStrayCr :=
  List.IsChain.infix h hpart

/-- Only the last character of a piece of a line can be a CR. -/
theorem cr_notMem_of_concat {c : Char} (h : HasNoStrayCr (part ++ [c])) (hlf : '\n' ∉ part ++ [c]) :
    '\r' ∉ part := by
  intro hmem
  obtain ⟨front, rest, rfl⟩ := List.append_of_mem hmem
  obtain ⟨next, tail, hrest⟩ : ∃ next tail, rest ++ [c] = next :: tail :=
    List.exists_cons_of_ne_nil (by simp)
  rw [List.append_assoc, List.cons_append, hrest] at h hlf
  obtain rfl : next = '\n' := (List.isChain_append_cons_cons.1 h).2.1 rfl
  apply hlf
  simp

/-- A piece of a line without the CR at its end has no CR. -/
theorem cr_notMem_withoutLast (h : part.HasNoStrayCr) (hlf : '\n' ∉ part) :
    '\r' ∉ withoutLast '\r' part := by
  rcases List.eq_nil_or_concat' part with rfl | ⟨front, c, rfl⟩
  · simp [withoutLast]
  · have hfront := h.cr_notMem_of_concat hlf
    by_cases hc : c = '\r'
    · rw [hc, withoutLast_concat]
      exact hfront
    · have hlast : (front ++ [c]).getLast? ≠ some '\r' := by simpa using hc
      rw [withoutLast, if_neg hlast]
      simpa [Ne.symm hc] using hfront

/-- The lines of a head have no CR left. -/
theorem cr_notMem_of_mem_headLines {head line : Text} (h : head.HasNoStrayCr)
    (hline : line ∈ Request.headLines head) : '\r' ∉ line := by
  rw [Request.headLines, List.mem_map] at hline
  obtain ⟨piece, hpiece, rfl⟩ := hline
  apply cr_notMem_withoutLast
  · exact h.of_infix (infix_of_mem_splitOn hpiece)
  · exact notMem_of_mem_splitOn hpiece

end Text.HasNoStrayCr

/-- The head of a text is a front of it. -/
theorem Request.partText_fst_prefix (text : Text) : (partText text).1 <+: text := by
  cases hparted : partAtBlankLine? '\r' '\n' text with
  | none =>
    rw [partText_of_none hparted]
    exact List.rdropWhile_prefix _ _
  | some parted =>
    obtain ⟨gap, -, -, hshape⟩ := eq_append_of_partAtBlankLine? (by decide) hparted
    rw [partText_of_some hparted]
    exact ⟨gap ++ parted.body, by rw [← List.append_assoc, ← hshape]⟩

namespace RequestText

/-! ## What is sent, as a draft -/

/-- The draft of the parts in which every line break is CR LF. -/
def draft (parts : RequestText) : RequestDraft where
  first := ⟨parts.line, .crlf⟩
  others := parts.others.map (⟨·, .crlf⟩)
  blank := .crlf
  body := parts.body

variable (parts : RequestText)

theorem parts_draft : parts.draft.parts = parts := by
  have htexts : parts.others.map (WrittenLine.text ∘ (⟨·, LineBreak.crlf⟩)) = parts.others :=
    List.map_id _
  rw [RequestDraft.parts, draft, List.map_map, htexts]

/-- What is sent for some parts is the text of their draft. -/
theorem text_draft : parts.draft.text = parts.sent := by
  have hlines (lines : List Text) :
      (lines.map (⟨·, LineBreak.crlf⟩)).flatMap WrittenLine.written = writeLines lines :=
    List.flatMap_map _ _ lines
  rw [RequestDraft.text, draft, sent, hlines, writeLines_cons, WrittenLine.written]
  simp [writeLines, LineBreak.chars]

/-- The line in front of the blank line ends with CR LF like all others. -/
theorem not_hidesBody_draft : ¬ parts.draft.HidesBody := by
  intro h
  have hlast : parts.draft.last.lineBreak = .crlf := by
    rw [RequestDraft.last, List.getLastD_eq_getLast?, draft, List.getLast?_map]
    cases parts.others.getLast? <;> rfl
  rw [h.last] at hlast
  cases hlast

variable {parts}

/-- The parts can be drafted when none of their lines has a line break and none is empty. -/
theorem IsLinewise.isWritable_draft (h : parts.IsLinewise)
    (hcr : ∀ line ∈ parts.line :: parts.others, '\r' ∉ line)
    (hblank : Text.isAllBlank parts.line = false) : parts.draft.IsWritable := by
  rw [List.forall_mem_cons] at hcr
  have hne : parts.line ≠ [] := by
    intro hnil
    rw [hnil] at hblank
    cases hblank
  refine ⟨⟨hne, hcr.1, h.lf_notMem⟩, hblank, ?_⟩
  intro line hline
  obtain ⟨text, htext, rfl⟩ := List.mem_map.1 hline
  exact ⟨(h.others text htext).1, hcr.2 text htext, (h.others text htext).2⟩

/-- Parts without line breaks are read as they were sent. -/
theorem ofText_sent (h : parts.draft.IsWritable) : ofText parts.sent = parts := by
  rw [← text_draft, RequestDraft.ofText_text h parts.not_hidesBody_draft, parts_draft]

/-- The lines that are read of a text without stray CRs have no CR. -/
theorem cr_notMem_of_ofText {text line : Text} (h : text.HasNoStrayCr)
    (hline : line ∈ (ofText text).line :: (ofText text).others) : '\r' ∉ line := by
  have hhead : Text.HasNoStrayCr (Request.partText text).1 :=
    h.of_infix (Request.partText_fst_prefix text).isInfix
  obtain ⟨first, others, hlines⟩ :=
    List.exists_cons_of_ne_nil (Request.headLines_ne_nil (Request.partText text).1)
  rw [ofText_eq rfl hlines] at hline
  apply hhead.cr_notMem_of_mem_headLines
  rw [hlines, List.mem_cons]
  exact (List.mem_cons.1 hline).imp_right List.mem_of_mem_filter

end RequestText

/-! ## Reading again -/

/-- A request that was read from a text without stray CRs is sent as the bytes of a text, and this
text is read as the same request; so it is sent a second time as it was the first time. -/
theorem Request.parse_wire_of_parse {text : Text} (hcr : text.HasNoStrayCr) {request : Request}
    (h : Request.parse text = .ok request) :
    ∃ sent, Utf8.decode? request.wire = some sent ∧ Request.parse sent = .ok request := by
  rw [RequestText.parse_eq] at h
  split at h
  · cases h
  · rename_i hblank
    cases h
    rw [Bool.not_eq_true] at hblank
    have hdraft : (RequestText.ofText text).draft.IsWritable :=
      (RequestText.isLinewise_ofText text).isWritable_draft
        (fun _ => RequestText.cr_notMem_of_ofText hcr) hblank
    refine ⟨(RequestText.ofText text).sent, ?_, ?_⟩
    · rw [RequestText.wire_request, Utf8.decode?_encode]
    · rw [RequestText.parse_eq, RequestText.ofText_sent hdraft, if_neg (by simp [hblank])]

/-- A request text with a line without a colon, a blank line that is not found because its two line
breaks differ, and a body that begins with line breaks. -/
def Request.mixedText : Text :=
  "POST /form HTTP/1.0\nNote\n\r\nX-A:v\r\n\n\r\n\r\na=b\n".toList

/-- The request that is read from it. -/
def Request.mixed : Request where
  line := "POST /form HTTP/1.0".toList
  fields := [⟨"Note".toList, none⟩, ⟨"X-A".toList, some "v".toList⟩]
  body := some (Utf8.encode "\r\n\r\na=b\n".toList)
  verbatim := none

/-- A request with line breaks of both kinds is read again from what is sent. -/
theorem Request.parse_wire_of_parse_mixed :
    mixedText.HasNoStrayCr ∧ Request.parse mixedText = .ok mixed ∧
      ∃ sent, Utf8.decode? mixed.wire = some sent ∧ Request.parse sent = .ok mixed :=
  have hcr : mixedText.HasNoStrayCr := by decide
  have hparse : Request.parse mixedText = .ok mixed := rfl
  ⟨hcr, hparse, parse_wire_of_parse hcr hparse⟩

end HttpConformance
