import HttpConformance.Proofs.Decimal
import HttpConformance.Proofs.Message.HeadLines
import HttpConformance.Proofs.Text.Join

/-!
# Drafts of responses

A draft says what a response is and how it is to be written: the line break of its head, the blanks
around the values of its fields, the lines on which a value is continued, and one of the three ways
to frame a body.  The lines of a writable draft are lines of a head, its status line says the
version, the code and the reason, and its field lines say the fields in order.

Main definitions: `FieldDraft`, `Framing`, `ResponseDraft`, `ResponseDraft.render`,
`ResponseDraft.IsWritable`.

Main results:

- `ResponseDraft.isLineText_of_mem_lines`: the lines of a draft are lines of a head.
- `ResponseDraft.parse?_statusLine`: the status line of a draft.
- `ResponseDraft.foldedFields_fieldLines`: the fields of a draft, read from its lines.
-/

namespace HttpConformance

/-! ## Fields -/

/-- A part of the value of a field, and the blanks in front of it. -/
structure Piece where
  padding : Text
  text : Text
  deriving DecidableEq, Repr

namespace Piece

/-- What is written on the line of a piece. -/
def line (piece : Piece) : Text :=
  piece.padding ++ piece.text

/-- The blanks are spaces and tabs, and the part fits on a line and has no blanks at its ends. -/
structure IsWritable (piece : Piece) : Prop where
  padding : ∀ c ∈ piece.padding, c = ' ' ∨ c = '\t'
  isTrimmed : piece.text.IsTrimmed
  lf_notMem : '\n' ∉ piece.text

instance (piece : Piece) : Decidable piece.IsWritable :=
  -- `List.all` walks the list; a quantifier over characters may be decided by trying them all
  decidable_of_iff
    ((piece.padding.all fun c => c = ' ' ∨ c = '\t') = true ∧ piece.text.IsTrimmed ∧
      '\n' ∉ piece.text)
    ⟨fun h => ⟨fun c hc => of_decide_eq_true (List.all_eq_true.1 h.1 c hc), h.2.1, h.2.2⟩,
      fun h => ⟨List.all_eq_true.2 fun c hc => decide_eq_true (h.padding c hc), h.isTrimmed,
        h.lf_notMem⟩⟩

end Piece

/-- A header field, and the lines on which it is written. -/
structure FieldDraft where
  name : Text
  first : Piece
  continuations : List Piece
  deriving DecidableEq, Repr

namespace FieldDraft

/-- The field: its pieces are joined by one space. -/
def field (draft : FieldDraft) : HeaderField :=
  ⟨draft.name, Text.join [' '] (draft.first.text :: draft.continuations.map (·.text))⟩

/-- The lines of the field: the name and the first piece, and a line for each further piece. -/
def lines (draft : FieldDraft) : List Text :=
  (draft.name ++ ':' :: draft.first.line) :: draft.continuations.map Piece.line

/-- The name fits in front of a colon, and every line after the first one begins with a blank. -/
structure IsWritable (draft : FieldDraft) : Prop where
  name_isTrimmed : draft.name.IsTrimmed
  colon_notMem : ':' ∉ draft.name
  lf_notMem : '\n' ∉ draft.name
  first : draft.first.IsWritable
  continuations : ∀ piece ∈ draft.continuations, piece.IsWritable
  padding_ne_nil : ∀ piece ∈ draft.continuations, piece.padding ≠ []

instance (draft : FieldDraft) : Decidable draft.IsWritable :=
  decidable_of_iff
    (draft.name.IsTrimmed ∧ ':' ∉ draft.name ∧ '\n' ∉ draft.name ∧ draft.first.IsWritable ∧
      (∀ piece ∈ draft.continuations, piece.IsWritable) ∧
        ∀ piece ∈ draft.continuations, piece.padding ≠ [])
    ⟨fun ⟨hname, hcolon, hlf, hfirst, hpieces, hpadding⟩ =>
        ⟨hname, hcolon, hlf, hfirst, hpieces, hpadding⟩,
      fun h => ⟨h.name_isTrimmed, h.colon_notMem, h.lf_notMem, h.first, h.continuations,
        h.padding_ne_nil⟩⟩

end FieldDraft

/-! ## Bodies -/

/-- A chunk: its size in hexadecimal digits on a line, its data and a line break. -/
def chunkBytes (lineBreak : LineBreak) (chunk : Bytes) : Bytes :=
  Utf8.encode (Nat.toDigits 16 chunk.length) ++ lineBreak.bytes ++ chunk ++ lineBreak.bytes

/-- Chunks, the last chunk of size zero and an empty trailer. -/
def chunkedBytes (lineBreak : LineBreak) (chunks : List Bytes) : Bytes :=
  chunks.flatMap (chunkBytes lineBreak) ++
    (Utf8.encode (Nat.toDigits 16 0) ++ lineBreak.bytes ++ lineBreak.bytes)

/-- A body and how its end is told: by the end of the connection, by its length, or by a last
chunk.  In the last two cases more bytes may follow. -/
inductive Framing where
  | toEnd (body : Bytes)
  | counted (body more : Bytes)
  | chunked (chunks : List Bytes) (more : Bytes)
  deriving DecidableEq, Repr

namespace Framing

/-- The body that is framed. -/
def body : Framing → Bytes
  | toEnd body => body
  | counted body _ => body
  | chunked chunks _ => chunks.flatten

/-- The bytes after a head. -/
def bytes (lineBreak : LineBreak) : Framing → Bytes
  | toEnd body => body
  | counted body more => body ++ more
  | chunked chunks more => chunkedBytes lineBreak chunks ++ more

/-- The fields say how the body is framed. -/
def IsAnnounced (fields : List HeaderField) : Framing → Prop
  | toEnd _ =>
    HeaderField.values "Transfer-Encoding".toList fields = [] ∧
      HeaderField.values "Content-Length".toList fields = []
  | counted body _ =>
    HeaderField.values "Transfer-Encoding".toList fields = [] ∧
      ∃ length, HeaderField.values "Content-Length".toList fields = [length] ∧
        Numeral.IsDecimal length body.length
  | chunked chunks _ =>
    "chunked".toList ∈ HeaderField.values "Transfer-Encoding".toList fields ∧
      ∀ chunk ∈ chunks, chunk ≠ []

end Framing

/-! ## Responses -/

/-- The three digits of a number below a thousand. -/
def codeDigits (code : Nat) : Text :=
  [(code / 100).digitChar, (code / 10 % 10).digitChar, (code % 10).digitChar]

/-- A response, and how it is to be written. -/
structure ResponseDraft where
  lineBreak : LineBreak
  major : Text
  minor : Text
  code : Nat
  reason : Option Text
  fields : List FieldDraft
  framing : Framing
  deriving DecidableEq, Repr

namespace ResponseDraft

variable {draft : ResponseDraft}

def version (draft : ResponseDraft) : Text :=
  protocolName ++ (draft.major ++ '.' :: draft.minor)

/-- The status line; without a reason it ends at the code. -/
def statusLine (draft : ResponseDraft) : Text :=
  draft.version ++ ' ' :: (codeDigits draft.code ++ (draft.reason.map (' ' :: ·)).getD [])

def fieldLines (draft : ResponseDraft) : List Text :=
  draft.fields.flatMap FieldDraft.lines

def lines (draft : ResponseDraft) : List Text :=
  draft.statusLine :: draft.fieldLines

def head (draft : ResponseDraft) : Bytes :=
  headOfLines draft.lineBreak (draft.lines.map Utf8.encode)

/-- The bytes of the response: its head, a blank line and its framed body. -/
def render (draft : ResponseDraft) : Bytes :=
  draft.head ++
    (draft.lineBreak.bytes ++ draft.lineBreak.bytes ++ draft.framing.bytes draft.lineBreak)

/-- The response that a draft is of. -/
def response (draft : ResponseDraft) : Response where
  statusLine := draft.statusLine
  version := draft.version
  code := draft.code
  reason := draft.reason.getD []
  fields := draft.fields.map FieldDraft.field
  body := draft.framing.body
  raw := draft.render

/-- The parts of a draft fit on their lines, its code is that of a final response, and its fields
say how its body is framed. -/
structure IsWritable (draft : ResponseDraft) : Prop where
  major : isDigitRun draft.major = true
  minor : isDigitRun draft.minor = true
  code_lt : draft.code < 1000
  code_final : isInterim draft.code = false
  reason_isTrimmed : ∀ reason ∈ draft.reason, reason.IsTrimmed
  lf_notMem_reason : ∀ reason ∈ draft.reason, '\n' ∉ reason
  fields : ∀ field ∈ draft.fields, field.IsWritable
  framing : draft.framing.IsAnnounced (draft.fields.map FieldDraft.field)

end ResponseDraft

/-! ## Lines of fields -/

theorem ne_cr_of_head?_trimmed {text : Text} (h : text.IsTrimmed) : text.head? ≠ some '\r' := by
  intro hhead
  have hblank := h.not_isBlank_of_head? hhead
  exact absurd hblank (by decide)

theorem ne_cr_of_getLast?_trimmed {text : Text} (h : text.IsTrimmed) :
    text.getLast? ≠ some '\r' := by
  intro hlast
  have hblank := h.not_isBlank_of_getLast? hlast
  exact absurd hblank (by decide)

/-- A text that fits on a line stays one behind a text that does not end it. -/
theorem getLast?_append_ne_cr {front text : Text} (hfront : front.getLast? ≠ some '\r')
    (htext : text.getLast? ≠ some '\r') : (front ++ text).getLast? ≠ some '\r' := by
  rw [List.getLast?_append]
  cases hlast : text.getLast? with
  | none => exact hfront
  | some c =>
    rw [hlast] at htext
    exact htext

/-- A text does not end in a CR if neither one of its characters nor what stands behind that one
does. -/
theorem getLast?_append_cons_ne_cr {c : Char} (hc : c ≠ '\r') {rest : Text}
    (hrest : rest.getLast? ≠ some '\r') (front : Text) :
    (front ++ c :: rest).getLast? ≠ some '\r' := by
  have hfront : (front ++ [c]).getLast? ≠ some '\r' := by
    rw [List.getLast?_concat]
    exact fun heq => hc (Option.some.inj heq)
  have hwhole := getLast?_append_ne_cr hfront hrest
  rwa [List.append_assoc, List.singleton_append] at hwhole

namespace Piece

variable {piece : Piece}

theorem IsWritable.lf_notMem_line (h : piece.IsWritable) : '\n' ∉ piece.line := by
  rw [line, List.mem_append, not_or]
  refine ⟨fun hmem => ?_, h.lf_notMem⟩
  rcases h.padding '\n' hmem with heq | heq <;> exact absurd heq (by decide)

theorem IsWritable.getLast?_line (h : piece.IsWritable) : piece.line.getLast? ≠ some '\r' := by
  refine getLast?_append_ne_cr (fun hlast => ?_) (ne_cr_of_getLast?_trimmed h.isTrimmed)
  rcases h.padding '\r' (List.mem_of_getLast? hlast) with heq | heq <;>
    exact absurd heq (by decide)

/-- The blanks in front of a piece do not count. -/
theorem IsWritable.trimmedText_line (h : piece.IsWritable) :
    trimmedText (Utf8.encode piece.line) = piece.text := by
  have hblanks : ∀ c ∈ piece.padding, Text.isBlank c = true := by
    intro c hc
    rcases h.padding c hc with rfl | rfl <;> decide
  rw [trimmedText, Utf8.decodeLossy_encode, line, Text.trim_append_of_isBlank hblanks]
  exact h.isTrimmed

/-- A line that begins with blanks continues the field before it. -/
theorem IsWritable.isContinuation_line (h : piece.IsWritable) (hpadding : piece.padding ≠ []) :
    isContinuation (Utf8.encode piece.line) = true := by
  obtain ⟨c, padding, heq⟩ := List.exists_cons_of_ne_nil hpadding
  have hc := h.padding c (by rw [heq]; exact List.mem_cons_self)
  rw [line, heq]
  rcases hc with rfl | rfl <;> rfl

/-- A line with padding in front of it is a line of text. -/
theorem IsWritable.isLineText_line (h : piece.IsWritable) (hpadding : piece.padding ≠ []) :
    IsLineText piece.line where
  ne_nil := List.append_ne_nil_of_left_ne_nil hpadding piece.text
  lf_notMem := h.lf_notMem_line
  head_ne_cr := by
    obtain ⟨c, padding, heq⟩ := List.exists_cons_of_ne_nil hpadding
    have hc := h.padding c (by rw [heq]; exact List.mem_cons_self)
    rw [line, heq]
    rcases hc with rfl | rfl <;> exact fun hhead => absurd (Option.some.inj hhead) (by decide)
  last_ne_cr := h.getLast?_line

end Piece

namespace FieldDraft

variable {draft : FieldDraft}

/-- The line with the name of a field. -/
theorem IsWritable.isLineText_first (h : draft.IsWritable) :
    IsLineText (draft.name ++ ':' :: draft.first.line) where
  ne_nil := by simp
  lf_notMem := by
    rw [List.mem_append, List.mem_cons, not_or, not_or]
    exact ⟨h.lf_notMem, by decide, h.first.lf_notMem_line⟩
  head_ne_cr := by
    cases hname : draft.name with
    | nil => exact fun hhead => absurd (Option.some.inj hhead) (by decide)
    | cons c name =>
      have hhead := ne_cr_of_head?_trimmed h.name_isTrimmed
      rw [hname] at hhead
      exact hhead
  last_ne_cr := getLast?_append_cons_ne_cr (by decide) h.first.getLast?_line draft.name

/-- All lines of a draft are lines of text. -/
theorem IsWritable.isLineText_of_mem_lines (h : draft.IsWritable) {text : Text}
    (htext : text ∈ draft.lines) : IsLineText text := by
  rcases List.mem_cons.1 htext with rfl | hmem
  · exact h.isLineText_first
  · obtain ⟨piece, hpiece, rfl⟩ := List.mem_map.1 hmem
    exact (h.continuations piece hpiece).isLineText_line (h.padding_ne_nil piece hpiece)

/-- The line with the name of a field continues no other field. -/
theorem IsWritable.isContinuation_first (h : draft.IsWritable) :
    isContinuation (Utf8.encode (draft.name ++ ':' :: draft.first.line)) = false := by
  have hhead {b : UInt8} (hb : b < 0x80) (hblank : Text.isBlank (Char.ofNat b.toNat) = true) :
      (Utf8.encode (draft.name ++ ':' :: draft.first.line)).head? ≠ some b := by
    intro hsome
    have hchar := Utf8.head?_of_head?_encode hb hsome
    cases hname : draft.name with
    | nil =>
      rw [hname] at hchar
      rw [← Option.some.inj hchar] at hblank
      exact absurd hblank (by decide)
    | cons c name =>
      have hfirst := h.name_isTrimmed.not_isBlank_of_head? (c := c) (by rw [hname]; rfl)
      rw [hname] at hchar
      rw [Option.some.inj hchar, hblank] at hfirst
      cases hfirst
  rw [isContinuation, Bool.or_eq_false_iff]
  exact ⟨decide_eq_false (hhead (by decide) (by decide)),
    decide_eq_false (hhead (by decide) (by decide))⟩

/-- The line with the name of a field says the name and the first piece. -/
theorem IsWritable.ofLine?_first (h : draft.IsWritable) :
    HeaderField.ofLine? (Utf8.encode (draft.name ++ ':' :: draft.first.line)) =
      some ⟨draft.name, draft.first.text⟩ := by
  have hcolon : colon ∉ Utf8.encode draft.name :=
    fun hmem => h.colon_notMem (Utf8.mem_of_mem_encode (by decide) hmem)
  have hbytes : Utf8.encode (draft.name ++ ':' :: draft.first.line) =
      Utf8.encode draft.name ++ colon :: Utf8.encode draft.first.line := by
    rw [Utf8.encode_append]
    rfl
  have hname : trimmedText (Utf8.encode draft.name) = draft.name := by
    rw [trimmedText, Utf8.decodeLossy_encode]
    exact h.name_isTrimmed
  rw [HeaderField.ofLine?, hbytes, cutAt_append_cons hcolon, Option.map_some]
  simp only [hname, h.first.trimmedText_line]

end FieldDraft

/-! ## Three digits -/

theorem isDigit_digitChar {n : Nat} (h : n < 10) : n.digitChar.isDigit = true := by
  have hall : ∀ n < 10, (Nat.digitChar n).isDigit = true := by decide
  exact hall n h

theorem isDigit_of_mem_codeDigits {code : Nat} (h : code < 1000) :
    ∀ c ∈ codeDigits code, c.isDigit = true := by
  intro c hc
  simp only [codeDigits, List.mem_cons, List.not_mem_nil, or_false] at hc
  rcases hc with rfl | rfl | rfl <;> exact isDigit_digitChar (by omega)

/-- Three digits are read back as their number. -/
theorem threeDigits?_codeDigits {code : Nat} (h : code < 1000) :
    threeDigits? (codeDigits code) = some code := by
  have hdigits : (codeDigits code).all Char.isDigit = true :=
    List.all_eq_true.2 (isDigit_of_mem_codeDigits h)
  have hvalue : ∀ n < 10, n.digitChar.toNat - '0'.toNat = n := by decide
  rw [threeDigits?, if_pos ⟨rfl, hdigits⟩, codeDigits, Nat.ofDigitChars_cons, Nat.ofDigitChars_cons,
    Nat.ofDigitChars_cons, Nat.ofDigitChars_nil, hvalue _ (by omega), hvalue _ (by omega),
    hvalue _ (by omega)]
  exact congrArg some (by omega)

/-- Every digit writes a number below ten. -/
theorem exists_digitChar {c : Char} (h : c.isDigit = true) : ∃ n < 10, c = n.digitChar := by
  have hall : ∀ n < 10, Char.ofNat (48 + n) = n.digitChar := by decide
  obtain ⟨hlow, hhigh⟩ : 48 ≤ c.toNat ∧ c.toNat ≤ 57 := Char.isDigit_iff_toNat.1 h
  refine ⟨c.toNat - 48, by omega, ?_⟩
  rw [← hall _ (by omega), Nat.add_sub_cancel' hlow, Char.ofNat_toNat]

/-- The text of three digits is the digits of the number that they are read as. -/
theorem eq_codeDigits_of_threeDigits? {text : Text} {code : Nat}
    (h : threeDigits? text = some code) :
    code < 1000 ∧ text = codeDigits code := by
  unfold threeDigits? at h
  split at h
  · rename_i hdigits
    obtain ⟨a, b, c, rfl⟩ := List.length_eq_three.1 hdigits.1
    have hall := List.all_eq_true.1 hdigits.2
    obtain ⟨hundreds, hhundreds, rfl⟩ := exists_digitChar (hall a (by simp))
    obtain ⟨tens, htens, rfl⟩ := exists_digitChar (hall b (by simp))
    obtain ⟨ones, hones, rfl⟩ := exists_digitChar (hall c (by simp))
    have hlt : 100 * hundreds + 10 * tens + ones < 1000 := by omega
    have hdigitsOf : codeDigits (100 * hundreds + 10 * tens + ones) =
        [hundreds.digitChar, tens.digitChar, ones.digitChar] := by
      have hfirst : (100 * hundreds + 10 * tens + ones) / 100 = hundreds := by omega
      have hsecond : (100 * hundreds + 10 * tens + ones) / 10 % 10 = tens := by omega
      have hthird : (100 * hundreds + 10 * tens + ones) % 10 = ones := by omega
      rw [codeDigits, hfirst, hsecond, hthird]
    have hvalue := threeDigits?_codeDigits hlt
    rw [hdigitsOf, threeDigits?, if_pos hdigits, h] at hvalue
    rw [Option.some.inj hvalue, hdigitsOf]
    exact ⟨hlt, rfl⟩
  · cases h

/-! ## Status lines -/

namespace StatusLine

/-- A status line that ends at its code. -/
theorem parse?_code {version : Text} (hversion : isVersion version = true) {code : Nat}
    (hcode : code < 1000) :
    parse? (version ++ ' ' :: codeDigits code) = some ⟨version, code, []⟩ := by
  have hspaceVersion : ' ' ∉ version := fun hmem =>
    absurd (not_isBlank_of_isVersion hversion ' ' hmem) (by decide)
  have hspaceCode : ' ' ∉ codeDigits code := fun hmem =>
    absurd (isDigit_of_mem_codeDigits hcode ' ' hmem) (by decide)
  have hcut : cutAt ' ' (codeDigits code) = none := cutAt_eq_none_iff.2 hspaceCode
  have hnil : Text.trim [] = [] := rfl
  rw [parse?, cutAt_append_cons hspaceVersion]
  dsimp only
  rw [if_pos hversion, hcut]
  simp only [Option.getD_none, threeDigits?_codeDigits hcode, Option.map_some, hnil]

/-- A status line with a space behind its code and any text after it. -/
theorem parse?_reason {version : Text} (hversion : isVersion version = true) {code : Nat}
    (hcode : code < 1000) (reason : Text) :
    parse? (version ++ ' ' :: (codeDigits code ++ ' ' :: reason)) =
      some ⟨version, code, Text.trim reason⟩ := by
  have hspaceVersion : ' ' ∉ version := fun hmem =>
    absurd (not_isBlank_of_isVersion hversion ' ' hmem) (by decide)
  have hspaceCode : ' ' ∉ codeDigits code := fun hmem =>
    absurd (isDigit_of_mem_codeDigits hcode ' ' hmem) (by decide)
  rw [parse?, cutAt_append_cons hspaceVersion]
  dsimp only
  rw [if_pos hversion, cutAt_append_cons hspaceCode]
  simp only [Option.getD_some, threeDigits?_codeDigits hcode, Option.map_some]

end StatusLine

/-! ## The fields of a head -/

/-- Continuation lines add their pieces to the last field. -/
theorem foldl_addFieldLine_continuations {pieces : List Piece}
    (h : ∀ piece ∈ pieces, piece.IsWritable) (hpadding : ∀ piece ∈ pieces, piece.padding ≠ [])
    (field : HeaderField) (fields : List HeaderField) :
    (pieces.map fun piece => Utf8.encode piece.line).foldl addFieldLine (field :: fields) =
      { field with
        value := field.value ++ (pieces.map (·.text)).flatMap ([' '] ++ ·) } :: fields := by
  induction pieces generalizing field with
  | nil => simp
  | cons piece pieces ih =>
    have hpiece := h piece List.mem_cons_self
    have hadd : addFieldLine (field :: fields) (Utf8.encode piece.line) =
        { field with value := field.value ++ ' ' :: piece.text } :: fields := by
      simp only [addFieldLine, hpiece.trimmedText_line,
        hpiece.isContinuation_line (hpadding piece List.mem_cons_self)]
    rw [List.map_cons, List.foldl_cons, hadd,
      ih (fun piece hmem => h piece (List.mem_cons_of_mem _ hmem))
        (fun piece hmem => hpadding piece (List.mem_cons_of_mem _ hmem))]
    simp

/-- The lines of a field say that field. -/
theorem FieldDraft.IsWritable.foldl_addFieldLine {draft : FieldDraft} (h : draft.IsWritable)
    (fields : List HeaderField) :
    (draft.lines.map Utf8.encode).foldl addFieldLine fields = draft.field :: fields := by
  have hfirst : addFieldLine fields (Utf8.encode (draft.name ++ ':' :: draft.first.line)) =
      ⟨draft.name, draft.first.text⟩ :: fields := by
    simp only [addFieldLine, h.isContinuation_first, h.ofLine?_first]
  rw [FieldDraft.lines, List.map_cons, List.map_map, List.foldl_cons, hfirst]
  rw [FieldDraft.field, join_cons]
  exact foldl_addFieldLine_continuations h.continuations h.padding_ne_nil _ fields

namespace ResponseDraft

variable {draft : ResponseDraft}

/-- The field lines of a draft say its fields, in order. -/
theorem foldedFields_fieldLines (h : draft.IsWritable) :
    foldedFields (draft.fieldLines.map Utf8.encode) = draft.fields.map FieldDraft.field := by
  have hfold {drafts : List FieldDraft} (hdrafts : ∀ field ∈ drafts, field.IsWritable)
      (fields : List HeaderField) :
      ((drafts.flatMap FieldDraft.lines).map Utf8.encode).foldl addFieldLine fields =
        (drafts.map FieldDraft.field).reverse ++ fields := by
    induction drafts generalizing fields with
    | nil => rfl
    | cons field drafts ih =>
      rw [List.flatMap_cons, List.map_append, List.foldl_append,
        (hdrafts field List.mem_cons_self).foldl_addFieldLine,
        ih fun field hmem => hdrafts field (List.mem_cons_of_mem _ hmem)]
      simp
  rw [foldedFields, fieldLines, hfold h.fields, List.append_nil, List.reverse_reverse]

/-! ## The status line -/

/-- A draft has a version. -/
theorem isVersion_version (h : draft.IsWritable) : isVersion draft.version = true :=
  isVersion_of_isDigitRun h.major h.minor

/-- The status line of a draft says its version, its code and its reason. -/
theorem parse?_statusLine (h : draft.IsWritable) :
    StatusLine.parse? draft.statusLine =
      some ⟨draft.version, draft.code, draft.reason.getD []⟩ := by
  have hversion := isVersion_version h
  rw [statusLine]
  cases hreason : draft.reason with
  | none =>
    rw [Option.map_none, Option.getD_none, List.append_nil]
    exact StatusLine.parse?_code hversion h.code_lt
  | some reason =>
    have htrim : Text.trim reason = reason := h.reason_isTrimmed reason hreason
    rw [Option.map_some, Option.getD_some, Option.getD_some,
      StatusLine.parse?_reason hversion h.code_lt, htrim]

theorem isLineText_statusLine (h : draft.IsWritable) : IsLineText draft.statusLine where
  ne_nil := by simp [statusLine]
  lf_notMem := by
    have hversion : '\n' ∉ draft.version := fun hmem =>
      absurd (not_isBlank_of_isVersion (isVersion_version h) '\n' hmem) (by decide)
    have hcode : '\n' ∉ codeDigits draft.code := fun hmem =>
      absurd (isDigit_of_mem_codeDigits h.code_lt '\n' hmem) (by decide)
    rw [statusLine, List.mem_append, List.mem_cons, List.mem_append, not_or, not_or, not_or]
    refine ⟨hversion, by decide, hcode, ?_⟩
    cases hreason : draft.reason with
    | none => exact List.not_mem_nil
    | some reason =>
      exact List.not_mem_cons_of_ne_of_not_mem (by decide) (h.lf_notMem_reason reason hreason)
  head_ne_cr := fun hhead => absurd (Option.some.inj hhead) (by decide)
  last_ne_cr := by
    have hcode : (codeDigits draft.code).getLast? ≠ some '\r' := fun hlast =>
      absurd (isDigit_of_mem_codeDigits h.code_lt '\r' (List.mem_of_getLast? hlast)) (by decide)
    have hreason : ((draft.reason.map (' ' :: ·)).getD []).getLast? ≠ some '\r' := by
      cases hreason : draft.reason with
      | none => exact fun hlast => absurd hlast (by simp)
      | some reason =>
        have htrimmed := ne_cr_of_getLast?_trimmed (h.reason_isTrimmed reason hreason)
        exact getLast?_append_cons_ne_cr (by decide) htrimmed []
    have hrest := getLast?_append_ne_cr hcode hreason
    exact getLast?_append_cons_ne_cr (by decide) hrest draft.version

/-- The lines of a draft are lines of a head. -/
theorem isLineText_of_mem_lines (h : draft.IsWritable) {text : Text} (htext : text ∈ draft.lines) :
    IsLineText text := by
  rcases List.mem_cons.1 htext with rfl | hmem
  · exact isLineText_statusLine h
  · obtain ⟨field, hfield, hline⟩ := List.mem_flatMap.1 hmem
    exact (h.fields field hfield).isLineText_of_mem_lines hline

end ResponseDraft

end HttpConformance
