import HttpConformance.Proofs.Message.ChunkedGrammar
import HttpConformance.Proofs.Message.Draft
import HttpConformance.Proofs.Message.Interim
import Mathlib.Data.List.TakeWhile

/-!
# What is written is read

A response that is written from a draft reads back as that response.  The first blank line is the
one behind the head, whatever the body is, so neither blank lines nor status lines nor chunks inside
a body are taken for more than bytes.

Main results:

- `ChunkedBody.isChunkedBody_chunkedBytes`: chunks that are written are a chunked body.
- `Framing.bodyOf_bytes`: a framed body is read as its fields announce it.
- `Response.parse_render`: a draft is read back.
-/

namespace HttpConformance

/-! ## Chunked bodies -/

namespace ChunkedBody

theorem isLineBreak_bytes (lineBreak : LineBreak) : IsLineBreak lineBreak.bytes := by
  cases lineBreak
  · exact Or.inl rfl
  · exact Or.inr rfl

/-- The size of a chunk is read from its line. -/
theorem isSizeLine_encode_toDigits (lineBreak : LineBreak) {size : Nat} (h : size < 2 ^ 64) :
    IsSizeLine (Utf8.encode (Nat.toDigits 16 size) ++ lineBreak.bytes) size := by
  have hblank : ∀ c ∈ Nat.toDigits 16 size, Text.isBlank c = false :=
    fun c hc => (Numeral.not_isBlank_of_mem_toDigits hc).1
  have hline := (isLineText_of_not_isBlank Nat.toDigits_ne_nil hblank).isHeadLine_encode
  have hrun : (Nat.toDigits 16 size).takeWhile (· != ';') = Nat.toDigits 16 size := by
    refine List.takeWhile_eq_self_iff.2 ?_
    intro c hc
    exact bne_iff_ne.2 (Numeral.not_isBlank_of_mem_toDigits hc).2
  obtain ⟨front, hbreak, hfront⟩ := lineBreak.bytes_eq
  refine ⟨Utf8.encode (Nat.toDigits 16 size) ++ front, ?_, hline.lf_notMem_append hfront, ?_, h⟩
  · rw [hbreak, List.append_assoc]
  · rw [hline.withoutLast_append hfront, Utf8.decodeLossy_encode, hrun,
      Text.isTrimmed_of_not_isBlank hblank]
    exact Numeral.isHexNumeral_toDigits size

/-- Chunks that are written are a chunked body. -/
theorem isChunkedBody_chunkedBytes (lineBreak : LineBreak) {chunks : List Bytes}
    (hne : ∀ chunk ∈ chunks, chunk ≠ []) (hsize : ∀ chunk ∈ chunks, chunk.length < 2 ^ 64) :
    IsChunkedBody (chunkedBytes lineBreak chunks) chunks.flatten := by
  induction chunks with
  | nil =>
    have hblank : IsTrailer lineBreak.bytes := by
      obtain ⟨front, hbreak, hfront⟩ := lineBreak.bytes_eq
      rw [hbreak]
      exact .blank hfront
    have hlast : chunkedBytes lineBreak [] =
        Utf8.encode (Nat.toDigits 16 0) ++ lineBreak.bytes ++ lineBreak.bytes := rfl
    rw [hlast]
    exact .last (isSizeLine_encode_toDigits lineBreak (by decide)) hblank
  | cons chunk chunks ih =>
    have hrest := ih (fun chunk hmem => hne chunk (List.mem_cons_of_mem _ hmem))
      (fun chunk hmem => hsize chunk (List.mem_cons_of_mem _ hmem))
    have hsizeLine := isSizeLine_encode_toDigits lineBreak (hsize chunk List.mem_cons_self)
    have hbytes : chunkedBytes lineBreak (chunk :: chunks) =
        Utf8.encode (Nat.toDigits 16 chunk.length) ++ lineBreak.bytes ++ chunk ++ lineBreak.bytes ++
          chunkedBytes lineBreak chunks := by
      rw [chunkedBytes, List.flatMap_cons, List.append_assoc]
      rfl
    rw [hbytes, List.flatten_cons]
    exact .chunk hsizeLine (hne chunk List.mem_cons_self) (isLineBreak_bytes lineBreak) hrest

/-- No chunk is longer than the chunks that are written. -/
theorem length_le_of_mem_chunks (lineBreak : LineBreak) {chunks : List Bytes} {chunk : Bytes}
    (h : chunk ∈ chunks) : chunk.length ≤ (chunkedBytes lineBreak chunks).length := by
  have hinfix : chunk <:+: chunkBytes lineBreak chunk :=
    ⟨_, lineBreak.bytes, rfl⟩
  have hchunks : (chunkBytes lineBreak chunk).length ≤
      (chunks.flatMap (chunkBytes lineBreak)).length :=
    (List.sublist_flatten_of_mem (List.mem_map_of_mem h)).length_le
  rw [chunkedBytes, List.length_append]
  have hle := hinfix.length_le
  omega

end ChunkedBody

/-! ## Framed bodies -/

/-- The first field of a name has the first of the values of that name. -/
theorem HeaderField.first?_eq_head?_values (name : Text) (fields : List HeaderField) :
    HeaderField.first? name fields = (HeaderField.values name fields).head? := by
  rw [HeaderField.first?, HeaderField.values, List.head?_map, List.head?_filter]

/-- A field that says so makes a body chunked. -/
theorem isChunked_of_mem_values {fields : List HeaderField}
    (h : "chunked".toList ∈ HeaderField.values "Transfer-Encoding".toList fields) :
    isChunked fields = true := by
  obtain ⟨field, hfield, hvalue⟩ := List.mem_map.1 h
  obtain ⟨hmem, hname⟩ := List.mem_filter.1 hfield
  refine List.any_eq_true.2 ⟨field, hmem, ?_⟩
  rw [hname, hvalue]
  decide

theorem isChunked_of_values_eq_nil {fields : List HeaderField}
    (h : HeaderField.values "Transfer-Encoding".toList fields = []) : isChunked fields = false := by
  have hnone := List.filter_eq_nil_iff.1 (List.map_eq_nil_iff.1 h)
  refine List.any_eq_false.2 ?_
  intro field hmem
  rw [Bool.not_eq_true, Bool.eq_false_iff.2 (hnone field hmem), Bool.false_and]

/-- The length that the only Content-Length field gives. -/
theorem contentLength?_of_values {fields : List HeaderField} {text : Text} {length : Nat}
    (h : HeaderField.values "Content-Length".toList fields = [text])
    (htext : Numeral.IsDecimal text length) (hlength : length ≤ maxContentLength) :
    contentLength? fields = some length := by
  have htrim : Text.trim text = text :=
    Text.isTrimmed_of_not_isBlank fun c hc => not_isBlank_of_isDigit (htext.digits c hc)
  rw [contentLength?, HeaderField.first?_eq_head?_values, h, List.head?_singleton, Option.bind_some,
    htrim]
  exact Numeral.readNat?_of_isDecimal htext hlength

/-- A framed body is read as its fields announce it. -/
theorem Framing.bodyOf_bytes {framing : Framing} {fields : List HeaderField}
    (h : framing.IsAnnounced fields) (lineBreak : LineBreak)
    (hsize : (framing.bytes lineBreak).length < 2 ^ 64) :
    Response.bodyOf fields (framing.bytes lineBreak) = .ok framing.body := by
  cases framing with
  | toEnd body =>
    obtain ⟨hcoding, hlength⟩ := h
    have hnone : contentLength? fields = none := by
      rw [contentLength?, HeaderField.first?_eq_head?_values, hlength]
      rfl
    rw [Response.bodyOf, isChunked_of_values_eq_nil hcoding, if_neg Bool.false_ne_true, hnone]
    rfl
  | counted body more =>
    obtain ⟨hcoding, text, hlength, htext⟩ := h
    have hle : body.length ≤ maxContentLength := by
      rw [Framing.bytes, List.length_append] at hsize
      rw [maxContentLength]
      omega
    rw [Response.bodyOf, isChunked_of_values_eq_nil hcoding, if_neg Bool.false_ne_true,
      contentLength?_of_values hlength htext hle, Framing.bytes]
    exact congrArg _ List.take_left
  | chunked chunks more =>
    obtain ⟨hcoding, hne⟩ := h
    rw [Framing.bytes, List.length_append] at hsize
    have hchunk : ∀ chunk ∈ chunks, chunk.length < 2 ^ 64 := by
      intro chunk hmem
      have hle := ChunkedBody.length_le_of_mem_chunks lineBreak hmem
      omega
    have hbody := ChunkedBody.isChunkedBody_chunkedBytes lineBreak hne hchunk
    have hbound : 0 + (chunkedBytes lineBreak chunks).length ≤ ChunkedBody.sizeBound := by
      rw [ChunkedBody.sizeBound]
      omega
    have hread := ChunkedBody.readFrom_of_isChunkedBody hbody hbound more
    rw [Response.bodyOf, if_pos (isChunked_of_mem_values hcoding), ChunkedBody.read, Framing.bytes,
      hread]
    rfl

/-! ## The whole response -/

namespace ResponseDraft

variable {draft : ResponseDraft}

/-- Every line of a draft is a line of a head. -/
theorem isHeadLine_of_mem_lines (h : draft.IsWritable) :
    ∀ line ∈ draft.lines.map Utf8.encode, IsHeadLine line := by
  intro line hline
  obtain ⟨text, htext, rfl⟩ := List.mem_map.1 hline
  exact (isLineText_of_mem_lines h htext).isHeadLine_encode

/-- A draft is parted behind its head. -/
theorem partMessage?_render (h : draft.IsWritable) :
    partMessage? draft.render = some ⟨draft.head,
      (draft.lineBreak.bytes ++ draft.lineBreak.bytes).length,
      draft.framing.bytes draft.lineBreak⟩ :=
  partMessage?_headOfLines draft.lineBreak (List.cons_ne_nil _ _) (isHeadLine_of_mem_lines h) _

/-- A draft is parted where its blank line is written. -/
theorem partedOf_render (h : draft.IsWritable) :
    Response.partedOf draft.render = ⟨draft.head,
      (draft.lineBreak.bytes ++ draft.lineBreak.bytes).length,
      draft.framing.bytes draft.lineBreak⟩ := by
  rw [Response.partedOf, partMessage?_render h]
  rfl

/-- The head of a draft has the lines of the draft. -/
theorem linesOf_head (h : draft.IsWritable) :
    linesOf draft.head = draft.lines.map Utf8.encode :=
  linesOf_headOfLines draft.lineBreak (List.cons_ne_nil _ _) (isHeadLine_of_mem_lines h)

/-- A draft is a final response. -/
theorem selected_render (h : draft.IsWritable) : Response.selected draft.render = draft.render := by
  have hline : firstLine draft.head = Utf8.encode draft.statusLine := by
    rw [← headD_linesOf, linesOf_head h]
    rfl
  have hcode : statusCodeOf? (firstLine draft.render) = some draft.code := by
    have hhead : statusCodeOf? (firstLine draft.render) = statusCodeOf? (firstLine draft.head) := by
      rcases firstLine_eq_or draft.render with hfirst | hfirst
      · rw [hfirst, partedOf_render h]
      · rw [hfirst, statusCodeOf?_append_cr, partedOf_render h]
    have hparse := parse?_statusLine h
    rw [← Utf8.decodeLossy_encode draft.statusLine] at hparse
    rw [hhead, hline, statusCodeOf?_eq_of_parse? hparse, Utf8.decode?_encode]
    rfl
  have hfinal : finalResponse? draft.render = some draft.render := by
    refine finalResponse?_of_not_isInterim (lf_mem_of_partMessage? (partMessage?_render h)) ?_
    rw [hcode]
    exact h.code_final
  rw [Response.selected, hfinal]
  rfl

end ResponseDraft

namespace Response

/-- A draft is read back: its version, code and reason, its fields in order with their pieces
joined, its body, and all its bytes. -/
theorem parse_render (draft : ResponseDraft) (h : draft.IsWritable)
    (hsize : draft.render.length < 2 ^ 64) : parse draft.render = .ok draft.response := by
  have hne : draft.render ≠ [] := by
    intro hnil
    have hlf := lf_mem_of_partMessage? (ResponseDraft.partMessage?_render h)
    rw [hnil] at hlf
    cases hlf
  have hafter : (draft.framing.bytes draft.lineBreak).length < 2 ^ 64 := by
    rw [ResponseDraft.render, List.length_append, List.length_append] at hsize
    omega
  have hbody := Framing.bodyOf_bytes h.framing draft.lineBreak hafter
  unfold parse
  rw [if_neg hne, ResponseDraft.selected_render h, ResponseDraft.partedOf_render h]
  simp only [ResponseDraft.linesOf_head h, ResponseDraft.lines, List.map_cons, List.headD_cons,
    List.tail_cons, Utf8.decodeLossy_encode, ResponseDraft.parse?_statusLine h,
    ResponseDraft.foldedFields_fieldLines h, hbody]
  rfl

/-- A draft with a folded field, a field twice in two letter cases, and a chunked body in which a
status line, a blank line and a last chunk are data. -/
def noteDraft : ResponseDraft where
  lineBreak := .crlf
  major := "1".toList
  minor := "1".toList
  code := 200
  reason := some "Schön".toList
  fields :=
    [⟨"Transfer-Encoding".toList, ⟨" ".toList, "chunked".toList⟩, []⟩,
      ⟨"X-Note".toList, ⟨[], "a:b".toList⟩, [⟨"\t ".toList, "c".toList⟩]⟩,
      ⟨"x-note".toList, ⟨[], []⟩, []⟩]
  framing := .chunked
    [Utf8.encode "HTTP/1.1 404 No\r\n\r\n".toList, Utf8.encode "0\r\n\r\n".toList]
    (Utf8.encode "more".toList)

/-- The bytes of the draft. -/
example : noteDraft.render = Utf8.encode
    ("HTTP/1.1 200 Schön\r\nTransfer-Encoding: chunked\r\nX-Note:a:b\r\n\t c\r\nx-note:\r\n\r\n" ++
      "13\r\nHTTP/1.1 404 No\r\n\r\n\r\n5\r\n0\r\n\r\n\r\n0\r\n\r\nmore").toList := by
  decide +kernel

theorem isWritable_noteDraft : noteDraft.IsWritable where
  major := by decide
  minor := by decide
  code_lt := by decide
  code_final := by decide
  reason_isTrimmed := by decide
  lf_notMem_reason := by decide
  fields := by decide +kernel
  framing := ⟨by decide +kernel, by decide +kernel⟩

/-- A chunked draft with a folded field is read back, whatever its data look like. -/
theorem parse_noteDraft :
    noteDraft.IsWritable ∧ noteDraft.render.length < 2 ^ 64 ∧
      parse noteDraft.render = .ok noteDraft.response := by
  have hsize : noteDraft.render.length < 2 ^ 64 := by decide +kernel
  exact ⟨isWritable_noteDraft, hsize, parse_render noteDraft isWritable_noteDraft hsize⟩

end Response

end HttpConformance
