import HttpConformance.Proofs.Message.Folding

/-!
# Responses that are complete and cut short

The reader of a connection stops where a response is complete, by the request, the status and the
fields as they stand.  The reader of the response goes by the fields alone, with continuation lines
joined, and refuses a chunked body that has no last chunk.  Where they disagree on whether there is
a body, or on how it is framed, the first one stops in the middle of what the second one expects.

Main definition: `Response.IsCutShort`.

Main results:

- `Response.isCutShort_nil_iff`: responses to HEAD that announce chunks are cut short.
- `Response.parse_ne_chunksEndEarly_iff`: the complete responses whose last chunk is not missed are
  those that are not cut short.
- `Response.not_isCutShort_of_untouched`: responses to other requests with a body, and without
  continuation lines about framing, are not.
- `Response.not_parse_ne_chunksEndEarly`: the last chunk of some complete responses is missed.
-/

namespace HttpConformance.Response

/-- Reading stops in the middle of a chunked body, because the response answers HEAD, because its
status allows no body, or because its fields, with no continuation line joined, announce a length
instead. -/
structure IsCutShort (isHead : Bool) (head after : Bytes) : Prop where
  chunked : isChunked (joinedFieldsOf head) = true
  unfinished : ChunkedBody.read after = .incomplete
  stops : isHead = true ∨ (statusCodeOf? (firstLine head)).any isBodiless = true ∨
    isChunked (fieldsOf head) = false ∧
      (contentLength? (fieldsOf head)).any (· ≤ after.length) = true

/-- A response to HEAD is nothing but its head, and is cut short whenever this announces chunks. -/
theorem isCutShort_nil_iff {head : Bytes} :
    IsCutShort true head [] ↔ isChunked (joinedFieldsOf head) = true := by
  constructor
  · intro h
    exact h.chunked
  · intro hchunked
    have hunfinished : ChunkedBody.read [] = .incomplete := by decide +kernel
    exact ⟨hchunked, hunfinished, Or.inl rfl⟩

/-- A complete response with a status line is refused for want of its last chunk exactly when
reading has stopped in the middle of a chunked body. -/
theorem parse_ne_chunksEndEarly_iff {isHead : Bool} {received : Bytes}
    (hcomplete : isComplete isHead received = true)
    (hstatus : (StatusLine.parse? (statusTextOf (headOf received))).isSome = true) :
    parse received ≠ .error .chunksEndEarly ↔
      ¬ IsCutShort isHead (headOf received) (afterHead received) := by
  have hraw : received ≠ [] := by
    rintro rfl
    rw [isComplete_nil] at hcomplete
    cases hcomplete
  rw [Ne, parse_eq_chunksEndEarly_iff hraw hstatus, not_iff_not]
  constructor
  · rintro ⟨hchunked, hunfinished⟩
    refine ⟨hchunked, hunfinished, ?_⟩
    rcases stops_of_isComplete hcomplete with hhead | hbodiless | hbody
    · exact Or.inl hhead
    · exact Or.inr (Or.inl hbodiless)
    · refine Or.inr (Or.inr ?_)
      -- Had the chunks been seen, reading would have gone on to the last one.
      cases happart : isChunked (fieldsOf (headOf received)) with
      | true => simp [isBodyComplete, happart, hunfinished] at hbody
      | false => simpa [isBodyComplete, happart] using hbody
  · intro h
    exact ⟨h.chunked, h.unfinished⟩

/-- A response to another request than HEAD that may have a body, and whose continuation lines have
nothing to do with framing, is not cut short. -/
theorem not_isCutShort_of_untouched {head after : Bytes}
    (hbody : (statusCodeOf? (firstLine head)).any isBodiless = false)
    (huntouched : ∀ folded ∈ foldingOf (linesOf head).tail, folded.IsUntouched) :
    ¬ IsCutShort false head after := by
  have hframing : isChunked (fieldsOf head) = isChunked (joinedFieldsOf head) := by
    rw [fieldsOf, joinedFieldsOf, filterMap_ofLine?_eq_flatMap_apart, foldedFields_eq_map_joined]
    exact (isChunked_eq_iff _).2 (framesAlike_of_untouched huntouched).chunks
  intro h
  rcases h.stops with hhead | hbodiless | ⟨happart, -⟩
  · cases hhead
  · rw [hbody] at hbodiless
    cases hbodiless
  · rw [hframing, h.chunked] at happart
    cases happart

/-- A response with a chunk, the last chunk, and a byte behind it. -/
def chunkedOk : Bytes :=
  Utf8.encode "HTTP/1.1 200 OK\r\nTransfer-Encoding: chunked\r\n\r\n2\r\nok\r\n0\r\n\r\n!".toList

/-- A complete chunked response does not end early. -/
theorem parse_chunkedOk_ne_chunksEndEarly :
    isComplete false chunkedOk = true ∧
      (StatusLine.parse? (statusTextOf (headOf chunkedOk))).isSome = true ∧
      parse chunkedOk ≠ .error .chunksEndEarly := by
  have hcomplete : isComplete false chunkedOk = true := by decide +kernel
  have hstatus : (StatusLine.parse? (statusTextOf (headOf chunkedOk))).isSome = true := by
    decide +kernel
  refine ⟨hcomplete, hstatus, (parse_ne_chunksEndEarly_iff hcomplete hstatus).2 ?_⟩
  apply not_isCutShort_of_untouched <;> decide +kernel

/-- The head of a chunked response, with a status that allows a body or one that does not. -/
def chunkedHead (status : Text) : Bytes :=
  Utf8.encode ("HTTP/1.1 ".toList ++ status ++ "\r\nTransfer-Encoding: chunked\r\n\r\n".toList)

/-- The last chunk of a complete response can be missed, to HEAD and to other requests. -/
theorem not_parse_ne_chunksEndEarly :
    (¬ ∀ received, isComplete true received = true →
      (StatusLine.parse? (statusTextOf (headOf received))).isSome = true →
      parse received ≠ .error .chunksEndEarly) ∧
    ¬ ∀ received, isComplete false received = true →
      (StatusLine.parse? (statusTextOf (headOf received))).isSome = true →
      parse received ≠ .error .chunksEndEarly := by
  constructor
  · intro h
    apply h (chunkedHead "200 OK".toList) <;> decide +kernel
  · intro h
    apply h (chunkedHead "304 Not Modified".toList) <;> decide +kernel

end HttpConformance.Response
