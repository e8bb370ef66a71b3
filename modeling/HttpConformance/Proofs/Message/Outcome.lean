import HttpConformance.Message.Response
import HttpConformance.Proofs.Message.Growth

/-!
# What some bytes say as a response

A response is read from a head and the bytes after it.  The reader of a connection has decided where
to stop by the fields of that head, and the reader of the response decides by them again what the
body is; here is when more bytes make a difference to what is read.

Main definitions: `Response.outcomeOf`, `Response.assemble`, `Response.IsSettled`.

Main results:

- `Response.outcomeOf_eq_assemble`: what is read depends on the head and the bytes after it alone.
- `Response.bodyOf_append_eq_iff`: when more bytes leave the body as it is.
- `Response.outcomeOf_append_eq_iff`: when more bytes leave what is read of a complete response as
  it is.
- `foldedFields_eq_filterMap`: without continuation lines there is one field for each line with a
  colon.
-/

namespace HttpConformance

/-! ## Heads without continuation lines -/

/-- Lines that continue nothing are fields of their own. -/
theorem foldl_addFieldLine {lines : List Bytes}
    (h : ∀ line ∈ lines, isContinuation line = false) (fields : List HeaderField) :
    lines.foldl addFieldLine fields = (lines.filterMap HeaderField.ofLine?).reverse ++ fields := by
  induction lines generalizing fields with
  | nil => rfl
  | cons line lines ih =>
    have hline : isContinuation line = false := h line List.mem_cons_self
    have hlines : ∀ other ∈ lines, isContinuation other = false := by
      intro other hother
      exact h other (List.mem_cons_of_mem line hother)
    rw [List.foldl_cons, ih hlines]
    cases hfield : HeaderField.ofLine? line with
    | none => simp [addFieldLine, hline, hfield]
    | some field => simp [addFieldLine, hline, hfield]

/-- Without continuation lines there is one field for each line with a colon. -/
theorem foldedFields_eq_filterMap {lines : List Bytes}
    (h : ∀ line ∈ lines, isContinuation line = false) :
    foldedFields lines = lines.filterMap HeaderField.ofLine? := by
  rw [foldedFields, foldl_addFieldLine h, List.append_nil, List.reverse_reverse]

namespace Response

/-! ## A head and the bytes after it -/

/-- The head of the final response among some bytes. -/
def headOf (raw : Bytes) : Bytes :=
  (partedOf (selected raw)).head

/-- The bytes after the head of the final response. -/
def afterHead (raw : Bytes) : Bytes :=
  (partedOf (selected raw)).body

/-- The text of the first line of a head. -/
def statusTextOf (head : Bytes) : Text :=
  Utf8.decodeLossy ((linesOf head).headD [])

/-- The header fields of a head, with continuation lines joined. -/
def joinedFieldsOf (head : Bytes) : List HeaderField :=
  foldedFields (linesOf head).tail

/-- The response that a head and the bytes after it make. -/
def assemble (head after : Bytes) : Except ResponseError Response :=
  match StatusLine.parse? (statusTextOf head) with
  | none => .error (.invalidStatusLine (statusTextOf head))
  | some status =>
    (bodyOf (joinedFieldsOf head) after).map fun body =>
      ⟨statusTextOf head, status.version, status.code, status.reason, joinedFieldsOf head, body, []⟩

/-- A response without the bytes it was read from. -/
def withoutRaw (response : Response) : Response :=
  { response with raw := [] }

/-- What some bytes say as a response, apart from the bytes themselves. -/
def outcomeOf (raw : Bytes) : Except ResponseError Response :=
  (parse raw).map withoutRaw

/-- What is read of some bytes depends on the head and the bytes after it alone. -/
theorem outcomeOf_eq_assemble {raw : Bytes} (h : raw ≠ []) :
    outcomeOf raw = assemble (headOf raw) (afterHead raw) := by
  unfold outcomeOf parse assemble
  rw [if_neg h]
  dsimp only [statusTextOf, joinedFieldsOf, headOf, afterHead]
  cases StatusLine.parse?
      (Utf8.decodeLossy ((linesOf (partedOf (selected raw)).head).headD [])) with
  | none => rfl
  | some status =>
    dsimp only
    cases bodyOf (foldedFields (linesOf (partedOf (selected raw)).head).tail)
      (partedOf (selected raw)).body <;> rfl

/-- A response of which something is known has been read. -/
theorem exists_of_map_toOption {α : Type} {raw : Bytes} {f : Response → α} {a : α}
    (h : (parse raw).toOption.map f = some a) :
    ∃ response, parse raw = .ok response ∧ f response = a := by
  cases hparse : parse raw with
  | error error =>
    rw [hparse] at h
    cases h
  | ok response =>
    rw [hparse] at h
    exact ⟨response, rfl, Option.some.inj h⟩

/-- What a response that is read owes to the head and to the bytes after it. -/
theorem of_parse_eq_ok {raw : Bytes} {response : Response} (h : parse raw = .ok response) :
    ∃ status, StatusLine.parse? (statusTextOf (headOf raw)) = some status ∧
      response.code = status.code ∧ response.fields = joinedFieldsOf (headOf raw) ∧
      bodyOf response.fields (afterHead raw) = .ok response.body := by
  unfold parse at h
  split at h
  · cases h
  · dsimp only at h
    split at h
    · cases h
    · rename_i status hstatus
      split at h
      · cases h
      · rename_i body hbody
        cases h
        exact ⟨status, hstatus, rfl, rfl, hbody⟩

/-- A chunked body ends early exactly when more bytes could complete it. -/
theorem bodyOf_eq_chunksEndEarly_iff {fields : List HeaderField} {bytes : Bytes} :
    bodyOf fields bytes = .error .chunksEndEarly ↔
      isChunked fields = true ∧ ChunkedBody.read bytes = .incomplete := by
  unfold bodyOf
  cases isChunked fields with
  | true => cases ChunkedBody.read bytes <;> simp
  | false => cases contentLength? fields <;> simp

/-- The chunks of a response with a status line end early when its fields, with continuation lines
joined, announce a chunked body that is not all there. -/
theorem parse_eq_chunksEndEarly_iff {raw : Bytes} (hraw : raw ≠ [])
    (hstatus : (StatusLine.parse? (statusTextOf (headOf raw))).isSome = true) :
    parse raw = .error .chunksEndEarly ↔
      isChunked (joinedFieldsOf (headOf raw)) = true ∧
        ChunkedBody.read (afterHead raw) = .incomplete := by
  obtain ⟨status, hsome⟩ := Option.isSome_iff_exists.1 hstatus
  have houtcome : outcomeOf raw = .error .chunksEndEarly ↔ parse raw = .error .chunksEndEarly := by
    unfold outcomeOf
    cases parse raw <;> simp [Except.map]
  rw [← houtcome, outcomeOf_eq_assemble hraw, assemble, hsome, ← bodyOf_eq_chunksEndEarly_iff]
  cases bodyOf (joinedFieldsOf (headOf raw)) (afterHead raw) <;> simp [Except.map]

/-- Two endings of a head say the same when its status line is none, or when they hold the same
body. -/
theorem assemble_eq_iff {head first second : Bytes} :
    assemble head first = assemble head second ↔
      StatusLine.parse? (statusTextOf head) = none ∨
        bodyOf (joinedFieldsOf head) first = bodyOf (joinedFieldsOf head) second := by
  unfold assemble
  cases StatusLine.parse? (statusTextOf head) with
  | none => simp
  | some status =>
    cases bodyOf (joinedFieldsOf head) first <;> cases bodyOf (joinedFieldsOf head) second <;>
      simp [Except.map]

/-! ## More bytes -/

/-- More bytes change nothing in a chunked body exactly when it is complete, or incomplete with
them, too. -/
theorem bodyOf_append_of_isChunked {fields : List HeaderField} (hchunked : isChunked fields = true)
    {body more : Bytes} :
    bodyOf fields (body ++ more) = bodyOf fields body ↔
      isBodyComplete fields body = true ∨ ChunkedBody.read (body ++ more) = .incomplete := by
  unfold bodyOf isBodyComplete
  rw [if_pos hchunked, if_pos hchunked, if_pos hchunked, decide_eq_true_eq]
  by_cases hread : ChunkedBody.read body = .incomplete
  · rw [hread]
    cases ChunkedBody.read (body ++ more) <;> simp
  · rw [ChunkedBody.read_append hread]
    cases hbody : ChunkedBody.read body with
    | incomplete => exact absurd hbody hread
    | complete content rest => simp [ChunkedBody.Reading.followedBy]
    | malformed error => simp [ChunkedBody.Reading.followedBy]

/-- More bytes change nothing in a body of another kind exactly when it is complete. -/
theorem bodyOf_append_of_not_isChunked {fields : List HeaderField}
    (hchunked : ¬ isChunked fields = true) {body more : Bytes} :
    bodyOf fields (body ++ more) = bodyOf fields body ↔
      more = [] ∨ isBodyComplete fields body = true := by
  unfold bodyOf isBodyComplete
  rw [if_neg hchunked, if_neg hchunked, if_neg hchunked]
  cases contentLength? fields with
  | none => simp
  | some length =>
    simp only [Except.ok.injEq, Option.any_some, decide_eq_true_eq]
    rw [List.take_append, List.append_right_eq_self, List.take_eq_nil_iff, Nat.sub_eq_zero_iff_le]
    exact or_comm

/-- More bytes leave the body as it is when the fields say that it was all there, or when a chunked
body has not ended yet. -/
theorem bodyOf_append_eq_iff {fields : List HeaderField} {body more : Bytes} :
    bodyOf fields (body ++ more) = bodyOf fields body ↔
      more = [] ∨ isBodyComplete fields body = true ∨
        isChunked fields = true ∧ ChunkedBody.read (body ++ more) = .incomplete := by
  by_cases hmore : more = []
  · simp [hmore]
  · by_cases hchunked : isChunked fields = true
    · simp only [bodyOf_append_of_isChunked hchunked, hmore, hchunked, true_and, false_or]
    · simp only [bodyOf_append_of_not_isChunked hchunked, hchunked, Bool.false_eq_true, false_and,
        or_false]

/-- Why the reader of a connection takes a response for complete. -/
theorem stops_of_isComplete {isHead : Bool} {received : Bytes}
    (h : isComplete isHead received = true) :
    isHead = true ∨ (statusCodeOf? (firstLine (headOf received))).any isBodiless = true ∨
      isBodyComplete (fieldsOf (headOf received)) (afterHead received) = true := by
  obtain ⟨final, parted, hfinal, hpart, hcomplete⟩ := isComplete_iff.1 h
  have hparted : partedOf (selected received) = parted := by
    simp only [selected, hfinal, Option.getD_some, partedOf, hpart]
  rw [headOf, afterHead, hparted]
  exact hcomplete

/-- More bytes behind a complete response are more bytes behind its head. -/
theorem partedOf_selected_append {isHead : Bool} {received : Bytes}
    (h : isComplete isHead received = true) (more : Bytes) :
    partedOf (selected (received ++ more)) =
      { partedOf (selected received) with
        body := (partedOf (selected received)).body ++ more } := by
  obtain ⟨final, parted, hfinal, hpart, -⟩ := isComplete_iff.1 h
  have hfinalMore := finalResponse?_append hfinal more
  have hpartMore := partMessage?_append hpart more
  simp only [selected, partedOf, hfinal, hpart, hfinalMore, hpartMore, Option.getD_some]

/-- More bytes say nothing new behind a response: there are none, its status line is none, its
fields, with continuation lines joined, say that the body was all there, or they announce a chunked
body that does not end in these bytes either. -/
def IsSettled (received more : Bytes) : Prop :=
  more = [] ∨ StatusLine.parse? (statusTextOf (headOf received)) = none ∨
    isBodyComplete (joinedFieldsOf (headOf received)) (afterHead received) = true ∨
    isChunked (joinedFieldsOf (headOf received)) = true ∧
      ChunkedBody.read (afterHead received ++ more) = .incomplete

/-- What is settled for some bytes is settled for those at their front. -/
theorem IsSettled.of_front {received more front : Bytes} (h : IsSettled received more)
    (hfront : front <+: more) : IsSettled received front := by
  rcases h with rfl | hstatus | hbody | ⟨hchunked, hread⟩
  · exact Or.inl (List.prefix_nil.1 hfront)
  · exact Or.inr (Or.inl hstatus)
  · exact Or.inr (Or.inr (Or.inl hbody))
  · obtain ⟨rest, rfl⟩ := hfront
    rw [← List.append_assoc] at hread
    exact Or.inr (Or.inr (Or.inr ⟨hchunked, ChunkedBody.read_eq_incomplete_of_append hread⟩))

/-- When more bytes leave what is read of a complete response as it is. -/
theorem outcomeOf_append_eq_iff {isHead : Bool} {received : Bytes}
    (h : isComplete isHead received = true) (more : Bytes) :
    outcomeOf (received ++ more) = outcomeOf received ↔ IsSettled received more := by
  have hne : received ≠ [] := by
    rintro rfl
    rw [isComplete_nil] at h
    cases h
  have hneMore : received ++ more ≠ [] := by simp [hne]
  have hparted := partedOf_selected_append h more
  have hhead : headOf (received ++ more) = headOf received := by rw [headOf, hparted, headOf]
  have hafter : afterHead (received ++ more) = afterHead received ++ more := by
    rw [afterHead, hparted, afterHead]
  rw [outcomeOf_eq_assemble hneMore, outcomeOf_eq_assemble hne, hhead, hafter, assemble_eq_iff,
    bodyOf_append_eq_iff, IsSettled]
  exact or_left_comm

end Response

end HttpConformance
