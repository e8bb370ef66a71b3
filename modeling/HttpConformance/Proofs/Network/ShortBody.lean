import HttpConformance.Network.Reading
import HttpConformance.Proofs.Message.Folding
import HttpConformance.Proofs.Message.StatusLine

/-!
# Bodies that arrive short

A response that has been read should hold the body that its fields announce.  A chunked body is
always all there, because the reader of the response refuses it otherwise.  A body with a length is
not when the server ended the connection before the response was complete, in order or by a reset,
and when the fields announced less before their continuation lines were joined.

Main definitions: `Reading.EndsEarly`, `Response.ArrivesShort`.

Main results:

- `Reading.stops_of_collect`: reading stops at a complete response or ends early.
- `Response.announcedBody_iff`: when a response that has been read holds the announced body.
- `Response.ArrivesShort.endsEarly`: without continuation lines about framing only the end of the
  connection makes a body short.
- `Response.not_announcedBody`: not every response that is read holds the announced body.
-/

namespace HttpConformance

/-! ## The end of a connection -/

namespace Reading

/-- The reads yield these bytes, behind the ones received before, and then the connection ends: the
server closes it, or resets it after some bytes. -/
inductive Ends : Bytes → List ReadEvent → Bytes → Option SystemError → Prop
  | closed {received : Bytes} {rest : List ReadEvent} :
    Ends received (.closed :: rest) received none
  | reset {received : Bytes} {error : SystemError} {rest : List ReadEvent} (hne : received ≠ [])
      (hreset : isReset error.kind = true) :
    Ends received (.failed error :: rest) received (some error)
  | later {received piece bytes : Bytes} {rest : List ReadEvent} {reset : Option SystemError}
      (hrest : Ends (received ++ piece) rest bytes reset) :
    Ends received (.data piece :: rest) bytes reset

/-- The connection ends before its bytes are a complete response. -/
structure EndsEarly (isHead : Bool) (events : List ReadEvent) (bytes : Bytes)
    (reset : Option SystemError) : Prop where
  incomplete : isComplete isHead bytes = false
  ends : Ends [] events bytes reset

/-- A step that goes on has taken in one more piece. -/
theorem step_eq_inl {isHead : Bool} {received more : Bytes} {event : ReadEvent}
    (h : step isHead received event = .inl more) :
    ∃ piece, event = .data piece ∧ more = received ++ piece := by
  cases event with
  | data piece =>
    rw [step] at h
    split at h
    · cases h
    · cases h
      exact ⟨piece, rfl, rfl⟩
  | closed => cases h
  | failed error =>
    rw [step] at h
    split at h <;> cases h

/-- A step that stops has completed the response, or met the end of the connection. -/
theorem step_eq_received {isHead : Bool} {received bytes : Bytes} {event : ReadEvent}
    {reset : Option SystemError} (h : step isHead received event = .inr (.received bytes reset))
    (rest : List ReadEvent) :
    isComplete isHead bytes = true ∨ Ends received (event :: rest) bytes reset := by
  cases event with
  | data piece =>
    rw [step] at h
    split at h
    · rename_i hcomplete
      cases h
      exact Or.inl hcomplete
    · cases h
  | closed =>
    cases h
    exact Or.inr .closed
  | failed error =>
    rw [step] at h
    split at h
    · rename_i hreset
      cases h
      exact Or.inr (.reset hreset.1 hreset.2)
    · cases h

/-- Reading stops at a complete response, or where the connection ends. -/
theorem complete_or_ends_of_collect {isHead : Bool} {received bytes : Bytes}
    {events : List ReadEvent} {reset : Option SystemError}
    (h : collect isHead received events = .received bytes reset) :
    isComplete isHead bytes = true ∨ Ends received events bytes reset := by
  induction events generalizing received with
  | nil => cases h
  | cons event events ih =>
    rw [collect] at h
    cases hstep : step isHead received event with
    | inl more =>
      rw [hstep] at h
      obtain ⟨piece, rfl, rfl⟩ := step_eq_inl hstep
      exact (ih h).imp_right .later
    | inr reading =>
      rw [hstep] at h
      have hreading : reading = .received bytes reset := h
      rw [hreading] at hstep
      exact step_eq_received hstep events

/-- Reading stops at a complete response or ends early. -/
theorem stops_of_collect {isHead : Bool} {events : List ReadEvent} {bytes : Bytes}
    {reset : Option SystemError} (h : collect isHead [] events = .received bytes reset) :
    isComplete isHead bytes = true ∨ EndsEarly isHead events bytes reset := by
  cases hcomplete : isComplete isHead bytes with
  | true => exact Or.inl rfl
  | false =>
    rcases complete_or_ends_of_collect h with htrue | hends
    · rw [hcomplete] at htrue
      cases htrue
    · exact Or.inr ⟨hcomplete, hends⟩

end Reading

namespace Response

/-! ## The body of a response -/

/-- A chunked response that is read holds the content of a chunked body that is all there. -/
theorem read_eq_complete_of_parse {raw : Bytes} {response : Response} (h : parse raw = .ok response)
    (hchunked : isChunked response.fields = true) :
    ∃ rest, ChunkedBody.read (afterHead raw) = .complete response.body rest := by
  obtain ⟨status, -, -, -, hbody⟩ := of_parse_eq_ok h
  rw [bodyOf, if_pos hchunked] at hbody
  split at hbody
  · rename_i content rest hread
    cases hbody
    exact ⟨rest, hread⟩
  · cases hbody
  · cases hbody

/-- A response with a length that is read holds that many of the bytes behind its head, or all. -/
theorem body_eq_take_of_parse {raw : Bytes} {response : Response} {length : Nat}
    (h : parse raw = .ok response) (hchunked : isChunked response.fields = false)
    (hlength : contentLength? response.fields = some length) :
    response.body = (afterHead raw).take length := by
  obtain ⟨status, -, -, -, hbody⟩ := of_parse_eq_ok h
  rw [bodyOf, if_neg (Bool.eq_false_iff.1 hchunked), hlength] at hbody
  exact (Except.ok.inj hbody).symm

/-- The status that the reader of a connection takes for one without a body is one. -/
theorem isBodiless_code_of_parse {raw : Bytes} {response : Response} (h : parse raw = .ok response)
    (hbodiless : (statusCodeOf? (firstLine (headOf raw))).any isBodiless = true) :
    isBodiless response.code = true := by
  rw [statusCodeOf?_headOf h] at hbodiless
  cases htext : Utf8.decode? (firstLine (headOf raw)) with
  | none =>
    rw [htext] at hbodiless
    cases hbodiless
  | some text =>
    rw [htext] at hbodiless
    exact hbodiless

/-! ## Short bodies -/

/-- Fewer bytes than announced came behind the head: the connection ended early, or the fields
announced no more while their continuation lines were not joined. -/
structure ArrivesShort (events : List ReadEvent) (bytes : Bytes) (reset : Option SystemError)
    (length : Nat) : Prop where
  short : (afterHead bytes).length < length
  cause : Reading.EndsEarly false events bytes reset ∨
    isBodyComplete (fieldsOf (headOf bytes)) (afterHead bytes) = true

/-- Without continuation lines about framing only the end of the connection makes a body short. -/
theorem ArrivesShort.endsEarly {events : List ReadEvent} {bytes : Bytes}
    {reset : Option SystemError} {response : Response} {length : Nat}
    (h : ArrivesShort events bytes reset length)
    (hparse : parse bytes = .ok response) (hchunked : isChunked response.fields = false)
    (hlength : contentLength? response.fields = some length)
    (huntouched : ∀ folded ∈ foldingOf (linesOf (headOf bytes)).tail, folded.IsUntouched) :
    Reading.EndsEarly false events bytes reset := by
  rcases h.cause with hends | hcomplete
  · exact hends
  · obtain ⟨hchunks, hlengths⟩ := (framing_eq_iff hparse).2 (framesAlike_of_untouched huntouched)
    have hle : length ≤ (afterHead bytes).length := by
      simpa [isBodyComplete, hchunks, hlengths, hchunked, hlength] using hcomplete
    have hshort := h.short
    omega

/-- What a response to another request than HEAD holds when it has been read: a chunked body is all
there, and a body whose length is announced is exactly that long unless it arrived short. -/
theorem announcedBody_iff {events : List ReadEvent} {bytes : Bytes} {reset : Option SystemError}
    {response : Response} (hcollect : Reading.collect false [] events = .received bytes reset)
    (hparse : parse bytes = .ok response) (hcode : isBodiless response.code = false) :
    (isChunked response.fields = true →
      ∃ rest, ChunkedBody.read (afterHead bytes) = .complete response.body rest) ∧
    (isChunked response.fields = false →
      ∀ length, contentLength? response.fields = some length →
        (response.body.length = length ↔ ¬ ArrivesShort events bytes reset length)) := by
  constructor
  · intro hchunked
    exact read_eq_complete_of_parse hparse hchunked
  · intro hchunked length hlength
    have hbody : response.body.length = min length (afterHead bytes).length := by
      rw [body_eq_take_of_parse hparse hchunked hlength, List.length_take]
    have hcause : Reading.EndsEarly false events bytes reset ∨
        isBodyComplete (fieldsOf (headOf bytes)) (afterHead bytes) = true := by
      rcases Reading.stops_of_collect hcollect with hcomplete | hends
      · rcases stops_of_isComplete hcomplete with hhead | hbodiless | hall
        · cases hhead
        · rw [isBodiless_code_of_parse hparse hbodiless] at hcode
          cases hcode
        · exact Or.inr hall
      · exact Or.inl hends
    constructor
    · intro hexact hshort
      have hless := hshort.short
      omega
    · intro hnot
      by_contra hne
      exact hnot ⟨by omega, hcause⟩

/-- A response that announces two bytes, and one byte more. -/
def okAndMore : Bytes :=
  Utf8.encode "HTTP/1.1 200 OK\r\nContent-Length: 2\r\n\r\nok!".toList

/-- A read that ends inside the only field, and the read of what is left. -/
def cutInsideField : List ReadEvent :=
  [.data (okAndMore.take 25), .data (okAndMore.drop 25), .closed]

/-- A body that is announced arrives as a whole although a read ends inside the head. -/
theorem announcedBody_cutInsideField :
    ∃ response, Reading.collect false [] cutInsideField = .received okAndMore none ∧
      parse okAndMore = .ok response ∧ isBodiless response.code = false ∧
      isChunked response.fields = false ∧ contentLength? response.fields = some 2 ∧
      response.body.length = 2 := by
  have hcollect : Reading.collect false [] cutInsideField = .received okAndMore none := by
    decide +kernel
  have hfacts : (parse okAndMore).toOption.map (fun response =>
      (isBodiless response.code, isChunked response.fields, contentLength? response.fields)) =
        some (false, false, some 2) := by decide +kernel
  have hafter : (afterHead okAndMore).length = 3 := by decide +kernel
  obtain ⟨response, h, hresponse⟩ := exists_of_map_toOption hfacts
  obtain ⟨hcode, hchunked, hlength⟩ : isBodiless response.code = false ∧
      isChunked response.fields = false ∧ contentLength? response.fields = some 2 := by
    simpa using hresponse
  have hbody := (announcedBody_iff hcollect h hcode).2 hchunked 2 hlength
  refine ⟨response, hcollect, h, hcode, hchunked, hlength, hbody.2 ?_⟩
  intro hshort
  have hless := hshort.short
  omega

/-- A response that announces ten bytes, and five of them. -/
def halfBody : Bytes :=
  Utf8.encode "HTTP/1.1 200 OK\r\nContent-Length: 10\r\n\r\nshort".toList

/-- A body that the server has not sent to its end is read as a whole one. -/
theorem not_announcedBody :
    ¬ ∀ events bytes reset response, (∀ piece, ReadEvent.data piece ∈ events → piece ≠ []) →
      Reading.collect false [] events = .received bytes reset → parse bytes = .ok response →
      isBodiless response.code = false → isChunked response.fields = false →
      ∀ length, contentLength? response.fields = some length → response.body.length = length := by
  intro h
  have hpieces : ∀ piece, ReadEvent.data piece ∈ [ReadEvent.data halfBody, .closed] →
      piece ≠ [] := by
    intro piece hpiece
    have hhalf : piece = halfBody := by simpa using hpiece
    rw [hhalf]
    decide +kernel
  have hcollect : Reading.collect false [] [.data halfBody, .closed] = .received halfBody none := by
    decide +kernel
  have hfacts : (parse halfBody).toOption.map (fun response =>
      (isBodiless response.code, isChunked response.fields, contentLength? response.fields,
        response.body.length)) = some (false, false, some 10, 5) := by decide +kernel
  obtain ⟨response, hparse, hresponse⟩ := exists_of_map_toOption hfacts
  obtain ⟨hcode, hchunked, hlength, hbody⟩ : isBodiless response.code = false ∧
      isChunked response.fields = false ∧ contentLength? response.fields = some 10 ∧
        response.body.length = 5 := by
    simpa using hresponse
  have hten := h _ halfBody none response hpieces hcollect hparse hcode hchunked 10 hlength
  omega

end Response

end HttpConformance
