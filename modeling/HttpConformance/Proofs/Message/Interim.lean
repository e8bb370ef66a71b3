import HttpConformance.Proofs.Message.StatusLine

/-!
# Interim responses

A server may send interim responses before the final one.  Each is a head that ends with a blank
line, and the reader of the response passes over it and goes on behind it.  It gives up when a
status line is not UTF-8, and also when the message behind the last interim response does not have a
complete status line; then an interim response is read in the place of the final one.

Main definitions: `IsInterimHead`, `ArePassedOver`.

Main results:

- `finalResponse?_eq_ite`: the final response, by the first line of a message.
- `finalResponse?_flatten_append`: interim responses in front of a message do not change its final
  response when they are passed over.
- `Response.outcomeOf_behind_interim`: when interim responses do not change what is read.
- `Response.not_outcomeOf_behind_interim`: they sometimes do.
-/

namespace HttpConformance

/-! ## The first line and the final response -/

theorem firstLine_of_cutAt {bytes line rest : Bytes} (h : cutAt lf bytes = some (line, rest)) :
    firstLine bytes = withoutLast cr line := by
  obtain ⟨rfl, hlf⟩ := cutAt_eq_some_iff.1 h
  rw [firstLine, takeWhile_append_cons hlf]

/-- The first line of a message is settled once its line feed is there. -/
theorem firstLine_append {bytes : Bytes} (h : lf ∈ bytes) (more : Bytes) :
    firstLine (bytes ++ more) = firstLine bytes := by
  obtain ⟨⟨line, rest⟩, hcut⟩ := Option.isSome_iff_exists.1 (isSome_cutAt_iff.2 h)
  rw [firstLine_of_cutAt hcut, firstLine_of_cutAt (cutAt_append hcut more)]

/-- The final response is the message itself, unless its first line is that of an interim response;
then it is the final response of what follows the head. -/
theorem finalResponse?_eq_ite (message : Bytes) :
    finalResponse? message =
      if lf ∈ message then
        if (statusCodeOf? (firstLine message)).any isInterim then
          (partMessage? message).bind (finalResponse? ·.body)
        else some message
      else none := by
  rw [finalResponse?]
  split
  · rename_i hnone
    rw [if_neg (cutAt_eq_none_iff.1 hnone)]
  · rename_i line rest hcut
    have hlf : lf ∈ message := isSome_cutAt_iff.1 (by rw [hcut]; rfl)
    rw [if_pos hlf, firstLine_of_cutAt hcut]
    split
    · split
      · rename_i hnone
        rw [hnone]
        rfl
      · rename_i parted hparted
        have hbind : (partMessage? message).bind (finalResponse? ·.body) =
            finalResponse? parted.body := by
          rw [hparted]
          rfl
        exact hbind.symm
    · rfl

theorem lf_mem_of_partMessage? {message : Bytes} {parted : Parted UInt8}
    (h : partMessage? message = some parted) : lf ∈ message := by
  obtain ⟨gap, hgap, -, rfl⟩ := eq_append_of_partAtBlankLine? (by decide) h
  have hlf : lf ∈ gap := by
    rcases hgap with rfl | rfl <;> decide
  exact List.mem_append_left _ (List.mem_append_right _ hlf)

/-- A message whose first line is no interim one is final. -/
theorem finalResponse?_of_not_isInterim {message : Bytes} (hlf : lf ∈ message)
    (h : (statusCodeOf? (firstLine message)).any isInterim = false) :
    finalResponse? message = some message := by
  rw [finalResponse?_eq_ite, if_pos hlf, h]
  rfl

/-- A message that does not begin like an interim response has a final one as soon as its first line
is complete. -/
theorem isSome_finalResponse?_iff {message : Bytes}
    (h : (statusCodeOf? (firstLine message)).any isInterim = false) :
    (finalResponse? message).isSome = true ↔ lf ∈ message := by
  rw [finalResponse?_eq_ite, h]
  by_cases hlf : lf ∈ message <;> simp [hlf]

/-! ## Interim heads -/

/-- The head of an interim response, with the blank line that ends it. -/
def IsInterimHead (bytes : Bytes) : Prop :=
  ∃ parted status, partMessage? bytes = some parted ∧ parted.body = [] ∧
    StatusLine.parse? (Response.statusTextOf parted.head) = some status ∧
    isInterim status.code = true

/-- The first line of some bytes is UTF-8. -/
def HasTextLine (bytes : Bytes) : Prop :=
  (Utf8.decode? (firstLine bytes)).isSome = true

instance (bytes : Bytes) : Decidable (HasTextLine bytes) :=
  inferInstanceAs (Decidable (_ = true))

/-- The reader of a connection takes the first line of an interim head for that of an interim
response exactly when it is UTF-8. -/
theorem IsInterimHead.any_isInterim {head : Bytes} (h : IsInterimHead head) :
    (statusCodeOf? (firstLine head)).any isInterim = true ↔ HasTextLine head := by
  obtain ⟨parted, status, hparted, -, hstatus, hinterim⟩ := h
  have hpartedOf : Response.partedOf head = parted := by
    rw [Response.partedOf, hparted]
    rfl
  have hcode : statusCodeOf? (firstLine head) =
      (Utf8.decode? (firstLine parted.head)).map fun _ => status.code := by
    rw [Response.statusTextOf, headD_linesOf] at hstatus
    rw [← statusCodeOf?_eq_of_parse? hstatus]
    rcases firstLine_eq_or head with hline | hline
    · rw [hline, hpartedOf]
    · rw [hline, statusCodeOf?_append_cr, hpartedOf]
  have htext : HasTextLine head ↔ (Utf8.decode? (firstLine parted.head)).isSome = true := by
    unfold HasTextLine
    rcases firstLine_eq_or head with hline | hline
    · rw [hline, hpartedOf]
    · rw [hline, decode?_append_cr, Option.isSome_map, hpartedOf]
  rw [hcode, htext]
  cases Utf8.decode? (firstLine parted.head) <;> simp [hinterim]

theorem IsInterimHead.lf_mem {head : Bytes} (h : IsInterimHead head) : lf ∈ head := by
  obtain ⟨parted, status, hparted, -⟩ := h
  exact lf_mem_of_partMessage? hparted

/-- An interim head ends at its own blank line, whatever follows. -/
theorem IsInterimHead.partMessage?_append {head : Bytes} (h : IsInterimHead head) (rest : Bytes) :
    ∃ parted, partMessage? head = some parted ∧
      partMessage? (head ++ rest) = some { parted with body := rest } := by
  obtain ⟨parted, status, hparted, hbody, -⟩ := h
  refine ⟨parted, hparted, ?_⟩
  rw [HttpConformance.partMessage?_append hparted rest, hbody, List.nil_append]

/-- An interim head is passed over when its first line is UTF-8. -/
theorem finalResponse?_of_hasTextLine {head : Bytes} (h : IsInterimHead head)
    (htext : HasTextLine head) (rest : Bytes) :
    finalResponse? (head ++ rest) = finalResponse? rest := by
  obtain ⟨parted, -, hparted⟩ := h.partMessage?_append rest
  have hinterim : (statusCodeOf? (firstLine (head ++ rest))).any isInterim = true := by
    rw [firstLine_append h.lf_mem]
    exact h.any_isInterim.2 htext
  rw [finalResponse?_eq_ite, if_pos (List.mem_append_left rest h.lf_mem), if_pos hinterim, hparted]
  rfl

/-- An interim head whose first line is not UTF-8 is taken for the final response. -/
theorem finalResponse?_of_not_hasTextLine {head : Bytes} (h : IsInterimHead head)
    (htext : ¬ HasTextLine head) (rest : Bytes) :
    finalResponse? (head ++ rest) = some (head ++ rest) := by
  refine finalResponse?_of_not_isInterim (List.mem_append_left rest h.lf_mem) ?_
  rw [firstLine_append h.lf_mem, Bool.eq_false_iff]
  exact mt h.any_isInterim.1 htext

/-- Interim heads in front of a message are passed over together. -/
theorem finalResponse?_flatten_append {heads : List Bytes}
    (hheads : ∀ head ∈ heads, IsInterimHead head) (htext : ∀ head ∈ heads, HasTextLine head)
    (message : Bytes) : finalResponse? (heads.flatten ++ message) = finalResponse? message := by
  induction heads with
  | nil => rfl
  | cons head heads ih =>
    rw [List.flatten_cons, List.append_assoc,
      finalResponse?_of_hasTextLine (hheads head List.mem_cons_self)
        (htext head List.mem_cons_self)]
    refine ih ?_ ?_
    · intro other hother
      exact hheads other (List.mem_cons_of_mem head hother)
    · intro other hother
      exact htext other (List.mem_cons_of_mem head hother)

/-- The first head that is not passed over is taken for the final response, with everything behind
it. -/
theorem exists_finalResponse?_of_not_hasTextLine {heads : List Bytes}
    (hheads : ∀ head ∈ heads, IsInterimHead head) (htext : ¬ ∀ head ∈ heads, HasTextLine head)
    (message : Bytes) :
    ∃ head ∈ heads, ∃ rest, finalResponse? (heads.flatten ++ message) = some (head ++ rest) := by
  induction heads with
  | nil => exact absurd (by simp) htext
  | cons head heads ih =>
    have hhead : IsInterimHead head := hheads head List.mem_cons_self
    rw [List.flatten_cons, List.append_assoc]
    by_cases hline : HasTextLine head
    · have hrest : ¬ ∀ other ∈ heads, HasTextLine other := by
        intro hall
        exact htext (List.forall_mem_cons.2 ⟨hline, hall⟩)
      have hothers : ∀ other ∈ heads, IsInterimHead other := by
        intro other hother
        exact hheads other (List.mem_cons_of_mem head hother)
      obtain ⟨found, hfound, rest, hfinal⟩ := ih hothers hrest
      rw [finalResponse?_of_hasTextLine hhead hline]
      exact ⟨found, List.mem_cons_of_mem head hfound, rest, hfinal⟩
    · exact ⟨head, List.mem_cons_self, heads.flatten ++ message,
        finalResponse?_of_not_hasTextLine hhead hline _⟩

/-! ## Reading behind interim heads -/

/-- Interim heads are passed over in front of a message: their first lines are UTF-8, and the
message has a final response to go on to. -/
structure ArePassedOver (heads : List Bytes) (message : Bytes) : Prop where
  text : ∀ head ∈ heads, HasTextLine head
  final : heads ≠ [] → (finalResponse? message).isSome = true

namespace Response

/-- What becomes of a message depends on the final response alone. -/
theorem outcomeOf_eq_of_selected_eq {first second : Bytes} (hfirst : first ≠ [])
    (hsecond : second ≠ []) (h : selected first = selected second) :
    outcomeOf first = outcomeOf second := by
  rw [outcomeOf_eq_assemble hfirst, outcomeOf_eq_assemble hsecond, headOf, headOf, afterHead,
    afterHead, h]

/-- Interim heads that are passed over do not change what is read. -/
theorem outcomeOf_of_arePassedOver {heads : List Bytes}
    (hheads : ∀ head ∈ heads, IsInterimHead head) {message : Bytes}
    (h : ArePassedOver heads message) :
    outcomeOf (heads.flatten ++ message) = outcomeOf message := by
  cases heads with
  | nil => rfl
  | cons head heads =>
    have hfinal : (finalResponse? message).isSome = true := h.final (List.cons_ne_nil _ _)
    have hmessage : message ≠ [] := by
      rintro rfl
      rw [finalResponse?_eq_ite, if_neg List.not_mem_nil] at hfinal
      cases hfinal
    have hall : (head :: heads).flatten ++ message ≠ [] := by
      intro hnil
      exact hmessage (List.append_eq_nil_iff.1 hnil).2
    refine outcomeOf_eq_of_selected_eq hall hmessage ?_
    obtain ⟨final, hsome⟩ := Option.isSome_iff_exists.1 hfinal
    rw [selected, selected, finalResponse?_flatten_append hheads h.text, hsome]
    rfl

/-- Otherwise one of the interim heads is read, with everything behind it as its body. -/
theorem exists_selected_of_not_arePassedOver {heads : List Bytes}
    (hheads : ∀ head ∈ heads, IsInterimHead head) {message : Bytes}
    (h : ¬ ArePassedOver heads message) :
    ∃ head ∈ heads, ∃ rest, selected (heads.flatten ++ message) = head ++ rest := by
  by_cases htext : ∀ head ∈ heads, HasTextLine head
  · -- All heads are passed over, but there is nothing to go on to: all bytes are read again.
    have hnone : heads ≠ [] ∧ finalResponse? message = none := by
      by_contra hnot
      refine h ⟨htext, ?_⟩
      intro hne
      exact Option.isSome_iff_ne_none.2 (not_and.1 hnot hne)
    obtain ⟨head, heads, rfl⟩ := List.exists_cons_of_ne_nil hnone.1
    refine ⟨head, List.mem_cons_self, heads.flatten ++ message, ?_⟩
    rw [selected, finalResponse?_flatten_append hheads htext, hnone.2, Option.getD_none,
      List.flatten_cons, List.append_assoc]
  · obtain ⟨head, hhead, rest, hfinal⟩ :=
      exists_finalResponse?_of_not_hasTextLine hheads htext message
    refine ⟨head, hhead, rest, ?_⟩
    rw [selected, hfinal, Option.getD_some]

/-- The body is not to blame for a status line. -/
theorem bodyOf_ne_invalidStatusLine {fields : List HeaderField} {bytes : Bytes} {line : Text} :
    bodyOf fields bytes ≠ .error (.invalidStatusLine line) := by
  unfold bodyOf
  cases isChunked fields with
  | true => cases ChunkedBody.read bytes <;> simp
  | false => cases contentLength? fields <;> simp

/-- An interim head that is read is the response, or is refused for the body behind it. -/
theorem outcomeOf_of_selected_eq {raw head rest : Bytes} (h : IsInterimHead head)
    (hselected : selected raw = head ++ rest) :
    (∃ response, outcomeOf raw = .ok response ∧ isInterim response.code = true) ∨
      ∃ error, (∀ line, error ≠ .invalidStatusLine line) ∧ outcomeOf raw = .error error := by
  obtain ⟨parted, status, hparted, -, hstatus, hinterim⟩ := id h
  obtain ⟨found, hfound, hmore⟩ := h.partMessage?_append rest
  obtain rfl : parted = found := Option.some.inj (hparted.symm.trans hfound)
  have hhead : headOf raw = parted.head := by
    rw [headOf, hselected, partedOf, hmore]
    rfl
  have hraw : raw ≠ [] := by
    rintro rfl
    have hnil : head ++ rest = [] := by
      rw [← hselected, selected, finalResponse?_eq_ite, if_neg List.not_mem_nil]
      rfl
    have hlf := h.lf_mem
    rw [(List.append_eq_nil_iff.1 hnil).1] at hlf
    exact List.not_mem_nil hlf
  rw [outcomeOf_eq_assemble hraw, assemble, hhead, hstatus]
  dsimp only
  cases hbody : bodyOf (joinedFieldsOf parted.head) (afterHead raw) with
  | ok body => exact Or.inl ⟨_, rfl, hinterim⟩
  | error error =>
    refine Or.inr ⟨error, ?_, rfl⟩
    rintro line rfl
    exact bodyOf_ne_invalidStatusLine hbody

/-- Neither reader takes a message for an interim response. -/
structure IsNotInterim (message : Bytes) : Prop where
  connection : (statusCodeOf? (firstLine message)).any isInterim = false
  response : (StatusLine.parse? (statusTextOf (partedOf message).head)).any (isInterim ·.code) =
    false

/-- Nothing is passed over in such a message. -/
theorem IsNotInterim.selected_eq {message : Bytes} (h : IsNotInterim message) :
    selected message = message := by
  rw [selected, finalResponse?_eq_ite, h.connection]
  split <;> rfl

/-- A message that is not interim has no interim code when it is read. -/
theorem IsNotInterim.code_of_outcomeOf {message : Bytes} (h : IsNotInterim message)
    {response : Response} (houtcome : outcomeOf message = .ok response) :
    isInterim response.code = false := by
  obtain ⟨read, hread, rfl⟩ : ∃ read, parse message = .ok read ∧ read.withoutRaw = response := by
    unfold outcomeOf at houtcome
    cases hparse : parse message with
    | error error =>
      rw [hparse] at houtcome
      cases houtcome
    | ok read =>
      rw [hparse] at houtcome
      exact ⟨read, rfl, Except.ok.inj houtcome⟩
  obtain ⟨status, hstatus, hcode, -⟩ := of_parse_eq_ok hread
  have hresponse := h.response
  rw [headOf, h.selected_eq] at hstatus
  rw [hstatus] at hresponse
  have hsame : read.withoutRaw.code = status.code := hcode
  rw [hsame]
  exact hresponse

/-- What is not the fault of the status line is the fault of the body. -/
theorem bodyOf_eq_error_of_outcomeOf {raw : Bytes} {error : ResponseError}
    (hline : ∀ line, error ≠ .invalidStatusLine line) (hempty : raw ≠ [])
    (h : outcomeOf raw = .error error) :
    bodyOf (joinedFieldsOf (headOf raw)) (afterHead raw) = .error error := by
  rw [outcomeOf_eq_assemble hempty, assemble] at h
  split at h
  · exact absurd (Except.error.inj h).symm (hline _)
  · cases hbody : bodyOf (joinedFieldsOf (headOf raw)) (afterHead raw) with
    | ok body =>
      rw [hbody] at h
      cases h
    | error found =>
      rw [hbody] at h
      exact congrArg Except.error (Except.error.inj h)

/-- Interim responses in front of a message do not change what is read when they are passed over.
They change it otherwise, except that a body of the message that is refused may be refused alike. -/
theorem outcomeOf_behind_interim {heads : List Bytes}
    (hheads : ∀ head ∈ heads, IsInterimHead head) (message : Bytes) :
    (ArePassedOver heads message → outcomeOf (heads.flatten ++ message) = outcomeOf message) ∧
    (message ≠ [] → IsNotInterim message →
      outcomeOf (heads.flatten ++ message) = outcomeOf message →
        ArePassedOver heads message ∨
          ∃ error,
            bodyOf (joinedFieldsOf (headOf message)) (afterHead message) = .error error) := by
  constructor
  · intro h
    exact outcomeOf_of_arePassedOver hheads h
  · intro hmessage hfinal heq
    by_cases h : ArePassedOver heads message
    · exact Or.inl h
    · obtain ⟨head, hhead, rest, hselected⟩ := exists_selected_of_not_arePassedOver hheads h
      rcases outcomeOf_of_selected_eq (hheads head hhead) hselected with
        ⟨response, houtcome, hinterim⟩ | ⟨error, hline, houtcome⟩
      · rw [heq] at houtcome
        rw [hfinal.code_of_outcomeOf houtcome] at hinterim
        cases hinterim
      · rw [heq] at houtcome
        exact Or.inr ⟨error, bodyOf_eq_error_of_outcomeOf hline hmessage houtcome⟩

/-- Two interim responses, the second with a field and bare line feeds. -/
def interimHeads : List Bytes :=
  [Utf8.encode "HTTP/1.1 100 Continue\r\n\r\n".toList,
    Utf8.encode "HTTP/1.0 103 Early Hints\nLink: </a>\n\n".toList]

theorem isInterimHead_of_mem_interimHeads : ∀ head ∈ interimHeads, IsInterimHead head := by
  intro head hhead
  rw [interimHeads, List.mem_cons, List.mem_singleton] at hhead
  rcases hhead with rfl | rfl
  · exact ⟨⟨Utf8.encode "HTTP/1.1 100 Continue".toList, 4, []⟩,
      ⟨"HTTP/1.1".toList, 100, "Continue".toList⟩, by decide +kernel, rfl, by decide +kernel, rfl⟩
  · exact ⟨⟨Utf8.encode "HTTP/1.0 103 Early Hints\nLink: </a>".toList, 2, []⟩,
      ⟨"HTTP/1.0".toList, 103, "Early Hints".toList⟩, by decide +kernel, rfl, by decide +kernel,
      rfl⟩

/-- A response with a chunked body. -/
def chunkedReply : Bytes :=
  Utf8.encode "HTTP/1.1 200 OK\r\nTransfer-Encoding: chunked\r\n\r\n2\r\nok\r\n0\r\n\r\n".toList

/-- A response that is nothing but a status line, and this without a line feed. -/
def unendedReply : Bytes :=
  Utf8.encode "HTTP/1.1 200 OK".toList

theorem isNotInterim_unendedReply : IsNotInterim unendedReply := by
  constructor <;> decide +kernel

/-- Behind the two interim responses a chunked response is read as it is without them, and a status
line without a line feed is not. -/
theorem outcomeOf_behind_interimHeads :
    (∀ head ∈ interimHeads, IsInterimHead head) ∧
    ArePassedOver interimHeads chunkedReply ∧
    outcomeOf (interimHeads.flatten ++ chunkedReply) = outcomeOf chunkedReply ∧
    unendedReply ≠ [] ∧ IsNotInterim unendedReply ∧
    outcomeOf (interimHeads.flatten ++ unendedReply) ≠ outcomeOf unendedReply := by
  have hheads := isInterimHead_of_mem_interimHeads
  have htext : ∀ head ∈ interimHeads, HasTextLine head := by decide +kernel
  have hfinal : (finalResponse? chunkedReply).isSome = true := by decide +kernel
  have hpassed : ArePassedOver interimHeads chunkedReply := ⟨htext, fun _ => hfinal⟩
  have hne : unendedReply ≠ [] := by decide +kernel
  refine ⟨hheads, hpassed, (outcomeOf_behind_interim hheads chunkedReply).1 hpassed, hne,
    isNotInterim_unendedReply, ?_⟩
  intro heq
  rcases (outcomeOf_behind_interim hheads unendedReply).2 hne isNotInterim_unendedReply heq with
    hpassed | ⟨error, herror⟩
  · have hlf : lf ∈ unendedReply :=
      (isSome_finalResponse?_iff isNotInterim_unendedReply.connection).1
        (hpassed.final (by decide +kernel))
    exact absurd hlf (by decide +kernel)
  · have hbody :
        bodyOf (joinedFieldsOf (headOf unendedReply)) (afterHead unendedReply) = .ok [] := by
      decide +kernel
    rw [hbody] at herror
    cases herror

/-- An interim response whose reason is written in Latin-1. -/
def latinInterim : Bytes :=
  Utf8.encode "HTTP/1.1 100 Ann".toList ++ [0xE9] ++ Utf8.encode "e\r\n\r\n".toList

/-- Interim responses can change what is read of the final one: when this is a status line without a
line feed, and when one of them has a status line that is not UTF-8. -/
theorem not_outcomeOf_behind_interim :
    (¬ ∀ (heads : List Bytes) (message : Bytes),
      (∀ head ∈ heads, IsInterimHead head) → message ≠ [] →
      (StatusLine.parse? (Utf8.decodeLossy (firstLine message))).any (isInterim ·.code) = false →
      (∀ head ∈ heads, HasTextLine head) →
      outcomeOf (heads.flatten ++ message) = outcomeOf message) ∧
    ¬ ∀ (heads : List Bytes) (message : Bytes),
      (∀ head ∈ heads, IsInterimHead head) → message ≠ [] →
      (StatusLine.parse? (Utf8.decodeLossy (firstLine message))).any (isInterim ·.code) = false →
      lf ∈ message →
      outcomeOf (heads.flatten ++ message) = outcomeOf message := by
  have hlatin : ∀ head ∈ [latinInterim], IsInterimHead head := by
    intro head hhead
    rw [List.mem_singleton.1 hhead]
    exact ⟨⟨latinInterim.take 18, 4, []⟩, ⟨"HTTP/1.1".toList, 100, "Ann\ufffde".toList⟩,
      by decide +kernel, rfl, by decide +kernel, rfl⟩
  have hchanged : outcomeOf (interimHeads.flatten ++ unendedReply) ≠ outcomeOf unendedReply := by
    decide +kernel
  have hchangedLatin :
      outcomeOf ([latinInterim].flatten ++ chunkedReply) ≠ outcomeOf chunkedReply := by
    decide +kernel
  constructor
  · intro h
    refine hchanged (h _ _ isInterimHead_of_mem_interimHeads ?_ ?_ ?_) <;> decide +kernel
  · intro h
    refine hchangedLatin (h _ _ hlatin ?_ ?_ ?_) <;> decide +kernel

end Response

end HttpConformance
