import HttpConformance.Message.Request
import HttpConformance.Proofs.Text.Cut
import HttpConformance.Proofs.Text.Utf8

/-!
# Requests as texts

A text is read as a request and the request is sent as bytes; between the two stand the parts of
the text.  A line of the head may or may not have a colon, but it is sent as it was read, so what is
sent is the text of the same parts.

Main definition: `RequestText`, with `ofText`, `request` and `sent`.

Main results:

- `RequestText.parse_eq`: a text is read as the request of its parts.
- `RequestText.wire_request`: what is sent for a request of some parts.
-/

namespace HttpConformance

theorem RequestField.render_ofLine (line : Text) : (RequestField.ofLine line).render = line := by
  unfold RequestField.ofLine
  cases hcut : cutAt ':' line with
  | none => rfl
  | some parts => exact (cutAt_eq_some_iff.1 hcut).1.symm

/-- The parts of a request: its first line, the lines after it, and its body. -/
structure RequestText where
  line : Text
  others : List Text
  body : Text
  deriving DecidableEq, Repr

namespace RequestText

/-- The parts that a text is read as. -/
def ofText (text : Text) : RequestText :=
  let (head, body) := Request.partText text
  let lines := Request.headLines head
  ⟨lines.headD [], lines.tail.filter (· ≠ []), body⟩

/-- The request that has the parts. -/
def request (parts : RequestText) : Request where
  line := parts.line
  fields := parts.others.map RequestField.ofLine
  body := if parts.body = [] then none else some (Utf8.encode parts.body)
  verbatim := none

/-- Lines with a line break behind each. -/
def writeLines (lines : List Text) : Text :=
  lines.flatMap (· ++ ['\r', '\n'])

/-- The text that is sent for the parts. -/
def sent (parts : RequestText) : Text :=
  writeLines (parts.line :: parts.others) ++ writeLines [[]] ++ parts.body

/-- A text is read as the request of its parts, unless its first line is blank. -/
theorem parse_eq (text : Text) :
    Request.parse text =
      if Text.isAllBlank (ofText text).line then .error .noRequestLine
      else .ok (ofText text).request :=
  rfl

theorem writeLines_cons (line : Text) (lines : List Text) :
    writeLines (line :: lines) = line ++ ['\r', '\n'] ++ writeLines lines :=
  List.flatMap_cons

theorem wireLine_eq (line : Text) : Request.wireLine line = Utf8.encode (line ++ ['\r', '\n']) := by
  rw [Utf8.encode_append]
  rfl

theorem flatMap_wireLine (lines : List Text) :
    (lines.map RequestField.ofLine).flatMap (fun field => Request.wireLine field.render) =
      Utf8.encode (writeLines lines) := by
  induction lines with
  | nil => rfl
  | cons line lines ih =>
    rw [List.map_cons, List.flatMap_cons, ih, RequestField.render_ofLine, wireLine_eq,
      writeLines_cons, ← Utf8.encode_append]

theorem body_request (parts : RequestText) :
    parts.request.body.getD [] = Utf8.encode parts.body := by
  unfold request
  dsimp only
  split
  · rename_i hnil
    rw [hnil]
    rfl
  · rfl

/-- The bytes that are sent for a request are those of the text of its parts. -/
theorem wire_request (parts : RequestText) : parts.request.wire = Utf8.encode parts.sent := by
  have hwire : parts.request.wire =
      Request.wireLine parts.line ++ Utf8.encode (writeLines parts.others) ++
        Request.wireLine [] ++ parts.request.body.getD [] := by
    rw [← flatMap_wireLine]
    rfl
  rw [hwire, body_request, wireLine_eq, wireLine_eq, sent, writeLines_cons]
  simp only [Utf8.encode_append, writeLines, List.flatMap_singleton]

end RequestText

end HttpConformance
