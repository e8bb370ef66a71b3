import HttpConformance.Proofs.Message.RequestText
import HttpConformance.Proofs.Substitution.Lines

/-!
# Requests with variables

A request text is substituted before it is read.  As long as the values are parts of lines, this is
the same as reading the text first and substituting in what is sent: the parts of the text are found
in the same places, and each of them is substituted on its own.

Main definition: `RequestText.substitute`.

Main results:

- `RequestText.ofText_substitute`, `RequestText.sent_substitute`: substitution goes on in the parts,
  before and behind them.
- `Request.parse_substitute`: reading and sending after substitution.
-/

namespace HttpConformance

namespace RequestText

/-- The parts with variables substituted in each of them. -/
def substitute (vars : Variables) (parts : RequestText) : RequestText :=
  ⟨vars.substitute parts.line, parts.others.map vars.substitute, vars.substitute parts.body⟩

variable {vars : Variables}

/-- A request with its variables filled in is parted where it was before. -/
theorem partText_substitute (hvalues : vars.HasLineValues) (text : Text) :
    Request.partText (vars.substitute text) =
      (vars.substitute (Request.partText text).1, vars.substitute (Request.partText text).2) := by
  unfold Request.partText
  rw [Variables.partAtBlankLine?_substitute hvalues]
  cases partAtBlankLine? '\r' '\n' text with
  | some parted => rfl
  | none =>
    dsimp only [Option.map_none]
    rw [Variables.dropEndWhile_substitute hvalues, Variables.substitute_nil]

/-- The parts of a text after substitution are its parts, substituted. -/
theorem ofText_substitute (hvalues : vars.HasLineValues) (text : Text) :
    ofText (vars.substitute text) = (ofText text).substitute vars := by
  unfold ofText substitute
  rw [partText_substitute hvalues]
  dsimp only
  rw [Variables.headLines_substitute hvalues]
  generalize Request.headLines (Request.partText text).1 = lines
  have hempty (line : Text) : vars.substitute line ≠ [] ↔ line ≠ [] :=
    not_congr (Variables.substitute_eq_nil_iff hvalues)
  congr 1
  · cases lines with
    | nil => exact (Variables.substitute_nil vars).symm
    | cons line lines => rfl
  · rw [← List.map_tail, List.filter_map]
    refine congrArg (List.map _) (List.filter_congr fun line _ => ?_)
    simp only [Function.comp_apply, hempty]

/-- A line break parts the pass, so that it begins anew on the next line. -/
theorem substitute_line_append (vars : Variables) (line rest : Text) :
    vars.substitute (line ++ ['\r', '\n'] ++ rest) =
      vars.substitute line ++ ['\r', '\n'] ++ vars.substitute rest := by
  have hbreak : ¬ vars.BeginsReference ('\n' :: rest) :=
    Variables.not_beginsReference_cons (by decide) rest
  rw [List.append_assoc, List.cons_append, Variables.substitute_append_cons (by decide) (by decide),
    List.singleton_append, Variables.substitute_cons hbreak, List.append_assoc, List.cons_append,
    List.singleton_append]

theorem substitute_writeLines_append (vars : Variables) (lines : List Text) (rest : Text) :
    vars.substitute (writeLines lines ++ rest) =
      writeLines (lines.map vars.substitute) ++ vars.substitute rest := by
  induction lines with
  | nil => rfl
  | cons line lines ih =>
    rw [writeLines_cons, List.append_assoc, substitute_line_append, ih, List.map_cons,
      writeLines_cons]
    simp only [List.append_assoc]

/-- The text that is sent for the parts, with variables substituted. -/
theorem sent_substitute (vars : Variables) (parts : RequestText) :
    (parts.substitute vars).sent = vars.substitute parts.sent := by
  have hempty : [[]].map vars.substitute = [[]] := by
    rw [List.map_singleton, Variables.substitute_nil]
  rw [sent, sent, List.append_assoc, List.append_assoc, substitute_writeLines_append,
    substitute_writeLines_append, hempty]
  rfl

end RequestText

/-- Substituting in a request text before it is read amounts to substituting in what is sent for it,
when no value breaks a line or is blank: the one text is a request exactly when the other one is,
and then the bytes that are sent are those of the text that would have been sent, substituted. -/
theorem Request.parse_substitute (vars : Variables) (hvalues : vars.HasLineValues) (raw : Text) :
    ((∃ request, Request.parse (vars.substitute raw) = .ok request) ↔
        ∃ request, Request.parse raw = .ok request) ∧
      ∀ substituted request, Request.parse (vars.substitute raw) = .ok substituted →
        Request.parse raw = .ok request →
          ∃ text, Utf8.decode? request.wire = some text ∧
            substituted.wire = Utf8.encode (vars.substitute text) := by
  have hblank : Text.isAllBlank ((RequestText.ofText raw).substitute vars).line =
      Text.isAllBlank (RequestText.ofText raw).line :=
    Variables.isAllBlank_substitute hvalues _
  rw [RequestText.parse_eq, RequestText.parse_eq, RequestText.ofText_substitute hvalues, hblank]
  split
  · refine ⟨iff_of_false ?_ ?_, ?_⟩
    · rintro ⟨request, hparse⟩
      cases hparse
    · rintro ⟨request, hparse⟩
      cases hparse
    · intro substituted request hparse
      cases hparse
  · refine ⟨iff_of_true ⟨_, rfl⟩ ⟨_, rfl⟩, ?_⟩
    intro substituted request hsubstituted hrequest
    cases hsubstituted
    cases hrequest
    refine ⟨(RequestText.ofText raw).sent, ?_, ?_⟩
    · rw [RequestText.wire_request, Utf8.decode?_encode]
    · rw [RequestText.wire_request, RequestText.sent_substitute]

/-- A table whose values have a colon, a mark and blanks in them. -/
def greetingVars : Variables :=
  ⟨[("field".toList, "X-Note: a|b".toList), ("host".toList, "tck.local".toList),
    ("note".toList, " |host| ".toList)], by decide⟩

/-- A request text in which variables stand for a whole line, for a part of a line and for the whole
body, among empty lines and marks that belong to no reference. -/
def greetingText : Text :=
  "GET /$\x7bnote\x7d HTTP/1.1\n\r\nHost:|host|\n|field|\n\n|note|\n".toList

/-- A request whose variables stand for lines, for parts of them and for its body is sent with their
values. -/
theorem Request.parse_substitute_greeting :
    greetingVars.HasLineValues ∧
      ∃ substituted request text,
        Request.parse (greetingVars.substitute greetingText) = .ok substituted ∧
          Request.parse greetingText = .ok request ∧ Utf8.decode? request.wire = some text ∧
            substituted.wire = Utf8.encode (greetingVars.substitute text) := by
  have hvalues : greetingVars.HasLineValues := by decide
  have hrequest : Request.parse greetingText = .ok (RequestText.ofText greetingText).request := rfl
  obtain ⟨hiff, hwire⟩ := Request.parse_substitute greetingVars hvalues greetingText
  obtain ⟨substituted, hsubstituted⟩ := hiff.2 ⟨_, hrequest⟩
  obtain ⟨text, hdecode, hsent⟩ := hwire _ _ hsubstituted hrequest
  exact ⟨hvalues, substituted, _, text, hsubstituted, hrequest, hdecode, hsent⟩

end HttpConformance
