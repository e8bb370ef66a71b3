import HttpConformance.Proofs.Message.Outcome
import HttpConformance.Proofs.Text.Utf8
import HttpConformance.Proofs.Text.Words

/-!
# The status of a response

A status line is read twice.  The reader of a connection wants its code only, and takes the second
word of a line that is well-formed text; the reader of the response cuts the line at single spaces,
with every malformed byte replaced.  Whenever the reader of the response is content with a line, the
reader of the connection reads the same code, or no code at all because the line is not UTF-8.

Main results:

- `words_of_parse?`: the first two words of a status line are its version and its code.
- `statusCodeOf?_eq_of_parse?`: the code that the reader of a connection finds in a status line.
- `firstLine_eq_or`: the first line of a message and the first line of its head.
- `Response.statusCodeOf?_firstLine_eq_some_iff`: when both readers find the same code.
- `Response.not_statusCodeOf?_firstLine`: they do not find it in every response.
-/

namespace HttpConformance

/-! ## Version and code -/

theorem not_isBlank_of_isDigit {c : Char} (h : c.isDigit = true) : Text.isBlank c = false :=
  Text.not_isBlank_of_blankCodes (by decide) h

theorem not_isBlank_of_isDigitRun {text : Text} (h : isDigitRun text = true) :
    ∀ c ∈ text, Text.isBlank c = false := by
  intro c hc
  rw [isDigitRun, Bool.and_eq_true, List.all_eq_true] at h
  exact not_isBlank_of_isDigit (h.2 c hc)

/-- A version is the name of the protocol before two runs of digits. -/
theorem exists_of_isVersion {text : Text} (h : isVersion text = true) :
    ∃ major minor, isDigitRun major = true ∧ isDigitRun minor = true ∧
      text = protocolName ++ (major ++ '.' :: minor) := by
  unfold isVersion at h
  split at h
  · rename_i major minor hcut
    obtain ⟨numbers, hname, hnumbers⟩ := Option.bind_eq_some_iff.1 hcut
    rw [Bool.and_eq_true] at h
    refine ⟨major, minor, h.1, h.2, ?_⟩
    rw [eq_append_of_isPrefixOf? hname, (cutAt_eq_some_iff.1 hnumbers).1]
  · cases h

/-- Two numbers with a dot between them are a version. -/
theorem isVersion_of_isDigitRun {major minor : Text} (hmajor : isDigitRun major = true)
    (hminor : isDigitRun minor = true) :
    isVersion (protocolName ++ (major ++ '.' :: minor)) = true := by
  have hdot : '.' ∉ major := by
    intro hmem
    have hdigit := (Bool.and_eq_true_iff.1 hmajor).2
    exact absurd (List.all_eq_true.1 hdigit '.' hmem) (by decide)
  have hname : protocolName.isPrefixOf? (protocolName ++ (major ++ '.' :: minor)) =
      some (major ++ '.' :: minor) :=
    List.isPrefixOf?_eq_some_iff_append_eq.2 rfl
  rw [isVersion, hname, Option.bind_some, cutAt_append_cons hdot]
  simp only [hmajor, hminor, Bool.and_self]

/-- A version has no blanks. -/
theorem not_isBlank_of_isVersion {text : Text} (h : isVersion text = true) :
    ∀ c ∈ text, Text.isBlank c = false := by
  have hprotocol : protocolName.all (!Text.isBlank ·) = true := by decide
  obtain ⟨major, minor, hmajor, hminor, rfl⟩ := exists_of_isVersion h
  intro c hc
  rw [List.mem_append, List.mem_append, List.mem_cons] at hc
  rcases hc with hname | hdigit | rfl | hdigit
  · rw [← Bool.not_eq_true']
    exact List.all_eq_true.1 hprotocol c hname
  · exact not_isBlank_of_isDigitRun hmajor c hdigit
  · decide
  · exact not_isBlank_of_isDigitRun hminor c hdigit

/-- A version is a word that begins with the name of the protocol. -/
theorem words_of_isVersion {text : Text} (h : isVersion text = true) :
    Text.words text = [text] ∧ protocolName.isPrefixOf text = true := by
  have hblank := not_isBlank_of_isVersion h
  obtain ⟨major, minor, -, -, rfl⟩ := exists_of_isVersion h
  exact ⟨Text.words_of_not_isBlank (by simp [protocolName]) hblank,
    List.isPrefixOf_iff_prefix.2 (List.prefix_append _ _)⟩

/-- Three digits are a word. -/
theorem words_of_threeDigits? {text : Text} {code : Nat} (h : threeDigits? text = some code) :
    Text.words text = [text] := by
  unfold threeDigits? at h
  split at h
  · rename_i hdigits
    obtain ⟨hlength, hall⟩ := hdigits
    have hne : text ≠ [] := by
      rintro rfl
      cases hlength
    refine Text.words_of_not_isBlank hne ?_
    intro c hc
    exact not_isBlank_of_isDigit (List.all_eq_true.1 hall c hc)
  · cases h

/-- The first two words of a status line are its version and its code. -/
theorem words_of_parse? {line : Text} {status : StatusLine}
    (h : StatusLine.parse? line = some status) :
    ∃ version code reason, Text.words line = version :: code :: reason ∧
      protocolName.isPrefixOf version = true ∧ threeDigits? code = some status.code := by
  have hspace : Text.isBlank ' ' = true := by decide
  unfold StatusLine.parse? at h
  split at h
  · cases h
  · rename_i version rest hcut
    obtain ⟨rfl, -⟩ := cutAt_eq_some_iff.1 hcut
    dsimp only at h
    split at h
    · rename_i hversion
      obtain ⟨code, hcode, rfl⟩ := Option.map_eq_some_iff.1 h
      obtain ⟨hword, hname⟩ := words_of_isVersion hversion
      rw [Text.words_append_blank hspace, hword]
      cases hreason : cutAt ' ' rest with
      | none =>
        have hdigits : threeDigits? rest = some code := by
          rw [hreason] at hcode
          exact hcode
        refine ⟨version, rest, [], ?_, hname, hdigits⟩
        rw [words_of_threeDigits? hdigits]
        rfl
      | some parts =>
        obtain ⟨digits, reason⟩ := parts
        have hdigits : threeDigits? digits = some code := by
          rw [hreason] at hcode
          exact hcode
        obtain ⟨rfl, -⟩ := cutAt_eq_some_iff.1 hreason
        refine ⟨version, digits, Text.words reason, ?_, hname, hdigits⟩
        rw [Text.words_append_blank hspace, words_of_threeDigits? hdigits]
        rfl
    · cases h

/-- The code that the reader of a connection finds in a status line that the reader of the response
accepts. -/
theorem statusCodeOf?_eq_of_parse? {line : Bytes} {status : StatusLine}
    (h : StatusLine.parse? (Utf8.decodeLossy line) = some status) :
    statusCodeOf? line = (Utf8.decode? line).map fun _ => status.code := by
  cases htext : Utf8.decode? line with
  | none => simp only [statusCodeOf?, htext, Option.map_none]
  | some text =>
    rw [Utf8.decodeLossy_of_decode? htext] at h
    obtain ⟨version, code, reason, hwords, hname, hcode⟩ := words_of_parse? h
    simp only [statusCodeOf?, htext, Option.map_some, hwords, hname, if_true, hcode]

/-! ## The first line -/

theorem head?_splitOn (bytes : Bytes) :
    (bytes.splitOn lf).head? = some (bytes.takeWhile (· != lf)) := by
  rw [List.splitOn]
  induction bytes with
  | nil => rfl
  | cons b bytes ih =>
    rw [List.splitOnP_cons_eq_if_modifyHead]
    by_cases hb : b = lf
    · simp [hb]
    · simp [hb, List.head?_modifyHead, ih]

/-- The first of the lines of some bytes is their first line. -/
theorem headD_linesOf (bytes : Bytes) : (linesOf bytes).headD [] = firstLine bytes := by
  rw [linesOf, List.headD_eq_head?_getD, List.head?_map, head?_splitOn]
  rfl

/-- At most one CR is dropped at the end of a line. -/
theorem eq_withoutLast_or (bytes : Bytes) :
    bytes = withoutLast cr bytes ∨ bytes = withoutLast cr bytes ++ [cr] := by
  by_cases hlast : bytes.getLast? = some cr
  · obtain ⟨front, rfl⟩ := List.getLast?_eq_some_iff.1 hlast
    rw [withoutLast_concat]
    exact Or.inr rfl
  · rw [withoutLast, if_neg hlast]
    exact Or.inl rfl

/-- The blank line takes the CR at the end of the last line of a head.  If that is the first line as
well, one CR of the message is dropped with the blank line and one more as the end of the line. -/
theorem firstLine_eq_or (message : Bytes) :
    firstLine message = firstLine (Response.partedOf message).head ∨
      firstLine message = firstLine (Response.partedOf message).head ++ [cr] := by
  cases hpart : partMessage? message with
  | none => exact Or.inl (by rw [Response.partedOf, hpart]; rfl)
  | some parted =>
    obtain ⟨gap, hgap, -, hmessage⟩ := eq_append_of_partAtBlankLine? (by decide) hpart
    have hhead : (Response.partedOf message).head = parted.head := by
      rw [Response.partedOf, hpart]
      rfl
    rw [hhead, hmessage, List.append_assoc, firstLine, firstLine, List.takeWhile_append]
    split
    · rename_i hline
      have hone : parted.head.takeWhile (· != lf) = parted.head :=
        (List.takeWhile_prefix _).eq_of_length hline
      rw [hone]
      rcases hgap with rfl | rfl
      · have hcr : ([cr, lf, cr, lf] ++ parted.body).takeWhile (· != lf) = [cr] := rfl
        rw [hcr, withoutLast_concat]
        exact eq_withoutLast_or parted.head
      · have hnil : ([lf, lf] ++ parted.body).takeWhile (· != lf) = [] := rfl
        rw [hnil, List.append_nil]
        exact Or.inl rfl
    · exact Or.inl rfl

theorem decode?_append_cr (line : Bytes) :
    Utf8.decode? (line ++ [cr]) = (Utf8.decode? line).map (· ++ ['\r']) :=
  Utf8.decode?_append_singleton (by decide) line

/-- A CR at the end of a line is a blank of its text. -/
theorem statusCodeOf?_append_cr (line : Bytes) :
    statusCodeOf? (line ++ [cr]) = statusCodeOf? line := by
  have hblank : Text.isBlank '\r' = true := by decide
  unfold statusCodeOf?
  rw [decode?_append_cr]
  cases Utf8.decode? line with
  | none => rfl
  | some text =>
    simp only [Option.map_some, Text.words_append_singleton hblank]

/-! ## The status of a response -/

namespace Response

/-- The code that the reader of a connection finds in the head of a response. -/
theorem statusCodeOf?_headOf {raw : Bytes} {response : Response} (h : parse raw = .ok response) :
    statusCodeOf? (firstLine (headOf raw)) =
      (Utf8.decode? (firstLine (headOf raw))).map fun _ => response.code := by
  obtain ⟨status, hstatus, hcode, -⟩ := of_parse_eq_ok h
  rw [statusTextOf, headD_linesOf] at hstatus
  rw [hcode]
  exact statusCodeOf?_eq_of_parse? hstatus

/-- The status code that is looked for is the one of the head that is read. -/
theorem statusCodeOf?_firstLine_selected (raw : Bytes) :
    statusCodeOf? (firstLine (selected raw)) = statusCodeOf? (firstLine (headOf raw)) := by
  rcases firstLine_eq_or (selected raw) with hline | hline
  · rw [hline, headOf]
  · rw [hline, statusCodeOf?_append_cr, headOf]

/-- The first line that is looked at is text exactly when the one of the head is. -/
theorem isSome_decode?_firstLine_selected (raw : Bytes) :
    (Utf8.decode? (firstLine (selected raw))).isSome =
      (Utf8.decode? (firstLine (headOf raw))).isSome := by
  rcases firstLine_eq_or (selected raw) with hline | hline
  · rw [hline, headOf]
  · rw [hline, decode?_append_cr, Option.isSome_map, headOf]

/-- The reader of a connection finds the code of a response in its first line, and in the first line
of its head, exactly when this line is UTF-8; otherwise it finds none. -/
theorem statusCodeOf?_firstLine_eq_some_iff {raw : Bytes} {response : Response}
    (h : parse raw = .ok response) :
    (statusCodeOf? (firstLine (selected raw)) = some response.code ↔
      (Utf8.decode? (firstLine (selected raw))).isSome = true) ∧
    (statusCodeOf? (firstLine (selected raw)) = none ↔
      (Utf8.decode? (firstLine (selected raw))).isSome = false) ∧
    statusCodeOf? (firstLine (headOf raw)) = statusCodeOf? (firstLine (selected raw)) := by
  rw [statusCodeOf?_firstLine_selected, isSome_decode?_firstLine_selected, statusCodeOf?_headOf h]
  cases Utf8.decode? (firstLine (headOf raw)) <;> simp

/-- A response behind early hints.  Its reason is not ASCII, and one CR more ends its only line. -/
def earlyHints : Bytes :=
  Utf8.encode "HTTP/1.1 103 Early Hints\r\n\r\nHTTP/1.1 205 Récréé\r\r\n\r\n".toList

/-- A reason that is text although it is not ASCII hides no status code. -/
theorem statusCodeOf?_earlyHints :
    ∃ response, parse earlyHints = .ok response ∧
      (Utf8.decode? (firstLine (selected earlyHints))).isSome = true ∧
      statusCodeOf? (firstLine (selected earlyHints)) = some response.code := by
  have hcode : (parse earlyHints).toOption.map (·.code) = some 205 := by decide +kernel
  obtain ⟨response, h, -⟩ := exists_of_map_toOption hcode
  have htext : (Utf8.decode? (firstLine (selected earlyHints))).isSome = true := by
    decide +kernel
  exact ⟨response, h, htext, (statusCodeOf?_firstLine_eq_some_iff h).1.2 htext⟩

/-- A response without a body whose reason is written in Latin-1. -/
def latinReason : Bytes :=
  Utf8.encode "HTTP/1.1 204 Donn".toList ++ [0xE9] ++ Utf8.encode "es\r\n\r\n".toList

/-- The code of a response need not be found in its first line. -/
theorem not_statusCodeOf?_firstLine :
    ¬ ∀ raw response, parse raw = .ok response →
      statusCodeOf? (firstLine (selected raw)) = some response.code := by
  intro h
  have hcode : (parse latinReason).toOption.map (·.code) = some 204 := by decide +kernel
  obtain ⟨response, hresponse, -⟩ := exists_of_map_toOption hcode
  have hnone : statusCodeOf? (firstLine (selected latinReason)) = none := by decide +kernel
  have hsome := h latinReason response hresponse
  rw [hnone] at hsome
  cases hsome

end Response

end HttpConformance
