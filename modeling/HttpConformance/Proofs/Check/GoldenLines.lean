import HttpConformance.Proofs.Check.Evaluate
import HttpConformance.Proofs.Text.Join
import HttpConformance.Proofs.Text.Trim
import HttpConformance.Proofs.Text.Utf8

/-!
# The lines of a golden resource

A body is compared with a golden resource by rewriting the line breaks of both and taking away those
at the end.  This is the same as comparing their lines: each of CRLF, CR alone and LF ends one line,
in whatever mixture they come, and empty lines at the end do not count.

Main definitions: `Text.HasLines`, `Text.SameLines`, `Text.replacePair`.

Main results:

- `Text.unifyBreaks_eq_replaceChar`: the one pass over the line breaks is two replacements, of CRLF
  and then of CR.
- `Text.hasLines_iff`: every text has its lines, and the rewritten text has them between LFs.
- `dropEndWhile_join`: line breaks at the end are empty lines at the end.
- `normalText_eq_iff_sameLines`: rewritten texts are equal exactly when the lines are the same.
- `Check.golden_exact_iff`: the exact comparison is equality of lines, and a golden resource agrees
  with itself in both modes.
-/

namespace HttpConformance

namespace Text

/-! ## Lines -/

/-- The text has no line breaks. -/
def IsLine (text : Text) : Prop :=
  '\r' ∉ text ∧ '\n' ∉ text

/-- What ends a line in front of the rest of a text: CRLF, LF, or a CR that has no LF behind it. -/
inductive EndsLine : Text → Text → Prop where
  | crlf (rest : Text) : EndsLine ['\r', '\n'] rest
  | lf (rest : Text) : EndsLine ['\n'] rest
  | cr {rest : Text} (h : rest.head? ≠ some '\n') : EndsLine ['\r'] rest

/-- The text has these lines; the last one ends with the text. -/
inductive HasLines : Text → List Text → Prop where
  | last {line : Text} (hline : IsLine line) : HasLines line [line]
  | cons {line ending rest : Text} {lines : List Text} (hline : IsLine line)
      (hending : EndsLine ending rest) (hrest : HasLines rest lines) :
      HasLines (line ++ (ending ++ rest)) (line :: lines)

/-- The texts have the same lines, up to empty lines at the end. -/
def SameLines (first second : Text) : Prop :=
  ∃ lines others, HasLines first lines ∧ HasLines second others ∧
    dropEndWhile List.isEmpty lines = dropEndWhile List.isEmpty others

theorem HasLines.ne_nil {text : Text} {lines : List Text} (h : HasLines text lines) :
    lines ≠ [] := by
  cases h <;> exact List.cons_ne_nil _ _

theorem HasLines.isLine {text : Text} {lines : List Text} (h : HasLines text lines) :
    ∀ line ∈ lines, IsLine line := by
  induction h with
  | last hline => exact List.forall_mem_singleton.2 hline
  | cons hline _ _ ih => exact List.forall_mem_cons.2 ⟨hline, ih⟩

/-! ## Rewritten line breaks -/

theorem unifyBreaks_cons {c : Char} (hc : c ≠ '\r') (rest : Text) :
    Check.unifyBreaks (c :: rest) = c :: Check.unifyBreaks rest := by
  rw [Check.unifyBreaks]
  · simp [hc]
  · simp [hc]

/-- The text with one character in place of each pair of two characters next to each other.  Pairs
are taken from the left and do not overlap. -/
def replacePair (first second new : Char) : Text → Text
  | [] => []
  | [c] => [c]
  | c :: d :: rest =>
    if c = first ∧ d = second then new :: replacePair first second new rest
    else c :: replacePair first second new (d :: rest)

/-- A pair is replaced where it stands at the front. -/
theorem replacePair_pair (first second new : Char) (rest : Text) :
    replacePair first second new (first :: second :: rest) =
      new :: replacePair first second new rest := by
  rw [replacePair, if_pos ⟨rfl, rfl⟩]

/-- A character that begins no pair stays. -/
theorem replacePair_cons {first second new c : Char} {rest : Text}
    (h : ¬ (c = first ∧ rest.head? = some second)) :
    replacePair first second new (c :: rest) = c :: replacePair first second new rest := by
  cases rest with
  | nil => rfl
  | cons d rest =>
    rw [replacePair, if_neg]
    rintro ⟨hc, rfl⟩
    exact h ⟨hc, rfl⟩

/-- One pass over the line breaks is what two replacements make of them: an LF for each CRLF, and
then an LF for each CR that is left. -/
theorem unifyBreaks_eq_replaceChar (text : Text) :
    Check.unifyBreaks text = replaceChar '\r' '\n' (replacePair '\r' '\n' '\n' text) := by
  fun_induction Check.unifyBreaks text with
  | case1 => rfl
  | case2 rest ih =>
    rw [replacePair_pair, replaceChar, List.map_cons, ← replaceChar, ← ih]
    rfl
  | case3 rest hlf ih =>
    have hsingle : ¬ ('\r' = '\r' ∧ rest.head? = some '\n') := by
      rintro ⟨-, hhead⟩
      obtain ⟨tail, htail⟩ := List.head?_eq_some_iff.1 hhead
      exact hlf tail htail
    rw [replacePair_cons hsingle, replaceChar, List.map_cons, ← replaceChar, ← ih, if_pos rfl]
  | case4 c rest hcrlf hcr ih =>
    have hother : c ≠ '\r' := hcr
    rw [replacePair_cons fun h => hother h.1, replaceChar, List.map_cons, ← replaceChar, ← ih,
      if_neg hother]

/-- A line stays as it is. -/
theorem unifyBreaks_append {line : Text} (h : IsLine line) (rest : Text) :
    Check.unifyBreaks (line ++ rest) = line ++ Check.unifyBreaks rest := by
  induction line with
  | nil => rfl
  | cons c line ih =>
    simp only [IsLine, List.mem_cons, not_or] at h
    rw [List.cons_append, unifyBreaks_cons (Ne.symm h.1.1), ih ⟨h.1.2, h.2.2⟩, List.cons_append]

/-- Whatever ends a line is written as one LF. -/
theorem EndsLine.unifyBreaks_append {ending rest : Text} (h : EndsLine ending rest) :
    Check.unifyBreaks (ending ++ rest) = '\n' :: Check.unifyBreaks rest := by
  cases h with
  | crlf => rfl
  | lf => exact unifyBreaks_cons (by decide) rest
  | cr hhead =>
    rw [List.singleton_append, Check.unifyBreaks]
    rintro tail rfl
    exact hhead rfl

/-- The rewritten text has an LF between one line and the next. -/
theorem HasLines.unifyBreaks_eq {text : Text} {lines : List Text} (h : HasLines text lines) :
    Check.unifyBreaks text = Text.join ['\n'] lines := by
  induction h with
  | @last line hline =>
    have hwhole := unifyBreaks_append hline []
    rw [List.append_nil, Check.unifyBreaks, List.append_nil] at hwhole
    rw [hwhole, Text.join, List.intercalate_singleton]
  | @cons line ending rest lines hline hending hrest ih =>
    rw [unifyBreaks_append hline, hending.unifyBreaks_append, ih,
      join_cons_of_ne_nil ['\n'] line hrest.ne_nil, List.singleton_append]

/-- A character that is no line break is at the front of the first line. -/
theorem HasLines.cons_char {c : Char} (hcr : c ≠ '\r') (hlf : c ≠ '\n') {text : Text}
    {lines : List Text} (h : HasLines text lines) :
    HasLines (c :: text) (lines.modifyHead (c :: ·)) := by
  have hcons {line : Text} (hline : IsLine line) : IsLine (c :: line) := by
    simp [IsLine, Ne.symm hcr, Ne.symm hlf, hline.1, hline.2]
  cases h with
  | last hline => exact .last (hcons hline)
  | cons hline hending hrest => exact .cons (hcons hline) hending hrest

/-- Every text has lines. -/
theorem exists_hasLines (text : Text) : ∃ lines, HasLines text lines := by
  have hempty : IsLine [] := by simp [IsLine]
  fun_induction Check.unifyBreaks text with
  | case1 => exact ⟨[[]], .last hempty⟩
  | case2 rest ih =>
    obtain ⟨lines, hlines⟩ := ih
    exact ⟨[] :: lines, .cons hempty (.crlf rest) hlines⟩
  | case3 rest hlf ih =>
    obtain ⟨lines, hlines⟩ := ih
    have hhead : rest.head? ≠ some '\n' := by
      intro hhead
      obtain ⟨tail, htail⟩ := List.head?_eq_some_iff.1 hhead
      exact hlf tail htail
    exact ⟨[] :: lines, .cons hempty (.cr hhead) hlines⟩
  | case4 c rest hcrlf hcr ih =>
    obtain ⟨lines, hlines⟩ := ih
    by_cases hc : c = '\n'
    · rw [hc]
      exact ⟨[] :: lines, .cons hempty (.lf rest) hlines⟩
    · exact ⟨_, hlines.cons_char hcr hc⟩

/-- Every text has its lines, and the rewritten text has them between LFs. -/
theorem hasLines_iff {text : Text} {lines : List Text} :
    HasLines text lines ↔ (Check.unifyBreaks text).splitOn '\n' = lines := by
  have hsplit {lines : List Text} (h : HasLines text lines) :
      (Check.unifyBreaks text).splitOn '\n' = lines := by
    rw [h.unifyBreaks_eq]
    exact List.splitOn_intercalate '\n' (fun line hline => (h.isLine line hline).2) h.ne_nil
  constructor
  · exact hsplit
  · rintro rfl
    obtain ⟨lines, hlines⟩ := exists_hasLines text
    rwa [hsplit hlines]

instance (text : Text) (lines : List Text) : Decidable (HasLines text lines) :=
  decidable_of_iff _ hasLines_iff.symm

end Text

/-! ## Empty lines at the end -/

section EmptyLines

variable {lines others : List Text}

/-- Line breaks at the end are empty lines at the end. -/
theorem dropEndWhile_join (h : ∀ line ∈ lines, '\n' ∉ line) :
    dropEndWhile (· == '\n') (Text.join ['\n'] lines) =
      Text.join ['\n'] (dropEndWhile List.isEmpty lines) := by
  induction lines with
  | nil => rfl
  | cons line lines ih =>
    rw [List.forall_mem_cons] at h
    -- The break behind the first line stays exactly when a line that is not empty follows.
    by_cases hempty : ∀ other ∈ lines, other.isEmpty = true
    · have hbreaks : ∀ c ∈ lines.flatMap (['\n'] ++ ·), (c == '\n') = true := by
        intro c hc
        obtain ⟨other, hother, hmem⟩ := List.mem_flatMap.1 hc
        simpa [List.isEmpty_iff.1 (hempty other hother)] using hmem
      have hline : dropEndWhile (· == '\n') line = line := by
        apply dropEndWhile_eq_self
        intro c hc
        simpa using ne_of_mem_of_not_mem hc h.1
      have hfirst : dropEndWhile List.isEmpty (line :: lines) = dropEndWhile List.isEmpty [line] :=
        dropEndWhile_append_of_forall hempty [line]
      rw [join_cons, dropEndWhile_append_of_forall hbreaks, hline, hfirst]
      cases line with
      | nil => rfl
      | cons c line => exact List.intercalate_singleton.symm
    · have hkept : ∃ other ∈ lines, other.isEmpty = false := by simpa using hempty
      obtain ⟨other, hother, hfull⟩ := hkept
      have hvisible : ∃ c ∈ Text.join ['\n'] lines, (c == '\n') = false := by
        obtain ⟨c, hc⟩ := List.isEmpty_eq_false_iff_exists_mem.1 hfull
        refine ⟨c, (infix_join_of_mem ['\n'] hother).subset hc, ?_⟩
        simpa using ne_of_mem_of_not_mem hc (h.2 other hother)
      have hothers : dropEndWhile List.isEmpty lines ≠ [] :=
        fun hnil => hempty (List.rdropWhile_eq_nil_iff.1 hnil)
      have hfirst : dropEndWhile List.isEmpty (line :: lines) =
          line :: dropEndWhile List.isEmpty lines :=
        dropEndWhile_append_of_exists ⟨other, hother, hfull⟩ [line]
      rw [join_cons_of_ne_nil ['\n'] line (List.ne_nil_of_mem hother), ← List.append_assoc,
        dropEndWhile_append_of_exists hvisible, ih h.2, hfirst,
        join_cons_of_ne_nil ['\n'] line hothers, List.append_assoc]

/-- Lines that are not empty to the last do not vanish in the text that they make. -/
theorem dropEndWhile_eq_nil_of_join (h : Text.join ['\n'] (dropEndWhile List.isEmpty lines) = []) :
    dropEndWhile List.isEmpty lines = [] := by
  by_contra hne
  have hinfix := infix_join_of_mem ['\n'] (List.getLast_mem hne)
  rw [h, List.infix_nil] at hinfix
  exact List.rdropWhile_last_not List.isEmpty lines hne (List.isEmpty_iff.2 hinfix)

/-- Lines are known by the text that they make, up to empty lines at the end. -/
theorem join_dropEndWhile_inj (h : ∀ line ∈ lines, '\n' ∉ line)
    (h' : ∀ line ∈ others, '\n' ∉ line) :
    Text.join ['\n'] (dropEndWhile List.isEmpty lines) =
        Text.join ['\n'] (dropEndWhile List.isEmpty others) ↔
      dropEndWhile List.isEmpty lines = dropEndWhile List.isEmpty others := by
  have hback {kept : List Text} (hlines : ∀ line ∈ kept, '\n' ∉ line)
      (hne : dropEndWhile List.isEmpty kept ≠ []) :
      (Text.join ['\n'] (dropEndWhile List.isEmpty kept)).splitOn '\n' =
        dropEndWhile List.isEmpty kept :=
    List.splitOn_intercalate '\n'
      (fun line hline => hlines line ((List.rdropWhile_prefix _ _).subset hline)) hne
  constructor
  · intro heq
    by_cases hlines : dropEndWhile List.isEmpty lines = []
    · rw [hlines] at heq
      rw [hlines, dropEndWhile_eq_nil_of_join heq.symm]
    · by_cases hothers : dropEndWhile List.isEmpty others = []
      · rw [hothers] at heq
        rw [hothers, dropEndWhile_eq_nil_of_join heq]
      · rw [← hback h hlines, heq, hback h' hothers]
  · exact congrArg (Text.join ['\n'])

end EmptyLines

/-! ## Rewritten texts -/

/-- Rewritten texts are equal exactly when the lines are the same. -/
theorem normalText_eq_iff_sameLines {first second : Text} :
    normalText first = normalText second ↔ Text.SameLines first second := by
  have hnormal {text : Text} {lines : List Text} (h : Text.HasLines text lines) :
      normalText text = Text.join ['\n'] (dropEndWhile List.isEmpty lines) := by
    rw [normalText, h.unifyBreaks_eq, dropEndWhile_join fun line hline => (h.isLine line hline).2]
  constructor
  · intro heq
    obtain ⟨lines, hlines⟩ := Text.exists_hasLines first
    obtain ⟨others, hothers⟩ := Text.exists_hasLines second
    rw [hnormal hlines, hnormal hothers, join_dropEndWhile_inj
      (fun line hline => (hlines.isLine line hline).2)
      (fun line hline => (hothers.isLine line hline).2)] at heq
    exact ⟨lines, others, hlines, hothers, heq⟩
  · rintro ⟨lines, others, hlines, hothers, heq⟩
    rw [hnormal hlines, hnormal hothers, heq]

theorem Text.sameLines_self (text : Text) : Text.SameLines text text :=
  normalText_eq_iff_sameLines.1 rfl

instance (first second : Text) : Decidable (Text.SameLines first second) :=
  decidable_of_iff _ normalText_eq_iff_sameLines

/-! ## Comparisons -/

namespace Check

variable {vars : Variables} {path : Text}

/-- The comparison of texts finds no difference exactly between texts of the same lines. -/
theorem goldenText_eq_nil_iff {text body : Text} :
    goldenText path text body = [] ↔ Text.SameLines text body := by
  rw [← normalText_eq_iff_sameLines, ← normalLines_eq_iff, ← firstDifference_eq_none_iff,
    goldenText]
  cases firstDifference (normalLines text) (normalLines body) with
  | none => simp
  | some difference => simp

/-- Filling in placeholders in the bytes of a text is filling them in in the text. -/
theorem decode?_substituteBytes {content : Bytes} {text : Text}
    (htext : Utf8.decode? content = some text) :
    Utf8.decode? (vars.substituteBytes content) = some (vars.substitute text) := by
  simp only [Variables.substituteBytes, htext, Utf8.decode?_encode]

/-- Exact comparison with a text is equality of lines. -/
theorem goldenExact_eq_nil_iff {content received : Bytes} {text body : Text}
    (htext : Utf8.decode? content = some text) :
    goldenExact vars path content received body = [] ↔
      Text.SameLines (vars.substitute text) body := by
  simp only [goldenExact, decode?_substituteBytes htext, goldenText_eq_nil_iff]

/-- The comparison by lines finds nothing to complain of when all lines are there. -/
theorem goldenLines_eq_nil_iff {content : Bytes} {body : Text} :
    goldenLines vars path content body = [] ↔
      ContainsLinesOf (vars.substitute (Utf8.decodeLossy content)) body := by
  rw [← requiredLines_filter_eq_nil_iff, goldenLines]
  cases (requiredLines vars content).filter (!contains · body) with
  | nil => simp
  | cons line lines => simp

/-- What is left of a line between its blanks occurs in the text. -/
theorem trim_infix_of_mem_splitOn {text line : Text} (h : line ∈ text.splitOn '\n') :
    Text.trim line <:+: text := by
  obtain ⟨before, after, -, -, hsplit⟩ := Text.exists_eq_append_trim line
  refine List.IsInfix.trans ⟨before, after, ?_⟩ (infix_of_mem_splitOn h)
  rw [List.append_assoc, ← hsplit]

/-- A text contains its own lines. -/
theorem containsLinesOf_self (text : Text) : ContainsLinesOf text text :=
  fun _ hline _ => trim_infix_of_mem_splitOn hline

/-- Without a charset, a body that is a text is read as it is. -/
theorem bodyText_of_decode? {response : Response} {text : Text}
    (hcharset : response.contentType?.bind ContentType.charset? = none)
    (htext : Utf8.decode? response.body = some text) : response.bodyText none = text := by
  rw [Response.bodyText, Response.charset?, hcharset, Option.none_or, Charset.decode, htext,
    Option.getD_some]

/-- With a golden resource that is a text, the exact comparison reports nothing exactly when the
body has the same lines as the text with its placeholders filled, whatever charset the body is read
under.  A body that is the resource with its placeholders filled, and declares no charset, passes in
both modes. -/
theorem golden_exact_iff (response : Response) (vars : Variables) {goldens : Goldens}
    {path text : Text} {content : Bytes}
    (hlookup : goldens.lookup (vars.substitute path) = some content)
    (htext : Utf8.decode? content = some text) :
    (∀ override, golden response .exact vars goldens (response.bodyText override) path = [] ↔
        Text.SameLines (vars.substitute text) (response.bodyText override)) ∧
      (response.contentType?.bind ContentType.charset? = none →
        response.body = vars.substituteBytes content →
          ∀ mode, golden response mode vars goldens (response.bodyText none) path = []) := by
  refine ⟨fun override => ?_, fun hcharset hbody mode => ?_⟩
  · simp only [golden, hlookup, goldenExact_eq_nil_iff htext]
  · have hdecoded : Utf8.decode? response.body = some (vars.substitute text) := by
      rw [hbody, decode?_substituteBytes htext]
    simp only [golden, hlookup, bodyText_of_decode? hcharset hdecoded]
    cases mode with
    | exact => exact (goldenExact_eq_nil_iff htext).2 (Text.sameLines_self _)
    | substring =>
      rw [goldenLines_eq_nil_iff, Utf8.decodeLossy_of_decode? htext]
      exact containsLinesOf_self _

/-- A page with a placeholder, an empty line between two breaks of different kinds, and line breaks
at its end. -/
def page : Text :=
  "<h1>|host|</h1>\r\n\rvalue\n\r\n".toList

/-- What the placeholder of the page stands for. -/
def pageVars : Variables :=
  ⟨[("host".toList, "tck.local".toList)], by decide⟩

/-- The page under its path. -/
def pageGoldens : Goldens :=
  [("page.html".toList, Utf8.encode page)]

/-- A response without fields. -/
def pageResponse (body : Bytes) : Response where
  statusLine := "HTTP/1.1 200 OK".toList
  version := "HTTP/1.1".toList
  code := 200
  reason := "OK".toList
  fields := []
  body := body
  raw := Utf8.encode "HTTP/1.1 200 OK\r\n\r\n".toList ++ body

/-- The page with other breaks between its lines and none at its end passes, and the page itself
passes in both modes. -/
theorem golden_exact_iff_page :
    let rewritten := pageResponse (Utf8.encode "<h1>tck.local</h1>\n\nvalue".toList)
    let served := pageResponse (pageVars.substituteBytes (Utf8.encode page))
    pageGoldens.lookup (pageVars.substitute "page.html".toList) = some (Utf8.encode page) ∧
      Utf8.decode? (Utf8.encode page) = some page ∧
      golden rewritten .exact pageVars pageGoldens (rewritten.bodyText none) "page.html".toList =
        [] ∧
      ∀ mode, golden served mode pageVars pageGoldens (served.bodyText none) "page.html".toList =
        [] := by
  intro rewritten served
  have hlookup : pageGoldens.lookup (pageVars.substitute "page.html".toList) =
      some (Utf8.encode page) := by decide +kernel
  have htext : Utf8.decode? (Utf8.encode page) = some page := Utf8.decode?_encode page
  have hsame : Text.SameLines (pageVars.substitute page) (rewritten.bodyText none) := by
    decide +kernel
  exact ⟨hlookup, htext, ((golden_exact_iff rewritten pageVars hlookup htext).1 none).2 hsame,
    (golden_exact_iff served pageVars hlookup htext).2 rfl rfl⟩

end Check

end HttpConformance
