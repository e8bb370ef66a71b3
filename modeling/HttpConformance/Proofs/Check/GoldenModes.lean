import HttpConformance.Proofs.Check.GoldenLines
import HttpConformance.Proofs.Substitution.OnePass

/-!
# The two modes of a golden resource

The exact comparison takes each of CRLF, CR alone and LF for the end of a line, and bytes that are
no text as they are.  The comparison by substrings splits a resource at LFs only, and reads bytes
that are no text with a replacement for each malformed place.  So a body that passes exactly passes
by substrings as well unless the resource has a CR within a line, or is no text.

Main results:

- `Text.HasLines.exists_infix`: what has no line breaks and occurs in a text occurs in a line of it.
- `Check.containsLinesOf_iff`: which lines a text with the same lines need not contain.
- `Check.golden_substring_of_exact`: when a body that passes exactly passes by substrings.
-/

namespace HttpConformance

/-! ## Lines -/

namespace Text

variable {text : Text} {lines : List Text}

theorem HasLines.infix_of_mem (h : HasLines text lines) {line : Text} (hline : line ∈ lines) :
    line <:+: text := by
  induction h with
  | last _ =>
    obtain rfl := List.mem_singleton.1 hline
    exact List.infix_rfl
  | @cons first ending rest lines _ _ _ ih =>
    rcases List.mem_cons.1 hline with rfl | hmem
    · exact (List.prefix_append line (ending ++ rest)).isInfix
    · rw [← List.append_assoc]
      exact (ih hmem).trans (List.suffix_append (first ++ ending) rest).isInfix

/-- What has no line breaks and occurs in a text occurs in a line of it. -/
theorem HasLines.exists_infix (h : HasLines text lines) {piece : Text} (hpiece : IsLine piece)
    (hoccurs : piece <:+: text) : ∃ line ∈ lines, piece <:+: line := by
  induction h with
  | @last line _ => exact ⟨line, List.mem_singleton_self line, hoccurs⟩
  | @cons line ending rest lines _ hending _ ih =>
    have hparts : piece <:+: line ∨ piece <:+: rest := by
      cases hending with
      | crlf =>
        rcases infix_or_infix_of_append_cons hpiece.1 hoccurs with hline | hlater
        · exact Or.inl hline
        · have hlf : piece <:+: [] ++ '\n' :: rest := hlater
          rcases infix_or_infix_of_append_cons hpiece.2 hlf with hnil | hrest
          · exact Or.inl (hnil.trans List.nil_infix)
          · exact Or.inr hrest
      | lf => exact infix_or_infix_of_append_cons hpiece.2 hoccurs
      | cr => exact infix_or_infix_of_append_cons hpiece.1 hoccurs
    rcases hparts with hline | hrest
    · exact ⟨line, List.mem_cons_self, hline⟩
    · obtain ⟨other, hother, hwithin⟩ := ih hrest
      exact ⟨other, List.mem_cons_of_mem line hother, hwithin⟩

/-- What has no line breaks and is not empty occurs in every text with the same lines. -/
theorem SameLines.infix_of_isLine {other : Text} (h : SameLines text other) {piece : Text}
    (hpiece : IsLine piece) (hne : piece ≠ []) (hoccurs : piece <:+: text) : piece <:+: other := by
  obtain ⟨lines, others, hlines, hothers, heq⟩ := h
  obtain ⟨line, hline, hwithin⟩ := hlines.exists_infix hpiece hoccurs
  have hkept : line ∈ dropEndWhile List.isEmpty lines := by
    obtain ⟨dropped, hdropped, hlines⟩ := exists_eq_dropEndWhile_append List.isEmpty lines
    rw [hlines] at hline
    rcases List.mem_append.1 hline with hkept | hmem
    · exact hkept
    · rw [List.isEmpty_iff.1 (hdropped line hmem), List.infix_nil] at hwithin
      exact absurd hwithin hne
  rw [heq] at hkept
  exact hwithin.trans (hothers.infix_of_mem ((List.rdropWhile_prefix _ _).subset hkept))

end Text

/-! ## Lines with a CR in them -/

namespace Check

/-- Of the lines between LFs, a text with the same lines need not contain those that have a CR in
them. -/
theorem containsLinesOf_iff {text body : Text} (h : Text.SameLines text body) :
    ContainsLinesOf text body ↔
      ∀ line ∈ text.splitOn '\n', '\r' ∈ Text.trim line → Text.trim line <:+: body := by
  constructor
  · intro hcontains line hline hcr
    exact hcontains line hline (List.ne_nil_of_mem hcr)
  · intro hcontains line hline hne
    by_cases hcr : '\r' ∈ Text.trim line
    · exact hcontains line hline hcr
    · have hlf : '\n' ∉ Text.trim line := fun hmem =>
        notMem_of_mem_splitOn hline (Text.mem_of_mem_trim hmem)
      exact h.infix_of_isLine ⟨hcr, hlf⟩ hne (trim_infix_of_mem_splitOn hline)

/-! ## Resources that are no text -/

/-- A visible character of a text is in every text that contains the lines of it. -/
theorem mem_of_containsLinesOf {text body : Text} (h : ContainsLinesOf text body) {c : Char}
    (hc : Text.isBlank c = false) (hmem : c ∈ text) : c ∈ body := by
  have hlf : c ∉ ['\n'] := by
    intro hlf
    rw [List.mem_singleton.1 hlf] at hc
    exact absurd hc (by decide)
  have hjoined : c ∈ Text.join ['\n'] (text.splitOn '\n') := by
    rwa [Text.join, List.intercalate_splitOn]
  obtain ⟨line, hline, hwithin⟩ := exists_mem_of_mem_join hlf hjoined
  have htrim := Text.mem_trim_of_not_isBlank hc hwithin
  exact (h line hline (List.ne_nil_of_mem htrim)).subset htrim

/-- Substitution keeps replacements. -/
theorem replacement_mem_substitute (vars : Variables) {text : Text} (h : Utf8.replacement ∈ text) :
    Utf8.replacement ∈ vars.substitute text := by
  obtain ⟨front, rest, rfl⟩ := List.append_of_mem h
  rw [Variables.substitute_append_cons (by decide) (by decide)]
  exact List.mem_append_right _ List.mem_cons_self

/-- Without a charset, bytes that are no text are read byte by byte. -/
theorem replacement_notMem_bodyText {response : Response} {override : Option Text}
    (hcharset : response.charset? override = none) (hbody : Utf8.decode? response.body = none) :
    Utf8.replacement ∉ response.bodyText override := by
  have hbytes : ∀ n < 256, Char.ofNat n ≠ Utf8.replacement := by decide +kernel
  rw [Response.bodyText, hcharset, Charset.decode, hbody, Option.getD_none, Charset.decodeLatin1]
  intro hmem
  obtain ⟨b, -, hb⟩ := List.mem_map.1 hmem
  exact hbytes b.toNat b.toNat_lt hb

variable {response : Response} {vars : Variables} {goldens : Goldens} {path : Text}

/-- When a body that passes exactly passes by substrings.  Of a resource that is a text, only lines
with a CR in them can be missing.  A resource that is no text passes when its lines are found with
replacements in them: never in a body without a charset, and always in one that is read in the same
way if the resource has no placeholders. -/
theorem golden_substring_of_exact {override : Option Text}
    (hexact : golden response .exact vars goldens (response.bodyText override) path = []) :
    ∃ content, goldens.lookup (vars.substitute path) = some content ∧
      (∀ text, Utf8.decode? content = some text →
        (golden response .substring vars goldens (response.bodyText override) path = [] ↔
          ∀ line ∈ (vars.substitute text).splitOn '\n', '\r' ∈ Text.trim line →
            Text.trim line <:+: response.bodyText override)) ∧
      (Utf8.decode? content = none →
        (golden response .substring vars goldens (response.bodyText override) path = [] ↔
          ContainsLinesOf (vars.substitute (Utf8.decodeLossy content))
            (response.bodyText override)) ∧
        (response.charset? override = none →
          golden response .substring vars goldens (response.bodyText override) path ≠ []) ∧
        (response.bodyText override = Utf8.decodeLossy response.body →
          ¬ vars.HasReference (Utf8.decodeLossy content) →
            golden response .substring vars goldens (response.bodyText override) path = [])) := by
  cases hlookup : goldens.lookup (vars.substitute path) with
  | none => simp [golden, hlookup] at hexact
  | some content =>
    simp only [golden, hlookup] at hexact ⊢
    refine ⟨content, rfl, fun text htext => ?_, fun hnone => ?_⟩
    · have hsame := (goldenExact_eq_nil_iff htext).1 hexact
      rw [goldenLines_eq_nil_iff, Utf8.decodeLossy_of_decode? htext]
      exact containsLinesOf_iff hsame
    · have hkept : vars.substituteBytes content = content := by
        simp only [Variables.substituteBytes, hnone]
      have hbody : response.body = content := by
        simpa [goldenExact, hkept, hnone] using hexact
      rw [goldenLines_eq_nil_iff]
      refine ⟨Iff.rfl, fun hcharset hnil => ?_, fun hlossy hplain => ?_⟩
      · have hcontains := goldenLines_eq_nil_iff.1 hnil
        have hmem := replacement_mem_substitute vars (Utf8.replacement_mem_decodeLossy hnone)
        rw [← hbody] at hnone
        exact replacement_notMem_bodyText hcharset hnone
          (mem_of_containsLinesOf hcontains (by decide) hmem)
      · rw [Variables.substitute_of_not_hasReference hplain, hlossy, hbody]
        exact containsLinesOf_self _

/-- A byte that is no text passes exactly, and never by substrings without a charset. -/
theorem golden_substring_of_exact_byte :
    let served := pageResponse [0xFF]
    let stored : Goldens := [("byte".toList, [0xFF])]
    golden served .exact pageVars stored (served.bodyText none) "byte".toList = [] ∧
      golden served .substring pageVars stored (served.bodyText none) "byte".toList ≠ [] := by
  intro served stored
  have hexact : golden served .exact pageVars stored (served.bodyText none) "byte".toList = [] := by
    decide +kernel
  obtain ⟨content, hlookup, -, hbinary⟩ := golden_substring_of_exact hexact
  have hcontent : content = [0xFF] := by
    have hfound : stored.lookup (pageVars.substitute "byte".toList) = some [0xFF] := by
      decide +kernel
    exact Option.some.inj (hlookup.symm.trans hfound)
  have hnone : Utf8.decode? content = none := by
    rw [hcontent]
    decide +kernel
  exact ⟨hexact, (hbinary hnone).2.1 rfl⟩

/-- A body that passes exactly need not pass by substrings: the break within the resource is a CR,
and that of the body an LF. -/
theorem not_golden_substring_of_exact :
    ¬ ∀ (response : Response) (vars : Variables) (goldens : Goldens) (path : Text)
        (override : Option Text),
      golden response .exact vars goldens (response.bodyText override) path = [] →
        golden response .substring vars goldens (response.bodyText override) path = [] := by
  intro h
  have hsubstring := h (pageResponse (Utf8.encode "a\nb".toList)) pageVars
    [("lines".toList, Utf8.encode "a\rb".toList)] "lines".toList none (by decide +kernel)
  revert hsubstring
  decide +kernel

end Check

end HttpConformance
