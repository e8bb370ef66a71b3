import HttpConformance.Proofs.Check.GoldenLines
import Mathlib.Order.Bounds.Basic

/-!
# Where a body differs from its golden resource

When a body is not the text that it should be, one line is shown of each.  It is the first line in
which the two differ, and two texts that differ always have one: a list of lines gives back its
text, so that texts with the same lines are the same, and when all lines of the shorter list agree,
the first difference is where it has ended.

Main results:

- `Check.isLeast_of_firstDifference`: the lines that are found are the first ones that differ.
- `Check.find?_range_of_isLeast`: trying the lines one after the other finds the same place.
- `Check.goldenExact_reports_first_difference`: what is reported of a body that is not as its golden
  resource says.
-/

namespace HttpConformance.Check

section

variable {expected actual : List Text}

/-- The place that is found is the first one in which the lists differ, and the lines are those that
the lists have there. -/
theorem isLeast_of_firstDifference {index : Nat} {line other : Option Text}
    (h : firstDifference expected actual = some (index, line, other)) :
    IsLeast {i | expected[i]? ≠ actual[i]?} index ∧
      line = expected[index]? ∧ other = actual[index]? := by
  fun_induction firstDifference expected actual generalizing index with
  | case1 => cases h
  | case2 b bs =>
    cases h
    exact ⟨⟨by simp, fun i _ => Nat.zero_le i⟩, rfl, rfl⟩
  | case3 a as =>
    cases h
    exact ⟨⟨by simp, fun i _ => Nat.zero_le i⟩, rfl, rfl⟩
  | case4 as b bs ih =>
    obtain ⟨⟨later, lines⟩, hlater, heq⟩ := Option.map_eq_some_iff.1 h
    cases heq
    obtain ⟨⟨hdiffer, hleast⟩, hlines⟩ := ih hlater
    refine ⟨⟨by simpa using hdiffer, ?_⟩, by simpa using hlines⟩
    -- The first lines are the same, so an earlier difference is one behind them.
    intro i hi
    cases i with
    | zero => exact absurd rfl hi
    | succ i => exact Nat.succ_le_succ (hleast (by simpa using hi))
  | case5 a as b bs hne =>
    cases h
    exact ⟨⟨by simpa using hne, fun i _ => Nat.zero_le i⟩, rfl, rfl⟩

/-- Trying the lines one after the other, to the end of the longer list, finds the first
difference. -/
theorem find?_range_of_isLeast {index : Nat} (h : IsLeast {i | expected[i]? ≠ actual[i]?} index) :
    (List.range (max expected.length actual.length)).find? (fun i => expected[i]? ≠ actual[i]?) =
      some index := by
  obtain ⟨hdiffer, hleast⟩ := h
  have hbound : index < max expected.length actual.length := by
    by_contra hge
    rw [Nat.not_lt, Nat.max_le] at hge
    apply hdiffer
    rw [List.getElem?_eq_none hge.1, List.getElem?_eq_none hge.2]
  refine List.find?_range_eq_some.2 ⟨decide_eq_true hdiffer, List.mem_range.2 hbound, ?_⟩
  intro i hi
  by_contra hearlier
  have hearly : expected[i]? ≠ actual[i]? := by simpa using hearlier
  exact absurd (hleast hearly) (Nat.not_le.2 hi)

end

/-- With a golden resource that is a text, nothing is reported of a body that is the same text once
line breaks are rewritten.  Of any other body one line is reported, and always one: the first at
which the two lists of lines differ, with its number and with what both have there, or the mark of
the list that has ended. -/
theorem goldenExact_reports_first_difference (vars : Variables) (path : Text)
    {content : Bytes} {text : Text} (htext : Utf8.decode? content = some text) (received : Bytes)
    (body : Text) :
    let expected := (normalText (vars.substitute text)).splitOn '\n'
    let actual := (normalText body).splitOn '\n'
    (normalText (vars.substitute text) = normalText body →
        goldenExact vars path content received body = []) ∧
      (normalText (vars.substitute text) ≠ normalText body →
        ∃ index, IsLeast {i | expected[i]? ≠ actual[i]?} index ∧
          (List.range (max expected.length actual.length)).find?
            (fun i => expected[i]? ≠ actual[i]?) = some index ∧
          goldenExact vars path content received body =
            [⟨.body,
              path ++ " line ".toList ++ Numeral.write (index + 1) ++ ": ".toList ++
                Text.quoted (expected[index]?.getD "<end of content>".toList),
              "line ".toList ++ Numeral.write (index + 1) ++ ": ".toList ++
                Text.quoted (actual[index]?.getD "<end of body>".toList)⟩]) := by
  intro expected actual
  have hexact : goldenExact vars path content received body =
      goldenText path (vars.substitute text) body := by
    simp only [goldenExact, decode?_substituteBytes htext]
  rw [hexact]
  refine ⟨fun hsame => ?_, fun hdiffer => ?_⟩
  · exact goldenText_eq_nil_iff.2 (normalText_eq_iff_sameLines.1 hsame)
  · have hfound : firstDifference expected actual ≠ none := by
      rw [Ne, firstDifference_eq_none_iff]
      exact fun hlines => hdiffer (normalLines_eq_iff.1 hlines)
    obtain ⟨⟨index, line, other⟩, hfirst⟩ := Option.ne_none_iff_exists'.1 hfound
    obtain ⟨hleast, rfl, rfl⟩ := isLeast_of_firstDifference hfirst
    refine ⟨index, hleast, find?_range_of_isLeast hleast, ?_⟩
    have hfirst' : firstDifference (normalLines (vars.substitute text)) (normalLines body) =
        some (index, expected[index]?, actual[index]?) := hfirst
    have hline : " line ".toList = ' ' :: "line ".toList := rfl
    have hcolon : ": ".toList = [':', ' '] := rfl
    simp only [goldenText, hfirst']
    unfold describeLine
    simp only [hline, hcolon, List.append_assoc, List.cons_append, List.nil_append]

/-- A body that ends within the page: the break at its end does not count, so the empty second line
of the page is missing. -/
theorem goldenExact_reports_first_difference_page :
    let body := "<h1>tck.local</h1>\r\n".toList
    Utf8.decode? (Utf8.encode page) = some page ∧
      normalText (pageVars.substitute page) ≠ normalText body ∧
      goldenExact pageVars "page.html".toList (Utf8.encode page) (Utf8.encode body) body =
        [⟨.body, "page.html line 2: \"\"".toList, "line 2: \"<end of body>\"".toList⟩] := by
  intro body
  have htext : Utf8.decode? (Utf8.encode page) = some page := Utf8.decode?_encode page
  have hdiffer : normalText (pageVars.substitute page) ≠ normalText body := by decide +kernel
  obtain ⟨index, -, hfind, hreport⟩ := (goldenExact_reports_first_difference pageVars
    "page.html".toList htext (Utf8.encode body) body).2 hdiffer
  have hindex : some index = some 1 := by
    rw [← hfind]
    decide +kernel
  rw [Option.some.inj hindex] at hreport
  rw [hreport]
  decide +kernel

end HttpConformance.Check
