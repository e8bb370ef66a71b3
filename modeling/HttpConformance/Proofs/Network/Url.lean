import HttpConformance.Network.Url

/-!
# Texts that are URLs

The reading of URLs belongs to a library that the program relies on.  What is relied on is gathered
here: which texts are URLs and what their parts are, in one equivalence, and which error all others
are refused with.  The modules on redirects know of the reading what `Url.parse_eq_ok_iff` says and,
of the authorities that pass the check there, what the module on authorities proves.

Main definitions: `Url.pathOf`, `Url.queryBehind?`, `Url.IsRefusedWith`.

Main results:

- `Url.parse_eq_ok_iff`: when a text is a URL, and which one.
- `Url.parse_eq_error_iff`: when a text is refused, and with which error.
-/

namespace HttpConformance.Url

/-! ## The parts of a URL -/

/-- The path at the front of what follows an authority. -/
def pathOf (text : Text) : Text :=
  (text.dropWhile (!endsAuthority ·)).takeWhile (!endsPath ·)

/-- The query behind the path. -/
def queryBehind? (text : Text) : Option Text :=
  queryOf? ((text.dropWhile (!endsAuthority ·)).dropWhile (!endsPath ·))

/-- A text whose authority passes the check is not empty. -/
theorem ne_nil_of_checkAuthority {text : Text}
    (h : checkAuthority (text.takeWhile (!endsAuthority ·)) = .ok ()) : text ≠ [] := by
  rintro rfl
  cases h

/-- Once the authority has passed the check, the characters of the path and of the query decide. -/
theorem parse_of_checkAuthority {text : Text} (hlength : (Utf8.encode text).length ≤ maxLength)
    (hauthority : checkAuthority (text.takeWhile (!endsAuthority ·)) = .ok ()) :
    parse text =
      if (pathOf text).all isPathChar ∧ (queryBehind? text).all (·.all isQueryChar) then
        .ok ⟨text.takeWhile (!endsAuthority ·),
          if pathOf text = [] then ['/'] else pathOf text, queryBehind? text⟩
      else .error .invalidCharacter := by
  unfold parse
  rw [if_neg (Nat.not_lt.2 hlength), if_neg (ne_nil_of_checkAuthority hauthority)]
  dsimp only
  rw [hauthority]
  rfl

/-- A text that is not empty is refused with the error of its authority. -/
theorem parse_of_checkAuthority_error {text : Text} {error : Error}
    (hlength : (Utf8.encode text).length ≤ maxLength) (hne : text ≠ [])
    (hauthority : checkAuthority (text.takeWhile (!endsAuthority ·)) = .error error) :
    parse text = .error error := by
  unfold parse
  rw [if_neg (Nat.not_lt.2 hlength), if_neg hne]
  dsimp only
  rw [hauthority]
  rfl

/-- When a text is a URL, and which one. -/
theorem parse_eq_ok_iff {text : Text} {url : Url} :
    parse text = .ok url ↔
      (Utf8.encode text).length ≤ maxLength ∧
        checkAuthority (text.takeWhile (!endsAuthority ·)) = .ok () ∧
        (∀ c ∈ pathOf text, isPathChar c = true) ∧
        (∀ query, queryBehind? text = some query → ∀ c ∈ query, isQueryChar c = true) ∧
        url =
          { authority := text.takeWhile (!endsAuthority ·)
            path := if pathOf text = [] then ['/'] else pathOf text
            query := queryBehind? text } := by
  constructor
  · intro h
    have hlength : (Utf8.encode text).length ≤ maxLength := by
      refine Nat.le_of_not_lt fun hlong => ?_
      rw [parse, if_pos hlong] at h
      cases h
    have hne : text ≠ [] := by
      rintro rfl
      cases h
    cases hauthority : checkAuthority (text.takeWhile (!endsAuthority ·)) with
    | error error =>
      rw [parse_of_checkAuthority_error hlength hne hauthority] at h
      cases h
    | ok checked =>
      rw [parse_of_checkAuthority hlength hauthority] at h
      split at h
      · rename_i hchars
        cases h
        refine ⟨hlength, rfl, List.all_eq_true.1 hchars.1, ?_, rfl⟩
        intro query hquery
        exact List.all_eq_true.1 ((Option.all_eq_true _ _).1 hchars.2 query hquery)
      · cases h
  · rintro ⟨hlength, hauthority, hpath, hquery, rfl⟩
    rw [parse_of_checkAuthority hlength hauthority]
    refine if_pos ⟨List.all_eq_true.2 hpath, ?_⟩
    exact (Option.all_eq_true _ _).2 fun query hsome => List.all_eq_true.2 (hquery query hsome)

/-! ## Texts that are refused -/

/-- The text is no URL: it is too long, it is empty, its authority does not pass the check, or a
character of its path or of its query may not stand there.  The first of these counts. -/
inductive IsRefusedWith : Text → Error → Prop where
  | tooLong {text : Text} (h : maxLength < (Utf8.encode text).length) :
      IsRefusedWith text .tooLong
  | empty : IsRefusedWith [] .empty
  | authority {text : Text} {error : Error} (hlength : (Utf8.encode text).length ≤ maxLength)
      (hne : text ≠ []) (h : checkAuthority (text.takeWhile (!endsAuthority ·)) = .error error) :
      IsRefusedWith text error
  | path {text : Text} (hlength : (Utf8.encode text).length ≤ maxLength)
      (hauthority : checkAuthority (text.takeWhile (!endsAuthority ·)) = .ok ()) {c : Char}
      (hc : c ∈ pathOf text) (h : isPathChar c = false) : IsRefusedWith text .invalidCharacter
  | query {text query : Text} (hlength : (Utf8.encode text).length ≤ maxLength)
      (hauthority : checkAuthority (text.takeWhile (!endsAuthority ·)) = .ok ())
      (hquery : queryBehind? text = some query) {c : Char} (hc : c ∈ query)
      (h : isQueryChar c = false) : IsRefusedWith text .invalidCharacter

/-- What is refused with an error fails with it. -/
theorem IsRefusedWith.parse_eq {text : Text} {error : Error} (h : IsRefusedWith text error) :
    parse text = .error error := by
  cases h with
  | tooLong h => exact if_pos h
  | empty => rfl
  | authority hlength hne h => exact parse_of_checkAuthority_error hlength hne h
  | path hlength hauthority hc h =>
    rw [parse_of_checkAuthority hlength hauthority]
    refine if_neg fun hall => ?_
    rw [List.all_eq_true.1 hall.1 _ hc] at h
    cases h
  | query hlength hauthority hquery hc h =>
    rw [parse_of_checkAuthority hlength hauthority]
    refine if_neg fun hall => ?_
    have hchars := (Option.all_eq_true _ _).1 hall.2 _ hquery
    rw [List.all_eq_true.1 hchars _ hc] at h
    cases h

/-- Every text that is no URL is refused with some error. -/
theorem exists_isRefusedWith {text : Text} (h : ∀ url, parse text ≠ .ok url) :
    ∃ error, IsRefusedWith text error := by
  by_cases hlength : maxLength < (Utf8.encode text).length
  · exact ⟨_, .tooLong hlength⟩
  rw [Nat.not_lt] at hlength
  by_cases hne : text = []
  · exact hne ▸ ⟨_, .empty⟩
  cases hauthority : checkAuthority (text.takeWhile (!endsAuthority ·)) with
  | error error => exact ⟨error, .authority hlength hne hauthority⟩
  | ok checked =>
    by_cases hpath : ∃ c ∈ pathOf text, isPathChar c = false
    · obtain ⟨c, hc, hnot⟩ := hpath
      exact ⟨_, .path hlength hauthority hc hnot⟩
    by_cases hquery : ∃ query, queryBehind? text = some query ∧ ∃ c ∈ query, isQueryChar c = false
    · obtain ⟨query, hsome, c, hc, hnot⟩ := hquery
      exact ⟨_, .query hlength hauthority hsome hc hnot⟩
    refine absurd (parse_eq_ok_iff.2 ⟨hlength, hauthority, ?_, ?_, rfl⟩) (h _)
    · simpa using hpath
    · simpa using hquery

/-- When a text is refused, and with which error. -/
theorem parse_eq_error_iff {text : Text} {error : Error} :
    parse text = .error error ↔ IsRefusedWith text error := by
  refine ⟨fun h => ?_, IsRefusedWith.parse_eq⟩
  have hnot : ∀ url, parse text ≠ .ok url := by
    intro url hurl
    rw [h] at hurl
    cases hurl
  obtain ⟨other, hother⟩ := exists_isRefusedWith hnot
  have hsame := hother.parse_eq
  rw [h, Except.error.injEq] at hsame
  rwa [hsame]

/-- A delete character may stand nowhere, and an authority has to be there. -/
example : parse "tck/\x7f".toList = .error .invalidCharacter ∧
    parse "/x".toList = .error .invalidFormat :=
  ⟨rfl, rfl⟩

/-- A character of a path does not end it. -/
theorem endsPath_of_isPathChar {c : Char} (h : isPathChar c = true) : endsPath c = false := by
  rw [endsPath, Bool.or_eq_false_iff, beq_eq_false_iff_ne, beq_eq_false_iff_ne]
  constructor <;> (rintro rfl; exact absurd h (by decide))

end HttpConformance.Url
