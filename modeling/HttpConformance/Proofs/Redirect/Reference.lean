import HttpConformance.Proofs.Redirect.Place

/-!
# Locations with and without an authority

A location that begins with a slash leads to the same place and the same request as one with the
current authority written in front of it, unless it has a fragment: a URL is read without the
fragment, and a location under the current authority is taken as it is.

Main definitions: `Reference`, `Reference.IsRooted`, `LeadAlike`.

Main results:

- `Reference.IsRooted.trim_append`: blanks behind a reference are blanks of its last part.
- `Reference.IsRooted.parse_append_eq_ok_iff`: when a reference is read behind an authority.
- `Reference.IsRooted.nextRequest?_eq`, `Reference.IsRooted.nextRequest?_absolute_eq_ok_iff`: what
  follows the two ways of writing a location.
- `leadAlike_iff`: when both lead to the same place and the same request.
-/

namespace HttpConformance

/-- The response is a redirect to the location that is written in it. -/
structure Response.RedirectsTo (response : Response) (location : Text) : Prop where
  isRedirect : response.isRedirect = true
  header?_eq : response.header? "Location".toList = some location

/-- The location is the written one without the blanks around it. -/
theorem Response.RedirectsTo.location?_eq {response : Response} {location : Text}
    (h : response.RedirectsTo location) (hne : Text.trim location ≠ []) :
    response.location? = some (Text.trim location) := by
  rw [location?, if_pos h.isRedirect, h.header?_eq, Option.map_some, Option.filter_some,
    if_pos (decide_eq_true hne)]

/-! ## References -/

/-- A path, and possibly a query and a fragment. -/
structure Reference where
  path : Text
  query : Option Text
  fragment : Option Text
  deriving DecidableEq, Repr

namespace Reference

/-- The URL that a reference stands for under an authority. -/
def url (reference : Reference) (authority : Text) : Url :=
  ⟨authority, reference.path, reference.query⟩

/-- A part of a reference behind the character that begins it, or nothing. -/
def partText (c : Char) (part : Option Text) : Text :=
  (part.map (c :: ·)).getD []

/-- The reference as it is written. -/
def text (reference : Reference) : Text :=
  reference.path ++ (partText '?' reference.query ++ partText '#' reference.fragment)

/-- The path begins with one slash, and the path and the query have the characters that they may
have. -/
structure IsRooted (reference : Reference) : Prop where
  path_eq : ∃ rest, reference.path = '/' :: rest ∧ rest.head? ≠ some '/'
  isPathChar : ∀ c ∈ reference.path, Url.isPathChar c = true
  isQueryChar : ∀ query, reference.query = some query → ∀ c ∈ query, Url.isQueryChar c = true

variable {reference : Reference}

/-- Without a fragment, a reference is written as the target of its URL. -/
theorem text_eq_target_append (reference : Reference) (authority : Text) :
    reference.text = (reference.url authority).target ++ partText '#' reference.fragment := by
  rw [text, ← List.append_assoc]
  cases hquery : reference.query <;> simp [url, Url.target, hquery, partText]

/-- A reference is sent as it is written exactly when it has no fragment. -/
theorem text_eq_target_iff (authority : Text) :
    reference.text = (reference.url authority).target ↔ reference.fragment = none := by
  rw [text_eq_target_append reference authority, List.append_right_eq_self]
  cases reference.fragment <;> simp [partText]

/-! ## The parts of the text -/

/-- Behind the path stands a query, a fragment or nothing. -/
theorem endsPath_of_head?_parts (reference : Reference) :
    ∀ c, (partText '?' reference.query ++ partText '#' reference.fragment).head? = some c →
      (!Url.endsPath c) = false := by
  intro c h
  cases hquery : reference.query with
  | some query =>
    rw [hquery] at h
    cases h
    decide
  | none =>
    cases hfragment : reference.fragment <;> rw [hquery, hfragment] at h <;> cases h
    decide

/-- The query is read from what is written behind the path. -/
theorem queryOf?_parts
    (h : ∀ query, reference.query = some query → ∀ c ∈ query, Url.isQueryChar c = true) :
    Url.queryOf? (partText '?' reference.query ++ partText '#' reference.fragment) =
      reference.query := by
  cases hquery : reference.query with
  | none => cases reference.fragment <;> rfl
  | some query =>
    have hhash : '#' ∉ query := fun hmem => absurd (h query hquery _ hmem) (by decide)
    have hrest : ∀ c, (partText '#' reference.fragment).head? = some c → (c != '#') = false := by
      cases reference.fragment with
      | none => rintro _ ⟨⟩
      | some fragment => rintro _ ⟨rfl⟩; decide
    exact congrArg some (takeWhile_append_of_head? (bne_of_notMem hhash) hrest)

/-! ## Blanks at the end -/

/-- A reference without the blanks at the end of its last part. -/
def withoutBlanks (reference : Reference) : Reference :=
  match reference.query, reference.fragment with
  | _, some fragment =>
    { reference with fragment := some (dropEndWhile Text.isBlank fragment) }
  | some query, none => { reference with query := some (dropEndWhile Text.isBlank query) }
  | none, none => { reference with path := dropEndWhile Text.isBlank reference.path }

/-- A reference without the blanks at its end is written without them. -/
theorem text_withoutBlanks (reference : Reference) :
    reference.withoutBlanks.text = dropEndWhile Text.isBlank reference.text := by
  have hquestion : Text.isBlank '?' = false := by decide
  have hhash : Text.isBlank '#' = false := by decide
  obtain ⟨path, query, fragment⟩ := reference
  cases fragment with
  | some fragment =>
    simp only [withoutBlanks, text, partText, Option.map_some, Option.getD_some,
      ← List.append_assoc]
    rw [dropEndWhile_append_cons_of_kept hhash]
  | none =>
    cases query with
    | some query =>
      simp [withoutBlanks, text, partText, dropEndWhile_append_cons_of_kept hquestion]
    | none => simp [withoutBlanks, text, partText]

theorem fragment_withoutBlanks_eq_none_iff :
    reference.withoutBlanks.fragment = none ↔ reference.fragment = none := by
  obtain ⟨path, query, fragment⟩ := reference
  cases fragment <;> cases query <;> simp [withoutBlanks]

namespace IsRooted

/-- The text of a reference begins with one slash. -/
theorem text_eq (h : reference.IsRooted) :
    ∃ rest, reference.text = '/' :: rest ∧ rest.head? ≠ some '/' := by
  obtain ⟨rest, hpath, hhead⟩ := h.path_eq
  refine ⟨_, by rw [text, hpath, List.cons_append], ?_⟩
  cases rest with
  | cons c rest => exact hhead
  | nil => cases reference.query <;> cases reference.fragment <;> simp [partText]

/-- Blanks at the end are no part of what makes a reference rooted. -/
theorem withoutBlanks (h : reference.IsRooted) : reference.withoutBlanks.IsRooted := by
  obtain ⟨path, query, fragment⟩ := reference
  have hfront (part : Text) : dropEndWhile Text.isBlank part <+: part :=
    List.rdropWhile_prefix _ _
  cases fragment with
  | some fragment => cases query <;> exact ⟨h.path_eq, h.isPathChar, h.isQueryChar⟩
  | none =>
    cases query with
    | some query =>
      refine ⟨h.path_eq, h.isPathChar, ?_⟩
      rintro _ ⟨rfl⟩
      exact fun c hc => h.isQueryChar query rfl c ((hfront query).subset hc)
    | none =>
      refine ⟨?_, fun c hc => h.isPathChar c ((hfront path).subset hc), by rintro _ ⟨⟩⟩
      obtain ⟨rest, rfl, hhead⟩ := h.path_eq
      refine ⟨_, dropEndWhile_cons_of_kept (by decide) rest, fun hslash => hhead ?_⟩
      obtain ⟨tail, htail⟩ := List.head?_eq_some_iff.1 hslash
      obtain ⟨dropped, hdropped⟩ := hfront rest
      rw [← hdropped, htail]
      rfl

/-- A reference is trimmed behind a text that begins with no blank. -/
theorem trim_append (h : reference.IsRooted) (front : Text)
    (hfront : ∀ c, front.head? = some c → Text.isBlank c = false) :
    Text.trim (front ++ reference.text) = front ++ reference.withoutBlanks.text := by
  obtain ⟨rest, htext, -⟩ := h.text_eq
  have hkept : ∃ c ∈ reference.text, Text.isBlank c = false :=
    ⟨'/', htext ▸ List.mem_cons_self, by decide⟩
  rw [text_withoutBlanks, ← dropEndWhile_append_of_exists hkept]
  refine Text.trim_eq_dropEndWhile ?_
  cases front with
  | cons c front => exact hfront
  | nil =>
    rw [List.nil_append, htext]
    rintro _ ⟨rfl⟩
    decide

/-- The location of a response that redirects to a reference behind a text. -/
theorem location?_eq (h : reference.IsRooted) (front : Text) {response : Response}
    (hfront : ∀ c, front.head? = some c → Text.isBlank c = false)
    (hresponse : response.RedirectsTo (front ++ reference.text)) :
    response.location? = some (front ++ reference.withoutBlanks.text) := by
  have htrim := h.trim_append front hfront
  obtain ⟨rest, htext, -⟩ := h.withoutBlanks.text_eq
  have hne : Text.trim (front ++ reference.text) ≠ [] := by
    rw [htrim, htext]
    exact List.append_ne_nil_of_right_ne_nil front (List.cons_ne_nil _ _)
  rw [hresponse.location?_eq hne, htrim]

/-! ## Reading -/

/-- When a reference is read behind an authority: the fragment is left out. -/
theorem parse_append_eq_ok_iff (h : reference.IsRooted) {authority : Text}
    (hauthority : ∀ c ∈ authority, Url.endsAuthority c = false) {url : Url} :
    Url.parse (authority ++ reference.text) = .ok url ↔
      (Utf8.encode (authority ++ reference.text)).length ≤ Url.maxLength ∧
        Url.checkAuthority authority = .ok () ∧ url = reference.url authority := by
  obtain ⟨rest, htext, -⟩ := h.text_eq
  obtain ⟨first, hpath, -⟩ := h.path_eq
  have hkept : ∀ c ∈ authority, (!Url.endsAuthority c) = true := fun c hc => by
    rw [hauthority c hc, Bool.not_false]
  have hslash : ∀ c, reference.text.head? = some c → (!Url.endsAuthority c) = false := by
    rw [htext]
    rintro _ ⟨rfl⟩
    decide
  have hfront := takeWhile_append_of_head? hkept hslash
  have hbehind := dropWhile_append_of_head? hkept hslash
  have hpathKept : ∀ c ∈ reference.path, (!Url.endsPath c) = true := fun c hc => by
    rw [Url.endsPath_of_isPathChar (h.isPathChar c hc), Bool.not_false]
  have hparts := endsPath_of_head?_parts reference
  have hpathOf : Url.pathOf (authority ++ reference.text) = reference.path := by
    rw [Url.pathOf, hbehind]
    exact takeWhile_append_of_head? hpathKept hparts
  have hquery : Url.queryBehind? (authority ++ reference.text) = reference.query := by
    rw [Url.queryBehind?, hbehind, text, dropWhile_append_of_head? hpathKept hparts,
      queryOf?_parts h.isQueryChar]
  have hne : reference.path ≠ [] := by
    rw [hpath]
    exact List.cons_ne_nil _ _
  rw [Url.parse_eq_ok_iff, hfront, hpathOf, hquery, if_neg hne]
  exact and_congr_right fun _ => and_congr_right fun _ =>
    ⟨fun hurl => hurl.2.2, fun hurl => ⟨h.isPathChar, h.isQueryChar, hurl⟩⟩

/-! ## What follows -/

/-- A reference is a location under the current authority. -/
theorem form_eq (h : reference.IsRooted) : LocationForm.of reference.text = .sameAuthority := by
  obtain ⟨rest, htext, hhead⟩ := h.text_eq
  rw [htext]
  cases rest with
  | nil => rfl
  | cons c rest =>
    have hc : ('/' == c) = false := beq_eq_false_iff_ne.2 fun heq => hhead (heq ▸ rfl)
    have hslashes : ['/', '/'].isPrefixOf? ('/' :: c :: rest) = none := by
      simp [List.isPrefixOf?, hc]
    rw [LocationForm.of, hslashes]
    rfl

variable {host : Text} {port : UInt16} {current : Request} {response : Response}

/-- What follows a location without an authority, which is taken as it is. -/
theorem nextRequest?_eq (h : reference.IsRooted)
    (hlocation : response.location? = some reference.text) :
    nextRequest? host port current response =
      some (.ok ⟨host, port, followUp host port current (host, port) reference.text⟩) := by
  obtain ⟨rest, htext, -⟩ := h.text_eq
  have hhead : reference.text.head? = some '/' := by rw [htext, List.head?_cons]
  rw [nextRequest?, hlocation, Option.map_some, resolveLocation, h.form_eq]
  dsimp only
  rw [if_pos hhead]
  rfl

/-- What follows a location with an authority, if its URL is accepted. -/
theorem nextRequest?_absolute_eq_ok_iff (h : reference.IsRooted) (hhost : Url.IsHostName host)
    (hlocation : response.location? =
      some ("http://".toList ++ (Url.placeText host port ++ reference.text)))
    {next : RedirectTarget} :
    nextRequest? host port current response = some (.ok next) ↔
      (Utf8.encode (Url.placeText host port ++ reference.text)).length ≤ Url.maxLength ∧
        '%' ∉ host ∧
        next = ⟨host, port,
          followUp host port current (host, port) (reference.url []).target⟩ := by
  have hauthority : ∀ c ∈ Url.placeText host port, Url.endsAuthority c = false := fun c hc =>
    Url.endsAuthority_of_isAuthorityChar
      (Url.isAuthorityChar_of_mem_placeText hhost.isAuthorityChar port c hc)
  have hplace : withoutBrackets (reference.url (Url.placeText host port)).host = host ∧
      (reference.url (Url.placeText host port)).port?.getD defaultPort = port :=
    Url.place_of_placeText hhost rfl
  have hread {url : Url} : Url.parse (Url.placeText host port ++ reference.text) = .ok url ↔
      (Utf8.encode (Url.placeText host port ++ reference.text)).length ≤ Url.maxLength ∧
        '%' ∉ host ∧ url = reference.url (Url.placeText host port) := by
    rw [h.parse_append_eq_ok_iff hauthority, Url.checkAuthority_placeText_iff hhost]
  rw [nextRequest?_of_absolute hlocation (LocationForm.of_eq_absolute_iff.2 (Or.inl rfl))]
  constructor
  · intro hnext
    cases hparse : Url.parse (Url.placeText host port ++ reference.text) with
    | error error =>
      rw [hparse] at hnext
      cases hnext
    | ok url =>
      rw [hparse] at hnext
      cases hnext
      obtain ⟨hlength, hpercent, rfl⟩ := hread.1 hparse
      refine ⟨hlength, hpercent, ?_⟩
      dsimp only
      rw [hplace.1, hplace.2]
      rfl
  · rintro ⟨hlength, hpercent, rfl⟩
    rw [hread.2 ⟨hlength, hpercent, rfl⟩]
    dsimp only
    rw [hplace.1, hplace.2]
    rfl

end IsRooted

end Reference

/-! ## Two ways of writing a location -/

/-- Both responses lead to the same place and the same request. -/
def LeadAlike (host : Text) (port : UInt16) (current : Request) (first second : Response) : Prop :=
  ∃ next, nextRequest? host port current first = some (.ok next) ∧
    nextRequest? host port current second = some (.ok next)

section

variable {host : Text} {port : UInt16} {current : Request} {rooted absolute : Response}
  {reference : Reference}

/-- A location that begins with one slash and the same one behind the current authority lead to the
same place and the same request exactly when there is no fragment, the host has no percent sign, and
the URL is not too long. -/
theorem leadAlike_iff (h : reference.IsRooted) (hhost : Url.IsHostName host)
    (hrooted : rooted.RedirectsTo reference.text)
    (habsolute : absolute.RedirectsTo
      ("http://".toList ++ (Url.placeText host port ++ reference.text))) :
    LeadAlike host port current rooted absolute ↔
      reference.fragment = none ∧ '%' ∉ host ∧
        (Utf8.encode (Url.placeText host port ++ Text.trim reference.text)).length ≤
          Url.maxLength := by
  -- Both locations are trimmed, and what is left of them is written with the same reference.
  have hblanks := h.withoutBlanks
  have htrim : Text.trim reference.text = reference.withoutBlanks.text :=
    h.trim_append [] (by rintro _ ⟨⟩)
  have hlocation : rooted.location? = some reference.withoutBlanks.text :=
    h.location?_eq [] (by rintro _ ⟨⟩) hrooted
  have hlocationAbsolute : absolute.location? =
      some ("http://".toList ++ (Url.placeText host port ++ reference.withoutBlanks.text)) := by
    rw [← List.append_assoc] at habsolute ⊢
    exact h.location?_eq _ (by rintro _ ⟨rfl⟩; decide) habsolute
  rw [htrim, ← Reference.fragment_withoutBlanks_eq_none_iff,
    ← Reference.text_eq_target_iff []]
  constructor
  · rintro ⟨next, hnext, hnextAbsolute⟩
    rw [hblanks.nextRequest?_eq hlocation] at hnext
    cases hnext
    obtain ⟨hlength, hpercent, hsame⟩ :=
      (hblanks.nextRequest?_absolute_eq_ok_iff hhost hlocationAbsolute).1 hnextAbsolute
    exact ⟨followUp_inj.1 (congrArg RedirectTarget.request hsame), hpercent, hlength⟩
  · rintro ⟨htarget, hpercent, hlength⟩
    refine ⟨_, hblanks.nextRequest?_eq hlocation, ?_⟩
    refine (hblanks.nextRequest?_absolute_eq_ok_iff hhost hlocationAbsolute).2
      ⟨hlength, hpercent, ?_⟩
    rw [htarget]

end

/-- A page with a query. -/
def queryPage : Reference where
  path := "/y".toList
  query := some "q=1".toList
  fragment := none

theorem isRooted_queryPage (fragment : Option Text) :
    Reference.IsRooted { queryPage with fragment := fragment } where
  path_eq := ⟨"y".toList, rfl, by decide⟩
  isPathChar := List.all_eq_true.1 (show "/y".toList.all Url.isPathChar = true by decide)
  isQueryChar := by
    rintro _ ⟨rfl⟩
    exact List.all_eq_true.1 (show "q=1".toList.all Url.isQueryChar = true by decide)

/-- A response redirects to the location in its field. -/
theorem redirectsTo_found (location : Text) :
    (RedirectChain.found location).RedirectsTo location where
  isRedirect := rfl
  header?_eq := rfl

open RedirectChain in
/-- A page with a query is the same place in both forms. -/
theorem leadAlike_iff_queryPage :
    let host := "tck.local".toList
    let absolute := "http://".toList ++ (Url.placeText host 8080 ++ queryPage.text)
    queryPage.IsRooted ∧ Url.IsHostName host ∧
      (found queryPage.text).RedirectsTo queryPage.text ∧
      (found absolute).RedirectsTo absolute ∧
      LeadAlike host 8080 home (found queryPage.text) (found absolute) :=
  have hrooted : queryPage.IsRooted := isRooted_queryPage none
  have hhost : Url.IsHostName "tck.local".toList := by decide
  ⟨hrooted, hhost, redirectsTo_found _, redirectsTo_found _,
    (leadAlike_iff hrooted hhost (redirectsTo_found _) (redirectsTo_found _)).2
      ⟨rfl, by decide, by decide⟩⟩

open RedirectChain in
/-- A location with a fragment does not lead to the same request with and without the authority. -/
theorem not_leadAlike :
    ¬ ∀ (host : Text) (port : UInt16) (current : Request) (rooted absolute : Response)
      (reference : Reference), reference.IsRooted → Url.IsHostName host → '%' ∉ host → port ≠ 0 →
        (Utf8.encode (Url.placeText host port ++ reference.text)).length ≤ Url.maxLength →
          rooted.RedirectsTo reference.text →
            absolute.RedirectsTo ("http://".toList ++ (Url.placeText host port ++ reference.text)) →
              LeadAlike host port current rooted absolute := by
  intro h
  let top : Reference := { queryPage with fragment := some "top".toList }
  let absolute := "http://".toList ++ (Url.placeText "tck.local".toList 8080 ++ top.text)
  obtain ⟨next, hnext, hnextAbsolute⟩ := h "tck.local".toList 8080 home (found top.text)
    (found absolute) top (isRooted_queryPage _) (by decide) (by decide) (by decide) (by decide)
    (redirectsTo_found _) (redirectsTo_found _)
  have hne : nextRequest? "tck.local".toList 8080 home (found top.text) ≠
      nextRequest? "tck.local".toList 8080 home (found absolute) := by decide +kernel
  exact hne (hnext.trans hnextAbsolute.symm)

end HttpConformance
