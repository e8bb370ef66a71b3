import HttpConformance.Cookie.SetCookie
import HttpConformance.Proofs.Cookie.PairList

/-!
# Cookies sent back

A cookie that a server hands out is meant to come back to the server as it was handed out.  The
value is put between quotes where it needs them, but the name is sent as it is; a `Set-Cookie` value
is split at semicolons only and a `Cookie` field at commas too.  So a cookie comes back as it was
handed out when its name does not take part in the splitting, and only then.

Main definition: `IsSafelyNamed`.

Main results:

- `isOnePart_pair_iff`: a pair is one part exactly when the cookie is safely named.
- `parseSetCookie_eq_splitPair`: the attributes of a cookie leave its name and value alone.
- `version_eq_zero_or_afterAll_pair`: the pair of a cookie with attributes ends outside quotes.
- `parseHeader_render_ne`: what is read when the quote in front of a value closes one of the name.
- `parseHeader_render_parseSetCookie_iff`: a cookie that was handed out is read as it was sent back
  exactly when it is safely named.
- `isSafelyNamed_parseSetCookie`: a name without commas and quotes is enough for this.
-/

namespace HttpConformance.Cookie

/-! ## Names that take no part in the splitting -/

/-- No separator in the name stands outside quotes; and when the name leaves a quote open, which the
quote in front of the value then closes, no separator stands in the value before its first quote. -/
structure IsSafelyNamed (cookie : Cookie) : Prop where
  name : IsOnePart isPairEnd .outside cookie.name
  value : Position.outside.afterAll cookie.name ≠ .outside →
    ∀ c ∈ cookie.value.takeWhile (· ≠ '"'), isPairEnd c = false

instance (cookie : Cookie) : Decidable cookie.IsSafelyNamed :=
  have : Decidable (∀ c ∈ cookie.value.takeWhile (· ≠ '"'), isPairEnd c = false) :=
    List.decidableBAll (isPairEnd · = false) _
  decidable_of_iff (IsOnePart isPairEnd .outside cookie.name ∧
      (Position.outside.afterAll cookie.name ≠ .outside →
        ∀ c ∈ cookie.value.takeWhile (· ≠ '"'), isPairEnd c = false))
    ⟨fun h => ⟨h.1, h.2⟩, fun h => ⟨h.name, h.value⟩⟩

/-- A pair is one part exactly when the cookie is safely named. -/
theorem isOnePart_pair_iff {cookie : Cookie} :
    IsOnePart isPairEnd .outside cookie.pair ↔ cookie.IsSafelyNamed := by
  have hcases : IsOnePart isPairEnd (Position.outside.afterAll cookie.name)
      ('=' :: quoteIfNeeded cookie.value) ↔
        (Position.outside.afterAll cookie.name ≠ .outside →
          ∀ c ∈ cookie.value.takeWhile (· ≠ '"'), isPairEnd c = false) := by
    by_cases hout : Position.outside.afterAll cookie.name = .outside
    · have hvalue := isOnePart_outside_quoteIfNeeded cookie.value
      simp [hout, IsOnePart, Position.after, isPairEnd, hvalue]
    · rw [← isOnePart_inside_quoteIfNeeded_iff, IsOnePart,
        Position.after_eq_inside (by decide) (by decide) hout]
      simp [hout]
  rw [pair, isOnePart_append, hcases]
  exact ⟨fun h => ⟨h.1, h.2⟩, fun h => ⟨h.name, h.value⟩⟩

/-! ## What was handed out -/

/-- Attributes change neither the name nor the value of a cookie. -/
theorem setAttribute_keeps_pair (cookie : Cookie) (value : Text) (kind : Attribute) :
    (cookie.setAttribute value kind).name = cookie.name ∧
      (cookie.setAttribute value kind).value = cookie.value := by
  cases kind with
  | maxAge =>
    rw [setAttribute]
    split <;> exact ⟨rfl, rfl⟩
  | _ => exact ⟨rfl, rfl⟩

/-- All the attributes together change neither the name nor the value of a cookie. -/
theorem foldl_addSegment_keeps_pair (segments : List Text) (cookie : Cookie) :
    (segments.foldl addSegment cookie).name = cookie.name ∧
      (segments.foldl addSegment cookie).value = cookie.value := by
  induction segments generalizing cookie with
  | nil => exact ⟨rfl, rfl⟩
  | cons segment segments ih =>
    have hsegment : (cookie.addSegment segment).name = cookie.name ∧
        (cookie.addSegment segment).value = cookie.value := by
      rw [addSegment]
      split
      · exact cookie.setAttribute_keeps_pair _ _
      · exact ⟨rfl, rfl⟩
    rw [List.foldl_cons, (ih _).1, (ih _).2]
    exact hsegment

/-- What a pair is split into: the name is what stands before its first equals sign, if it has
one. -/
theorem splitPair_cases {text name value : Text} (htrimmed : text.IsTrimmed)
    (h : (name, value) = splitPair text) :
    ∃ front, name = Text.trim front ∧ '=' ∉ front ∧
      (text = front ∨ ∃ rest, text = front ++ '=' :: rest ∧ value = unquote (Text.trim rest)) := by
  rw [splitPair] at h
  split at h
  · rename_i front rest hcut
    obtain ⟨hname, hvalue⟩ := Prod.mk.inj h
    obtain ⟨htext, hequals⟩ := cutAt_eq_some_iff.1 hcut
    exact ⟨front, hname, hequals, Or.inr ⟨rest, htext, hvalue⟩⟩
  · rename_i hcut
    have htrim : Text.trim text = text := htrimmed
    exact ⟨text, (Prod.mk.inj h).1.trans htrim.symm, cutAt_eq_none_iff.1 hcut, Or.inl rfl⟩

/-- The name and the value of a cookie come from the first segment, whatever follows it. -/
theorem parseSetCookie_eq_splitPair {value first : Text} {segments : List Text}
    (h : splitOutsideQuotes isSegmentEnd value = first :: segments) :
    ((parseSetCookie value).name, (parseSetCookie value).value) = splitPair (Text.trim first) := by
  rw [parseSetCookie, h]
  simp only [foldl_addSegment_keeps_pair]

/-- A name that was handed out can be found before an equals sign. -/
theorem isName_parseSetCookie {value : Text} (hne : (parseSetCookie value).name ≠ [])
    (hdollar : (parseSetCookie value).name.head? ≠ some '$') :
    IsName (parseSetCookie value).name := by
  obtain ⟨first, segments, hsplit⟩ :=
    List.exists_cons_of_ne_nil (splitFrom_ne_nil isSegmentEnd .outside value)
  obtain ⟨front, hname, hequals, -⟩ :=
    splitPair_cases (Text.isTrimmed_trim first) (parseSetCookie_eq_splitPair hsplit)
  refine ⟨hne, hdollar, ?_, ?_⟩
  · rw [hname]
    exact Text.isTrimmed_trim front
  · rw [hname]
    exact fun hmem => hequals (Text.mem_of_mem_trim hmem)

/-! ## Where the pair ends -/

/-- Blanks leave the position as it is, unless the first of them is escaped. -/
theorem Position.afterAll_of_isBlank {blanks : Text} (h : ∀ c ∈ blanks, Text.isBlank c = true)
    {position : Position} (hescaped : position ≠ .escaped) :
    position.afterAll blanks = position := by
  induction blanks with
  | nil => rfl
  | cons c blanks ih =>
    have hc : Text.isBlank c = true := h c List.mem_cons_self
    have hquote : c ≠ '"' := by
      rintro rfl
      exact absurd hc (by decide)
    have hescape : c ≠ '\\' := by
      rintro rfl
      exact absurd hc (by decide)
    have hstay : position.after c = position := by
      cases position with
      | outside => simp [after, hquote]
      | inside => simp [after, hquote, hescape]
      | escaped => exact absurd rfl hescaped
    rw [afterAll_cons, hstay, ih fun d hd => h d (List.mem_cons_of_mem c hd)]

/-- Blanks around a text do not change whether it ends outside quotes. -/
theorem Position.afterAll_trim_eq_outside_iff {position : Position} (hescaped : position ≠ .escaped)
    (text : Text) :
    position.afterAll (Text.trim text) = .outside ↔ position.afterAll text = .outside := by
  obtain ⟨before, after, hbefore, hafter, htext⟩ := Text.exists_eq_append_trim text
  have hplain : IsPlain after := isPlain_of_forall (by decide) hafter
  conv_rhs => rw [htext, afterAll_append, afterAll_append,
    afterAll_eq_outside_iff (fun hmem => (hplain _ hmem).2.2 rfl),
    afterAll_of_isBlank hbefore hescaped]

/-- A text that closes an open quote writes a value with a quote in it. -/
theorem quote_mem_unquote {text : Text} (h : Position.inside.afterAll text = .outside) :
    '"' ∈ unquote text := by
  rcases unquote_cases text with ⟨body, rfl, hunquote⟩ | hunquote
  · have hbody : (Position.outside.afterAll body).after '"' = .outside := by
      simpa [Position.after] using h
    rw [hunquote]
    apply mem_unescape (by decide)
    by_contra hnot
    rw [(Position.afterAll_eq_outside_iff hnot .outside).2 rfl] at hbody
    exact absurd hbody (by decide)
  · rw [hunquote]
    by_contra hnot
    rw [Position.afterAll_eq_outside_iff hnot] at h
    cases h

/-- A pair ends outside quotes when its name does, or leaves a quote open that the value closes with
a quote of its own. -/
theorem afterAll_pair {cookie : Cookie}
    (h : Position.outside.afterAll cookie.name = .outside ∨ '"' ∈ cookie.value) :
    Position.outside.afterAll cookie.pair = .outside := by
  rw [pair, Position.afterAll_append, Position.afterAll_cons]
  by_cases hout : Position.outside.afterAll cookie.name = .outside
  · rw [hout]
    exact afterAll_outside_quoteIfNeeded cookie.value
  · rw [Position.after_eq_inside (by decide) (by decide) hout]
    exact afterAll_inside_quoteIfNeeded (h.resolve_left hout)

/-- When a pair ends outside quotes, its name does or its value has a quote. -/
theorem afterAll_name_or_quote_mem {text name value : Text} (htrimmed : text.IsTrimmed)
    (hsplit : (name, value) = splitPair text) (hout : Position.outside.afterAll text = .outside) :
    Position.outside.afterAll name = .outside ∨ '"' ∈ value := by
  obtain ⟨front, rfl, -, rfl | ⟨rest, rfl, rfl⟩⟩ := splitPair_cases htrimmed hsplit
  · left
    rwa [Position.afterAll_trim_eq_outside_iff (by decide)]
  · rw [Position.afterAll_trim_eq_outside_iff (by decide)]
    rw [Position.afterAll_append, Position.afterAll_cons] at hout
    by_cases hfront : Position.outside.afterAll front = .outside
    · exact Or.inl hfront
    · right
      rw [Position.after_eq_inside (by decide) (by decide) hfront,
        ← Position.afterAll_trim_eq_outside_iff (by decide)] at hout
      exact quote_mem_unquote hout

/-- The pair of a cookie whose attributes follow it ends outside quotes. -/
theorem version_eq_zero_or_afterAll_pair (value : Text) :
    (parseSetCookie value).version = 0 ∨
      Position.outside.afterAll (parseSetCookie value).pair = .outside := by
  obtain ⟨first, segments, hsplit⟩ :=
    List.exists_cons_of_ne_nil (splitFrom_ne_nil isSegmentEnd .outside value)
  by_cases hsegments : segments = []
  · left
    have hcookie : splitOutsideQuotes isSegmentEnd value = [first] := by
      rw [splitOutsideQuotes, hsplit, hsegments]
    rw [parseSetCookie, hcookie]
    rfl
  · right
    have hfirst : Position.outside.afterAll (Text.trim first) = .outside := by
      rw [Position.afterAll_trim_eq_outside_iff (by decide)]
      exact (splitFrom_eq_cons hsplit).2.2 hsegments
    exact afterAll_pair (afterAll_name_or_quote_mem (Text.isTrimmed_trim first)
      (parseSetCookie_eq_splitPair hsplit) hfirst)

/-! ## What is read -/

/-- A text that is one part is one without the blanks around it, too. -/
theorem isOnePart_trim {isSeparator : Char → Bool} {text : Text}
    (h : IsOnePart isSeparator .outside text) :
    IsOnePart isSeparator .outside (Text.trim text) := by
  obtain ⟨before, after, hbefore, -, htext⟩ := Text.exists_eq_append_trim text
  rw [htext, isOnePart_append, Position.afterAll_of_isBlank hbefore (by decide),
    isOnePart_append] at h
  exact h.2.1

/-- No separator in a name that is read stands outside quotes. -/
theorem isOnePart_of_mem_parseHeader {text name value : Text}
    (h : (name, value) ∈ parseHeader text) : IsOnePart isPairEnd .outside name := by
  obtain ⟨part, hmem, hread⟩ := List.mem_filterMap.1 h
  have hpart : IsOnePart isPairEnd .outside part := isOnePart_of_mem_splitOutsideQuotes hmem
  rw [readPair?] at hread
  split at hread
  · cases hread
  · rename_i front rest hcut
    dsimp only at hread
    split at hread
    · cases hread
    · have hfront := isOnePart_trim hpart
      rw [(cutAt_eq_some_iff.1 hcut).1, isOnePart_append] at hfront
      rw [← (Prod.mk.inj (Option.some.inj hread)).1]
      exact isOnePart_trim hfront.1

/-- A text with a separator before its first quote is cut there. -/
theorem exists_separator_of_not_forall {text : Text}
    (h : ¬ ∀ c ∈ text.takeWhile (· ≠ '"'), isPairEnd c = false) :
    ∃ front separator rest, text = front ++ separator :: rest ∧ isPairEnd separator = true ∧
      IsPlain front := by
  have hsome : ((text.takeWhile (· ≠ '"')).find? isPairEnd).isSome = true := by
    simpa using h
  obtain ⟨separator, hfind⟩ := Option.isSome_iff_exists.1 hsome
  obtain ⟨hseparator, front, rest, hsplit, hfront⟩ := List.find?_eq_some_iff_append.1 hfind
  refine ⟨front, separator, rest ++ text.dropWhile (· ≠ '"'), ?_, hseparator, fun c hc => ?_⟩
  · conv_lhs => rw [← List.takeWhile_append_dropWhile (p := (· ≠ '"')) (l := text), hsplit]
    simp
  · have hquote : c ≠ '"' := by
      have hmem : c ∈ text.takeWhile (· ≠ '"') := by
        rw [hsplit]
        exact List.mem_append_left _ hc
      simpa using List.mem_takeWhile_imp hmem
    have hend : isPairEnd c = false := by simpa using hfront c hc
    simp only [isPairEnd, Bool.or_eq_false_iff, beq_eq_false_iff_ne] at hend
    exact ⟨hend.1, hend.2, hquote⟩

/-- A quote that nothing closes is read as it stands. -/
theorem unquote_trim_open {text : Text} (h : '"' ∉ text) :
    (unquote (Text.trim ('"' :: text))).head? = some '"' := by
  have htrim : Text.trim ('"' :: text) = '"' :: dropEndWhile Text.isBlank text :=
    Text.trim_cons (by decide) text
  rcases unquote_cases (Text.trim ('"' :: text)) with ⟨body, hquoted, -⟩ | hbare
  · rw [htrim] at hquoted
    have hmem : '"' ∈ dropEndWhile Text.isBlank text := by
      rw [(List.cons.inj hquoted).2]
      exact List.mem_append_right body List.mem_cons_self
    exact absurd ((List.rdropWhile_prefix Text.isBlank text).subset hmem) h
  · rw [hbare, htrim]
    rfl

/-- Behind a name that leaves a quote open, the quote in front of a value closes it, and the plain
beginning of the value stands outside. -/
theorem isOnePart_open {name front : Text} (hname : IsOnePart isPairEnd .outside name)
    (hopen : Position.outside.afterAll name ≠ .outside) (hplain : IsPlain front) :
    IsOnePart isPairEnd .outside (name ++ '=' :: '"' :: front.flatMap escapeInQuotes) ∧
      Position.outside.afterAll (name ++ '=' :: '"' :: front.flatMap escapeInQuotes) =
        .outside := by
  have hequals : (Position.outside.afterAll name).after '=' = .inside :=
    Position.after_eq_inside (by decide) (by decide) hopen
  have hclosed : Position.inside.after '"' = .outside := rfl
  constructor
  · have hfront : IsOnePart isPairEnd .outside (front.flatMap escapeInQuotes) := by
      rw [isOnePart_outside_flatMap_escapeInQuotes_iff]
      intro c hc
      simp [isPairEnd, hplain c ((List.takeWhile_prefix _).subset hc)]
    rw [isOnePart_append, IsOnePart, hequals, IsOnePart, hclosed]
    exact ⟨hname, fun hcut => hopen hcut.1, by decide, hfront⟩
  · have hquote : '"' ∉ front.flatMap escapeInQuotes :=
      mem_flatMap_escapeInQuotes fun hmem => (hplain _ hmem).2.2 rfl
    rw [Position.afterAll_append, Position.afterAll_cons, hequals, Position.afterAll_cons, hclosed,
      Position.afterAll_eq_outside_iff hquote]

/-- A value with a separator in it is written between quotes, and the separator as it is. -/
theorem quoteIfNeeded_of_separator {front rest : Text} {separator : Char}
    (h : isPairEnd separator = true) :
    quoteIfNeeded (front ++ separator :: rest) =
      '"' :: (front.flatMap escapeInQuotes ++
        separator :: (rest.flatMap escapeInQuotes ++ ['"'])) := by
  have hescape : escapeInQuotes separator = [separator] := by
    apply if_neg
    rintro (rfl | rfl)
    · exact absurd h (by decide)
    · exact absurd h (by decide)
  rcases quoteIfNeeded_cases (front ++ separator :: rest) with hquoted | ⟨-, hbare⟩
  · rw [hquoted]
    simp [hescape]
  · rw [(hbare separator (by simp)).2.1] at h
    cases h

/-- Behind a name that leaves a quote open, a value with a separator before its first quote is cut
there, and what is read in its place begins with the quote that was put in front of it. -/
theorem parseHeader_render_ne {cookie : Cookie} (hname : IsName cookie.name)
    (hone : IsOnePart isPairEnd .outside cookie.name)
    (hopen : Position.outside.afterAll cookie.name ≠ .outside)
    (hvalue : ¬ ∀ c ∈ cookie.value.takeWhile (· ≠ '"'), isPairEnd c = false) :
    parseHeader cookie.render ≠ [(cookie.name, cookie.value)] := by
  obtain ⟨front, separator, rest, hsplit, hseparator, hplain⟩ :=
    exists_separator_of_not_forall hvalue
  have hshape : cookie.pair ++ cookie.trailer =
      (cookie.name ++ '=' :: '"' :: front.flatMap escapeInQuotes) ++
        separator :: (rest.flatMap escapeInQuotes ++ '"' :: cookie.trailer) := by
    rw [pair, hsplit, quoteIfNeeded_of_separator hseparator]
    simp
  obtain ⟨hpart, hout⟩ := isOnePart_open hone hopen hplain
  obtain ⟨mark, -, hrender, hmark⟩ := cookie.exists_render_eq
  intro heq
  rw [hrender, hmark, hshape, parseHeader_append_cons hout hseparator,
    parseHeader_of_isOnePart hpart, readPair?_cons_equals hname] at heq
  have hread : unquote (Text.trim ('"' :: front.flatMap escapeInQuotes)) = cookie.value :=
    (Prod.mk.inj (List.cons.inj heq).1).2
  have hhead := unquote_trim_open
    (mem_flatMap_escapeInQuotes fun hmem : '"' ∈ front => (hplain _ hmem).2.2 rfl)
  rw [hread, hsplit] at hhead
  -- The value has a separator before its first quote, so it does not begin with a quote.
  cases front with
  | nil =>
    obtain rfl : separator = '"' := Option.some.inj hhead
    exact absurd hseparator (by decide)
  | cons c front =>
    obtain rfl : c = '"' := Option.some.inj hhead
    exact (hplain _ List.mem_cons_self).2.2 rfl

/-! ## Handed out and sent back -/

/-- A cookie that was handed out is read as it was sent back when it is safely named. -/
theorem IsSafelyNamed.parseHeader_render {value : Text} (h : (parseSetCookie value).IsSafelyNamed)
    (hname : IsName (parseSetCookie value).name) :
    parseHeader (parseSetCookie value).render =
      [((parseSetCookie value).name, (parseSetCookie value).value)] :=
  Cookie.parseHeader_render hname (isOnePart_pair_iff.2 h) (version_eq_zero_or_afterAll_pair value)

/-- No semicolon in a name that was handed out stands outside quotes. -/
theorem isOnePart_name (value : Text) :
    IsOnePart isSegmentEnd .outside (parseSetCookie value).name := by
  obtain ⟨first, segments, hsplit⟩ :=
    List.exists_cons_of_ne_nil (splitFrom_ne_nil isSegmentEnd .outside value)
  have hfirst : IsOnePart isSegmentEnd .outside (Text.trim first) :=
    isOnePart_trim (splitFrom_eq_cons hsplit).1
  obtain ⟨front, hname, -, hwhole | ⟨rest, hwhole, -⟩⟩ :=
    splitPair_cases (Text.isTrimmed_trim first) (parseSetCookie_eq_splitPair hsplit)
  · rw [hname, ← hwhole]
    exact isOnePart_trim hfirst
  · rw [hwhole, isOnePart_append] at hfirst
    rw [hname]
    exact isOnePart_trim hfirst.1

/-- A cookie that was handed out is safely named when its name has neither commas nor quotes. -/
theorem isSafelyNamed_parseSetCookie {value : Text} (hcomma : ',' ∉ (parseSetCookie value).name)
    (hquote : '"' ∉ (parseSetCookie value).name) : (parseSetCookie value).IsSafelyNamed := by
  constructor
  · apply isOnePart_of_forall
    intro c hc
    have hsemicolon : c ≠ ';' := by
      simpa [isSegmentEnd] using (isOnePart_name value).forall_of_quote_notMem hquote c hc
    simp [isPairEnd, hsemicolon, ne_of_mem_of_not_mem hc hcomma]
  · intro hopen
    exact absurd ((Position.afterAll_eq_outside_iff hquote .outside).2 rfl) hopen

/-- The name leaves a quote open, and the value has a comma before its first quote. -/
example : ¬ (parseSetCookie "a\"b=1,2\"".toList).IsSafelyNamed := by decide

/-- A cookie that was handed out is read as it was sent back exactly when it is safely named. -/
theorem parseHeader_render_parseSetCookie_iff (value : Text)
    (hne : (parseSetCookie value).name ≠ [])
    (hdollar : (parseSetCookie value).name.head? ≠ some '$') :
    parseHeader (parseSetCookie value).render =
        [((parseSetCookie value).name, (parseSetCookie value).value)] ↔
      (parseSetCookie value).IsSafelyNamed := by
  have hname : IsName (parseSetCookie value).name := isName_parseSetCookie hne hdollar
  constructor
  · intro hread
    have hone : IsOnePart isPairEnd .outside (parseSetCookie value).name := by
      apply isOnePart_of_mem_parseHeader
      rw [hread]
      exact List.mem_cons_self
    refine ⟨hone, fun hopen => ?_⟩
    by_contra hvalue
    exact parseHeader_render_ne hname hone hopen hvalue hread
  · intro hsafe
    exact hsafe.parseHeader_render hname

/-- The value of a cookie that has everything in it that a value can need quotes for. -/
def handedOut : Text :=
  "id = \"a, b; \\\"c\\\"\" ; Path=\"/x;y\"; Version=1; Secure".toList

/-- A cookie with separators and quotes in its value is read back as it was handed out. -/
theorem parseHeader_render_parseSetCookie_iff_handedOut :
    (parseSetCookie handedOut).name ≠ [] ∧
      (parseSetCookie handedOut).name.head? ≠ some '$' ∧
      parseHeader (parseSetCookie handedOut).render =
        [("id".toList, "a, b; \"c\"".toList)] := by
  have hne : (parseSetCookie handedOut).name ≠ [] := by decide
  have hdollar : (parseSetCookie handedOut).name.head? ≠ some '$' := by decide
  exact ⟨hne, hdollar, (parseHeader_render_parseSetCookie_iff handedOut hne hdollar).2 (by decide)⟩

/-- A name with a comma in it is cut there. -/
theorem not_parseHeader_render_parseSetCookie :
    ¬ ∀ value, (parseSetCookie value).name ≠ [] →
      (parseSetCookie value).name.head? ≠ some '$' →
        parseHeader (parseSetCookie value).render =
          [((parseSetCookie value).name, (parseSetCookie value).value)] := by
  intro h
  exact absurd (h "a,b=1".toList (by decide) (by decide)) (by decide)

end HttpConformance.Cookie
