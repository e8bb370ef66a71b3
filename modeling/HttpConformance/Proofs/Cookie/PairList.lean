import HttpConformance.Proofs.Cookie.Quoting
import HttpConformance.Proofs.Decimal

/-!
# Cookies sent in one field

What is read of a cookie that is sent back: the pair of its name and its value, and nothing of its
version, path and domain.  Cookies that are sent in one field, with a separator and blanks between
them, are read one after the other.

Main definitions: `IsPlain`, `IsName`, `IsPlainName`, `pair`, `IsPairList`.

Main results:

- `parseHeader_append_cons`: a field is read part by part.
- `readPair?_cons_equals`: what is read of a name and an equals sign.
- `parseHeader_render`: what is sent with a pair is passed over when the pair ends outside quotes.
- `parseHeader_of_isPairList`: cookies with plain names are read as they were sent.
-/

namespace HttpConformance.Cookie

/-! ## Plain texts -/

/-- The text has neither separators nor quotes. -/
def IsPlain (text : Text) : Prop :=
  ∀ c ∈ text, c ≠ ';' ∧ c ≠ ',' ∧ c ≠ '"'

instance (text : Text) : Decidable (IsPlain text) :=
  List.decidableBAll (fun c => c ≠ ';' ∧ c ≠ ',' ∧ c ≠ '"') text

/-- A plain text is one part, wherever it stands. -/
theorem IsPlain.isOnePart {text : Text} (h : IsPlain text) (position : Position) :
    IsOnePart isPairEnd position text :=
  isOnePart_of_forall (fun c hc => by simp [isPairEnd, h c hc]) position

theorem IsPlain.afterAll {text : Text} (h : IsPlain text) :
    Position.outside.afterAll text = .outside :=
  (Position.afterAll_eq_outside_iff (fun hmem => (h _ hmem).2.2 rfl) .outside).2 rfl

theorem isPlain_append {front rest : Text} :
    IsPlain (front ++ rest) ↔ IsPlain front ∧ IsPlain rest :=
  List.forall_mem_append

/-- A text of characters of a kind that separators and quotes are not of is plain. -/
theorem isPlain_of_forall {kind : Char → Bool}
    (hkind : kind ';' = false ∧ kind ',' = false ∧ kind '"' = false) {text : Text}
    (h : ∀ c ∈ text, kind c = true) : IsPlain text := by
  intro c hc
  have hof := h c hc
  refine ⟨?_, ?_, ?_⟩ <;> rintro rfl
  · simp [hkind.1] at hof
  · simp [hkind.2.1] at hof
  · simp [hkind.2.2] at hof

/-! ## Names -/

/-- A name that the reader of a `Cookie` field can have found before an equals sign. -/
structure IsName (name : Text) : Prop where
  ne_nil : name ≠ []
  not_dollar : name.head? ≠ some '$'
  isTrimmed : name.IsTrimmed
  equals_notMem : '=' ∉ name

instance (name : Text) : Decidable (IsName name) :=
  decidable_of_iff (name ≠ [] ∧ name.head? ≠ some '$' ∧ name.IsTrimmed ∧ '=' ∉ name)
    ⟨fun ⟨hne, hdollar, htrimmed, hequals⟩ => ⟨hne, hdollar, htrimmed, hequals⟩,
      fun h => ⟨h.ne_nil, h.not_dollar, h.isTrimmed, h.equals_notMem⟩⟩

/-- A name that has neither separators nor quotes. -/
structure IsPlainName (name : Text) : Prop extends IsName name where
  plain : IsPlain name

instance (name : Text) : Decidable (IsPlainName name) :=
  decidable_of_iff (IsName name ∧ IsPlain name)
    ⟨fun h => ⟨h.1, h.2⟩, fun h => ⟨h.toIsName, h.plain⟩⟩

/-! ## Reading -/

/-- A field is read part by part. -/
theorem parseHeader_append_cons {front : Text}
    (hfront : Position.outside.afterAll front = .outside) {c : Char} (hc : isPairEnd c = true)
    (rest : Text) : parseHeader (front ++ c :: rest) = parseHeader front ++ parseHeader rest := by
  simp only [parseHeader, splitOutsideQuotes, splitFrom_append_cons rfl hfront hc,
    List.filterMap_append]

theorem parseHeader_of_isOnePart {text : Text} (h : IsOnePart isPairEnd .outside text) :
    parseHeader text = (readPair? text).toList := by
  rw [parseHeader, splitOutsideQuotes, splitFrom_of_isOnePart h]
  cases hpair : readPair? text <;> simp [hpair]

/-- Blanks in front of a field do not count. -/
theorem parseHeader_append_of_isBlank {blanks : Text} (h : ∀ c ∈ blanks, Text.isBlank c = true)
    (text : Text) : parseHeader (blanks ++ text) = parseHeader text := by
  have hplain : IsPlain blanks := isPlain_of_forall (by decide) h
  have hread (part : Text) : readPair? (blanks ++ part) = readPair? part := by
    simp only [readPair?, Text.trim_append_of_isBlank h]
  obtain ⟨part, parts, hparts⟩ :=
    List.exists_cons_of_ne_nil (splitFrom_ne_nil isPairEnd .outside text)
  simp only [parseHeader, splitOutsideQuotes, splitFrom_append (hplain.isOnePart .outside),
    hplain.afterAll, hparts, List.modifyHead_cons, List.filterMap_cons, hread]

/-- An attribute is no pair. -/
theorem readPair?_dollar (text : Text) : readPair? ('$' :: text) = none := by
  rw [readPair?, Text.trim_cons (by decide), cutAt_cons_of_ne (by decide)]
  cases cutAt '=' (dropEndWhile Text.isBlank text) with
  | none => rfl
  | some cut => simp [Text.trim_cons (show Text.isBlank '$' = false by decide)]

/-- Behind a name and an equals sign stands the value. -/
theorem readPair?_cons_equals {name : Text} (h : IsName name) (text : Text) :
    readPair? (name ++ '=' :: text) = some (name, unquote (Text.trim text)) := by
  have htrim : Text.trim (name ++ '=' :: text) =
      name ++ '=' :: dropEndWhile Text.isBlank text := by
    obtain ⟨c, rest, rfl⟩ := List.exists_cons_of_ne_nil h.ne_nil
    rw [List.cons_append, Text.trim_cons (h.isTrimmed.not_isBlank_of_head? rfl),
      dropEndWhile_append_cons_of_kept (by decide), List.cons_append]
  have hname : Text.trim name = name := h.isTrimmed
  rw [readPair?, htrim, cutAt_append_cons h.equals_notMem]
  simp [hname, h.ne_nil, h.not_dollar, Text.trim_dropEndWhile]

/-! ## Writing -/

/-- Behind a plain name, a written value is part of the same text, which then ends outside
quotes. -/
theorem IsPlain.pair {name : Text} (h : IsPlain name) (value : Text) :
    IsOnePart isPairEnd .outside (name ++ '=' :: quoteIfNeeded value) ∧
      Position.outside.afterAll (name ++ '=' :: quoteIfNeeded value) = .outside := by
  have hequals : Position.outside.after '=' = .outside := rfl
  constructor
  · rw [isOnePart_append, h.afterAll]
    exact ⟨h.isOnePart .outside, by decide, isOnePart_outside_quoteIfNeeded value⟩
  · rw [Position.afterAll_append, h.afterAll, Position.afterAll_cons, hequals,
      afterAll_outside_quoteIfNeeded]

/-- The name and the value of a cookie, as they are sent. -/
def pair (cookie : Cookie) : Text :=
  cookie.name ++ '=' :: quoteIfNeeded cookie.value

/-- The attributes that are sent behind the pair. -/
def trailer (cookie : Cookie) : Text :=
  if cookie.version = 0 then []
  else renderAttribute "Path" cookie.path ++ renderAttribute "Domain" cookie.domain

/-- A pair that is one part is read as it was sent. -/
theorem parseHeader_pair {cookie : Cookie} (hname : IsName cookie.name)
    (hone : IsOnePart isPairEnd .outside cookie.pair) :
    parseHeader cookie.pair = [(cookie.name, cookie.value)] := by
  have htrimmed : Text.trim (quoteIfNeeded cookie.value) = quoteIfNeeded cookie.value :=
    isTrimmed_quoteIfNeeded cookie.value
  rw [parseHeader_of_isOnePart hone, pair, readPair?_cons_equals hname, htrimmed,
    unquote_quoteIfNeeded]
  rfl

/-- An attribute behind some text is passed over. -/
theorem append_renderAttribute {front : Text}
    (hfront : Position.outside.afterAll front = .outside) {name : String}
    (hname : IsPlain ('$' :: name.toList)) (value : Option Text) :
    Position.outside.afterAll (front ++ renderAttribute name value) = .outside ∧
      parseHeader (front ++ renderAttribute name value) = parseHeader front := by
  cases value with
  | none => simpa [renderAttribute] using hfront
  | some value =>
    have hblank : ∀ c ∈ [' '], Text.isBlank c = true := List.forall_mem_singleton.2 rfl
    obtain ⟨hone, hout⟩ := hname.pair value
    have hshape : renderAttribute name (some value) =
        ';' :: ([' '] ++ ('$' :: name.toList ++ '=' :: quoteIfNeeded value)) := rfl
    constructor
    · rw [hshape, Position.afterAll_append, hfront]
      exact hout
    · rw [hshape, parseHeader_append_cons hfront rfl, parseHeader_append_of_isBlank hblank,
        parseHeader_of_isOnePart hone, List.cons_append, readPair?_dollar, Option.toList_none,
        List.append_nil]

/-- The attributes behind a pair are passed over when the pair ends outside quotes. -/
theorem append_trailer {front : Text} (hfront : Position.outside.afterAll front = .outside)
    (cookie : Cookie) :
    Position.outside.afterAll (front ++ cookie.trailer) = .outside ∧
      parseHeader (front ++ cookie.trailer) = parseHeader front := by
  unfold trailer
  split
  · rw [List.append_nil]
    exact ⟨hfront, rfl⟩
  · obtain ⟨hpath, hparsePath⟩ :=
      append_renderAttribute hfront (by decide : IsPlain ('$' :: "Path".toList)) cookie.path
    obtain ⟨hdomain, hparseDomain⟩ :=
      append_renderAttribute hpath (by decide : IsPlain ('$' :: "Domain".toList)) cookie.domain
    rw [← List.append_assoc]
    exact ⟨hdomain, hparseDomain.trans hparsePath⟩

/-- The version in front of a pair, if there is one, is passed over. -/
theorem exists_render_eq (cookie : Cookie) :
    ∃ mark, Position.outside.afterAll mark = .outside ∧
      cookie.render = mark ++ (cookie.pair ++ cookie.trailer) ∧
      ∀ rest, parseHeader (mark ++ rest) = parseHeader rest := by
  by_cases hversion : cookie.version = 0
  · exact ⟨[], rfl, by simp [render, trailer, pair, hversion], fun rest => rfl⟩
  · have hblank : ∀ c ∈ [' '], Text.isBlank c = true := List.forall_mem_singleton.2 rfl
    have hplain : IsPlain ("$Version=".toList ++ Numeral.write cookie.version.toNat) :=
      isPlain_append.2 ⟨by decide, isPlain_of_forall (by decide) (Numeral.isDecimal_write _).digits⟩
    have hsilent : parseHeader ("$Version=".toList ++ Numeral.write cookie.version.toNat) = [] := by
      rw [parseHeader_of_isOnePart (hplain.isOnePart .outside)]
      exact congrArg Option.toList (readPair?_dollar _)
    refine ⟨"$Version=".toList ++ Numeral.write cookie.version.toNat ++ ';' :: [' '], ?_, ?_, ?_⟩
    · rw [Position.afterAll_append, hplain.afterAll]
      rfl
    · simp [render, trailer, pair, hversion]
    · intro rest
      rw [List.append_assoc, List.cons_append, parseHeader_append_cons hplain.afterAll rfl, hsilent,
        List.nil_append, parseHeader_append_of_isBlank hblank]

/-- A cookie whose pair is one part and ends outside quotes, or has nothing behind it, is read as
this pair. -/
theorem parseHeader_render {cookie : Cookie} (hname : IsName cookie.name)
    (hone : IsOnePart isPairEnd .outside cookie.pair)
    (hend : cookie.version = 0 ∨ Position.outside.afterAll cookie.pair = .outside) :
    parseHeader cookie.render = [(cookie.name, cookie.value)] := by
  obtain ⟨mark, -, hrender, hmark⟩ := cookie.exists_render_eq
  rw [hrender, hmark, ← parseHeader_pair hname hone]
  rcases hend with hversion | hout
  · simp [trailer, hversion]
  · exact (append_trailer hout cookie).2

/-! ## Lists of cookies -/

/-- The cookies are sent in one field, with a separator and perhaps some blanks between one cookie
and the next. -/
inductive IsPairList : List Cookie → Text → Prop where
  | nil : IsPairList [] []
  | single (cookie : Cookie) : IsPairList [cookie] cookie.render
  | cons (cookie : Cookie) {cookies : List Cookie} {separator : Char} {blanks text : Text}
      (hseparator : isPairEnd separator = true) (hblanks : ∀ c ∈ blanks, Text.isBlank c = true)
      (hne : cookies ≠ []) (hrest : IsPairList cookies text) :
      IsPairList (cookie :: cookies) (cookie.render ++ separator :: (blanks ++ text))

/-- A cookie with a plain name is read as it was sent, and ends outside quotes. -/
theorem parseHeader_render_plain {cookie : Cookie} (hname : IsPlainName cookie.name) :
    Position.outside.afterAll cookie.render = .outside ∧
      parseHeader cookie.render = [(cookie.name, cookie.value)] := by
  obtain ⟨hone, hout⟩ := hname.plain.pair cookie.value
  obtain ⟨mark, hmark, hrender, -⟩ := cookie.exists_render_eq
  constructor
  · rw [hrender, Position.afterAll_append, hmark]
    exact (append_trailer hout cookie).1
  · exact parseHeader_render hname.toIsName hone (Or.inr hout)

/-- Cookies with plain names that are sent in one field are read as their names and values, in
order, whatever these values and the attributes of the cookies are. -/
theorem parseHeader_of_isPairList {cookies : List Cookie} {text : Text}
    (h : IsPairList cookies text) (hnames : ∀ cookie ∈ cookies, IsPlainName cookie.name) :
    parseHeader text = cookies.map fun cookie => (cookie.name, cookie.value) := by
  induction h with
  | nil => rfl
  | single cookie => exact (parseHeader_render_plain (hnames cookie List.mem_cons_self)).2
  | @cons cookie cookies separator blanks text hseparator hblanks hne hrest ih =>
    obtain ⟨hout, hcookie⟩ := parseHeader_render_plain (hnames cookie List.mem_cons_self)
    have hcookies := ih fun other hother => hnames other (List.mem_cons_of_mem cookie hother)
    -- The cookie ends outside quotes, so the field is cut at the separator behind it.
    calc parseHeader (cookie.render ++ separator :: (blanks ++ text))
        = parseHeader cookie.render ++ parseHeader (blanks ++ text) :=
          parseHeader_append_cons hout hseparator _
      _ = [(cookie.name, cookie.value)] ++ parseHeader text := by
          rw [hcookie, parseHeader_append_of_isBlank hblanks]
      _ = (cookie :: cookies).map fun cookie => (cookie.name, cookie.value) := by
          rw [hcookies]
          rfl

/-- A cookie with all its attributes, whose texts have separators, quotes and backslashes. -/
def quotedCookie : Cookie where
  name := "session id".toList
  value := " a=\"b\", c;\\".toList
  path := some "/x;y,\"z".toList
  domain := some []
  version := 1

/-- A cookie with an empty value. -/
def emptyCookie : Cookie where
  name := ['k']
  value := []

/-- Both cookies in one field, and the first one once more. -/
def quotedField : Text :=
  quotedCookie.render ++ ';' :: (" \t".toList ++ (emptyCookie.render ++ ',' :: quotedCookie.render))

/-- Cookies with everything in their values that quotes can hold are read back from one field. -/
theorem parseHeader_of_isPairList_quoted :
    IsPairList [quotedCookie, emptyCookie, quotedCookie] quotedField ∧
      (∀ cookie ∈ [quotedCookie, emptyCookie, quotedCookie], IsPlainName cookie.name) ∧
      parseHeader quotedField =
        [("session id".toList, " a=\"b\", c;\\".toList), (['k'], []),
          ("session id".toList, " a=\"b\", c;\\".toList)] := by
  have hlast : IsPairList [emptyCookie, quotedCookie]
      (emptyCookie.render ++ ',' :: ([] ++ quotedCookie.render)) :=
    .cons emptyCookie rfl (List.all_eq_true.1 rfl) (List.cons_ne_nil _ _) (.single quotedCookie)
  have hlist : IsPairList [quotedCookie, emptyCookie, quotedCookie] quotedField :=
    .cons quotedCookie rfl (List.all_eq_true.1 rfl) (List.cons_ne_nil _ _) hlast
  have hnames : ∀ cookie ∈ [quotedCookie, emptyCookie, quotedCookie], IsPlainName cookie.name := by
    decide
  exact ⟨hlist, hnames, parseHeader_of_isPairList hlist hnames⟩

end HttpConformance.Cookie
