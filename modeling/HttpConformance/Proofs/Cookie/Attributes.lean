import HttpConformance.Cookie.SetCookie
import HttpConformance.Proofs.Cookie.SentBack
import HttpConformance.Proofs.Text.Join
import Mathlib.Logic.Function.Basic

/-!
# Attributes of a cookie

A `Set-Cookie` value is a pair and, behind semicolons, one segment for each attribute.  As long as
every quote in a segment is closed there, no segment reaches into another one.  Each known attribute
sets a part of the cookie of its own, and the reader goes by its name alone.  So when no two
segments have the same name, the cookie is the pair with what a table of the attributes says, in
which the order of the segments does not show; and segments that are blank or unknown say nothing.

Main definitions: `IsSegment`, `attributeName`, `IsSilent`, `valueOf?`, `withAttributes`.

Main results:

- `isSegment_iff`: segments by their quotes, and by the positions that the reader goes through.
- `parseSetCookie_join`: a value is read segment by segment.
- `foldl_addSegment_eq`: segments with different names are a table of attributes.
- `valueOf?_eq_of_perm`: the table of the segments in another order.
- `parseSetCookie_of_perm_of_isPadded`: the order of the segments does not count, nor do segments
  that say nothing.
-/

namespace HttpConformance.Cookie

/-! ## Segments -/

/-- What can stand between two quotes: a quote or a backslash only behind a backslash. -/
inductive IsQuotable : Text → Prop where
  | nil : IsQuotable []
  | plain {c : Char} {rest : Text} (hquote : c ≠ '"') (hescape : c ≠ '\\')
      (hrest : IsQuotable rest) : IsQuotable (c :: rest)
  | escaped (c : Char) {rest : Text} (hrest : IsQuotable rest) : IsQuotable ('\\' :: c :: rest)

/-- Every quote in the text is closed, and no semicolon stands outside quotes. -/
inductive IsSegment : Text → Prop where
  | nil : IsSegment []
  | plain {c : Char} {rest : Text} (hquote : c ≠ '"') (hsemicolon : c ≠ ';')
      (hrest : IsSegment rest) : IsSegment (c :: rest)
  | quoted {inner rest : Text} (hinner : IsQuotable inner) (hrest : IsSegment rest) :
      IsSegment ('"' :: (inner ++ '"' :: rest))

/-- What can stand between two quotes leads from inside to inside. -/
theorem IsQuotable.inside {inner : Text} (h : IsQuotable inner) :
    IsOnePart isSegmentEnd .inside inner ∧ Position.inside.afterAll inner = .inside := by
  induction h with
  | nil => exact ⟨trivial, rfl⟩
  | @plain c rest hquote hescape hrest ih =>
    have hafter : Position.inside.after c = .inside :=
      Position.after_eq_inside hquote hescape (by decide)
    rw [IsOnePart, Position.afterAll_cons, hafter]
    exact ⟨⟨fun hout => absurd hout.1 (by decide), ih.1⟩, ih.2⟩
  | escaped c hrest ih =>
    refine ⟨⟨?_, ?_, ih.1⟩, ih.2⟩
    all_goals exact fun hout => absurd hout.1 (by decide)

/-- A segment leads from outside to outside, with no end of a segment on the way. -/
theorem IsSegment.outside {text : Text} (h : IsSegment text) :
    IsOnePart isSegmentEnd .outside text ∧ Position.outside.afterAll text = .outside := by
  induction h with
  | nil => exact ⟨trivial, rfl⟩
  | @plain c rest hquote hsemicolon hrest ih =>
    have hafter : Position.outside.after c = .outside :=
      (Position.after_eq_outside_iff hquote .outside).2 rfl
    rw [IsOnePart, Position.afterAll_cons, hafter]
    exact ⟨⟨by simpa [isSegmentEnd] using hsemicolon, ih.1⟩, ih.2⟩
  | @quoted inner rest hinner hrest ih =>
    have hopen : Position.outside.after '"' = .inside := rfl
    have hclose : Position.inside.after '"' = .outside := rfl
    rw [IsOnePart, Position.afterAll_cons, hopen, isOnePart_append, Position.afterAll_append,
      hinner.inside.2, IsOnePart, Position.afterAll_cons, hclose]
    exact ⟨⟨by decide, hinner.inside.1, by decide, ih.1⟩, ih.2⟩

/-- What completes a segment from a position: behind an open quote, first of all the closing one. -/
def Completes : Position → Text → Prop
  | .outside, text => IsSegment text
  | .inside, text => ∃ inner rest, IsQuotable inner ∧ IsSegment rest ∧ text = inner ++ '"' :: rest
  | .escaped, text => ∃ c inner rest, IsQuotable inner ∧ IsSegment rest ∧
      text = c :: (inner ++ '"' :: rest)

/-- A text that leads to outside, with no end of a segment on the way, completes one. -/
theorem completes_of_isOnePart {position : Position} {text : Text}
    (hone : IsOnePart isSegmentEnd position text) (hend : position.afterAll text = .outside) :
    Completes position text := by
  induction text generalizing position with
  | nil =>
    obtain rfl : position = .outside := hend
    exact .nil
  | cons c text ih =>
    have hrest := ih hone.2 hend
    cases position with
    | outside =>
      by_cases hquote : c = '"'
      · subst hquote
        obtain ⟨inner, rest, hinner, hsegment, rfl⟩ := hrest
        exact .quoted hinner hsegment
      · have hsemicolon : c ≠ ';' := by simpa [isSegmentEnd] using hone.1
        rw [(Position.after_eq_outside_iff hquote .outside).2 rfl] at hrest
        exact .plain hquote hsemicolon hrest
    | inside =>
      by_cases hescape : c = '\\'
      · subst hescape
        obtain ⟨d, inner, rest, hinner, hsegment, rfl⟩ := hrest
        exact ⟨'\\' :: d :: inner, rest, .escaped d hinner, hsegment, rfl⟩
      · by_cases hquote : c = '"'
        · subst hquote
          exact ⟨[], text, .nil, hrest, rfl⟩
        · rw [Position.after_eq_inside hquote hescape (by decide)] at hrest
          obtain ⟨inner, rest, hinner, hsegment, rfl⟩ := hrest
          exact ⟨c :: inner, rest, .plain hquote hescape hinner, hsegment, rfl⟩
    | escaped =>
      obtain ⟨inner, rest, hinner, hsegment, rfl⟩ := hrest
      exact ⟨c, inner, rest, hinner, hsegment, rfl⟩

/-- A segment is a text that leads from outside to outside, with no end of a segment on the way. -/
theorem isSegment_iff {text : Text} :
    IsSegment text ↔
      IsOnePart isSegmentEnd .outside text ∧ Position.outside.afterAll text = .outside :=
  ⟨IsSegment.outside, fun h => completes_of_isOnePart h.1 h.2⟩

instance (text : Text) : Decidable (IsSegment text) :=
  decidable_of_iff' _ isSegment_iff

/-- A blank text is a segment. -/
theorem isSegment_of_isAllBlank {text : Text} (h : Text.isAllBlank text = true) :
    IsSegment text := by
  induction text with
  | nil => exact .nil
  | cons c text ih =>
    rw [Text.isAllBlank, List.all_cons, Bool.and_eq_true] at h
    refine .plain ?_ ?_ (ih h.2)
    · rintro rfl
      exact absurd h.1 (by decide)
    · rintro rfl
      exact absurd h.1 (by decide)

/-! ## Names -/

/-- The name of the attribute in a segment, without regard to letter case: what stands before the
first equals sign. -/
def attributeName (segment : Text) : Text :=
  Text.lowerAscii (Text.trim (segment.takeWhile (· != '=')))

/-- The value that a segment gives its attribute. -/
def attributeValue (segment : Text) : Text :=
  (splitPair (Text.trim segment)).2

/-- The reader finds the name in a segment without the blanks around it. -/
theorem trim_takeWhile_trim (segment : Text) :
    Text.trim ((Text.trim segment).takeWhile (· != '=')) =
      Text.trim (segment.takeWhile (· != '=')) := by
  obtain ⟨before, after, hbefore, hafter, hsegment⟩ := Text.exists_eq_append_trim segment
  have hkept {blanks : Text} (h : ∀ c ∈ blanks, Text.isBlank c = true) :
      ∀ c ∈ blanks, (c != '=') = true := by
    refine bne_of_notMem fun hmem => ?_
    exact absurd (h '=' hmem) (by decide)
  conv_rhs => rw [hsegment, List.takeWhile_append_of_pos (hkept hbefore),
    Text.trim_append_of_isBlank hbefore, List.takeWhile_append]
  split
  · -- Without an equals sign the blanks at the end belong to the name.
    rename_i hall
    have hwhole : (Text.trim segment).takeWhile (· != '=') = Text.trim segment :=
      (List.takeWhile_prefix _).eq_of_length hall
    rw [List.takeWhile_eq_self_iff.2 (hkept hafter), Text.trim_append_blanks _ hafter, hwhole]
  · rfl

/-- The name in front of an equals sign is read without the blanks around it. -/
theorem splitPair_fst (text : Text) (htrimmed : text.IsTrimmed) :
    (splitPair text).1 = Text.trim (text.takeWhile (· != '=')) := by
  rcases hpair : splitPair text with ⟨name, value⟩
  obtain ⟨front, rfl, hequals, rfl | ⟨rest, rfl, -⟩⟩ := splitPair_cases htrimmed hpair.symm
  · rw [takeWhile_eq_self_of_notMem hequals]
  · rw [takeWhile_append_cons hequals]

/-- A segment is known by its name. -/
theorem attributeOf?_eq (segment : Text) :
    attributeOf? segment = attributeNames.lookup (attributeName segment) := by
  rw [attributeOf?, splitPair_fst _ (Text.isTrimmed_trim segment), trim_takeWhile_trim,
    attributeName]

/-- Every known attribute has one name. -/
theorem attributeName_eq_of_attributeOf? {first second : Text} {kind : Attribute}
    (hfirst : attributeOf? first = some kind) (hsecond : attributeOf? second = some kind) :
    attributeName first = attributeName second := by
  have hmem {name : Text} (h : attributeNames.lookup name = some kind) :
      (name, kind) ∈ attributeNames := by
    obtain ⟨front, rest, heq, -⟩ := List.lookup_eq_some_iff.1 h
    rw [heq]
    exact List.mem_append_right front List.mem_cons_self
  have hone : ∀ entry ∈ attributeNames, ∀ other ∈ attributeNames,
      entry.2 = other.2 → entry.1 = other.1 := by
    decide
  rw [attributeOf?_eq] at hfirst hsecond
  exact hone _ (hmem hfirst) _ (hmem hsecond) rfl

/-- The segment says nothing: it is blank, or it is a segment whose attribute is not known. -/
def IsSilent (segment : Text) : Prop :=
  Text.isAllBlank segment = true ∨
    IsSegment segment ∧ attributeName segment ∉ attributeNames.map Prod.fst

theorem IsSilent.isSegment {segment : Text} (h : IsSilent segment) : IsSegment segment := by
  rcases h with hblank | ⟨hsegment, -⟩
  · exact isSegment_of_isAllBlank hblank
  · exact hsegment

theorem IsSilent.attributeOf?_eq_none {segment : Text} (h : IsSilent segment) :
    attributeOf? segment = none := by
  rw [attributeOf?_eq]
  rcases h with hblank | ⟨-, hunknown⟩
  · have hname : Text.trim (segment.takeWhile (· != '=')) = [] := by
      rw [Text.trim_eq_nil_iff, Text.isAllBlank, List.all_eq_true]
      intro c hc
      exact List.all_eq_true.1 hblank c ((List.takeWhile_prefix _).subset hc)
    rw [attributeName, hname]
    rfl
  · rw [List.lookup_eq_none_iff]
    intro entry hentry
    rw [bne_iff_ne]
    intro heq
    exact hunknown (heq ▸ List.mem_map_of_mem hentry)

/-- A silent segment changes nothing in a cookie. -/
theorem IsSilent.addSegment_eq {segment : Text} (h : IsSilent segment) (cookie : Cookie) :
    cookie.addSegment segment = cookie := by
  rw [addSegment, h.attributeOf?_eq_none]

/-! ## Tables of attributes -/

/-- The value of an attribute in a list of segments. -/
def valueOf? (segments : List Text) (kind : Attribute) : Option Text :=
  (segments.find? (attributeOf? · = some kind)).map attributeValue

/-- The cookie with the attributes of a table.  A number of seconds that cannot be read is none, and
a version that cannot be read is 0. -/
def withAttributes (cookie : Cookie) (table : Attribute → Option Text) : Cookie :=
  { cookie with
    path := (table .path).or cookie.path
    domain := (table .domain).or cookie.domain
    maxAge := ((table .maxAge).bind readMaxAge?).or cookie.maxAge
    secure := (table .secure).isSome || cookie.secure
    httpOnly := (table .httpOnly).isSome || cookie.httpOnly
    version := ((table .version).map readVersion).getD cookie.version
    comment := (table .comment).or cookie.comment
    expires := (table .expires).or cookie.expires }

/-- An attribute that a table does not have can be set as well in the table. -/
theorem withAttributes_setAttribute {table : Attribute → Option Text} {kind : Attribute}
    (h : table kind = none) (cookie : Cookie) (value : Text) :
    (cookie.setAttribute value kind).withAttributes table =
      cookie.withAttributes (Function.update table kind (some value)) := by
  cases kind with
  | maxAge =>
    rw [setAttribute]
    cases hread : readMaxAge? value <;> simp [withAttributes, h, hread]
  | _ => simp [withAttributes, setAttribute, h]

/-- No two segments have the same name. -/
def HaveDistinctNames (segments : List Text) : Prop :=
  segments.Pairwise fun first second => attributeName first ≠ attributeName second

instance (segments : List Text) : Decidable (HaveDistinctNames segments) :=
  inferInstanceAs (Decidable (List.Pairwise _ segments))

variable {segments permuted : List Text} {kind : Attribute}

theorem HaveDistinctNames.of_perm (h : HaveDistinctNames segments)
    (hperm : permuted.Perm segments) : HaveDistinctNames permuted :=
  (hperm.pairwise_iff fun hne => Ne.symm hne).2 h

/-- The first segment of a name decides on its value. -/
theorem valueOf?_cons_of_some {segment : Text} (h : attributeOf? segment = some kind) :
    valueOf? (segment :: segments) =
      Function.update (valueOf? segments) kind (some (attributeValue segment)) := by
  funext other
  by_cases hother : other = kind
  · rw [hother, Function.update_self, valueOf?, List.find?_cons_of_pos (by simp [h])]
    rfl
  · have hne : attributeOf? segment ≠ some other := by
      rw [h]
      exact fun heq => hother (Option.some.inj heq).symm
    rw [Function.update_of_ne hother, valueOf?, List.find?_cons_of_neg (by simpa using hne),
      ← valueOf?]

/-- A segment without a name that is known says nothing. -/
theorem valueOf?_cons_of_none {segment : Text} (h : attributeOf? segment = none) :
    valueOf? (segment :: segments) = valueOf? segments := by
  funext other
  rw [valueOf?, List.find?_cons_of_neg (by simp [h]), ← valueOf?]

/-- Segments with different names are a table of attributes. -/
theorem foldl_addSegment_eq (h : HaveDistinctNames segments) (cookie : Cookie) :
    segments.foldl addSegment cookie = cookie.withAttributes (valueOf? segments) := by
  induction segments generalizing cookie with
  | nil => simp [withAttributes, valueOf?]
  | cons segment segments ih =>
    obtain ⟨hothers, hrest⟩ := List.pairwise_cons.1 h
    rw [List.foldl_cons, ih hrest]
    cases hkind : attributeOf? segment with
    | none => rw [addSegment, hkind, valueOf?_cons_of_none hkind]
    | some kind =>
      have hnone : valueOf? segments kind = none := by
        rw [valueOf?, Option.map_eq_none_iff, List.find?_eq_none]
        intro other hother
        rw [decide_eq_true_eq]
        intro hsame
        exact hothers other hother (attributeName_eq_of_attributeOf? hkind hsame)
      rw [addSegment, hkind, valueOf?_cons_of_some hkind]
      exact withAttributes_setAttribute hnone cookie _

/-- Among segments with different names, one that has an attribute is the one that is found. -/
theorem find?_attributeOf?_eq_some_iff (h : HaveDistinctNames segments) {segment : Text} :
    segments.find? (attributeOf? · = some kind) = some segment ↔
      segment ∈ segments ∧ attributeOf? segment = some kind := by
  constructor
  · intro hfound
    exact ⟨List.mem_of_find?_eq_some hfound, by simpa using List.find?_some hfound⟩
  · rintro ⟨hmem, hkind⟩
    induction segments with
    | nil => cases hmem
    | cons first segments ih =>
      obtain ⟨hothers, hrest⟩ := List.pairwise_cons.1 h
      rcases List.mem_cons.1 hmem with rfl | hlater
      · exact List.find?_cons_of_pos (by simpa using hkind)
      · have hne : ¬ attributeOf? first = some kind := fun hfirst =>
          hothers segment hlater (attributeName_eq_of_attributeOf? hfirst hkind)
        rw [List.find?_cons_of_neg (by simpa using hne)]
        exact ih hrest hlater

/-- The order of segments with different names does not show in their table. -/
theorem valueOf?_eq_of_perm (hperm : permuted.Perm segments) (h : HaveDistinctNames segments) :
    valueOf? permuted = valueOf? segments := by
  funext kind
  rw [valueOf?, valueOf?]
  congr 1
  apply Option.ext
  intro segment
  rw [find?_attributeOf?_eq_some_iff (h.of_perm hperm), find?_attributeOf?_eq_some_iff h,
    hperm.mem_iff]

/-! ## Reading -/

/-- The cookie that a pair hands out. -/
def ofPart (part : Text) : Cookie where
  name := (splitPair (Text.trim part)).1
  value := (splitPair (Text.trim part)).2

/-- Segments that are joined are found again. -/
theorem splitOutsideQuotes_join {part : Text} (hpart : IsSegment part)
    (hsegments : ∀ segment ∈ segments, IsSegment segment) :
    splitOutsideQuotes isSegmentEnd (Text.join [';'] (part :: segments)) = part :: segments := by
  induction segments generalizing part with
  | nil =>
    rw [join_cons, List.flatMap_nil, List.append_nil]
    exact splitFrom_of_isOnePart hpart.outside.1
  | cons segment segments ih =>
    rw [List.forall_mem_cons] at hsegments
    rw [join_cons_of_ne_nil _ _ (List.cons_ne_nil _ _), List.singleton_append, splitOutsideQuotes,
      splitFrom_append_cons rfl hpart.outside.2 rfl, splitFrom_of_isOnePart hpart.outside.1,
      ← splitOutsideQuotes, ih hsegments.1 hsegments.2]
    rfl

/-- A value is read segment by segment. -/
theorem parseSetCookie_join {part : Text} (hpart : IsSegment part)
    (hsegments : ∀ segment ∈ segments, IsSegment segment) :
    parseSetCookie (Text.join [';'] (part :: segments)) =
      segments.foldl addSegment (ofPart part) := by
  rw [parseSetCookie, splitOutsideQuotes_join hpart hsegments]
  rfl

/-- A pair with segments of different names behind it is read as the cookie of the pair with the
table of their attributes.  The order of the segments does not count, and neither does any number of
blank or unknown segments between them, before them or behind. -/
theorem parseSetCookie_of_perm_of_isPadded {part : Text} (hpart : IsSegment part)
    (hsegments : ∀ segment ∈ segments, IsSegment segment) (hnames : HaveDistinctNames segments) :
    parseSetCookie (Text.join [';'] (part :: segments)) =
        (ofPart part).withAttributes (valueOf? segments) ∧
      ∀ permuted padded, permuted.Perm segments → IsPadded IsSilent permuted padded →
        parseSetCookie (Text.join [';'] (part :: padded)) =
          parseSetCookie (Text.join [';'] (part :: segments)) := by
  have htable := parseSetCookie_join hpart hsegments
  rw [foldl_addSegment_eq hnames] at htable
  refine ⟨htable, ?_⟩
  intro permuted padded hperm hpadded
  have hpaddedSegments : ∀ segment ∈ padded, IsSegment segment := by
    intro segment hmem
    rcases hpadded.mem_or segment hmem with hitem | hsilent
    · exact hsegments segment (hperm.subset hitem)
    · exact hsilent.isSegment
  calc parseSetCookie (Text.join [';'] (part :: padded))
      = padded.foldl addSegment (ofPart part) := parseSetCookie_join hpart hpaddedSegments
    _ = permuted.foldl addSegment (ofPart part) :=
        hpadded.foldl_eq (fun _ hsilent => hsilent.addSegment_eq) _
    _ = (ofPart part).withAttributes (valueOf? permuted) :=
        foldl_addSegment_eq (hnames.of_perm hperm) _
    _ = parseSetCookie (Text.join [';'] (part :: segments)) := by
        rw [valueOf?_eq_of_perm hperm hnames, htable]

/-- Three attributes, and a semicolon between quotes. -/
def sessionSegments : List Text :=
  [" Path=\"/x;y\"".toList, " MAX-AGE=60".toList, "Secure".toList]

/-- The attributes in another order, with a blank segment and a note among them. -/
def notedSegments : List Text :=
  ["Secure".toList, " ".toList, " MAX-AGE=60".toList, " Note=1".toList, " Path=\"/x;y\"".toList]

/-- A cookie with a semicolon between quotes is read, and read alike with its attributes in another
order and with a blank segment and a note among them. -/
theorem parseSetCookie_of_perm_of_isPadded_session :
    parseSetCookie "id=\"a;b\"; Path=\"/x;y\"; MAX-AGE=60;Secure".toList =
        { name := "id".toList, value := "a;b".toList, path := some "/x;y".toList,
          maxAge := some 60, secure := true } ∧
      parseSetCookie "id=\"a;b\";Secure; ; MAX-AGE=60; Note=1; Path=\"/x;y\"".toList =
        parseSetCookie "id=\"a;b\"; Path=\"/x;y\"; MAX-AGE=60;Secure".toList := by
  have hpart : IsSegment "id=\"a;b\"".toList := by decide
  have hsegments : ∀ segment ∈ sessionSegments, IsSegment segment := by decide
  have hnames : HaveDistinctNames sessionSegments := by decide
  have hperm : sessionSegments.reverse.Perm sessionSegments := List.reverse_perm _
  have hblank : IsSilent " ".toList := Or.inl rfl
  have hnote : IsSilent " Note=1".toList := Or.inr (by decide)
  have hpadded : IsPadded IsSilent sessionSegments.reverse notedSegments :=
    .item _ (.filler hblank (.item _ (.filler hnote (.item _ .nil))))
  obtain ⟨htable, hsame⟩ := parseSetCookie_of_perm_of_isPadded hpart hsegments hnames
  exact ⟨htable.trans (by decide), hsame _ _ hperm hpadded⟩

end HttpConformance.Cookie
