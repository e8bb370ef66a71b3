import HttpConformance.ContentType
import HttpConformance.Proofs.Text.Join
import HttpConformance.Proofs.Text.Trim

/-!
# What a content type says

A `Content-Type` value is put together from a front and from parameters, with a semicolon before
each parameter.  Its media type is the front, up to the blanks around it and to the case of ASCII
letters.  Its charset is the one that the first charset parameter names; parameters in front of that
one which have no equals sign, or another name before it, do not count.

Main definitions: `ContentType.NamesCharset`, `ContentType.Declares`.

Main results:

- `ContentType.mediaType_join`, `ContentType.mediaType_eq_lowerAscii_iff`: the media type.
- `ContentType.charsetOf?_eq_some_iff`: the charset of one parameter.
- `ContentType.charset?_eq_some_iff`, `ContentType.charset?_eq_none_iff`: the charset of a value.
- `ContentType.charset?_declared`, `ContentType.charset?_quoted`: a charset is read as it is
  written.
-/

namespace HttpConformance.ContentType

variable {front value charset : Text} {parameters : List Text}

/-! ## The media type -/

/-- Only what stands before the first semicolon is the media type. -/
theorem mediaType_append_cons (h : ';' ∉ front) (rest : Text) :
    mediaType (front ++ ';' :: rest) = Text.lowerAscii (Text.trim front) := by
  rw [mediaType, takeWhile_append_cons h]

/-- A value without parameters is a media type as a whole. -/
theorem mediaType_of_notMem (h : ';' ∉ value) :
    mediaType value = Text.lowerAscii (Text.trim value) := by
  rw [mediaType, takeWhile_eq_self_of_notMem h]

/-- The parameters say nothing about the media type. -/
theorem mediaType_join (h : ';' ∉ front) (parameters : List Text) :
    mediaType (Text.join [';'] (front :: parameters)) = Text.lowerAscii (Text.trim front) := by
  cases parameters with
  | nil =>
    rw [Text.join, List.intercalate_singleton]
    exact mediaType_of_notMem h
  | cons parameter parameters =>
    rw [join_cons_of_ne_nil _ _ (List.cons_ne_nil parameter parameters)]
    exact mediaType_append_cons h _

/-- A media type is the expected one up to the blanks around it and the case of ASCII letters. -/
theorem mediaType_eq_lowerAscii_iff {expected : Text} :
    mediaType value = Text.lowerAscii expected ↔
      Text.sameIgnoringCase (Text.trim (value.takeWhile (· != ';'))) expected = true :=
  beq_iff_eq.symm

/-! ## One parameter -/

/-- The parameter has the name `charset`, and this is the value behind its first equals sign. -/
inductive NamesCharset : Text → Text → Prop where
  | intro {name : Text} (value : Text) (hname : '=' ∉ name)
      (hcharset : Text.sameIgnoringCase (Text.trim name) "charset".toList = true) :
      NamesCharset (name ++ '=' :: value) (trimQuotes (Text.trim value))

/-- The charset of a parameter is read exactly when the parameter names one. -/
theorem charsetOf?_eq_some_iff {parameter : Text} :
    charsetOf? parameter = some charset ↔ NamesCharset parameter charset := by
  constructor
  · intro h
    rw [charsetOf?] at h
    split at h
    · rename_i name value hcut
      obtain ⟨rfl, hname⟩ := cutAt_eq_some_iff.1 hcut
      split at h
      · rename_i hcharset
        cases h
        exact .intro value hname hcharset
      · cases h
    · cases h
  · rintro ⟨value, hname, hcharset⟩
    simp only [charsetOf?, cutAt_append_cons hname, hcharset, if_true]

/-- No charset is read of a parameter exactly when the parameter names none. -/
theorem charsetOf?_eq_none_iff {parameter : Text} :
    charsetOf? parameter = none ↔ ∀ charset, ¬ NamesCharset parameter charset := by
  simp only [Option.eq_none_iff_forall_ne_some, ne_eq, charsetOf?_eq_some_iff]

/-! ## All parameters -/

/-- The first parameter of the value that names a charset names this one. -/
def Declares (value charset : Text) : Prop :=
  ∃ front before parameter after,
    value.splitOn ';' = front :: (before ++ parameter :: after) ∧
      (∀ other ∈ before, ∀ named, ¬ NamesCharset other named) ∧ NamesCharset parameter charset

/-- The charset of a value that is put together from its parts. -/
theorem charset?_join (hfront : ';' ∉ front) (h : ∀ parameter ∈ parameters, ';' ∉ parameter) :
    charset? (Text.join [';'] (front :: parameters)) = parameters.findSome? charsetOf? := by
  have hparts : ∀ part ∈ front :: parameters, ';' ∉ part :=
    List.forall_mem_cons.2 ⟨hfront, h⟩
  rw [charset?, Text.join, List.splitOn_intercalate _ hparts (List.cons_ne_nil _ _), List.tail_cons]

/-- The charset of a value is the one that the value declares. -/
theorem charset?_eq_some_iff : charset? value = some charset ↔ Declares value charset := by
  obtain ⟨front, parameters, hparts⟩ :=
    List.exists_cons_of_ne_nil (List.splitOn_ne_nil ';' value)
  rw [charset?, Declares, hparts, List.tail_cons, List.findSome?_eq_some_iff]
  constructor
  · rintro ⟨before, parameter, after, rfl, hnamed, hbefore⟩
    refine ⟨front, before, parameter, after, rfl, fun other hother => ?_, ?_⟩
    · exact charsetOf?_eq_none_iff.1 (hbefore other hother)
    · exact charsetOf?_eq_some_iff.1 hnamed
  · rintro ⟨_, before, parameter, after, heq, hbefore, hnamed⟩
    refine ⟨before, parameter, after, (List.cons.inj heq).2, charsetOf?_eq_some_iff.2 hnamed, ?_⟩
    exact fun other hother => charsetOf?_eq_none_iff.2 (hbefore other hother)

/-- A value has no charset exactly when none of its parameters names one. -/
theorem charset?_eq_none_iff :
    charset? value = none ↔
      ∀ parameter ∈ (value.splitOn ';').tail, ∀ charset, ¬ NamesCharset parameter charset := by
  simp only [charset?, List.findSome?_eq_none_iff, charsetOf?_eq_none_iff]

/-! ## Charsets that are written -/

/-- A text that neither begins nor ends with a quote stays as it is. -/
theorem trimQuotes_eq_self (hhead : value.head? ≠ some '"') (hlast : value.getLast? ≠ some '"') :
    trimQuotes value = value := by
  have hfront : value.dropWhile (· == '"') = value := by
    cases value with
    | nil => rfl
    | cons c rest => exact List.dropWhile_cons_of_neg (by simpa using hhead)
  rw [trimQuotes, hfront, dropEndWhile_beq_eq_self_iff]
  exact hlast

/-- The quotes around a text do not count. -/
theorem trimQuotes_quoted (value : Text) :
    trimQuotes ('"' :: value ++ ['"']) = trimQuotes value := by
  have hquote : ∀ c ∈ ['"'], (c == '"') = true := List.forall_mem_singleton.2 rfl
  rw [trimQuotes, trimQuotes, List.cons_append, List.dropWhile_cons_of_pos rfl,
    List.dropWhile_append]
  split
  · rename_i hempty
    rw [List.isEmpty_iff.1 hempty]
    rfl
  · exact dropEndWhile_append_of_forall hquote _

/-- The one parameter of a value is its charset, with the quotes at the ends of it left out. -/
theorem charset?_parameter (hfront : ';' ∉ front) (hvalue : ';' ∉ value) :
    charset? (front ++ "; charset=".toList ++ value) = some (trimQuotes (Text.trim value)) := by
  have hname : NamesCharset (" charset".toList ++ '=' :: value) (trimQuotes (Text.trim value)) :=
    .intro value (by decide) (by decide)
  have hjoin : front ++ "; charset=".toList ++ value =
      Text.join [';'] [front, " charset".toList ++ '=' :: value] := by
    simp [join_cons]
  have hparameter : ∀ parameter ∈ [" charset".toList ++ '=' :: value], ';' ∉ parameter := by
    simpa using hvalue
  rw [hjoin, charset?_join hfront hparameter, List.findSome?_singleton]
  exact charsetOf?_eq_some_iff.2 hname

/-- A charset behind a media type is read as it is written. -/
theorem charset?_declared (hfront : ';' ∉ front) (hcharset : ';' ∉ charset)
    (htrimmed : charset.IsTrimmed) (hhead : charset.head? ≠ some '"')
    (hlast : charset.getLast? ≠ some '"') :
    charset? (front ++ "; charset=".toList ++ charset) = some charset := by
  rw [charset?_parameter hfront hcharset, htrimmed, trimQuotes_eq_self hhead hlast]

/-- A charset between quotes is read without them. -/
theorem charset?_quoted (hfront : ';' ∉ front) (hcharset : ';' ∉ charset)
    (hhead : charset.head? ≠ some '"') (hlast : charset.getLast? ≠ some '"') :
    charset? (front ++ "; charset=".toList ++ ('"' :: charset ++ ['"'])) = some charset := by
  have htrimmed : Text.trim ('"' :: charset ++ ['"']) = '"' :: charset ++ ['"'] := by
    refine Text.isTrimmed_of_ends ?_ ?_
    · rintro _ ⟨rfl⟩
      rfl
    · intro c hc
      rw [List.getLast?_concat, Option.some.injEq] at hc
      rw [← hc]
      rfl
  rw [charset?_parameter hfront (by simpa using hcharset), htrimmed, trimQuotes_quoted,
    trimQuotes_eq_self hhead hlast]

end HttpConformance.ContentType
