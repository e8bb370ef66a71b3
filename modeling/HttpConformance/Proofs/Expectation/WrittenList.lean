import HttpConformance.Proofs.Expectation.PredicateList
import HttpConformance.Proofs.Text.Trim

/-!
# Written lists of predicates

A list of header predicates is written with a bar between one predicate and the next, and blank
pieces between bars do not count.  What a predicate is written as can be read again as long as its
name can be told from the value behind the colon, and its text from those beside it.  A piece that
is not blank can only be refused because nothing but blanks stands before its first colon; such a
piece makes the whole list an error.

Main definitions: `HeaderPredicate.IsWritable`, `HeaderPredicate.IsNameless`.

Main results:

- `HeaderPredicate.parse_describe`, `HeaderPredicate.parse_eq_error_iff`: one predicate.
- `HeaderPredicate.splitList_eq_splitOn`: the pieces of a list without references.
- `HeaderPredicate.parseList_join`, `HeaderPredicate.parseListWith_eq_error_iff`: a list that is
  read, and one that is refused.
- `HeaderPredicate.parseList_reads_written`: a written list is read as it was written, and which
  lists are refused.
-/

namespace HttpConformance.HeaderPredicate

/-! ## One predicate -/

/-- The name of the predicate ends at the first colon of what is written, and no bar parts it. -/
structure IsWritable (predicate : HeaderPredicate) : Prop where
  name_ne_nil : predicate.name ≠ []
  isTrimmed_name : predicate.name.IsTrimmed
  colon_notMem_name : ':' ∉ predicate.name
  bar_notMem_name : '|' ∉ predicate.name
  value : ∀ value ∈ predicate.value, value.IsTrimmed ∧ '|' ∉ value

instance (predicate : HeaderPredicate) : Decidable predicate.IsWritable :=
  decidable_of_iff (predicate.name ≠ [] ∧ predicate.name.IsTrimmed ∧ ':' ∉ predicate.name ∧
      '|' ∉ predicate.name ∧ ∀ value ∈ predicate.value, value.IsTrimmed ∧ '|' ∉ value)
    ⟨fun ⟨hne, htrimmed, hcolon, hbar, hvalue⟩ => ⟨hne, htrimmed, hcolon, hbar, hvalue⟩,
      fun h => ⟨h.name_ne_nil, h.isTrimmed_name, h.colon_notMem_name, h.bar_notMem_name, h.value⟩⟩

/-- The piece is not blank, but what stands before its first colon is. -/
structure IsNameless (piece : Text) : Prop where
  not_blank : Text.isAllBlank piece = false
  blank_name : Text.isAllBlank (piece.takeWhile (· != ':')) = true

instance (piece : Text) : Decidable (IsNameless piece) :=
  decidable_of_iff (Text.isAllBlank piece = false ∧
      Text.isAllBlank (piece.takeWhile (· != ':')) = true)
    ⟨fun h => ⟨h.1, h.2⟩, fun h => ⟨h.not_blank, h.blank_name⟩⟩

variable {predicate : HeaderPredicate} {text : Text}

/-- A predicate is read from what it is written as. -/
theorem parse_describe (h : predicate.IsWritable) : parse predicate.describe = .ok predicate := by
  obtain ⟨name, value⟩ := predicate
  have hname : Text.trim name = name := h.isTrimmed_name
  have hne : name ≠ [] := h.name_ne_nil
  cases value with
  | none =>
    have hcut : cutAt ':' name = none := cutAt_eq_none_iff.2 h.colon_notMem_name
    simp [parse, describe, hcut, hname, hne]
  | some value =>
    have hvalue : Text.trim (' ' :: value) = value := by
      have hblank : ∀ c ∈ [' '], Text.isBlank c = true := List.forall_mem_singleton.2 rfl
      have htrim := Text.trim_append_of_isBlank hblank value
      rw [List.singleton_append] at htrim
      exact htrim.trans (h.value value rfl).1
    have hcut : cutAt ':' (name ++ ':' :: ' ' :: value) = some (name, ' ' :: value) :=
      cutAt_append_cons h.colon_notMem_name _
    simp [parse, describe, hcut, hname, hne, hvalue]

/-- The name of a predicate is what stands before the first colon. -/
theorem parse_eq (text : Text) :
    parse text =
      if Text.isAllBlank (text.takeWhile (· != ':')) then .error ⟨text⟩
      else .ok ⟨Text.trim (text.takeWhile (· != ':')),
        (cutAt ':' text).map fun parts => Text.trim parts.2⟩ := by
  rw [parse]
  cases hcut : cutAt ':' text with
  | none =>
    rw [takeWhile_eq_self_of_notMem (cutAt_eq_none_iff.1 hcut)]
    simp [Text.trim_eq_nil_iff]
  | some parts =>
    obtain ⟨hshape, hcolon⟩ := cutAt_eq_some_iff.1 hcut
    have hname : text.takeWhile (· != ':') = parts.1 := by
      rw [hshape, takeWhile_append_cons hcolon]
    rw [hname]
    simp [Text.trim_eq_nil_iff]

/-- A text is no predicate exactly when nothing but blanks stands before its first colon. -/
theorem parse_eq_error_iff {error : Error} :
    parse text = .error error ↔
      Text.isAllBlank (text.takeWhile (· != ':')) = true ∧ error = ⟨text⟩ := by
  rw [parse_eq]
  split
  · rename_i hblank
    simp [hblank, eq_comm]
  · rename_i hblank
    simp [hblank]

/-- A blank text is no nameless piece. -/
theorem not_isNameless_of_isAllBlank (h : Text.isAllBlank text = true) : ¬ IsNameless text := by
  intro hnameless
  rw [hnameless.not_blank] at h
  cases h

/-! ## Pieces -/

/-- Without references, every bar parts the list. -/
theorem splitList_eq_splitOn (text : Text) :
    splitList (fun _ => false) text = text.splitOn '|' := by
  have hnone (text : Text) : reference? (fun _ => false) text = none := by
    rw [Option.eq_none_iff_forall_ne_some]
    rintro ⟨name, rest⟩ hfound
    exact absurd (reference?_eq_some_iff.1 hfound).2.2.2 Bool.false_ne_true
  rw [List.splitOn_eq_splitOnP]
  induction text with
  | nil => rw [splitList, List.splitOnP_nil]
  | cons c text ih =>
    rw [List.splitOnP_cons_eq_if_modifyHead]
    by_cases hc : c = '|'
    · rw [hc, splitList_bar (hnone _), ih]
      rfl
    · rw [splitList_cons_of_ne hc, ih, if_neg (by simpa using hc)]

/-- What is read of pieces is an error exactly when one of them is nameless, and the first one of
these is reported. -/
theorem mapM_parse_eq_error_iff {pieces : List Text} {error : Error} :
    (pieces.filter (!Text.isAllBlank ·)).mapM parse = .error error ↔
      pieces.find? (IsNameless ·) = some error.predicate := by
  induction pieces with
  | nil => simp [pure, Except.pure]
  | cons piece pieces ih =>
    by_cases hblank : Text.isAllBlank piece = true
    · rw [List.filter_cons_of_neg (by simp [hblank]), ih,
        List.find?_cons_of_neg (by simpa using not_isNameless_of_isAllBlank hblank)]
    · rw [Bool.not_eq_true] at hblank
      rw [List.filter_cons_of_pos (by simp [hblank]), List.mapM_cons]
      by_cases hname : Text.isAllBlank (piece.takeWhile (· != ':')) = true
      · have hparse : parse piece = .error ⟨piece⟩ := parse_eq_error_iff.2 ⟨hname, rfl⟩
        have hnameless : IsNameless piece := ⟨hblank, hname⟩
        rw [hparse, List.find?_cons_of_pos (by simpa using hnameless)]
        obtain ⟨refused⟩ := error
        simp [bind, Except.bind]
      · have hnot : ¬ IsNameless piece := fun hnameless => hname hnameless.blank_name
        rw [List.find?_cons_of_neg (by simpa using hnot), ← ih]
        cases hparse : parse piece with
        | error refused => exact absurd (parse_eq_error_iff.1 hparse).1 hname
        | ok predicate =>
          cases (pieces.filter (!Text.isAllBlank ·)).mapM parse <;>
            simp [bind, Except.bind, pure, Except.pure]

/-- Predicates are read from what they are written as. -/
theorem mapM_parse_describe {predicates : List HeaderPredicate}
    (h : ∀ predicate ∈ predicates, predicate.IsWritable) :
    (predicates.map describe).mapM parse = .ok predicates := by
  induction predicates with
  | nil => rfl
  | cons predicate predicates ih =>
    rw [List.forall_mem_cons] at h
    rw [List.map_cons, List.mapM_cons, parse_describe h.1, ih h.2]
    rfl

/-! ## Lists -/

/-- A predicate is written without bars. -/
theorem IsWritable.bar_notMem_describe (h : predicate.IsWritable) : '|' ∉ predicate.describe := by
  obtain ⟨name, value⟩ := predicate
  have hname : '|' ∉ name := h.bar_notMem_name
  cases value with
  | none => exact hname
  | some value =>
    have hvalue : '|' ∉ value := (h.value value rfl).2
    simp [describe, hname, hvalue]

/-- A predicate is not written as a blank text. -/
theorem IsWritable.isAllBlank_describe (h : predicate.IsWritable) :
    Text.isAllBlank predicate.describe = false := by
  have hname := h.isTrimmed_name.isAllBlank_eq_false h.name_ne_nil
  rw [describe]
  split
  · rw [Text.isAllBlank, List.all_append, ← Text.isAllBlank, hname, Bool.false_and]
  · exact hname

/-- The pieces of a written list are those that were joined; only a list without any pieces has an
empty one. -/
theorem filter_splitOn_join {pieces : List Text} (h : ∀ piece ∈ pieces, '|' ∉ piece) :
    ((Text.join ['|'] pieces).splitOn '|').filter (!Text.isAllBlank ·) =
      pieces.filter (!Text.isAllBlank ·) := by
  by_cases hne : pieces = []
  · rw [hne]
    rfl
  · rw [Text.join, List.splitOn_intercalate '|' h hne]

/-- The pieces of a written list are the predicates as they are written and blank texts. -/
theorem parseList_join {predicates : List HeaderPredicate}
    (hwritable : ∀ predicate ∈ predicates, predicate.IsWritable) {pieces : List Text}
    (hpieces : IsPadded (Text.isAllBlank · = true) (predicates.map describe) pieces) :
    parseList (Text.join ['|'] pieces) = .ok predicates := by
  have hbar : ∀ piece ∈ pieces, '|' ∉ piece := by
    intro piece hpiece
    rcases hpieces.mem_or piece hpiece with hmem | hblank
    · obtain ⟨predicate, hpredicate, rfl⟩ := List.mem_map.1 hmem
      exact (hwritable predicate hpredicate).bar_notMem_describe
    · intro hmem
      exact absurd (List.all_eq_true.1 hblank '|' hmem) (by decide)
  have hkept : pieces.filter (!Text.isAllBlank ·) = predicates.map describe := by
    apply hpieces.filter_eq
    · intro piece hpiece
      obtain ⟨predicate, hpredicate, rfl⟩ := List.mem_map.1 hpiece
      rw [(hwritable predicate hpredicate).isAllBlank_describe, Bool.not_false]
    · intro piece hblank
      rw [hblank, Bool.not_true]
  rw [parseList, parseListWith, splitList_eq_splitOn, filter_splitOn_join hbar, hkept,
    mapM_parse_describe hwritable]

/-- A text is refused because of its first nameless piece, whatever the placeholders are. -/
theorem parseListWith_eq_error_iff {isPlaceholder : Text → Bool} {error : Error} :
    parseListWith isPlaceholder text = .error error ↔
      (splitList isPlaceholder text).find? (IsNameless ·) = some error.predicate := by
  rw [parseListWith, mapM_parse_eq_error_iff]

/-- A text is refused exactly when one of its pieces is nameless. -/
theorem exists_parseListWith_eq_error_iff {isPlaceholder : Text → Bool} :
    (∃ error, parseListWith isPlaceholder text = .error error) ↔
      ∃ piece ∈ splitList isPlaceholder text, IsNameless piece := by
  constructor
  · rintro ⟨error, herror⟩
    have hfound := parseListWith_eq_error_iff.1 herror
    exact ⟨error.predicate, List.mem_of_find?_eq_some hfound,
      by simpa using List.find?_some hfound⟩
  · rintro ⟨piece, hpiece, hnameless⟩
    have hsome : ((splitList isPlaceholder text).find? (IsNameless ·)).isSome = true :=
      List.find?_isSome.2 ⟨piece, hpiece, by simpa using hnameless⟩
    obtain ⟨first, hfirst⟩ := Option.isSome_iff_exists.1 hsome
    exact ⟨⟨first⟩, parseListWith_eq_error_iff.2 hfirst⟩

/-- A list of predicates is read as it was written, with any number of blank pieces between the
predicates, before and behind them; and a text is refused, so that no predicate is read, exactly
when a piece of it is nameless. -/
theorem parseList_reads_written :
    (∀ predicates : List HeaderPredicate, (∀ predicate ∈ predicates, predicate.IsWritable) →
      ∀ pieces, IsPadded (Text.isAllBlank · = true) (predicates.map describe) pieces →
        parseList (Text.join ['|'] pieces) = .ok predicates) ∧
    ∀ text, (∃ error, parseList text = .error error) ↔
      ∃ piece ∈ text.splitOn '|', IsNameless piece := by
  refine ⟨fun predicates hwritable pieces => parseList_join hwritable, fun text => ?_⟩
  rw [parseList, exists_parseListWith_eq_error_iff, splitList_eq_splitOn]

/-- A value with colons in it, an empty value, and no value. -/
def movedPage : List HeaderPredicate :=
  [⟨"Location".toList, some "http://tck.local:8080/x".toList⟩, ⟨"X-Empty".toList, some []⟩,
    ⟨"X-Flag".toList, none⟩]

/-- The predicates as they are written, with blank pieces between them, before and behind. -/
def movedPieces : List Text :=
  [" ".toList, "Location: http://tck.local:8080/x".toList, [], "\t".toList, "X-Empty: ".toList,
    "X-Flag".toList, []]

/-- The list of the pieces is read as the predicates, and a list with a value but no name is
refused. -/
theorem parseList_reads_written_movedPage :
    (∀ predicate ∈ movedPage, predicate.IsWritable) ∧
      IsPadded (Text.isAllBlank · = true) (movedPage.map describe) movedPieces ∧
      parseList (Text.join ['|'] movedPieces) = .ok movedPage ∧
      (∃ piece ∈ "X-Flag| :first".toList.splitOn '|', IsNameless piece) ∧
      ∃ error, parseList "X-Flag| :first".toList = .error error := by
  have hwritable : ∀ predicate ∈ movedPage, predicate.IsWritable := by decide
  have hpieces : IsPadded (Text.isAllBlank · = true) (movedPage.map describe) movedPieces :=
    .filler rfl (.item _ (.filler rfl (.filler rfl (.item _ (.item _ (.filler rfl .nil))))))
  have hnameless : ∃ piece ∈ "X-Flag| :first".toList.splitOn '|', IsNameless piece := by decide
  refine ⟨hwritable, hpieces, ?_, hnameless, ?_⟩
  · exact parseList_reads_written.1 movedPage hwritable movedPieces hpieces
  · exact (parseList_reads_written.2 _).2 hnameless

end HttpConformance.HeaderPredicate
