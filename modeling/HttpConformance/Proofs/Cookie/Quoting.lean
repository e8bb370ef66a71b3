import HttpConformance.Cookie.RequestHeader
import HttpConformance.Proofs.Text.Trim

/-!
# Quotes in a cookie text

Splitting a text passes over the separators inside quotes, so it sees of a text only where its
quotes open and close.  A value that is written between quotes is read back whole, and nothing that
it contains stands outside them; but this rests on the quote in front of it opening one.  Behind a
text that leaves a quote open, that quote closes it, and the value is outside up to its own first
quote.

Main definitions: `Position.afterAll`, `IsOnePart`.

Main results:

- `splitFrom_append`, `splitFrom_append_cons`: a text is split part by part.
- `splitFrom_eq_cons`: the parts are whole, and what is behind the first one begins outside quotes.
- `unquote_cases`: a text writes a value between quotes or as it is.
- `unquote_quoteIfNeeded`: a written value reads back.
- `isOnePart_outside_quoteIfNeeded`, `isOnePart_inside_quoteIfNeeded_iff`: a written value behind a
  text without open quotes, and behind one that has left a quote open.
-/

namespace HttpConformance.Cookie

/-! ## Positions -/

namespace Position

/-- The position after a text. -/
def afterAll (position : Position) (text : Text) : Position :=
  text.foldl (fun position c => position.after c) position

@[simp]
theorem afterAll_nil (position : Position) : position.afterAll [] = position :=
  rfl

@[simp]
theorem afterAll_cons (position : Position) (c : Char) (text : Text) :
    position.afterAll (c :: text) = (position.after c).afterAll text :=
  rfl

/-- The position behind two texts is found through the position between them. -/
@[simp]
theorem afterAll_append (position : Position) (front rest : Text) :
    position.afterAll (front ++ rest) = (position.afterAll front).afterAll rest :=
  List.foldl_append

/-- Only a quote takes a position out of quotes or into them. -/
theorem after_eq_outside_iff {c : Char} (hc : c ≠ '"') (position : Position) :
    position.after c = .outside ↔ position = .outside := by
  cases position with
  | outside => simp [after, hc]
  | inside =>
    by_cases hescape : c = '\\'
    · simp [after, hescape]
    · simp [after, hc, hescape]
  | escaped => simp [after]

/-- A text without quotes is outside of all quotes behind it exactly when it is so before it. -/
theorem afterAll_eq_outside_iff {text : Text} (h : '"' ∉ text) (position : Position) :
    position.afterAll text = .outside ↔ position = .outside := by
  induction text generalizing position with
  | nil => rfl
  | cons c text ih =>
    rw [List.mem_cons, not_or] at h
    rw [afterAll_cons, ih h.2, after_eq_outside_iff (Ne.symm h.1)]

/-- A character that is neither a quote nor a backslash leaves an open quote open. -/
theorem after_eq_inside {c : Char} (hc : c ≠ '"') (hescape : c ≠ '\\') {position : Position}
    (h : position ≠ .outside) : position.after c = .inside := by
  cases position with
  | outside => exact absurd rfl h
  | inside => simp [after, hc, hescape]
  | escaped => rfl

end Position

/-! ## Parts -/

/-- No separator in the text stands outside quotes. -/
def IsOnePart (isSeparator : Char → Bool) : Position → Text → Prop
  | _, [] => True
  | position, c :: rest =>
    ¬ (position = .outside ∧ isSeparator c = true) ∧ IsOnePart isSeparator (position.after c) rest

/-- The parts of a text are found by looking at its characters. -/
instance decidableIsOnePart (isSeparator : Char → Bool) :
    (position : Position) → (text : Text) → Decidable (IsOnePart isSeparator position text)
  | _, [] => inferInstanceAs (Decidable True)
  | position, c :: rest =>
    have := decidableIsOnePart isSeparator (position.after c) rest
    inferInstanceAs (Decidable (¬ (position = .outside ∧ isSeparator c = true) ∧ _))

variable {isSeparator : Char → Bool}

/-- A text is one part exactly when both halves of it are, each from where it begins. -/
theorem isOnePart_append {position : Position} {front rest : Text} :
    IsOnePart isSeparator position (front ++ rest) ↔
      IsOnePart isSeparator position front ∧
        IsOnePart isSeparator (position.afterAll front) rest := by
  induction front generalizing position with
  | nil => simp [IsOnePart]
  | cons c front ih =>
    simp only [List.cons_append, IsOnePart, ih, Position.afterAll_cons, and_assoc]

/-- A text without separators is one part, wherever it stands. -/
theorem isOnePart_of_forall {text : Text} (h : ∀ c ∈ text, isSeparator c = false)
    (position : Position) : IsOnePart isSeparator position text := by
  induction text generalizing position with
  | nil => trivial
  | cons c text ih =>
    have hc : isSeparator c = false := h c List.mem_cons_self
    exact ⟨fun hout => by simp [hc] at hout, ih (fun d hd => h d (List.mem_cons_of_mem c hd)) _⟩

/-- A text without quotes that is one part outside of them has no separators. -/
theorem IsOnePart.forall_of_quote_notMem {text : Text} (h : IsOnePart isSeparator .outside text)
    (hquote : '"' ∉ text) : ∀ c ∈ text, isSeparator c = false := by
  induction text with
  | nil => exact fun c hc => absurd hc List.not_mem_nil
  | cons d text ih =>
    rw [List.mem_cons, not_or] at hquote
    obtain ⟨hd, hrest⟩ := h
    rw [(Position.after_eq_outside_iff (Ne.symm hquote.1) .outside).2 rfl] at hrest
    exact List.forall_mem_cons.2 ⟨by simpa using hd, ih hrest hquote.2⟩

theorem splitFrom_ne_nil (isSeparator : Char → Bool) (position : Position) (text : Text) :
    splitFrom isSeparator position text ≠ [] := by
  induction text generalizing position with
  | nil => exact List.cons_ne_nil _ _
  | cons c text ih =>
    rw [splitFrom]
    split
    · exact List.cons_ne_nil _ _
    · rw [Ne, List.modifyHead_eq_nil_iff]
      exact ih _

/-- What is one part stays together at the front of a longer text. -/
theorem splitFrom_append {position : Position} {front : Text}
    (h : IsOnePart isSeparator position front) (rest : Text) :
    splitFrom isSeparator position (front ++ rest) =
      (splitFrom isSeparator (position.afterAll front) rest).modifyHead (front ++ ·) := by
  induction front generalizing position with
  | nil =>
    cases hrest : splitFrom isSeparator position rest with
    | nil => exact absurd hrest (splitFrom_ne_nil isSeparator position rest)
    | cons part parts => simp [hrest]
  | cons c front ih =>
    rw [List.cons_append, splitFrom, if_neg h.1, ih h.2, List.modifyHead_modifyHead]
    rfl

/-- A text without separators outside quotes is not split. -/
theorem splitFrom_of_isOnePart {position : Position} {text : Text}
    (h : IsOnePart isSeparator position text) : splitFrom isSeparator position text = [text] := by
  have hwhole := splitFrom_append h []
  rwa [List.append_nil, splitFrom, List.modifyHead_cons, List.append_nil] at hwhole

/-- A text is split at a separator that stands outside quotes. -/
theorem splitFrom_append_cons (hquote : isSeparator '"' = false) {position : Position}
    {front : Text} (hfront : position.afterAll front = .outside) {c : Char}
    (hc : isSeparator c = true) (rest : Text) :
    splitFrom isSeparator position (front ++ c :: rest) =
      splitFrom isSeparator position front ++ splitFrom isSeparator .outside rest := by
  induction front generalizing position with
  | nil =>
    obtain rfl : position = .outside := hfront
    simp [splitFrom, hc]
  | cons d front ih =>
    rw [List.cons_append, splitFrom, splitFrom]
    split
    · rename_i hcut
      -- A separator is no quote, so the rest of the front begins outside quotes again.
      have hd : d ≠ '"' := by
        rintro rfl
        simp [hquote] at hcut
      rw [Position.afterAll_cons, (Position.after_eq_outside_iff hd position).2 hcut.1] at hfront
      rw [ih hfront, List.cons_append]
    · obtain ⟨part, parts, hparts⟩ :=
        List.exists_cons_of_ne_nil (splitFrom_ne_nil isSeparator (position.after d) front)
      rw [ih hfront, hparts, List.cons_append, List.modifyHead_cons, List.modifyHead_cons,
        List.cons_append]

/-- The parts of a text are one part each, and with more than one part the first ends outside
quotes. -/
theorem splitFrom_eq_cons {position : Position} {text part : Text} {parts : List Text}
    (h : splitFrom isSeparator position text = part :: parts) :
    IsOnePart isSeparator position part ∧
      (∀ other ∈ parts, IsOnePart isSeparator .outside other) ∧
      (parts ≠ [] → position.afterAll part = .outside) := by
  induction text generalizing position part parts with
  | nil =>
    obtain ⟨rfl, rfl⟩ := List.cons.inj h
    simp [IsOnePart]
  | cons c text ih =>
    rw [splitFrom] at h
    split at h
    · rename_i hcut
      obtain ⟨rfl, rfl⟩ := List.cons.inj h
      obtain ⟨next, others, hnext⟩ :=
        List.exists_cons_of_ne_nil (splitFrom_ne_nil isSeparator .outside text)
      obtain ⟨hfirst, hothers, -⟩ := ih hnext
      rw [hnext]
      refine ⟨trivial, ?_, fun _ => hcut.1⟩
      intro other hother
      rcases List.mem_cons.1 hother with rfl | hother
      · exact hfirst
      · exact hothers other hother
    · rename_i hcut
      obtain ⟨next, others, hnext⟩ :=
        List.exists_cons_of_ne_nil (splitFrom_ne_nil isSeparator (position.after c) text)
      rw [hnext, List.modifyHead_cons] at h
      obtain ⟨rfl, rfl⟩ := List.cons.inj h
      obtain ⟨hfirst, hothers, hout⟩ := ih hnext
      exact ⟨⟨hcut, hfirst⟩, hothers, hout⟩

theorem isOnePart_of_mem_splitOutsideQuotes {text part : Text}
    (h : part ∈ splitOutsideQuotes isSeparator text) : IsOnePart isSeparator .outside part := by
  obtain ⟨first, others, hsplit⟩ :=
    List.exists_cons_of_ne_nil (splitFrom_ne_nil isSeparator .outside text)
  obtain ⟨hfirst, hothers, -⟩ := splitFrom_eq_cons hsplit
  rw [splitOutsideQuotes, hsplit] at h
  rcases List.mem_cons.1 h with rfl | hother
  · exact hfirst
  · exact hothers part hother

/-! ## Values -/

theorem mem_flatMap_escapeInQuotes {value : Text} (h : '"' ∉ value) :
    '"' ∉ value.flatMap escapeInQuotes := by
  intro hmem
  obtain ⟨c, hc, hquote⟩ := List.mem_flatMap.1 hmem
  have hne : c ≠ '"' := ne_of_mem_of_not_mem hc h
  unfold escapeInQuotes at hquote
  split at hquote
  · simp [Ne.symm hne] at hquote
  · simp [Ne.symm hne] at hquote

theorem unescape_cons_of_ne {c : Char} (hc : c ≠ '\\') (rest : Text) :
    unescape (c :: rest) = c :: unescape rest := by
  rw [unescape]
  · simp [hc]
  · simp [hc]

/-- What is escaped between quotes reads back. -/
theorem unescape_flatMap_escapeInQuotes (value : Text) :
    unescape (value.flatMap escapeInQuotes) = value := by
  induction value with
  | nil => rfl
  | cons c value ih =>
    rw [List.flatMap_cons, escapeInQuotes]
    by_cases hc : c = '"' ∨ c = '\\'
    · rw [if_pos hc, List.cons_append, List.singleton_append, unescape, ih]
    · rw [if_neg hc, List.singleton_append, unescape_cons_of_ne (fun heq => hc (Or.inr heq)), ih]

/-- The value between two quotes is what stands there without its escapes. -/
theorem unquote_quoted (body : Text) : unquote ('"' :: (body ++ ['"'])) = unescape body := by
  have hlast : ('"' :: (body ++ ['"'])).getLast? = some '"' := by
    rw [← List.cons_append, List.getLast?_concat]
  rw [unquote, if_pos ⟨by simp, rfl, hlast⟩, List.tail_cons, List.dropLast_concat]

/-- A text writes a value between quotes or as it is. -/
theorem unquote_cases (text : Text) :
    (∃ body, text = '"' :: (body ++ ['"']) ∧ unquote text = unescape body) ∨
      unquote text = text := by
  by_cases h : 2 ≤ text.length ∧ text.head? = some '"' ∧ text.getLast? = some '"'
  · left
    obtain ⟨hlength, hhead, hlast⟩ := h
    obtain ⟨front, rfl⟩ := List.getLast?_eq_some_iff.1 hlast
    cases front with
    | nil => simp at hlength
    | cons c body =>
      obtain rfl : c = '"' := Option.some.inj hhead
      exact ⟨body, rfl, unquote_quoted body⟩
  · right
    rw [unquote, if_neg h]

/-- A character that is no backslash is still there when escapes are taken away. -/
theorem mem_unescape {c : Char} (hc : c ≠ '\\') {text : Text} (h : c ∈ text) :
    c ∈ unescape text := by
  fun_induction unescape text with
  | case1 => exact h
  | case2 => exact absurd (List.mem_singleton.1 h) hc
  | case3 d rest ih =>
    rcases List.mem_cons.1 ((List.mem_cons.1 h).resolve_left hc) with rfl | hrest
    · exact List.mem_cons_self
    · exact List.mem_cons_of_mem d (ih hrest)
  | case4 d rest _ _ ih =>
    rcases List.mem_cons.1 h with rfl | hrest
    · exact List.mem_cons_self
    · exact List.mem_cons_of_mem d (ih hrest)

/-- A value is written between quotes, or it is written as it is and has nothing that would need
them. -/
theorem quoteIfNeeded_cases (value : Text) :
    quoteIfNeeded value = '"' :: (value.flatMap escapeInQuotes ++ ['"']) ∨
      quoteIfNeeded value = value ∧
        ∀ c ∈ value, Text.isBlank c = false ∧ isPairEnd c = false ∧ c ≠ '"' := by
  unfold quoteIfNeeded
  by_cases h : needsQuotes value = true
  · left
    rw [if_pos h, List.cons_append]
  · right
    refine ⟨if_neg h, fun c hc => ?_⟩
    have hbare := List.any_eq_false.1 (Bool.not_eq_true _ ▸ h) c hc
    simp only [Bool.or_eq_true, not_or, Bool.not_eq_true, beq_eq_false_iff_ne] at hbare
    simp [isPairEnd, hbare]

/-- A written value reads back. -/
theorem unquote_quoteIfNeeded (value : Text) : unquote (quoteIfNeeded value) = value := by
  rcases quoteIfNeeded_cases value with h | ⟨h, hbare⟩
  · rw [h, unquote_quoted, unescape_flatMap_escapeInQuotes]
  · have hhead : value.head? ≠ some '"' := fun hhead => (hbare _ (List.mem_of_head? hhead)).2.2 rfl
    rw [h, unquote, if_neg (by simp [hhead])]

/-- A written value has no blanks around it. -/
theorem isTrimmed_quoteIfNeeded (value : Text) : (quoteIfNeeded value).IsTrimmed := by
  rcases quoteIfNeeded_cases value with h | ⟨h, hbare⟩
  · rw [h]
    apply Text.isTrimmed_of_ends
    · intro c hc
      obtain rfl : '"' = c := Option.some.inj hc
      decide
    · intro c hc
      rw [← List.cons_append, List.getLast?_concat] at hc
      obtain rfl := Option.some.inj hc
      decide
  · rw [h]
    exact Text.isTrimmed_of_not_isBlank fun c hc => (hbare c hc).1

/-! ## Values and positions -/

/-- Nothing that is escaped leaves the quotes around it. -/
theorem afterAll_inside_flatMap_escapeInQuotes (value : Text) :
    Position.inside.afterAll (value.flatMap escapeInQuotes) = .inside := by
  induction value with
  | nil => rfl
  | cons c value ih =>
    rw [List.flatMap_cons, Position.afterAll_append, escapeInQuotes]
    by_cases hc : c = '"' ∨ c = '\\'
    · simpa [hc, Position.after] using ih
    · rw [not_or] at hc
      simpa [hc, Position.after] using ih

/-- No separator stands outside quotes when a value is written between them. -/
theorem isOnePart_inside_flatMap_escapeInQuotes (isSeparator : Char → Bool) (value : Text) :
    IsOnePart isSeparator .inside (value.flatMap escapeInQuotes) := by
  induction value with
  | nil => trivial
  | cons c value ih =>
    rw [List.flatMap_cons, isOnePart_append, escapeInQuotes]
    by_cases hc : c = '"' ∨ c = '\\'
    · simpa [hc, Position.after, IsOnePart] using ih
    · rw [not_or] at hc
      simpa [hc, Position.after, IsOnePart] using ih

/-- Outside quotes, the first quote of a value opens one although it is escaped. -/
theorem afterAll_outside_flatMap_escapeInQuotes {value : Text} (h : '"' ∈ value) :
    Position.outside.afterAll (value.flatMap escapeInQuotes) = .inside := by
  induction value with
  | nil => exact absurd h List.not_mem_nil
  | cons c value ih =>
    rw [List.flatMap_cons, Position.afterAll_append, escapeInQuotes]
    by_cases hquote : c = '"'
    · simpa [hquote, Position.after] using afterAll_inside_flatMap_escapeInQuotes value
    · have hmem : '"' ∈ value := (List.mem_cons.1 h).resolve_left (Ne.symm hquote)
      by_cases hescape : c = '\\'
      · simpa [hescape, Position.after] using ih hmem
      · simpa [hquote, hescape, Position.after] using ih hmem

/-- Outside quotes, a value is cut at the separators before its first quote. -/
theorem isOnePart_outside_flatMap_escapeInQuotes_iff {value : Text} :
    IsOnePart isPairEnd .outside (value.flatMap escapeInQuotes) ↔
      ∀ c ∈ value.takeWhile (· ≠ '"'), isPairEnd c = false := by
  induction value with
  | nil => simp [IsOnePart]
  | cons c value ih =>
    rw [List.flatMap_cons, isOnePart_append, escapeInQuotes]
    by_cases hquote : c = '"'
    · have hrest := isOnePart_inside_flatMap_escapeInQuotes isPairEnd value
      simp [hquote, IsOnePart, Position.after, isPairEnd, hrest]
    · by_cases hc : c = '\\'
      · simpa [hc, IsOnePart, Position.after, isPairEnd] using ih
      · simpa [hquote, hc, IsOnePart, Position.after] using fun _ => ih

/-- Outside quotes, a written value is one part. -/
theorem isOnePart_outside_quoteIfNeeded (value : Text) :
    IsOnePart isPairEnd .outside (quoteIfNeeded value) := by
  rcases quoteIfNeeded_cases value with h | ⟨h, hbare⟩
  · have hinside := isOnePart_inside_flatMap_escapeInQuotes isPairEnd value
    simp [h, IsOnePart, isOnePart_append, Position.after, isPairEnd, hinside]
  · rw [h]
    exact isOnePart_of_forall (fun c hc => (hbare c hc).2.1) _

/-- Outside quotes, a written value closes the quote that it opens. -/
theorem afterAll_outside_quoteIfNeeded (value : Text) :
    Position.outside.afterAll (quoteIfNeeded value) = .outside := by
  rcases quoteIfNeeded_cases value with h | ⟨h, hbare⟩
  · simp [h, Position.after, afterAll_inside_flatMap_escapeInQuotes]
  · rw [h, Position.afterAll_eq_outside_iff fun hmem => (hbare _ hmem).2.2 rfl]

/-- Behind a text that leaves a quote open, a written value is one part unless a separator stands
before its first quote. -/
theorem isOnePart_inside_quoteIfNeeded_iff {value : Text} :
    IsOnePart isPairEnd .inside (quoteIfNeeded value) ↔
      ∀ c ∈ value.takeWhile (· ≠ '"'), isPairEnd c = false := by
  rcases quoteIfNeeded_cases value with h | ⟨h, hbare⟩
  · rw [h, ← isOnePart_outside_flatMap_escapeInQuotes_iff]
    simp [IsOnePart, isOnePart_append, Position.after, isPairEnd]
  · rw [h]
    refine iff_of_true (isOnePart_of_forall (fun c hc => (hbare c hc).2.1) _) fun c hc => ?_
    exact (hbare c ((List.takeWhile_prefix _).subset hc)).2.1

/-- Behind a text that leaves a quote open, a written value with a quote in it ends outside. -/
theorem afterAll_inside_quoteIfNeeded {value : Text} (hquote : '"' ∈ value) :
    Position.inside.afterAll (quoteIfNeeded value) = .outside := by
  rcases quoteIfNeeded_cases value with h | ⟨h, hbare⟩
  · simp [h, Position.after, afterAll_outside_flatMap_escapeInQuotes hquote]
  · exact absurd rfl (hbare _ hquote).2.2

end HttpConformance.Cookie
