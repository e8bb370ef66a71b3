import HttpConformance.Text.Lowercase
import HttpConformance.Proofs.Text.Trim
import Mathlib.Data.List.TakeWhile

/-!
# The lower case of a part of a text

Only one character looks at its neighbours when a text is put in lower case: a sigma is final when a
cased character precedes it and none follows.  So a part of a text is written as it would be alone,
except that a sigma near its ends may change between `σ` and `ς`.  Whether it can change, whatever
stands around the part, is told by the part itself.

Main definitions: `Text.lowercaseWithin`, `Text.SigmasRelated`, `Text.SigmasSettled`.

Main results:

- `Text.lowercase_append_append`: the lower case of a part, within the lower case of the whole.
- `Text.lowercaseWithin_congr`: it depends on its surroundings through its final sigmas only.
- `Text.lowercaseWithin_of_sigmasSettled`: a settled part is written as it is alone.
- `Text.sigmasSettled_iff`: only settled texts have their lower case within that of every longer
  text.
- `Text.infix_lowercase_of_trim`: blanks around a text make no difference.
-/

namespace HttpConformance.Text

/-! ## Cased neighbours -/

section Neighbours

variable {front rest : Text}

theorem goesOnCased_of_all (h : front.all caseIgnorable.contains = true) :
    goesOnCased front = false := by
  have hnil : front.dropWhile caseIgnorable.contains = [] :=
    List.dropWhile_eq_nil_iff.2 (List.all_eq_true.1 h)
  rw [goesOnCased, hnil]
  rfl

/-- Case-ignorable characters are passed over. -/
theorem goesOnCased_append_of_all (h : front.all caseIgnorable.contains = true) (rest : Text) :
    goesOnCased (front ++ rest) = goesOnCased rest := by
  rw [goesOnCased, List.dropWhile_append_of_pos (List.all_eq_true.1 h), ← goesOnCased]

/-- Nothing counts behind a character that is not case-ignorable. -/
theorem goesOnCased_append_of_not_all (h : front.all caseIgnorable.contains = false)
    (rest : Text) : goesOnCased (front ++ rest) = goesOnCased front := by
  have hne : front.dropWhile caseIgnorable.contains ≠ [] := by
    intro hnil
    rw [List.all_eq_true.2 (List.dropWhile_eq_nil_iff.1 hnil)] at h
    cases h
  obtain ⟨c, tail, htail⟩ := List.exists_cons_of_ne_nil hne
  rw [goesOnCased, goesOnCased, List.dropWhile_append, if_neg (by simpa using hne), htail]
  rfl

/-- A cased neighbour stays one, whatever comes behind it. -/
theorem goesOnCased_append_of_true (h : goesOnCased front = true) (rest : Text) :
    goesOnCased (front ++ rest) = true := by
  cases hall : front.all caseIgnorable.contains with
  | true =>
    rw [goesOnCased_of_all hall] at h
    cases h
  | false => rw [goesOnCased_append_of_not_all hall, h]

/-- A text that does not go on with a cased character makes no difference. -/
theorem goesOnCased_append_of_false (front : Text) (h : goesOnCased rest = false) :
    goesOnCased (front ++ rest) = goesOnCased front := by
  cases hall : front.all caseIgnorable.contains with
  | true => rw [goesOnCased_append_of_all hall, h, goesOnCased_of_all hall]
  | false => exact goesOnCased_append_of_not_all hall rest

end Neighbours

/-- A sigma with these texts before it, last character first, and after it is final. -/
def isFinalSigma (before after : Text) : Bool :=
  goesOnCased before && !goesOnCased after

/-- The two lower-case forms of a sigma. -/
def sigmaForm (final : Bool) : Char :=
  if final then 'ς' else 'σ'

/-! ## A part and its surroundings -/

/-- The lower-case form of a text with `before` in front of it, last character first, and `after`
behind it. -/
def lowercaseWithin (before after : Text) : Text → Text
  | [] => []
  | c :: rest =>
    (if c = 'Σ' then [sigmaForm (isFinalSigma before (rest ++ after))] else lowerChar c) ++
      lowercaseWithin (c :: before) after rest

variable {before after before' after' text : Text}

/-- Lowering a text behind another one is lowering it between that one and nothing. -/
theorem lowercaseAfter_eq_lowercaseWithin (before text : Text) :
    lowercaseAfter before text = lowercaseWithin before [] text := by
  induction text generalizing before with
  | nil => rfl
  | cons c rest ih =>
    rw [lowercaseAfter, lowercaseWithin, ih, List.append_nil]
    rfl

theorem lowercase_eq_lowercaseWithin (text : Text) : lowercase text = lowercaseWithin [] [] text :=
  lowercaseAfter_eq_lowercaseWithin [] text

/-- A text in two parts is lowered part by part, each with the other one beside it. -/
theorem lowercaseWithin_append (before after front rest : Text) :
    lowercaseWithin before after (front ++ rest) =
      lowercaseWithin before (rest ++ after) front ++
        lowercaseWithin (front.reverse ++ before) after rest := by
  induction front generalizing before with
  | nil => rfl
  | cons c front ih =>
    rw [List.cons_append, lowercaseWithin, lowercaseWithin, ih, List.reverse_cons,
      List.append_assoc front, List.append_assoc, List.append_assoc, List.singleton_append]

/-- The lower case of a whole is that of its part, between what it makes of the rest. -/
theorem lowercase_append_append (front text rest : Text) :
    lowercase (front ++ text ++ rest) =
      lowercaseWithin [] (text ++ rest) front ++ lowercaseWithin front.reverse rest text ++
        lowercaseWithin (text.reverse ++ front.reverse) [] rest := by
  rw [lowercase_eq_lowercaseWithin, lowercaseWithin_append, lowercaseWithin_append,
    List.reverse_append]
  simp only [List.append_nil]

/-! ## The sigmas of a text -/

/-- Whether they are final in one place and in another is so related for all sigmas of a text. -/
def SigmasRelated (R : Bool → Bool → Prop) (before after before' after' text : Text) : Prop :=
  ∀ front rest, text = front ++ 'Σ' :: rest →
    R (isFinalSigma (front.reverse ++ before) (rest ++ after))
      (isFinalSigma (front.reverse ++ before') (rest ++ after'))

namespace SigmasRelated

variable {R : Bool → Bool → Prop} {front rest : Text}

/-- Sigmas that are related stay so in the first part of a text. -/
theorem ahead (h : SigmasRelated R before after before' after' (front ++ rest)) :
    SigmasRelated R before (rest ++ after) before' (rest ++ after') front := by
  intro first tail heq
  have hsplit := h first (tail ++ rest) (by rw [heq, List.append_assoc, List.cons_append])
  rwa [List.append_assoc, List.append_assoc] at hsplit

/-- Sigmas that are related stay so in the second part of a text. -/
theorem behind (h : SigmasRelated R before after before' after' (front ++ rest)) :
    SigmasRelated R (front.reverse ++ before) after (front.reverse ++ before') after' rest := by
  intro first tail heq
  have hsplit := h (front ++ first) tail (by rw [heq, List.append_assoc])
  rwa [List.reverse_append, List.append_assoc, List.append_assoc] at hsplit

theorem tail {c : Char} (h : SigmasRelated R before after before' after' (c :: rest)) :
    SigmasRelated R (c :: before) after (c :: before') after' rest := by
  have hparts : SigmasRelated R before after before' after' ([c] ++ rest) := h
  exact hparts.behind

theorem head (h : SigmasRelated R before after before' after' ('Σ' :: rest)) :
    R (isFinalSigma before (rest ++ after)) (isFinalSigma before' (rest ++ after')) :=
  h [] rest rfl

end SigmasRelated

/-- The surroundings of a text count only for its sigmas. -/
theorem lowercaseWithin_congr (h : SigmasRelated (· = ·) before after before' after' text) :
    lowercaseWithin before after text = lowercaseWithin before' after' text := by
  induction text generalizing before before' with
  | nil => rfl
  | cons c rest ih =>
    rw [lowercaseWithin, lowercaseWithin, ih h.tail]
    by_cases hc : c = 'Σ'
    · subst hc
      rw [h.head]
    · rw [if_neg hc, if_neg hc]

/-- A text whose sigmas are as final as they are alone is written as it is alone. -/
theorem lowercaseWithin_eq_lowercase
    (h : ∀ front rest, text = front ++ 'Σ' :: rest →
      isFinalSigma (front.reverse ++ before) (rest ++ after) = isFinalSigma front.reverse rest) :
    lowercaseWithin before after text = lowercase text := by
  rw [lowercase_eq_lowercaseWithin]
  refine lowercaseWithin_congr fun front rest heq => ?_
  rw [List.append_nil, List.append_nil, h front rest heq]

/-! ## Counting sigmas -/

/-- However a text is surrounded, its sigmas are written as one or the other form. -/
theorem count_add_count_lowercaseWithin (before after before' after' text : Text) :
    (lowercaseWithin before after text).count 'σ' + (lowercaseWithin before after text).count 'ς' =
      (lowercaseWithin before' after' text).count 'σ' +
        (lowercaseWithin before' after' text).count 'ς' := by
  induction text generalizing before before' with
  | nil => rfl
  | cons c rest ih =>
    have hrest := ih (c :: before) (c :: before')
    have hsigma (final : Bool) : [sigmaForm final].count 'σ' + [sigmaForm final].count 'ς' = 1 := by
      cases final <;> rfl
    rw [lowercaseWithin, lowercaseWithin]
    simp only [List.count_append]
    by_cases hc : c = 'Σ'
    · have hfirst := hsigma (isFinalSigma before (rest ++ after))
      have hsecond := hsigma (isFinalSigma before' (rest ++ after'))
      rw [if_pos hc, if_pos hc]
      omega
    · rw [if_neg hc, if_neg hc]
      omega

/-- More final sigmas make more final forms. -/
theorem count_lowercaseWithin_le (h : SigmasRelated (· ≤ ·) before after before' after' text) :
    (lowercaseWithin before after text).count 'ς' ≤
      (lowercaseWithin before' after' text).count 'ς' := by
  induction text generalizing before before' with
  | nil => exact Nat.le_refl 0
  | cons c rest ih =>
    rw [lowercaseWithin, lowercaseWithin, List.count_append, List.count_append]
    refine Nat.add_le_add ?_ (ih h.tail)
    by_cases hc : c = 'Σ'
    · subst hc
      rw [if_pos rfl, if_pos rfl]
      have hfirst := h.head
      cases hfinal : isFinalSigma before (rest ++ after) with
      | false => exact Nat.zero_le _
      | true => rw [hfirst hfinal]
    · rw [if_neg hc, if_neg hc]

/-- A sigma that becomes final is one more final form. -/
theorem count_lowercaseWithin_lt {front rest : Text}
    (h : SigmasRelated (· ≤ ·) before after before' after' (front ++ 'Σ' :: rest))
    (hfalse : isFinalSigma (front.reverse ++ before) (rest ++ after) = false)
    (htrue : isFinalSigma (front.reverse ++ before') (rest ++ after') = true) :
    (lowercaseWithin before after (front ++ 'Σ' :: rest)).count 'ς' <
      (lowercaseWithin before' after' (front ++ 'Σ' :: rest)).count 'ς' := by
  have hfront := count_lowercaseWithin_le h.ahead
  have hrest := count_lowercaseWithin_le h.behind.tail
  have hone : [sigmaForm true].count 'ς' = 1 := rfl
  have hzero : [sigmaForm false].count 'ς' = 0 := rfl
  rw [lowercaseWithin_append, lowercaseWithin_append, lowercaseWithin, lowercaseWithin, if_pos rfl,
    if_pos rfl, hfalse, htrue]
  simp only [List.count_append, hone, hzero]
  omega

/-! ## Settled sigmas -/

/-- No surroundings change a sigma of the text.  Either a cased character follows it, or there is a
character before it that is not case-ignorable, and the one next to it is not cased or there is one
behind it as well. -/
def SigmasSettled (text : Text) : Prop :=
  ∀ front rest, text = front ++ 'Σ' :: rest →
    goesOnCased rest = true ∨
      front.all caseIgnorable.contains = false ∧
        (goesOnCased front.reverse = false ∨ rest.all caseIgnorable.contains = false)

theorem sigmasSettled_of_notMem (h : 'Σ' ∉ text) : SigmasSettled text := by
  rintro front rest rfl
  exact absurd (List.mem_append_right front List.mem_cons_self) h

/-- A settled text is written as it is alone, whatever stands around it. -/
theorem lowercaseWithin_of_sigmasSettled (h : SigmasSettled text) (before after : Text) :
    lowercaseWithin before after text = lowercase text := by
  refine lowercaseWithin_eq_lowercase fun front rest heq => ?_
  rw [isFinalSigma, isFinalSigma]
  rcases h front rest heq with hcased | ⟨hfront, hrest⟩
  · rw [goesOnCased_append_of_true hcased, hcased, Bool.not_true, Bool.and_false, Bool.and_false]
  · have hreverse : front.reverse.all caseIgnorable.contains = false := by
      rwa [List.all_reverse]
    rw [goesOnCased_append_of_not_all hreverse]
    rcases hrest with hlast | hrest
    · rw [hlast, Bool.false_and, Bool.false_and]
    · rw [goesOnCased_append_of_not_all hrest]

/-- The lower case of a text is within that of a whole in which it is written as it is alone. -/
theorem infix_lowercase_append {front rest : Text}
    (h : lowercaseWithin front.reverse rest text = lowercase text) :
    lowercase text <:+: lowercase (front ++ text ++ rest) := by
  rw [lowercase_append_append, h]
  exact ⟨_, _, rfl⟩

/-- A text whose sigmas are settled occurs in lower case wherever it occurs. -/
theorem SigmasSettled.infix_lowercase (h : SigmasSettled text) {whole : Text}
    (hwhole : text <:+: whole) : lowercase text <:+: lowercase whole := by
  obtain ⟨front, rest, rfl⟩ := hwhole
  exact infix_lowercase_append (lowercaseWithin_of_sigmasSettled h _ _)

/-- A letter in front of a text that begins with a sigma, or with case-ignorable characters and a
sigma, makes this sigma final. -/
theorem not_infix_lowercase_cons {front rest : Text} (htext : text = front ++ 'Σ' :: rest)
    (hfront : front.all caseIgnorable.contains = true) (hrest : goesOnCased rest = false) :
    ¬ lowercase text <:+: lowercase ('a' :: text) := by
  intro hoccurs
  have hreverse : front.reverse.all caseIgnorable.contains = true := by
    rwa [List.all_reverse]
  have hletter : goesOnCased ['a'] = true := by decide +kernel
  have hwhole : lowercase ('a' :: text) = 'a' :: lowercaseWithin ['a'] [] text := by
    have hparts := lowercase_append_append ['a'] text []
    rw [List.append_nil, List.append_nil] at hparts
    exact hparts.trans (List.append_nil _)
  have hrelated : SigmasRelated (· ≤ ·) [] [] ['a'] [] text := by
    intro first tail _ hfinal
    rw [isFinalSigma, List.append_nil, Bool.and_eq_true] at hfinal
    rw [isFinalSigma, goesOnCased_append_of_true hfinal.1, hfinal.2]
    rfl
  have hfalse : isFinalSigma (front.reverse ++ []) (rest ++ []) = false := by
    rw [isFinalSigma, List.append_nil, goesOnCased_of_all hreverse, Bool.false_and]
  have htrue : isFinalSigma (front.reverse ++ ['a']) (rest ++ []) = true := by
    rw [isFinalSigma, goesOnCased_append_of_all hreverse, hletter, List.append_nil, hrest]
    rfl
  subst htext
  have hmore := count_lowercaseWithin_lt hrelated hfalse htrue
  have hsame := count_add_count_lowercaseWithin [] [] ['a'] [] (front ++ 'Σ' :: rest)
  have hle := hoccurs.sublist.count_le 'σ'
  rw [lowercase_eq_lowercaseWithin, hwhole, List.count_cons_of_ne (by decide)] at hle
  omega

/-- A letter behind a text that ends with a final sigma, perhaps with case-ignorable characters
after it, makes this sigma one that is not final. -/
theorem not_infix_lowercase_concat {front rest : Text} (htext : text = front ++ 'Σ' :: rest)
    (hfront : goesOnCased front.reverse = true)
    (hrest : rest.all caseIgnorable.contains = true) :
    ¬ lowercase text <:+: lowercase (text ++ ['a']) := by
  intro hoccurs
  have hletter : goesOnCased ['a'] = true := by decide +kernel
  have hwhole : lowercase (text ++ ['a']) = lowercaseWithin [] ['a'] text ++ ['a'] :=
    lowercase_append_append [] text ['a']
  have hrelated : SigmasRelated (· ≤ ·) [] ['a'] [] [] text := by
    intro first tail _ hfinal
    rw [isFinalSigma, Bool.and_eq_true, Bool.not_eq_true'] at hfinal
    rw [isFinalSigma, hfinal.1, List.append_nil]
    cases hcased : goesOnCased tail with
    | false => rfl
    | true =>
      rw [goesOnCased_append_of_true hcased] at hfinal
      cases hfinal.2
  have hfalse : isFinalSigma (front.reverse ++ []) (rest ++ ['a']) = false := by
    rw [isFinalSigma, goesOnCased_append_of_all hrest, hletter, Bool.not_true, Bool.and_false]
  have htrue : isFinalSigma (front.reverse ++ []) (rest ++ []) = true := by
    rw [isFinalSigma, List.append_nil, List.append_nil, hfront, goesOnCased_of_all hrest]
    rfl
  subst htext
  have hfewer := count_lowercaseWithin_lt hrelated hfalse htrue
  have hle := hoccurs.sublist.count_le 'ς'
  have hnone : ['a'].count 'ς' = 0 := by decide
  rw [lowercase_eq_lowercaseWithin, hwhole, List.count_append] at hle
  omega

/-- The texts whose lower case is within the lower case of everything they are within. -/
theorem sigmasSettled_iff :
    SigmasSettled text ↔ ∀ whole, text <:+: whole → lowercase text <:+: lowercase whole := by
  constructor
  · intro h whole hwhole
    exact h.infix_lowercase hwhole
  · intro h front rest htext
    have hcons := h ('a' :: text) (List.suffix_cons 'a' text).isInfix
    have hconcat := h (text ++ ['a']) (List.prefix_append text ['a']).isInfix
    cases hcased : goesOnCased rest with
    | true => exact Or.inl rfl
    | false =>
      refine Or.inr ⟨?_, ?_⟩
      · rw [← Bool.not_eq_true]
        exact fun hall => not_infix_lowercase_cons htext hall hcased hcons
      · rw [← Bool.not_eq_true, ← Bool.not_eq_true, ← not_and_or]
        exact fun hall => not_infix_lowercase_concat htext hall.1 hall.2 hconcat

/-! ## Blanks around a text -/

/-- A blank is neither passed over in looking for a cased character nor one itself. -/
theorem not_caseIgnorable_of_isBlank {c : Char} (h : isBlank c = true) :
    caseIgnorable.contains c = false ∧ cased.contains c = false := by
  have hall : ∀ n ∈ blankCodes, caseIgnorable.contains (Char.ofNat n) = false ∧
      cased.contains (Char.ofNat n) = false := by decide +kernel
  have hc := hall c.toNat (toNat_mem_blankCodes h)
  rwa [Char.ofNat_toNat] at hc

/-- Where there are nothing but blanks, no letter goes on. -/
theorem goesOnCased_of_isBlank {blanks : Text} (h : ∀ c ∈ blanks, isBlank c = true) :
    goesOnCased blanks = false := by
  cases blanks with
  | nil => rfl
  | cons c blanks =>
    obtain ⟨hignorable, hcased⟩ := not_caseIgnorable_of_isBlank (h c List.mem_cons_self)
    rw [goesOnCased, List.dropWhile_cons_of_neg (by rw [hignorable]; decide)]
    exact hcased

/-- A text is written among blanks as it is alone. -/
theorem lowercaseWithin_of_isBlank {before after : Text} (hbefore : ∀ c ∈ before, isBlank c = true)
    (hafter : ∀ c ∈ after, isBlank c = true) (text : Text) :
    lowercaseWithin before after text = lowercase text := by
  refine lowercaseWithin_eq_lowercase fun front rest _ => ?_
  rw [isFinalSigma, isFinalSigma,
    goesOnCased_append_of_false front.reverse (goesOnCased_of_isBlank hbefore),
    goesOnCased_append_of_false rest (goesOnCased_of_isBlank hafter)]

/-- The lower case of a text is within that of the text with blanks around it. -/
theorem infix_lowercase_of_trim (text : Text) : lowercase (trim text) <:+: lowercase text := by
  obtain ⟨before, after, hbefore, hafter, htext⟩ := exists_eq_append_trim text
  have hreverse : ∀ c ∈ before.reverse, isBlank c = true := fun c hc =>
    hbefore c (List.mem_reverse.1 hc)
  have hoccurs := infix_lowercase_append (lowercaseWithin_of_isBlank hreverse hafter (trim text))
  rwa [List.append_assoc, ← htext] at hoccurs

end HttpConformance.Text
