import HttpConformance.Proofs.Check.Evaluate
import HttpConformance.Proofs.Text.Lowercase

/-!
# Matching a field by a part of its value

In substring mode the value of a field and the expected text are put in lower case one by one, and a
sigma of the expected text may come out differently there and within the value.  A field whose value
contains the expected text is found for every value exactly when no sigma of that text depends on
what stands around it; a field that matches exactly is always found, since there are only blanks
around the text.

Main result: `headerMatches_substring_iff`.
-/

namespace HttpConformance

theorem headerMatches_some_iff {mode : MatchMode} {name expected : Text} {field : HeaderField} :
    headerMatches mode name (some expected) field = true ↔
      field.isNamed (Text.trim name) = true ∧ mode.Accepts field.value expected := by
  rw [headerMatches, Bool.and_eq_true, Option.all_some, valueMatches_iff]

/-- An expected text is found in every field of its name whose value contains it exactly when its
sigmas are settled.  It is found where its sigmas are as final as they are alone, and so it is found
in every field that matches exactly. -/
theorem headerMatches_substring_iff (name expected : Text) :
    ((∀ field : HeaderField, field.isNamed (Text.trim name) = true →
        Text.trim expected <:+: field.value →
          headerMatches .substring name (some expected) field = true) ↔
      Text.SigmasSettled (Text.trim expected)) ∧
    (∀ (field : HeaderField) (front rest : Text), field.isNamed (Text.trim name) = true →
      field.value = front ++ Text.trim expected ++ rest →
      (∀ before after, Text.trim expected = before ++ 'Σ' :: after →
        Text.isFinalSigma (before.reverse ++ front.reverse) (after ++ rest) =
          Text.isFinalSigma before.reverse after) →
      headerMatches .substring name (some expected) field = true) ∧
    ∀ field, headerMatches .exact name (some expected) field = true →
      headerMatches .substring name (some expected) field = true := by
  simp only [headerMatches_some_iff]
  refine ⟨?_, ?_, ?_⟩
  · rw [Text.sigmasSettled_iff]
    constructor
    · intro h whole hwhole
      exact (h ⟨Text.trim name, whole⟩ (beq_self_eq_true _) hwhole).2
    · intro h field hnamed hwithin
      exact ⟨hnamed, h field.value hwithin⟩
  · intro field front rest hnamed hvalue hfinal
    refine ⟨hnamed, ?_⟩
    rw [MatchMode.Accepts, hvalue]
    refine Text.infix_lowercase_append (Text.lowercaseWithin_eq_lowercase ?_)
    intro before after heq
    exact hfinal before after heq
  · rintro field ⟨hnamed, hexact⟩
    refine ⟨hnamed, ?_⟩
    have hoccurs := Text.infix_lowercase_of_trim field.value
    rw [hexact] at hoccurs
    exact hoccurs

/-- A value that contains the expected text need not match it: the sigma at the end of `ΑΣ` is
final, and in `ΑΣΑ` it is not. -/
theorem not_headerMatches_substring :
    ¬ ∀ (name expected : Text) (field : HeaderField), field.isNamed (Text.trim name) = true →
      Text.trim expected <:+: field.value →
        headerMatches .substring name (some expected) field = true := by
  intro h
  have hmatch := h "X-Name".toList "ΑΣ".toList ⟨"X-Name".toList, "ΑΣΑ".toList⟩ (by decide +kernel)
    (by decide +kernel)
  revert hmatch
  decide +kernel

end HttpConformance
