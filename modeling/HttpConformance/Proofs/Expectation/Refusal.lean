import HttpConformance.Expectation
import HttpConformance.Flag
import HttpConformance.Proofs.ContentType

/-!
# Texts that are refused

A word that should be a flag and a text that should be a content type can be refused.  Each has one
fault that it can have, and one error that names the text at fault; all other texts are read.

Main definition: `Flag.wordsFor`.

Main results:

- `Flag.parse_eq_ok_iff`, `Flag.parse_eq_error_iff`: a flag is refused when its word is none of
  those for a truth value.
- `ContentTypeExpectation.parse_eq_ok_iff`, `ContentTypeExpectation.parse_eq_error_iff`: a content
  type is refused when its media type has no slash.
-/

namespace HttpConformance

/-! ## Flags -/

namespace Flag

/-- The words for a truth value. -/
def wordsFor : Bool → List Text
  | true => trueWords
  | false => falseWords

variable {text : Text}

/-- No word is one for both truth values. -/
theorem notMem_trueWords {word : Text} (h : word ∈ falseWords) : word ∉ trueWords := by
  have hall : ∀ word ∈ falseWords, word ∉ trueWords := by decide
  exact hall word h

/-- A text is read as a truth value exactly when its word, in lower case and without the blanks
around it, is one for that value. -/
theorem parse_eq_ok_iff {value : Bool} :
    parse text = .ok value ↔ Text.lowerAscii (Text.trim text) ∈ wordsFor value := by
  rw [parse]
  by_cases htrue : Text.lowerAscii (Text.trim text) ∈ trueWords
  · have hfalse : Text.lowerAscii (Text.trim text) ∉ falseWords :=
      fun hmem => notMem_trueWords hmem htrue
    cases value <;> simp [wordsFor, htrue, hfalse]
  · by_cases hfalse : Text.lowerAscii (Text.trim text) ∈ falseWords
    · cases value <;> simp [wordsFor, htrue, hfalse]
    · cases value <;> simp [wordsFor, htrue, hfalse]

/-- A text is refused exactly when its word is one for neither truth value, and the error names that
word. -/
theorem parse_eq_error_iff {error : Error} :
    parse text = .error error ↔
      (∀ value, Text.lowerAscii (Text.trim text) ∉ wordsFor value) ∧
        error = ⟨Text.lowerAscii (Text.trim text)⟩ := by
  rw [parse, Bool.forall_bool, wordsFor, wordsFor]
  by_cases htrue : Text.lowerAscii (Text.trim text) ∈ trueWords
  · simp [htrue]
  · by_cases hfalse : Text.lowerAscii (Text.trim text) ∈ falseWords
    · simp [htrue, hfalse]
    · simp [htrue, hfalse, eq_comm]

end Flag

/-! ## Content types -/

namespace ContentTypeExpectation

variable {text : Text}

/-- A slash is no letter in another case. -/
theorem toLower_eq_slash_iff {c : Char} : c.toLower = '/' ↔ c = '/' := by
  constructor
  · intro h
    by_cases hcapital : c.val ≥ 'A'.val ∧ c.val ≤ 'Z'.val
    · have hvalue : (c.val + ('a'.val - 'A'.val)).toNat = '/'.val.toNat :=
        congrArg Char.toNat ((dif_pos hcapital).symm.trans h)
      rw [ge_iff_le, UInt32.le_iff_toNat_le, UInt32.le_iff_toNat_le] at hcapital
      have hA : 'A'.val.toNat = 65 := rfl
      have hZ : 'Z'.val.toNat = 90 := rfl
      have hstep : ('a'.val - 'A'.val).toNat = 32 := rfl
      have hslash : '/'.val.toNat = 47 := rfl
      rw [UInt32.toNat_add, hstep, hslash] at hvalue
      omega
    · have hlower : c.toLower = c := dif_neg hcapital
      rw [← hlower, h]
  · rintro rfl
    rfl

/-- The media type has a slash exactly when there is one before the first semicolon. -/
theorem slash_mem_mediaType_iff :
    '/' ∈ ContentType.mediaType text ↔ '/' ∈ text.takeWhile (· != ';') := by
  rw [ContentType.mediaType, Text.lowerAscii, List.mem_map]
  constructor
  · rintro ⟨c, hc, hlower⟩
    rw [toLower_eq_slash_iff.1 hlower] at hc
    exact Text.mem_of_mem_trim hc
  · intro h
    exact ⟨'/', Text.mem_trim_of_not_isBlank (by decide) h, rfl⟩

/-- A text is read as the expectation of its media type and its charset exactly when there is a
slash before its first semicolon. -/
theorem parse_eq_ok_iff {expectation : ContentTypeExpectation} :
    parse text = .ok expectation ↔
      '/' ∈ text.takeWhile (· != ';') ∧
        expectation = .mediaType (ContentType.mediaType text) (ContentType.charset? text) := by
  rw [parse, ← slash_mem_mediaType_iff]
  split
  · rename_i hslash
    simp [hslash, eq_comm]
  · rename_i hslash
    simp [hslash]

/-- A text is refused exactly when there is no slash before its first semicolon, and the error names
the whole text. -/
theorem parse_eq_error_iff {error : Error} :
    parse text = .error error ↔ '/' ∉ text.takeWhile (· != ';') ∧ error = ⟨text⟩ := by
  rw [parse, ← slash_mem_mediaType_iff]
  split
  · rename_i hslash
    simp [hslash]
  · rename_i hslash
    simp [hslash, eq_comm]

end ContentTypeExpectation

end HttpConformance
