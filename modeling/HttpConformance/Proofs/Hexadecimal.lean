import HttpConformance.Proofs.Decimal
import Mathlib.Data.List.Forall2
import Mathlib.Data.Nat.Digits.Defs

/-!
# Hexadecimal numerals

The numerals of base sixteen, described apart from the reader of
`HttpConformance.Numeral`: an optional plus sign and at least one digit, of which the first counts
most.

Main definition: `Numeral.IsHexNumeral`.

Main results:

- `Numeral.readHex?_eq_some_iff`: the reader takes the numerals below its bound and no other text.
- `Numeral.isHexNumeral_toDigits`: the digits of a number are a numeral of it.
-/

namespace HttpConformance.Numeral

/-! ## Digits -/

/-- A digit of base sixteen, in either letter case, and its value. -/
def IsHexDigit (c : Char) (value : Nat) : Prop :=
  value < 16 ∧ c.toLower = value.digitChar

/-- A numeral of base sixteen and its value. -/
def IsHexNumeral (text : Text) (n : Nat) : Prop :=
  ∃ digits values, (text = digits ∨ text = '+' :: digits) ∧ digits ≠ [] ∧
    List.Forall₂ IsHexDigit digits values ∧ n = Nat.ofDigits 16 values.reverse

/-- Among the characters of ASCII, the reader knows the digits and no other character. -/
theorem hexDigit?_ofNat : ∀ k < 128, ∀ value < 16,
    hexDigit? (Char.ofNat k) = some value ↔ (Char.ofNat k).toLower = value.digitChar := by
  decide +kernel

theorem bounds_of_hexDigit? {c : Char} {value : Nat} (h : hexDigit? c = some value) :
    c.toNat < 128 ∧ value < 16 := by
  simp only [hexDigit?, Char.isDigit, Char.le_def, UInt32.le_iff_toNat_le, Bool.and_eq_true,
    decide_eq_true_eq, ge_iff_le] at h
  simp only [Char.toNat] at h ⊢
  have h0 : '0'.val.toNat = 48 := rfl
  have h9 : '9'.val.toNat = 57 := rfl
  have ha : 'a'.val.toNat = 97 := rfl
  have hf : 'f'.val.toNat = 102 := rfl
  have hA : 'A'.val.toNat = 65 := rfl
  have hF : 'F'.val.toNat = 70 := rfl
  split_ifs at h <;> simp only [Option.some.injEq] at h <;> omega

theorem toNat_lt_of_toLower_eq_digitChar {c : Char} {value : Nat} (hvalue : value < 16)
    (h : c.toLower = value.digitChar) : c.toNat < 128 := by
  by_contra hlarge
  have hZ : 'Z'.val.toNat = 90 := rfl
  have hcapital : ¬ (c.val ≥ 'A'.val ∧ c.val ≤ 'Z'.val) := by
    simp only [UInt32.le_iff_toNat_le, ge_iff_le, not_and, Char.toNat] at hlarge ⊢
    omega
  have hlower : c.toLower = c := dif_neg hcapital
  have hdigit : ∀ value < 16, (Nat.digitChar value).toNat < 128 := by decide
  have := hdigit value hvalue
  rw [← h, hlower] at this
  exact hlarge this

/-- A character is read as a hexadecimal digit exactly when it is one, in either case. -/
theorem hexDigit?_eq_some_iff {c : Char} {value : Nat} :
    hexDigit? c = some value ↔ IsHexDigit c value := by
  constructor
  · intro h
    obtain ⟨hc, hvalue⟩ := bounds_of_hexDigit? h
    refine ⟨hvalue, ?_⟩
    rw [← Char.ofNat_toNat c] at h ⊢
    exact (hexDigit?_ofNat _ hc _ hvalue).1 h
  · rintro ⟨hvalue, h⟩
    have hc := toNat_lt_of_toLower_eq_digitChar hvalue h
    rw [← Char.ofNat_toNat c] at h ⊢
    exact (hexDigit?_ofNat _ hc _ hvalue).2 h

/-! ## Numerals -/

/-- Reading digits after others of value `n` goes on from that value, digit by digit. -/
theorem hexValue?_eq_some_iff {n m : Nat} {text : Text} :
    hexValue? n text = some m ↔
      ∃ values, List.Forall₂ IsHexDigit text values ∧ m = values.foldl (16 * · + ·) n := by
  induction text generalizing n with
  | nil =>
    constructor
    · intro h
      exact ⟨[], .nil, (Option.some.inj h).symm⟩
    · rintro ⟨values, hvalues, hm⟩
      cases hvalues
      exact congrArg some hm.symm
  | cons c text ih =>
    rw [hexValue?, Option.bind_eq_some_iff]
    constructor
    · rintro ⟨value, hvalue, hrest⟩
      obtain ⟨values, hvalues, hm⟩ := ih.1 hrest
      exact ⟨value :: values, .cons (hexDigit?_eq_some_iff.1 hvalue) hvalues, hm⟩
    · rintro ⟨values, hvalues, hm⟩
      cases hvalues with
      | cons hvalue hvalues =>
        exact ⟨_, hexDigit?_eq_some_iff.2 hvalue, ih.2 ⟨_, hvalues, hm⟩⟩

/-- Digits that are read from the left are those of a number written from the right. -/
theorem foldl_eq_ofDigits_reverse (values : List Nat) :
    values.foldl (16 * · + ·) 0 = Nat.ofDigits 16 values.reverse := by
  rw [Nat.ofDigits_eq_foldr, List.foldr_reverse]
  simp [Nat.add_comm]

/-- A plus sign is dropped, and no digit is taken for one. -/
theorem digits_of_splitSign {text digits : Text} {values : List Nat}
    (h : text = digits ∨ text = '+' :: digits) (hvalues : List.Forall₂ IsHexDigit digits values) :
    (splitSign false text).2 = digits := by
  rcases h with rfl | rfl
  · unfold splitSign
    split
    · rename_i digits
      cases hvalues with
      | cons hplus _ =>
        have hnone : hexDigit? '+' = none := by decide
        rw [hexDigit?_eq_some_iff.2 hplus] at hnone
        exact absurd hnone (by simp)
    · rfl
    · rfl
  · rfl

/-- The reader takes the numerals below its bound and no other text. -/
theorem readHex?_eq_some_iff {bound n : Nat} {text : Text} :
    readHex? bound text = some n ↔ IsHexNumeral text n ∧ n < bound := by
  constructor
  · intro h
    simp only [readHex?] at h
    split at h
    · exact absurd h (by simp)
    · rename_i hne
      obtain ⟨hvalue, hbound⟩ := Option.filter_eq_some_iff.1 h
      obtain ⟨values, hvalues, hn⟩ := hexValue?_eq_some_iff.1 hvalue
      rw [foldl_eq_ofDigits_reverse] at hn
      refine ⟨⟨_, values, eq_or_eq_cons_splitSign text, hne, hvalues, hn⟩, ?_⟩
      simpa using hbound
  · rintro ⟨⟨digits, values, htext, hne, hvalues, hn⟩, hbound⟩
    have hdigits := digits_of_splitSign htext hvalues
    rw [← foldl_eq_ofDigits_reverse] at hn
    have hvalue : hexValue? 0 digits = some n := hexValue?_eq_some_iff.2 ⟨values, hvalues, hn⟩
    simp only [readHex?, hdigits, hne, if_false, hvalue, Option.filter_some, hbound,
      decide_true, if_true]

/-! ## The digits of a number -/

theorem isHexDigit_digitChar {value : Nat} (h : value < 16) : IsHexDigit value.digitChar value := by
  have hlower : ∀ value < 16, (Nat.digitChar value).toLower = Nat.digitChar value := by decide
  exact ⟨h, hlower value h⟩

/-- The digits of a number, the first one counting most, and their values. -/
theorem exists_values_toDigits (n : Nat) :
    ∃ values, List.Forall₂ IsHexDigit (Nat.toDigits 16 n) values ∧
      n = Nat.ofDigits 16 values.reverse := by
  induction n using Nat.strong_induction_on with
  | _ n ih =>
    by_cases hn : n < 16
    · refine ⟨[n], ?_, by simp⟩
      rw [Nat.toDigits_of_lt_base hn]
      exact .cons (isHexDigit_digitChar hn) .nil
    · obtain ⟨values, hvalues, hvalue⟩ := ih (n / 16) (by omega)
      refine ⟨values ++ [n % 16], ?_, ?_⟩
      · rw [Nat.toDigits_of_base_le (by decide) (by omega)]
        exact List.rel_append hvalues (.cons (isHexDigit_digitChar (by omega)) .nil)
      · rw [List.reverse_append, List.reverse_singleton, List.singleton_append, Nat.ofDigits_cons,
          ← hvalue]
        exact (Nat.mod_add_div n 16).symm

/-- The digits of a number are a numeral of it. -/
theorem isHexNumeral_toDigits (n : Nat) : IsHexNumeral (Nat.toDigits 16 n) n := by
  obtain ⟨values, hvalues, hn⟩ := exists_values_toDigits n
  exact ⟨Nat.toDigits 16 n, values, Or.inl rfl, Nat.toDigits_ne_nil, hvalues, hn⟩

/-- A digit of base sixteen is no blank and no semicolon. -/
theorem IsHexDigit.not_isBlank {c : Char} {value : Nat} (h : IsHexDigit c value) :
    Text.isBlank c = false ∧ c ≠ ';' := by
  have hall : ∀ k < 128, ∀ value < 16, (Char.ofNat k).toLower = value.digitChar →
      Text.isBlank (Char.ofNat k) = false ∧ Char.ofNat k ≠ ';' := by
    decide +kernel
  obtain ⟨hvalue, hdigit⟩ := h
  have hc := toNat_lt_of_toLower_eq_digitChar hvalue hdigit
  rw [← Char.ofNat_toNat c] at hdigit ⊢
  exact hall _ hc _ hvalue hdigit

theorem exists_isHexDigit_of_mem {text : Text} {values : List Nat}
    (h : List.Forall₂ IsHexDigit text values) {c : Char} (hc : c ∈ text) :
    ∃ value, IsHexDigit c value := by
  induction h with
  | nil => cases hc
  | cons hdigit _ ih =>
    rcases List.mem_cons.1 hc with rfl | hmem
    · exact ⟨_, hdigit⟩
    · exact ih hmem

/-- The digits of a number are no blanks and no semicolons. -/
theorem not_isBlank_of_mem_toDigits {n : Nat} {c : Char} (h : c ∈ Nat.toDigits 16 n) :
    Text.isBlank c = false ∧ c ≠ ';' := by
  obtain ⟨values, hvalues, -⟩ := exists_values_toDigits n
  obtain ⟨value, hvalue⟩ := exists_isHexDigit_of_mem hvalues h
  exact hvalue.not_isBlank

end HttpConformance.Numeral
