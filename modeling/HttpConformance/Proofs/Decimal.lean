import HttpConformance.Numeral
import HttpConformance.Proofs.Text.Trim
import Mathlib.Data.List.TakeWhile

/-!
# Decimal numerals

A number is read back from every decimal numeral of it, leading zeros included.

Main definition: `Numeral.IsDecimal`.

Main results:

- `Numeral.isDecimal_write`: the digits of a number are a numeral of it.
- `Numeral.readNat?_eq_some_iff`: the reader takes the numerals up to its bound and no other text.
- `Numeral.readPort?_eq_some_iff`: the texts from which a port is read.
-/

namespace HttpConformance.Numeral

/-- A numeral of base ten without a sign, and its value. -/
structure IsDecimal (text : Text) (n : Nat) : Prop where
  ne_nil : text ≠ []
  digits : ∀ c ∈ text, c.isDigit = true
  value : Nat.ofDigitChars 10 text 0 = n

instance (text : Text) (n : Nat) : Decidable (IsDecimal text n) :=
  decidable_of_iff (text ≠ [] ∧ text.all Char.isDigit = true ∧ Nat.ofDigitChars 10 text 0 = n)
    ⟨fun h => ⟨h.1, List.all_eq_true.1 h.2.1, h.2.2⟩,
      fun h => ⟨h.ne_nil, List.all_eq_true.2 h.digits, h.value⟩⟩

/-- The digits of a number are a numeral of it. -/
theorem isDecimal_write (n : Nat) : IsDecimal (write n) n where
  ne_nil := Nat.toDigits_ne_nil
  digits := fun _ hc => Nat.isDigit_of_mem_toDigits (by decide) (by decide) hc
  value := Nat.ofDigitChars_toDigits (by decide) (by decide)

/-! ## Signs -/

/-- Without negative numbers, no minus sign is read. -/
theorem splitSign_fst (text : Text) : (splitSign false text).1 = false := by
  unfold splitSign
  split <;> rfl

/-- A number is written without a sign, or behind a plus. -/
theorem eq_or_eq_cons_splitSign (text : Text) :
    text = (splitSign false text).2 ∨ text = '+' :: (splitSign false text).2 := by
  unfold splitSign
  split
  · exact Or.inr rfl
  · exact Or.inl rfl
  · exact Or.inl rfl

/-- A digit is no sign. -/
theorem splitSign_of_isDigit {text : Text} (h : ∀ c ∈ text, c.isDigit = true) (signed : Bool) :
    splitSign signed text = (false, text) := by
  unfold splitSign
  split
  · exact absurd (h '+' List.mem_cons_self) (by decide)
  · exact absurd (h '-' List.mem_cons_self) (by decide)
  · rfl

/-! ## Reading -/

/-- A text is read by the digits behind its sign. -/
theorem readNat?_eq_some_iff_splitSign {text : Text} {n high : Nat} (hne : text ≠ []) :
    readNat? high text = some n ↔ IsDecimal (splitSign false text).2 n ∧ n ≤ high := by
  have hsigned : splitSign (decide ((0 : Int) < 0)) text = (false, (splitSign false text).2) :=
    Prod.ext (splitSign_fst text) rfl
  generalize hdigits : (splitSign false text).2 = digits at hsigned
  constructor
  · intro h
    unfold readNat? read at h
    rw [if_neg hne, hsigned] at h
    dsimp only at h
    rw [if_neg Bool.false_ne_true, if_neg (by omega)] at h
    split at h
    · rename_i number hread
      split at hread
      · cases hread
      · rename_i hhigh
        split at hread
        · cases hread
        · rename_i hrun
          obtain ⟨hrunNe, hrunEq⟩ := not_or.1 hrun
          rw [not_not] at hrunEq
          rw [hrunEq] at hread hhigh hrunNe
          cases hread
          cases h
          refine ⟨⟨hrunNe, List.takeWhile_eq_self_iff.1 hrunEq, rfl⟩, ?_⟩
          omega
    · cases h
  · rintro ⟨hdecimal, hn⟩
    have hrun : digits.takeWhile Char.isDigit = digits :=
      List.takeWhile_eq_self_iff.2 hdecimal.digits
    have hlow : ¬ (n : Int) < 0 := by omega
    have hhigh : ¬ (high : Int) < (n : Int) := by omega
    have hread : read 0 high text = .ok (n : Int) := by
      unfold read
      rw [if_neg hne, hsigned]
      dsimp only
      rw [hrun, hdecimal.value, if_neg Bool.false_ne_true, if_neg hlow, if_neg hhigh,
        if_neg (by simp [hdecimal.ne_nil])]
    rw [readNat?, hread]
    rfl

/-- A number up to the bound is read from its numerals. -/
theorem readNat?_of_isDecimal {text : Text} {n high : Nat} (h : IsDecimal text n)
    (hn : n ≤ high) : readNat? high text = some n := by
  rw [readNat?_eq_some_iff_splitSign h.ne_nil, splitSign_of_isDigit h.digits]
  exact ⟨h, hn⟩

/-- The reader takes the numerals up to its bound, with or without a plus sign, and no other
text. -/
theorem readNat?_eq_some_iff {text : Text} {n high : Nat} :
    readNat? high text = some n ↔
      ∃ digits, (text = digits ∨ text = '+' :: digits) ∧ IsDecimal digits n ∧ n ≤ high := by
  constructor
  · intro h
    have hne : text ≠ [] := by
      rintro rfl
      cases h
    exact ⟨_, eq_or_eq_cons_splitSign text, (readNat?_eq_some_iff_splitSign hne).1 h⟩
  · rintro ⟨digits, rfl | rfl, hdecimal, hn⟩
    · exact readNat?_of_isDecimal hdecimal hn
    · exact (readNat?_eq_some_iff_splitSign (List.cons_ne_nil _ _)).2 ⟨hdecimal, hn⟩

/-! ## Ports -/

/-- A port is read from the numerals of its number, with or without a plus sign. -/
theorem readPort?_eq_some_iff {text : Text} {port : UInt16} :
    readPort? text = some port ↔
      ∃ digits, (text = digits ∨ text = '+' :: digits) ∧ IsDecimal digits port.toNat := by
  have hmax := port.toNat_lt
  unfold readPort?
  constructor
  · intro h
    obtain ⟨n, hread, rfl⟩ := Option.map_eq_some_iff.1 h
    obtain ⟨digits, htext, hdecimal, hn⟩ := readNat?_eq_some_iff.1 hread
    refine ⟨digits, htext, ?_⟩
    rwa [Nat.toUInt16_eq, UInt16.toNat_ofNat_of_lt' (Nat.lt_of_le_of_lt hn (by decide))]
  · rintro ⟨digits, htext, hdecimal⟩
    rw [readNat?_eq_some_iff.2 ⟨digits, htext, hdecimal, by omega⟩, Option.map_some,
      Nat.toUInt16_eq, UInt16.ofNat_toNat]

/-- The digits of a port are read as it. -/
theorem readPort?_write (port : UInt16) : readPort? (write port.toNat) = some port :=
  readPort?_eq_some_iff.2 ⟨_, Or.inl rfl, isDecimal_write _⟩

end HttpConformance.Numeral
