import HttpConformance.Proofs.Text.Utf8
import Mathlib.Algebra.Group.Nat.Defs

/-!
# ASCII in text that is read leniently

Malformed bytes are replaced where a text need not be UTF-8, and no replacement and no character of
several bytes is a character of ASCII.  So what such a text says in ASCII at its front is written
there byte by byte, whatever follows.

Main definition: `Utf8.Pending.IsSound`.

Main results:

- `Utf8.isSound_of_lead`, `Utf8.Pending.IsSound.push`: a character of several bytes is begun, and
  goes on, with a value that is no character of ASCII.
- `Utf8.scan_eq_cons_iff`: a character of ASCII is read where its byte stands.
- `Utf8.decodeLossy_eq_append_iff`: an ASCII text is read at the front where it is written.
-/

namespace HttpConformance.Utf8

/-! ## Characters of several bytes -/

theorem toNat_ofNat {n : Nat} (h : n.isValidChar) : (Char.ofNat n).toNat = n := by
  rw [Char.ofNat, dif_pos h]
  rfl

namespace Pending

/-- The least value that a character begun can get. -/
def least (pending : Pending) : Nat :=
  pending.value * 64 ^ pending.owed + (pending.low.toNat - 0x80) * 64 ^ (pending.owed - 1)

/-- The greatest value that a character begun can get. -/
def greatest (pending : Pending) : Nat :=
  pending.value * 64 ^ pending.owed + (pending.high.toNat - 0x80) * 64 ^ (pending.owed - 1) +
    (64 ^ (pending.owed - 1) - 1)

/-- All values that a character begun can get are characters, and none of ASCII. -/
structure IsSound (pending : Pending) : Prop where
  owed : pending.owed = 1 ∨ pending.owed = 2 ∨ pending.owed = 3
  le_low : 0x80 ≤ pending.low.toNat
  le_least : 0x80 ≤ pending.least
  valid : pending.greatest < 0xD800 ∨ 0xDFFF < pending.least ∧ pending.greatest < 0x110000

instance (pending : Pending) : Decidable pending.IsSound :=
  decidable_of_iff
    ((pending.owed = 1 ∨ pending.owed = 2 ∨ pending.owed = 3) ∧ 0x80 ≤ pending.low.toNat ∧
      0x80 ≤ pending.least ∧
      (pending.greatest < 0xD800 ∨ 0xDFFF < pending.least ∧ pending.greatest < 0x110000))
    ⟨fun ⟨howed, hlow, hleast, hvalid⟩ => ⟨howed, hlow, hleast, hvalid⟩,
      fun h => ⟨h.owed, h.le_low, h.le_least, h.valid⟩⟩

variable {pending : Pending} {b : UInt8}

/-- One more byte leaves no value below the least one. -/
theorem least_le_push (howed : pending.owed = 2 ∨ pending.owed = 3)
    (hlow : pending.low.toNat ≤ b.toNat) : pending.least ≤ (pending.push b).least := by
  have hmin : (0x80 : UInt8).toNat - 0x80 = 0 := rfl
  rcases howed with htwo | hthree
  · simp only [least, Pending.push, htwo, hmin, Nat.reduceSub, Nat.reducePow]
    omega
  · simp only [least, Pending.push, hthree, hmin, Nat.reduceSub, Nat.reducePow]
    omega

/-- One more byte leaves no value above the greatest one. -/
theorem push_greatest_le (howed : pending.owed = 2 ∨ pending.owed = 3)
    (hhigh : b.toNat ≤ pending.high.toNat) : (pending.push b).greatest ≤ pending.greatest := by
  have hmax : (0xBF : UInt8).toNat - 0x80 = 63 := rfl
  rcases howed with htwo | hthree
  · simp only [greatest, Pending.push, htwo, hmax, Nat.reduceSub, Nat.reducePow]
    omega
  · simp only [greatest, Pending.push, hthree, hmax, Nat.reduceSub, Nat.reducePow]
    omega

/-- A sound character stays sound with one more byte. -/
theorem IsSound.push (h : pending.IsSound) (howed : ¬ pending.owed ≤ 1)
    (hb : pending.low ≤ b ∧ b ≤ pending.high) : (pending.push b).IsSound := by
  rw [UInt8.le_iff_toNat_le, UInt8.le_iff_toNat_le] at hb
  have htwo : pending.owed = 2 ∨ pending.owed = 3 := h.owed.resolve_left (by omega)
  have hleast := least_le_push htwo hb.1
  have hgreatest := push_greatest_le htwo hb.2
  refine ⟨?_, Nat.le_refl _, Nat.le_trans h.le_least hleast, ?_⟩
  · change pending.owed - 1 = 1 ∨ pending.owed - 1 = 2 ∨ pending.owed - 1 = 3
    omega
  · rcases h.valid with hbelow | ⟨habove, hmax⟩
    · exact Or.inl (Nat.lt_of_le_of_lt hgreatest hbelow)
    · exact Or.inr ⟨Nat.lt_of_lt_of_le habove hleast, Nat.lt_of_le_of_lt hgreatest hmax⟩

/-- The last byte of a sound character makes a character beyond ASCII. -/
theorem IsSound.le_toNat (h : pending.IsSound) (howed : pending.owed ≤ 1)
    (hb : pending.low ≤ b ∧ b ≤ pending.high) :
    0x80 ≤ (Char.ofNat (pending.push b).value).toNat := by
  rw [UInt8.le_iff_toNat_le, UInt8.le_iff_toNat_le] at hb
  have hone : pending.owed = 1 := by
    have := h.owed
    omega
  obtain ⟨-, -, hleast, hvalid⟩ := h
  simp only [least, greatest, hone, Nat.reduceSub, Nat.reducePow] at hleast hvalid
  have hle : 0x80 ≤ (pending.push b).value := by
    simp only [Pending.push]
    omega
  have hchar : (pending.push b).value.isValidChar := by
    simp only [Nat.isValidChar, Pending.push]
    omega
  rwa [toNat_ofNat hchar]

end Pending

/-- The character that a byte begins. -/
def Lead.begun? : Lead → Option Pending
  | .opens pending => some pending
  | _ => none

/-- A character of several bytes is begun with a sound value. -/
theorem isSound_of_lead {b : UInt8} {pending : Pending} (h : lead b = .opens pending) :
    pending.IsSound := by
  have hall : ∀ n < 256, ∀ begun ∈ (lead n.toUInt8).begun?, begun.IsSound := by decide +kernel
  refine hall b.toNat b.toNat_lt pending ?_
  rw [Nat.toUInt8, UInt8.ofNat_toNat, h]
  rfl

/-- What is read of a character that is begun is no character of ASCII. -/
theorem le_toNat_of_scanFrom {pending : Pending} (h : pending.IsSound) {bytes : Bytes} {c : Char}
    {places : List (Option Char)} (hscan : scanFrom (some pending) bytes = some c :: places) :
    0x80 ≤ c.toNat := by
  induction bytes generalizing pending with
  | nil => cases hscan
  | cons b rest ih =>
    by_cases hin : pending.low ≤ b ∧ b ≤ pending.high
    · by_cases howed : pending.owed ≤ 1
      · simp only [scanFrom, if_pos hin, if_pos howed] at hscan
        rw [← Option.some.inj (List.cons.inj hscan).1]
        exact h.le_toNat howed hin
      · simp only [scanFrom, if_pos hin, if_neg howed] at hscan
        exact ih (h.push howed hin) hscan
    · cases hlead : lead b with
      | character read =>
        simp only [scanFrom, if_neg hin, hlead] at hscan
        cases (List.cons.inj hscan).1
      | opens next =>
        simp only [scanFrom, if_neg hin, hlead] at hscan
        cases (List.cons.inj hscan).1
      | malformed =>
        simp only [scanFrom, if_neg hin, hlead] at hscan
        cases (List.cons.inj hscan).1

/-! ## Characters of one byte -/

/-- The bytes of ASCII, and no others, are characters of their own. -/
theorem of_lead_eq_character {b : UInt8} {c : Char} (h : lead b = .character c) :
    b < 0x80 ∧ c = Char.ofNat b.toNat := by
  by_cases hb : b < 0x80
  · rw [lead_of_lt hb] at h
    cases h
    exact ⟨hb, rfl⟩
  · unfold lead at h
    rw [if_neg hb] at h
    repeat' split at h
    all_goals cases h

theorem encodeChar_of_lt {c : Char} (hc : c.toNat < 0x80) : encodeChar c = [c.toNat.toUInt8] :=
  if_pos hc

/-- A character of ASCII is read where its byte stands. -/
theorem scan_eq_cons_iff {c : Char} (hc : c.toNat < 0x80) {bytes : Bytes}
    {places : List (Option Char)} :
    scan bytes = some c :: places ↔ ∃ rest, bytes = encodeChar c ++ rest ∧ scan rest = places := by
  constructor
  · intro hscan
    cases bytes with
    | nil => cases hscan
    | cons b rest =>
      rw [scan, scanFrom] at hscan
      cases hlead : lead b with
      | malformed =>
        rw [hlead] at hscan
        cases hscan
      | opens pending =>
        rw [hlead] at hscan
        have hlarge := le_toNat_of_scanFrom (isSound_of_lead hlead) hscan
        omega
      | character read =>
        obtain ⟨hb, rfl⟩ := of_lead_eq_character hlead
        rw [hlead] at hscan
        obtain ⟨hc', hplaces⟩ := List.cons.inj hscan
        have hvalue : c.toNat = b.toNat := by
          have hlt : b.toNat < 0x80 := UInt8.lt_iff_toNat_lt.1 hb
          rw [← Option.some.inj hc', toNat_ofNat (Or.inl (by omega))]
        refine ⟨rest, ?_, hplaces⟩
        rw [encodeChar_of_lt hc, hvalue, Nat.toUInt8, UInt8.ofNat_toNat, List.singleton_append]
  · rintro ⟨rest, rfl, rfl⟩
    exact scanFrom_encodeChar_append c rest

/-! ## Texts -/

/-- A character that is begun is read as something. -/
theorem scanFrom_some_ne_nil (pending : Pending) (bytes : Bytes) :
    scanFrom (some pending) bytes ≠ [] := by
  induction bytes generalizing pending with
  | nil => exact List.cons_ne_nil none []
  | cons b rest ih =>
    rw [scanFrom]
    split
    · split
      · exact List.cons_ne_nil _ _
      · exact ih (pending.push b)
    · split <;> exact List.cons_ne_nil _ _

/-- Only where there are no bytes, nothing is read. -/
theorem decodeLossy_eq_nil_iff {bytes : Bytes} : decodeLossy bytes = [] ↔ bytes = [] := by
  constructor
  · intro h
    have hscan : scan bytes = [] := List.map_eq_nil_iff.1 h
    cases bytes with
    | nil => rfl
    | cons b rest =>
      rw [scan, scanFrom] at hscan
      split at hscan
      · cases hscan
      · exact absurd hscan (scanFrom_some_ne_nil _ _)
      · cases hscan
  · rintro rfl
    rfl

/-- A text is read at the front of its bytes, whatever follows. -/
theorem decodeLossy_encode_append (front : Text) (rest : Bytes) :
    decodeLossy (encode front ++ rest) = front ++ decodeLossy rest := by
  rw [decodeLossy, scan, scanFrom_encode_append, List.map_append, List.map_map, ← scan,
    ← decodeLossy]
  simp [Function.comp_def]

/-- An ASCII text is read at the front where it is written, and nowhere else. -/
theorem decodeLossy_eq_append_iff {front : Text} (hfront : ∀ c ∈ front, c.toNat < 0x80)
    {bytes : Bytes} {text : Text} :
    decodeLossy bytes = front ++ text ↔
      ∃ rest, bytes = encode front ++ rest ∧ decodeLossy rest = text := by
  constructor
  · intro h
    induction front generalizing bytes with
    | nil => exact ⟨bytes, rfl, h⟩
    | cons c front ih =>
      rw [List.forall_mem_cons] at hfront
      obtain ⟨place, places, hscan, hplace, hplaces⟩ := List.map_eq_cons_iff.1 h
      have hsome : place = some c := by
        cases place with
        | none =>
          rw [← hplace] at hfront
          exact absurd hfront.1 (by decide)
        | some read => exact congrArg some hplace
      rw [hsome] at hscan
      obtain ⟨tail, rfl, rfl⟩ := (scan_eq_cons_iff hfront.1).1 hscan
      obtain ⟨rest, rfl, hrest⟩ := ih hfront.2 hplaces
      refine ⟨rest, ?_, hrest⟩
      rw [← List.append_assoc]
      rfl
  · rintro ⟨rest, rfl, rfl⟩
    exact decodeLossy_encode_append front rest

end HttpConformance.Utf8
