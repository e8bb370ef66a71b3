import HttpConformance.Text.Utf8

/-!
# Decoding text piece by piece

A byte below `0x80` is a character of its own wherever it stands: it never continues a character,
and no character goes on behind it.  So bytes can be decoded in pieces cut at such a byte, and the
strict reader accepts the whole when it accepts the pieces.

Main results:

- `Utf8.decodeLossy_of_decode?`: the two readers agree on text that is well formed.
- `Utf8.scanFrom_append_cons`: the characters before, at and after an ASCII byte.
- `Utf8.decode?_append_singleton`: an ASCII byte at the end of some bytes.
- `Utf8.decode?_encode`, `Utf8.decodeLossy_encode`: a text is read back from its bytes.
- `Utf8.exists_of_encode_eq`: an ASCII byte among the bytes of a text is a character of the text.
-/

namespace HttpConformance.Utf8

/-! ## The two readers -/

/-- Nothing is replaced where nothing is malformed. -/
theorem map_getD_eq_filterMap {places : List (Option Char)}
    (h : places.all Option.isSome = true) :
    places.map (·.getD replacement) = places.filterMap id := by
  induction places with
  | nil => rfl
  | cons place places ih =>
    rw [List.all_cons, Bool.and_eq_true] at h
    obtain ⟨c, rfl⟩ := Option.isSome_iff_exists.1 h.1
    rw [List.map_cons, ih h.2]
    rfl

/-- What the strict reader accepts, the forgiving reader reads alike. -/
theorem decodeLossy_of_decode? {bytes : Bytes} {text : Text} (h : decode? bytes = some text) :
    decodeLossy bytes = text := by
  unfold decode? at h
  split at h
  · rename_i hall
    rw [← Option.some.inj h]
    exact map_getD_eq_filterMap hall
  · cases h

/-- Bytes that are no text are read with a replacement. -/
theorem replacement_mem_decodeLossy {bytes : Bytes} (h : decode? bytes = none) :
    replacement ∈ decodeLossy bytes := by
  have hplace : none ∈ scan bytes := by
    unfold decode? at h
    split at h
    · cases h
    · rename_i hall
      simpa using hall
  exact List.mem_map.2 ⟨none, hplace, rfl⟩

/-! ## ASCII bytes -/

/-- A character goes on with bytes outside ASCII only. -/
theorem le_low_of_lead {b : UInt8} {pending : Pending} (h : lead b = .opens pending) :
    0x80 ≤ pending.low := by
  unfold lead at h
  repeat' split at h
  all_goals first
    | cases h; done
    | (cases h; dsimp only; decide)

theorem lead_of_lt {b : UInt8} (hb : b < 0x80) : lead b = .character (Char.ofNat b.toNat) :=
  if_pos hb

/-- A byte below `0x80` ends the character that is begun before it, and begins none. -/
theorem scanFrom_append_cons {b : UInt8} (hb : b < 0x80) (rest front : Bytes)
    {pending : Option Pending} (hpending : ∀ begun ∈ pending, 0x80 ≤ begun.low) :
    scanFrom pending (front ++ b :: rest) =
      scanFrom pending front ++ some (Char.ofNat b.toNat) :: scanFrom none rest := by
  have hfresh : ∀ begun ∈ (none : Option Pending), 0x80 ≤ begun.low := by
    intro begun h
    cases h
  have hopened {a : UInt8} {next : Pending} (h : lead a = .opens next) :
      ∀ begun ∈ some next, 0x80 ≤ begun.low := by
    intro begun hbegun
    cases hbegun
    exact le_low_of_lead h
  induction front generalizing pending with
  | nil =>
    rw [List.nil_append]
    cases pending with
    | none => simp only [scanFrom, lead_of_lt hb, List.nil_append]
    | some begun =>
      have hlow : 0x80 ≤ begun.low := hpending begun rfl
      have hout : ¬ (begun.low ≤ b ∧ b ≤ begun.high) := by
        rintro ⟨hle, -⟩
        exact absurd hb (UInt8.not_lt.2 (UInt8.le_trans hlow hle))
      simp only [scanFrom, if_neg hout, lead_of_lt hb, List.cons_append, List.nil_append]
  | cons a front ih =>
    rw [List.cons_append]
    cases pending with
    | none =>
      cases hlead : lead a with
      | character c => simp only [scanFrom, hlead, ih hfresh, List.cons_append]
      | opens next => simp only [scanFrom, hlead, ih (hopened hlead)]
      | malformed => simp only [scanFrom, hlead, ih hfresh, List.cons_append]
    | some begun =>
      by_cases hin : begun.low ≤ a ∧ a ≤ begun.high
      · by_cases howed : begun.owed ≤ 1
        · simp only [scanFrom, if_pos hin, if_pos howed, ih hfresh, List.cons_append]
        · have hpush : ∀ next ∈ some (begun.push a), 0x80 ≤ next.low := by
            intro next hnext
            cases hnext
            exact UInt8.le_refl _
          simp only [scanFrom, if_pos hin, if_neg howed, ih hpush]
      · cases hlead : lead a with
        | character c => simp only [scanFrom, if_neg hin, hlead, ih hfresh, List.cons_append]
        | opens next =>
          simp only [scanFrom, if_neg hin, hlead, ih (hopened hlead), List.cons_append]
        | malformed => simp only [scanFrom, if_neg hin, hlead, ih hfresh, List.cons_append]

/-- An ASCII byte at the end of some bytes is a character at the end of their text. -/
theorem decode?_append_singleton {b : UInt8} (hb : b < 0x80) (bytes : Bytes) :
    decode? (bytes ++ [b]) = (decode? bytes).map (· ++ [Char.ofNat b.toNat]) := by
  have hscan : scan (bytes ++ [b]) = scan bytes ++ [some (Char.ofNat b.toNat)] := by
    refine scanFrom_append_cons hb [] bytes ?_
    intro begun h
    cases h
  unfold decode?
  rw [hscan, List.all_append, List.filterMap_append]
  cases (scan bytes).all Option.isSome <;> rfl

/-! ## What is written is read back -/

theorem toNat_toUInt8 {n : Nat} (h : n < 256) : n.toUInt8.toNat = n :=
  UInt8.toNat_ofNat_of_lt' h

/-- The byte that begins a character of two bytes. -/
theorem lead_two {n : Nat} (hlow : 0xC2 ≤ n) (hhigh : n < 0xE0) :
    lead n.toUInt8 = .opens ⟨1, 0x80, 0xBF, n - 0xC0⟩ := by
  have hn : n.toUInt8.toNat = n := toNat_toUInt8 (by omega)
  unfold lead
  simp only [UInt8.lt_iff_toNat_lt, hn]
  rw [if_neg (by simp; omega), if_neg (by simp; omega), if_pos (by simp; omega)]

/-- The byte that begins a character of three bytes; the range of the next byte keeps out overlong
forms and surrogates. -/
theorem lead_three {n : Nat} (hlow : 0xE0 ≤ n) (hhigh : n < 0xF0) :
    lead n.toUInt8 = .opens
      ⟨2, if n = 0xE0 then 0xA0 else 0x80, if n = 0xED then 0x9F else 0xBF, n - 0xE0⟩ := by
  have hn : n.toUInt8.toNat = n := toNat_toUInt8 (by omega)
  unfold lead
  simp only [UInt8.lt_iff_toNat_lt, ← UInt8.toNat_inj, hn]
  rw [if_neg (by simp; omega), if_neg (by simp; omega), if_neg (by simp; omega)]
  by_cases hfirst : n = 0xE0
  · subst hfirst
    rfl
  · rw [if_neg (by simpa using hfirst), if_neg hfirst]
    by_cases hsurrogate : n = 0xED
    · subst hsurrogate
      rfl
    · rw [if_neg (by simpa using hsurrogate), if_neg hsurrogate, if_pos (by simp; omega)]

/-- The byte that begins a character of four bytes; the range of the next byte keeps out overlong
forms and numbers above U+10FFFF. -/
theorem lead_four {n : Nat} (hlow : 0xF0 ≤ n) (hhigh : n ≤ 0xF4) :
    lead n.toUInt8 = .opens
      ⟨3, if n = 0xF0 then 0x90 else 0x80, if n = 0xF4 then 0x8F else 0xBF, n - 0xF0⟩ := by
  obtain rfl | rfl | rfl | rfl | rfl : n = 0xF0 ∨ n = 0xF1 ∨ n = 0xF2 ∨ n = 0xF3 ∨ n = 0xF4 := by
    omega
  all_goals rfl

/-- A byte that goes on with a character adds six bits to it. -/
theorem scanFrom_continue {pending : Pending} {bits : Nat} (hbits : bits < 0x40)
    (hlow : pending.low.toNat ≤ 0x80 + bits) (hhigh : 0x80 + bits ≤ pending.high.toNat)
    (rest : Bytes) :
    scanFrom (some pending) ((0x80 + bits).toUInt8 :: rest) =
      if pending.owed ≤ 1 then some (Char.ofNat (pending.value * 64 + bits)) :: scanFrom none rest
      else scanFrom (some ⟨pending.owed - 1, 0x80, 0xBF, pending.value * 64 + bits⟩) rest := by
  have hbyte : (0x80 + bits).toUInt8.toNat = 0x80 + bits := toNat_toUInt8 (by omega)
  have hin : pending.low ≤ (0x80 + bits).toUInt8 ∧ (0x80 + bits).toUInt8 ≤ pending.high := by
    rw [UInt8.le_iff_toNat_le, UInt8.le_iff_toNat_le, hbyte]
    exact ⟨hlow, hhigh⟩
  simp only [scanFrom, if_pos hin, Pending.push, hbyte, Nat.add_sub_cancel_left]

/-- The bytes of a character read back as that character. -/
theorem scanFrom_encodeChar_append (c : Char) (rest : Bytes) :
    scanFrom none (encodeChar c ++ rest) = some c :: scanFrom none rest := by
  have hvalid : c.toNat < 0xD800 ∨ 0xDFFF < c.toNat ∧ c.toNat < 0x110000 := c.valid
  have hback : Char.ofNat c.toNat = c := Char.ofNat_toNat c
  unfold encodeChar
  generalize c.toNat = n at hvalid hback
  dsimp only
  split
  · rename_i hone
    have hn : n.toUInt8.toNat = n := toNat_toUInt8 (by omega)
    have hlt : n.toUInt8 < 0x80 := by
      rw [UInt8.lt_iff_toNat_lt, hn]
      exact hone
    rw [List.singleton_append, scanFrom, lead_of_lt hlt, hn, hback]
  · split
    · rename_i htwo
      have hvalue : (0xC0 + n / 0x40 - 0xC0) * 64 + n % 0x40 = n := by omega
      rw [List.cons_append, List.singleton_append, scanFrom, lead_two (by omega) (by omega)]
      dsimp only
      rw [scanFrom_continue (by omega) (by simp) (by simp; omega), if_pos (by simp)]
      rw [hvalue, hback]
    · split
      · rename_i hthree
        have hvalue :
            ((0xE0 + n / 0x1000 - 0xE0) * 64 + n / 0x40 % 0x40) * 64 + n % 0x40 = n := by omega
        rw [List.cons_append, List.cons_append, List.singleton_append, scanFrom,
          lead_three (by omega) (by omega)]
        dsimp only
        rw [scanFrom_continue (by omega) (by dsimp only; split <;> simp; omega)
          (by dsimp only; split <;> simp <;> omega), if_neg (by simp)]
        rw [scanFrom_continue (by omega) (by simp) (by simp; omega), if_pos (by simp)]
        rw [hvalue, hback]
      · have hvalue :
            (((0xF0 + n / 0x40000 - 0xF0) * 64 + n / 0x1000 % 0x40) * 64 + n / 0x40 % 0x40) * 64 +
              n % 0x40 = n := by omega
        rw [List.cons_append, List.cons_append, List.cons_append, List.singleton_append, scanFrom,
          lead_four (by omega) (by omega)]
        dsimp only
        rw [scanFrom_continue (by omega) (by dsimp only; split <;> simp; omega)
          (by dsimp only; split <;> simp <;> omega), if_neg (by simp)]
        rw [scanFrom_continue (by omega) (by simp) (by simp; omega), if_neg (by simp)]
        rw [scanFrom_continue (by omega) (by simp) (by simp; omega), if_pos (by simp)]
        rw [hvalue, hback]

/-- The bytes of a text read back as that text, whatever follows them. -/
theorem scanFrom_encode_append (text : Text) (rest : Bytes) :
    scanFrom none (encode text ++ rest) = text.map some ++ scanFrom none rest := by
  induction text with
  | nil => rfl
  | cons c text ih =>
    rw [encode, List.flatMap_cons, List.append_assoc, scanFrom_encodeChar_append, ← encode, ih]
    rfl

/-- What is written is read character by character. -/
theorem scan_encode (text : Text) : scan (encode text) = text.map some := by
  have h := scanFrom_encode_append text []
  rwa [List.append_nil, scanFrom, List.append_nil] at h

/-- Every text is read back from its bytes. -/
theorem decode?_encode (text : Text) : decode? (encode text) = some text := by
  rw [decode?, scan_encode, List.filterMap_map]
  simp

/-- A text is read as it was written. -/
theorem decodeLossy_encode (text : Text) : decodeLossy (encode text) = text :=
  decodeLossy_of_decode? (decode?_encode text)

/-- Texts with the same bytes are equal. -/
theorem encode_inj {first second : Text} : encode first = encode second ↔ first = second := by
  constructor
  · intro h
    have hback := decode?_encode first
    rw [h, decode?_encode second] at hback
    exact (Option.some.inj hback).symm
  · intro h
    rw [h]

theorem encode_append (first second : Text) :
    encode (first ++ second) = encode first ++ encode second :=
  List.flatMap_append

/-- An ASCII byte among the bytes of a text is a character of the text, with some of the text before
it when there are bytes before it, and some after it when there are bytes after it. -/
theorem exists_of_encode_eq {text : Text} {b : UInt8} (hb : b < 0x80) {front rest : Bytes}
    (h : encode text = front ++ b :: rest) :
    ∃ before after, text = before ++ Char.ofNat b.toNat :: after ∧ (front = [] → before = []) ∧
      (rest = [] → after = []) := by
  have hfresh : ∀ begun ∈ (none : Option Pending), 0x80 ≤ begun.low := by
    intro begun hbegun
    cases hbegun
  have hscan : text.map some = scan front ++ some (Char.ofNat b.toNat) :: scan rest := by
    rw [← scan_encode, h]
    exact scanFrom_append_cons hb rest front hfresh
  obtain ⟨before, tail, rfl, hbefore, htail⟩ := List.map_eq_append_iff.1 hscan
  obtain ⟨c, after, rfl, hc, hafter⟩ := List.map_eq_cons_iff.1 htail
  obtain rfl : c = Char.ofNat b.toNat := Option.some.inj hc
  refine ⟨before, after, rfl, ?_, ?_⟩
  · rintro rfl
    exact List.map_eq_nil_iff.1 hbefore
  · rintro rfl
    exact List.map_eq_nil_iff.1 hafter

/-- An ASCII byte is among the bytes of a text when it is a character of the text. -/
theorem mem_of_mem_encode {text : Text} {b : UInt8} (hb : b < 0x80) (h : b ∈ encode text) :
    Char.ofNat b.toNat ∈ text := by
  obtain ⟨front, rest, hfront⟩ := List.append_of_mem h
  obtain ⟨before, after, rfl, -⟩ := exists_of_encode_eq hb hfront
  exact List.mem_append_right before List.mem_cons_self

theorem encode_ne_nil {text : Text} (h : text ≠ []) : encode text ≠ [] :=
  fun hnil => h (encode_inj.1 hnil)

/-- An ASCII byte at the front of the bytes of a text is the first character of the text. -/
theorem head?_of_head?_encode {text : Text} {b : UInt8} (hb : b < 0x80)
    (h : (encode text).head? = some b) : text.head? = some (Char.ofNat b.toNat) := by
  obtain ⟨rest, hrest⟩ := List.head?_eq_some_iff.1 h
  have hfront : encode text = [] ++ b :: rest := hrest
  obtain ⟨before, after, rfl, hbefore, -⟩ := exists_of_encode_eq hb hfront
  rw [hbefore rfl]
  rfl

/-- An ASCII byte at the end of the bytes of a text is the last character of the text. -/
theorem getLast?_of_getLast?_encode {text : Text} {b : UInt8} (hb : b < 0x80)
    (h : (encode text).getLast? = some b) : text.getLast? = some (Char.ofNat b.toNat) := by
  obtain ⟨front, hfront⟩ := List.getLast?_eq_some_iff.1 h
  obtain ⟨before, after, rfl, -, hafter⟩ := exists_of_encode_eq hb hfront
  rw [hafter rfl]
  exact List.getLast?_concat

end HttpConformance.Utf8
