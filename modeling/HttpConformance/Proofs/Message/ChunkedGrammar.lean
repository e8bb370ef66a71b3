import HttpConformance.Proofs.Hexadecimal
import HttpConformance.Proofs.Message.ChunkedStep
import HttpConformance.Proofs.Text.Cut

/-!
# The grammar of chunked bodies

A chunked body is a sequence of chunks, a last chunk of size zero and a trailer.  The grammar says
so for whole byte strings, without a reader; the reader of `HttpConformance.Message.Chunked` takes
exactly the byte strings of the grammar, and reads of them what the grammar says.

Main definitions: `ChunkedBody.IsSizeLine`, `ChunkedBody.IsTrailer`, `ChunkedBody.IsChunkedBody`.

Main results:

- `ChunkedBody.step_eq_chunk_iff` and `ChunkedBody.step_eq_complete_iff`: one step reads one chunk
  of the grammar, or the end of a body.
- `ChunkedBody.exists_of_readFrom`, `ChunkedBody.readFrom_of_isChunkedBody`: what is read is a
  chunked body, and every chunked body is read.
- `ChunkedBody.read_complete_iff`: the two together, with the number of bytes that are read.
-/

namespace HttpConformance.ChunkedBody

/-! ## The grammar -/

/-- A size line with the line feed at its end, and the size that it gives: a numeral of base
sixteen, with blanks around it and an extension after them. -/
def IsSizeLine (bytes : Bytes) (size : Nat) : Prop :=
  ∃ line, bytes = line ++ [lf] ∧ lf ∉ line ∧
    Numeral.IsHexNumeral
      (Text.trim ((Utf8.decodeLossy (withoutLast cr line)).takeWhile (· != ';'))) size ∧
    size < 2 ^ 64

/-- A line break after the data of a chunk. -/
def IsLineBreak (bytes : Bytes) : Prop :=
  bytes = [cr, lf] ∨ bytes = [lf]

/-- A line of a trailer that ends it. -/
def IsBlankLine (line : Bytes) : Prop :=
  line = [] ∨ line = [cr]

/-- A trailer: lines up to the first blank one, and that line. -/
inductive IsTrailer : Bytes → Prop where
  | blank {line : Bytes} (hline : IsBlankLine line) : IsTrailer (line ++ [lf])
  | field {line rest : Bytes} (hlf : lf ∉ line) (hline : ¬ IsBlankLine line)
      (hrest : IsTrailer rest) : IsTrailer (line ++ lf :: rest)

/-- A chunked body and its content. -/
inductive IsChunkedBody : Bytes → Bytes → Prop where
  | last {sizeLine trailer : Bytes} (hsize : IsSizeLine sizeLine 0) (htrailer : IsTrailer trailer) :
      IsChunkedBody (sizeLine ++ trailer) []
  | chunk {sizeLine data lineBreak rest content : Bytes} (hsize : IsSizeLine sizeLine data.length)
      (hdata : data ≠ []) (hbreak : IsLineBreak lineBreak) (hrest : IsChunkedBody rest content) :
      IsChunkedBody (sizeLine ++ data ++ lineBreak ++ rest) (data ++ content)

/-! ## The parts -/

/-- What is read as a size line is one of the grammar, and the other way round. -/
theorem isSizeLine_iff {line : Bytes} (hlf : lf ∉ line) {size : Nat} :
    IsSizeLine (line ++ [lf]) size ↔
      Numeral.readHex? sizeBound (sizeText (Utf8.decodeLossy (withoutLast cr line))) =
        some size := by
  rw [Numeral.readHex?_eq_some_iff]
  constructor
  · rintro ⟨line', heq, -, hnumeral, hbound⟩
    rw [← List.append_cancel_right heq] at hnumeral
    exact ⟨hnumeral, hbound⟩
  · rintro ⟨hnumeral, hbound⟩
    exact ⟨line, rfl, hlf, hnumeral, hbound⟩

/-- A line break is read exactly where one stands. -/
theorem readBreak_eq_present_iff {bytes rest : Bytes} :
    readBreak bytes = .present rest ↔
      ∃ lineBreak, IsLineBreak lineBreak ∧ bytes = lineBreak ++ rest := by
  constructor
  · intro h
    unfold readBreak at h
    split at h
    · rename_i hfront
      cases h
      exact ⟨[cr, lf], Or.inl rfl, eq_append_of_isPrefixOf? hfront⟩
    · rename_i hfront
      cases h
      exact ⟨[lf], Or.inr rfl, eq_append_of_isPrefixOf? hfront⟩
    · split at h <;> cases h
  · rintro ⟨lineBreak, rfl | rfl, rfl⟩ <;> rfl

theorem IsBlankLine.lf_notMem {line : Bytes} (h : IsBlankLine line) : lf ∉ line := by
  rcases h with rfl | rfl <;> decide

/-- A trailer is passed over line by line, up to a blank line. -/
theorem afterTrailer?_of_cutAt {bytes line rest : Bytes}
    (hcut : cutAt lf bytes = some (line, rest)) :
    afterTrailer? bytes = if line = [] ∨ line = [cr] then some rest else afterTrailer? rest := by
  rw [afterTrailer?]
  split
  · rename_i hnone
    rw [hcut] at hnone
    cases hnone
  · rename_i hsome
    rw [hcut] at hsome
    cases hsome
    rfl

/-- What follows a trailer is read exactly behind one. -/
theorem afterTrailer?_eq_some_iff {bytes rest : Bytes} :
    afterTrailer? bytes = some rest ↔ ∃ trailer, IsTrailer trailer ∧ bytes = trailer ++ rest := by
  constructor
  · intro h
    fun_induction afterTrailer? bytes with
    | case1 bytes hcut => cases h
    | case2 bytes line after hcut _ hblank =>
      cases h
      refine ⟨line ++ [lf], .blank hblank, ?_⟩
      rw [(cutAt_eq_some_iff.1 hcut).1, List.append_assoc, List.singleton_append]
    | case3 bytes line after hcut _ hblank ih =>
      obtain ⟨trailer, htrailer, rfl⟩ := ih h
      obtain ⟨rfl, hlf⟩ := cutAt_eq_some_iff.1 hcut
      exact ⟨line ++ lf :: trailer, .field hlf hblank htrailer, by simp⟩
  · rintro ⟨trailer, htrailer, rfl⟩
    induction htrailer with
    | @blank line hline =>
      have hcut : cutAt lf (line ++ [lf] ++ rest) = some (line, rest) := by
        rw [List.append_assoc, List.singleton_append]
        exact cutAt_append_cons hline.lf_notMem rest
      rw [afterTrailer?_of_cutAt hcut]
      exact if_pos hline
    | @field line after hlf hline _ ih =>
      have hcut : cutAt lf (line ++ lf :: after ++ rest) = some (line, after ++ rest) := by
        rw [List.append_assoc, List.cons_append]
        exact cutAt_append_cons hlf (after ++ rest)
      rw [afterTrailer?_of_cutAt hcut, ih]
      exact if_neg hline

/-! ## One step -/

/-- The data of a chunk, behind its size line and with the line break after it. -/
theorem dataStep_eq_chunk_iff {start size offset : Nat} {text : Text} {bytes data rest : Bytes} :
    dataStep start size text bytes = .chunk data offset rest ↔
      data.length = size ∧ start + size < sizeBound ∧
        ∃ lineBreak, IsLineBreak lineBreak ∧ bytes = data ++ lineBreak ++ rest ∧
          offset = start + size + lineBreak.length := by
  constructor
  · intro h
    unfold dataStep at h
    split at h
    · cases h
    · rename_i hbound
      split at h
      · cases h
      · rename_i hlength
        split at h
        · cases h
        · cases h
        · rename_i after hbreak
          cases h
          obtain ⟨lineBreak, hlineBreak, hdrop⟩ := readBreak_eq_present_iff.1 hbreak
          have hdata : (bytes.take size).length = size := by
            rw [List.length_take]
            omega
          have hlen : bytes.length - size = lineBreak.length + rest.length := by
            rw [← List.length_drop, hdrop, List.length_append]
          refine ⟨hdata, by omega, lineBreak, hlineBreak, ?_, by omega⟩
          rw [List.append_assoc, ← hdrop, List.take_append_drop]
  · rintro ⟨rfl, hbound, lineBreak, hlineBreak, rfl, rfl⟩
    have hlength : ¬ (data ++ lineBreak ++ rest).length < data.length := by
      simp only [List.length_append]
      omega
    have hdrop : (data ++ lineBreak ++ rest).drop data.length = lineBreak ++ rest := by
      rw [List.append_assoc, List.drop_left]
    have hbreak : readBreak (lineBreak ++ rest) = .present rest :=
      readBreak_eq_present_iff.2 ⟨lineBreak, hlineBreak, rfl⟩
    rw [dataStep, if_neg (by omega), if_neg hlength, hdrop, hbreak]
    simp only [List.append_assoc, List.take_left, List.length_append, Step.chunk.injEq, true_and,
      and_true]
    omega

/-- A chunk with data is never the end of a body. -/
theorem dataStep_ne_complete {start size : Nat} {text : Text} {bytes content rest : Bytes} :
    dataStep start size text bytes ≠ .stop (.complete content rest) := by
  intro h
  unfold dataStep at h
  split at h
  · cases h
  · split at h
    · cases h
    · split at h <;> cases h

/-- A size line other than the last one is followed by that many bytes of data. -/
theorem step_of_isSizeLine {sizeLine : Bytes} {size : Nat} (h : IsSizeLine sizeLine size)
    (hne : size ≠ 0) : ∃ text, ∀ offset rest,
      step offset (sizeLine ++ rest) = dataStep (offset + sizeLine.length) size text rest := by
  obtain ⟨line, rfl, hlf, -⟩ := id h
  refine ⟨sizeText (Utf8.decodeLossy (withoutLast cr line)), fun offset rest => ?_⟩
  have hcut : cutAt lf (line ++ [lf] ++ rest) = some (line, rest) := by
    rw [List.append_assoc, List.singleton_append]
    exact cutAt_append_cons hlf rest
  rw [step_of_size hcut ((isSizeLine_iff hlf).1 h) hne, List.length_append, Nat.add_assoc]
  rfl

/-- The last size line is followed by the trailer. -/
theorem step_of_isSizeLine_zero {sizeLine : Bytes} (h : IsSizeLine sizeLine 0) (offset : Nat)
    (rest : Bytes) : step offset (sizeLine ++ rest) =
      .stop ((afterTrailer? rest).elim .incomplete (.complete [])) := by
  obtain ⟨line, rfl, hlf, -⟩ := id h
  have hcut : cutAt lf (line ++ [lf] ++ rest) = some (line, rest) := by
    rw [List.append_assoc, List.singleton_append]
    exact cutAt_append_cons hlf rest
  simp only [step, hcut, (isSizeLine_iff hlf).1 h]

/-- A step that yields anything begins with a size line. -/
theorem step_cases (offset : Nat) (bytes : Bytes) :
    (∃ sizeLine size rest, IsSizeLine sizeLine size ∧ bytes = sizeLine ++ rest) ∨
      step offset bytes = .stop .incomplete ∨
      ∃ error, step offset bytes = .stop (.malformed error) := by
  cases hcut : cutAt lf bytes with
  | none => exact Or.inr (Or.inl (by simp only [step, hcut]))
  | some parts =>
    obtain ⟨line, rest⟩ := parts
    obtain ⟨rfl, hlf⟩ := cutAt_eq_some_iff.1 hcut
    cases hsize :
      Numeral.readHex? sizeBound (sizeText (Utf8.decodeLossy (withoutLast cr line))) with
    | none =>
      refine Or.inr (Or.inr ⟨.invalidSizeLine (Utf8.decodeLossy (withoutLast cr line)), ?_⟩)
      simp only [step, hcut, hsize]
    | some size =>
      exact Or.inl ⟨line ++ [lf], size, rest, (isSizeLine_iff hlf).2 hsize, by simp⟩

/-- One step reads one chunk of the grammar. -/
theorem step_eq_chunk_iff {offset offset' : Nat} {bytes data rest : Bytes} :
    step offset bytes = .chunk data offset' rest ↔
      ∃ sizeLine lineBreak, IsSizeLine sizeLine data.length ∧ data ≠ [] ∧
        IsLineBreak lineBreak ∧ bytes = sizeLine ++ data ++ lineBreak ++ rest ∧
        offset + sizeLine.length + data.length < sizeBound ∧
        offset' = offset + sizeLine.length + data.length + lineBreak.length := by
  constructor
  · intro h
    rcases step_cases offset bytes with ⟨sizeLine, size, after, hsize, rfl⟩ | hstop | ⟨_, hstop⟩
    · by_cases hzero : size = 0
      · subst hzero
        rw [step_of_isSizeLine_zero hsize] at h
        cases h
      · obtain ⟨text, hstep⟩ := step_of_isSizeLine hsize hzero
        rw [hstep, dataStep_eq_chunk_iff] at h
        obtain ⟨rfl, hbound, lineBreak, hbreak, rfl, rfl⟩ := h
        have hdata : data ≠ [] := fun hnil => hzero (by rw [hnil, List.length_nil])
        exact ⟨sizeLine, lineBreak, hsize, hdata, hbreak, by simp, hbound, rfl⟩
    · rw [hstop] at h
      cases h
    · rw [hstop] at h
      cases h
  · rintro ⟨sizeLine, lineBreak, hsize, hdata, hbreak, rfl, hbound, rfl⟩
    have hzero : data.length ≠ 0 := fun h => hdata (List.length_eq_zero_iff.1 h)
    obtain ⟨text, hstep⟩ := step_of_isSizeLine hsize hzero
    rw [List.append_assoc, List.append_assoc, hstep, dataStep_eq_chunk_iff]
    exact ⟨rfl, hbound, lineBreak, hbreak, by simp, rfl⟩

/-- One step reads the end of a body in the grammar. -/
theorem step_eq_complete_iff {offset : Nat} {bytes content rest : Bytes} :
    step offset bytes = .stop (.complete content rest) ↔
      content = [] ∧ ∃ sizeLine trailer, IsSizeLine sizeLine 0 ∧ IsTrailer trailer ∧
        bytes = sizeLine ++ trailer ++ rest := by
  constructor
  · intro h
    rcases step_cases offset bytes with ⟨sizeLine, size, after, hsize, rfl⟩ | hstop | ⟨_, hstop⟩
    · by_cases hzero : size = 0
      · subst hzero
        rw [step_of_isSizeLine_zero hsize] at h
        cases hafter : afterTrailer? after with
        | none =>
          rw [hafter] at h
          cases h
        | some tail =>
          rw [hafter] at h
          cases h
          obtain ⟨trailer, htrailer, rfl⟩ := afterTrailer?_eq_some_iff.1 hafter
          exact ⟨rfl, sizeLine, trailer, hsize, htrailer, by simp⟩
      · obtain ⟨text, hstep⟩ := step_of_isSizeLine hsize hzero
        rw [hstep] at h
        exact absurd h dataStep_ne_complete
    · rw [hstop] at h
      cases h
    · rw [hstop] at h
      cases h
  · rintro ⟨rfl, sizeLine, trailer, hsize, htrailer, rfl⟩
    have hafter : afterTrailer? (trailer ++ rest) = some rest :=
      afterTrailer?_eq_some_iff.2 ⟨trailer, htrailer, rfl⟩
    rw [List.append_assoc, step_of_isSizeLine_zero hsize, hafter]
    rfl

/-! ## The whole body -/

/-- A body is complete behind a chunk exactly when what follows the chunk is. -/
theorem Reading.afterChunk_eq_complete_iff {data content rest : Bytes} {reading : Reading} :
    reading.afterChunk data = .complete content rest ↔
      ∃ inner, reading = .complete inner rest ∧ content = data ++ inner := by
  cases reading <;> simp [Reading.afterChunk, and_comm, eq_comm]

theorem IsLineBreak.length_pos {bytes : Bytes} (h : IsLineBreak bytes) : 0 < bytes.length := by
  rcases h with rfl | rfl <;> decide

/-- Each chunk takes bytes. -/
theorem length_lt_of_step {offset offset' : Nat} {bytes data rest : Bytes}
    (h : step offset bytes = .chunk data offset' rest) : rest.length < bytes.length := by
  obtain ⟨sizeLine, lineBreak, -, -, hbreak, rfl, -⟩ := step_eq_chunk_iff.1 h
  have hpos := hbreak.length_pos
  simp only [List.length_append]
  omega

/-- What is read is a chunked body. -/
theorem exists_of_readFrom {offset : Nat} {bytes content rest : Bytes}
    (h : readFrom offset bytes = .complete content rest) :
    ∃ front, bytes = front ++ rest ∧ IsChunkedBody front content := by
  induction hn : bytes.length using Nat.strong_induction_on generalizing offset bytes content with
  | _ n ih =>
    subst hn
    rw [readFrom_eq_step] at h
    cases hstep : step offset bytes with
    | stop reading =>
      rw [hstep] at h
      subst h
      obtain ⟨rfl, sizeLine, trailer, hsize, htrailer, rfl⟩ := step_eq_complete_iff.1 hstep
      exact ⟨sizeLine ++ trailer, rfl, .last hsize htrailer⟩
    | chunk data offset' after =>
      rw [hstep] at h
      obtain ⟨inner, hafter, rfl⟩ := Reading.afterChunk_eq_complete_iff.1 h
      obtain ⟨front, rfl, hfront⟩ := ih _ (length_lt_of_step hstep) hafter rfl
      obtain ⟨sizeLine, lineBreak, hsize, hdata, hbreak, rfl, -⟩ := step_eq_chunk_iff.1 hstep
      exact ⟨sizeLine ++ data ++ lineBreak ++ front, by simp, .chunk hsize hdata hbreak hfront⟩

/-- Every chunked body that ends at or below the largest offset is read, and nothing after it. -/
theorem readFrom_of_isChunkedBody {front content : Bytes} (h : IsChunkedBody front content)
    {offset : Nat} (hbound : offset + front.length ≤ sizeBound) (rest : Bytes) :
    readFrom offset (front ++ rest) = .complete content rest := by
  induction h generalizing offset with
  | @last sizeLine trailer hsize htrailer =>
    rw [readFrom_eq_step, step_eq_complete_iff.2 ⟨rfl, sizeLine, trailer, hsize, htrailer, rfl⟩]
  | @chunk sizeLine data lineBreak after content hsize hdata hbreak _ ih =>
    simp only [List.length_append] at hbound
    have hpos := hbreak.length_pos
    have hstep : step offset (sizeLine ++ data ++ lineBreak ++ after ++ rest) =
        .chunk data (offset + sizeLine.length + data.length + lineBreak.length) (after ++ rest) :=
      step_eq_chunk_iff.2 ⟨sizeLine, lineBreak, hsize, hdata, hbreak, by simp, by omega, rfl⟩
    have hafter : offset + sizeLine.length + data.length + lineBreak.length + after.length ≤
        sizeBound := by omega
    have hrest := ih hafter
    rw [readFrom_eq_step, hstep]
    exact Reading.afterChunk_eq_complete_iff.2 ⟨content, hrest, rfl⟩

/-- The reader takes exactly the chunked bodies at the front of some bytes: it reads content from
the first `n` bytes when these are a chunked body with that content, and from no other number of
bytes. -/
theorem read_complete_iff {bytes content : Bytes} {n : Nat} (hlength : bytes.length < 2 ^ 64) :
    (∃ rest, read bytes = .complete content rest ∧ n + rest.length = bytes.length) ↔
      n ≤ bytes.length ∧ IsChunkedBody (bytes.take n) content := by
  constructor
  · rintro ⟨rest, hread, hn⟩
    obtain ⟨front, rfl, hfront⟩ := exists_of_readFrom hread
    have hfrontLength : front.length = n := by
      rw [List.length_append] at hn
      omega
    rw [← hfrontLength, List.take_left]
    exact ⟨by simp, hfront⟩
  · rintro ⟨hn, hbody⟩
    have hfront : (bytes.take n).length = n := List.length_take_of_le hn
    have hbound : 0 + (bytes.take n).length ≤ sizeBound := by
      rw [hfront]
      unfold sizeBound
      omega
    have hread := readFrom_of_isChunkedBody hbody hbound (bytes.drop n)
    rw [List.take_append_drop] at hread
    refine ⟨bytes.drop n, hread, ?_⟩
    rw [List.length_drop]
    omega

/-- Two chunks, the second with an extension, a trailer line, and a byte that belongs to what
follows. -/
theorem read_complete_two_chunks :
    let bytes := Utf8.encode "3\r\nabc\r\n1;x\n-\n0\r\nA: b\r\n\r\n!".toList
    bytes.length < 2 ^ 64 ∧ 25 ≤ bytes.length ∧
      IsChunkedBody (bytes.take 25) (Utf8.encode "abc-".toList) := by
  refine ⟨by decide +kernel, (read_complete_iff (by decide +kernel)).1 ⟨[0x21], ?_, ?_⟩⟩
  · decide +kernel
  · decide +kernel

end HttpConformance.ChunkedBody
