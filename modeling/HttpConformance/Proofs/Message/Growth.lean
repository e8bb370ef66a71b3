import HttpConformance.Message.Framing
import HttpConformance.Proofs.Message.BlankLine
import HttpConformance.Proofs.Message.ChunkedGrammar

/-!
# Messages that grow

Bytes arrive piece by piece and are looked at after each piece.  What a longer buffer says depends
on what a shorter one has said: a blank line, the end of the interim responses, a chunk and a
complete response are found once and for all, because no later byte can bring about an earlier
place.

Main definitions: `headEnd?`, `finalOffset?`.

Main results:

- `partMessage?_append`, `finalResponse?_append`: the head and the final response stay where they
  were found.
- `ChunkedBody.read_append`: a chunked body that is complete or malformed stays so.
- `isBodyComplete_append`, `isComplete_append`: a body, or a response, that is all there stays so.
- `completeness_grows`: whatever has been found in a buffer is found in every longer one.
-/

namespace HttpConformance

/-! ## Chunked bodies -/

namespace ChunkedBody

/-- The line break with more bytes behind it. -/
def Break.followedBy (more : Bytes) : Break → Break
  | .present rest => .present (rest ++ more)
  | .cut => .cut
  | .missing => .missing

/-- The reading with more bytes behind what has been read. -/
def Reading.followedBy (more : Bytes) : Reading → Reading
  | .complete content rest => .complete content (rest ++ more)
  | .incomplete => .incomplete
  | .malformed error => .malformed error

/-- The step with more bytes behind what has been read. -/
def Step.followedBy (more : Bytes) : Step → Step
  | .stop reading => .stop (reading.followedBy more)
  | .chunk data offset rest => .chunk data offset (rest ++ more)

/-- A line break that is not cut off is read alike when more bytes come. -/
theorem readBreak_append {bytes : Bytes} (h : readBreak bytes ≠ .cut) (more : Bytes) :
    readBreak (bytes ++ more) = (readBreak bytes).followedBy more := by
  cases hbreak : readBreak bytes with
  | cut => exact absurd hbreak h
  | present rest =>
    obtain ⟨lineBreak, hlineBreak, rfl⟩ := readBreak_eq_present_iff.1 hbreak
    exact readBreak_eq_present_iff.2 ⟨lineBreak, hlineBreak, List.append_assoc _ _ _⟩
  | missing =>
    rcases bytes with _ | ⟨a, _ | ⟨b, tail⟩⟩
    · cases hbreak
    · by_cases ha : lf = a <;> simp [readBreak, List.isPrefixOf?, ha] at hbreak
    · by_cases ha : lf = a <;> by_cases hb : lf = b <;> by_cases hcr : cr = a <;>
        simp_all [readBreak, List.isPrefixOf?, Break.followedBy]

/-- What is decided about the data of a chunk stays decided when more bytes come. -/
theorem dataStep_append {start size : Nat} {text : Text} {bytes : Bytes}
    (h : dataStep start size text bytes ≠ .stop .incomplete) (more : Bytes) :
    dataStep start size text (bytes ++ more) =
      (dataStep start size text bytes).followedBy more := by
  unfold dataStep at h ⊢
  by_cases hbound : sizeBound ≤ start + size
  · rw [if_pos hbound, if_pos hbound]
    rfl
  · rw [if_neg hbound] at h
    rw [if_neg hbound, if_neg hbound]
    by_cases hlength : bytes.length < size
    · rw [if_pos hlength] at h
      exact absurd rfl h
    · rw [if_neg hlength] at h
      have hmore : ¬ (bytes ++ more).length < size := by
        rw [List.length_append]
        omega
      have hle : size ≤ bytes.length := by omega
      rw [if_neg hlength, if_neg hmore, List.drop_append_of_le_length hle,
        List.take_append_of_le_length hle]
      cases hbreak : readBreak (bytes.drop size) with
      | cut =>
        rw [hbreak] at h
        exact absurd rfl h
      | missing =>
        rw [readBreak_append (by simp [hbreak]), hbreak]
        rfl
      | present rest =>
        rw [readBreak_append (by simp [hbreak]), hbreak]
        simp only [Break.followedBy, Step.followedBy, List.length_append, Step.chunk.injEq,
          true_and, and_true]
        omega

/-- More bytes do not change a step that did not wait for them. -/
theorem step_append {offset : Nat} {bytes : Bytes} (h : step offset bytes ≠ .stop .incomplete)
    (more : Bytes) : step offset (bytes ++ more) = (step offset bytes).followedBy more := by
  cases hcut : cutAt lf bytes with
  | none => exact absurd (by simp only [step, hcut]) h
  | some parts =>
    obtain ⟨line, rest⟩ := parts
    have hmore := cutAt_append hcut more
    cases hsize :
      Numeral.readHex? sizeBound (sizeText (Utf8.decodeLossy (withoutLast cr line))) with
    | none =>
      simp only [step, hcut, hmore, hsize]
      rfl
    | some size =>
      by_cases hzero : size = 0
      · subst hzero
        cases htail : afterTrailer? rest with
        | none => exact absurd (by simp only [step, hcut, hsize, htail]; rfl) h
        | some tail =>
          obtain ⟨trailer, htrailer, rfl⟩ := afterTrailer?_eq_some_iff.1 htail
          have htailMore : afterTrailer? (trailer ++ tail ++ more) = some (tail ++ more) :=
            afterTrailer?_eq_some_iff.2 ⟨trailer, htrailer, List.append_assoc _ _ _⟩
          simp only [step, hcut, hmore, hsize, htail, htailMore]
          rfl
      · rw [step_of_size hcut hsize hzero] at h
        rw [step_of_size hcut hsize hzero, step_of_size hmore hsize hzero]
        exact dataStep_append h more

/-- More bytes do not change whether a reading is incomplete. -/
theorem Reading.followedBy_eq_incomplete_iff {more : Bytes} {reading : Reading} :
    reading.followedBy more = .incomplete ↔ reading = .incomplete := by
  cases reading <;> simp [Reading.followedBy]

/-- A chunk in front does not change whether a reading is incomplete. -/
theorem Reading.afterChunk_eq_incomplete_iff {data : Bytes} {reading : Reading} :
    reading.afterChunk data = .incomplete ↔ reading = .incomplete := by
  cases reading <;> simp [Reading.afterChunk]

/-- A chunk in front of a reading and bytes behind it do not get in each other's way. -/
theorem Reading.afterChunk_followedBy (data more : Bytes) (reading : Reading) :
    (reading.followedBy more).afterChunk data = (reading.afterChunk data).followedBy more := by
  cases reading <;> rfl

/-- More bytes do not change what is read of a chunked body that did not wait for them. -/
theorem readFrom_append {offset : Nat} {bytes : Bytes} (h : readFrom offset bytes ≠ .incomplete)
    (more : Bytes) : readFrom offset (bytes ++ more) = (readFrom offset bytes).followedBy more := by
  induction hn : bytes.length using Nat.strong_induction_on generalizing offset bytes with
  | _ n ih =>
    subst hn
    rw [readFrom_eq_step] at h
    rw [readFrom_eq_step offset (bytes ++ more), readFrom_eq_step offset bytes]
    cases hstep : step offset bytes with
    | stop reading =>
      rw [hstep] at h
      have hdone : step offset bytes ≠ .stop .incomplete := by
        rw [hstep]
        simpa using h
      rw [step_append hdone, hstep]
      rfl
    | chunk data offset' after =>
      rw [hstep] at h
      have hrest := mt Reading.afterChunk_eq_incomplete_iff.2 h
      have hdone : step offset bytes ≠ .stop .incomplete := by
        rw [hstep]
        simp
      have hshorter : after.length < bytes.length := length_lt_of_step hstep
      rw [step_append hdone, hstep]
      dsimp only [Step.followedBy]
      rw [ih _ hshorter hrest rfl, Reading.afterChunk_followedBy]

/-- What is decided about a body stays decided when more bytes come. -/
theorem read_append {bytes : Bytes} (h : read bytes ≠ .incomplete) (more : Bytes) :
    read (bytes ++ more) = (read bytes).followedBy more :=
  readFrom_append h more

/-- A chunked body that has not ended had not ended before. -/
theorem read_eq_incomplete_of_append {bytes more : Bytes}
    (h : read (bytes ++ more) = .incomplete) : read bytes = .incomplete := by
  by_contra hread
  rw [read_append hread] at h
  exact hread (Reading.followedBy_eq_incomplete_iff.1 h)

end ChunkedBody

/-! ## Heads and interim responses -/

theorem partMessage?_append {message : Bytes} {parted : Parted UInt8}
    (h : partMessage? message = some parted) (more : Bytes) :
    partMessage? (message ++ more) = some { parted with body := parted.body ++ more } :=
  partAtBlankLine?_append (by decide) h more

/-- The length of the head of a message, and of the blank line behind it. -/
def headEnd? (message : Bytes) : Option (Nat × Nat) :=
  (partMessage? message).map fun parted => (parted.head.length, parted.gap)

/-- The final response is what is left of a message. -/
theorem finalResponse?_suffix {message final : Bytes} (h : finalResponse? message = some final) :
    final <:+ message := by
  fun_induction finalResponse? message with
  | case1 => cases h
  | case2 => cases h
  | case3 message line after hcut hinterim parted hparted hshorter ih =>
    obtain ⟨gap, -, -, heq⟩ := eq_append_of_partAtBlankLine? (by decide) hparted
    have hbody : parted.body <:+ message := ⟨parted.head ++ gap, heq.symm⟩
    exact (ih h).trans hbody
  | case4 =>
    cases h
    exact List.suffix_refl final

/-- More bytes at the end of a message stand at the end of its final response. -/
theorem finalResponse?_append {message final : Bytes} (h : finalResponse? message = some final)
    (more : Bytes) : finalResponse? (message ++ more) = some (final ++ more) := by
  fun_induction finalResponse? message with
  | case1 => cases h
  | case2 => cases h
  | case3 message line after hcut hinterim parted hparted hshorter ih =>
    rw [finalResponse?, cutAt_append hcut more]
    simp only [hinterim, if_true]
    have hmore := partMessage?_append hparted more
    split
    · rename_i hnone
      rw [hmore] at hnone
      cases hnone
    · rename_i found hfound
      rw [hmore] at hfound
      cases hfound
      exact ih h
  | case4 message line after hcut hfinal =>
    cases h
    rw [finalResponse?, cutAt_append hcut more]
    simp only [hfinal]
    rfl

/-- How many bytes the interim responses before the final one take. -/
def finalOffset? (message : Bytes) : Option Nat :=
  (finalResponse? message).map fun final => message.length - final.length

/-- The final response stays where it is when more bytes come. -/
theorem finalOffset?_append {message : Bytes} {offset : Nat}
    (h : finalOffset? message = some offset) (more : Bytes) :
    finalOffset? (message ++ more) = some offset := by
  obtain ⟨final, hfinal, rfl⟩ := Option.map_eq_some_iff.1 h
  have hmore := finalResponse?_append hfinal more
  rw [finalOffset?, hmore, Option.map_some, List.length_append, List.length_append,
    Nat.add_sub_add_right]

/-- The end of a head stays where it is when more bytes come. -/
theorem headEnd?_append {message : Bytes} {found : Nat × Nat} (h : headEnd? message = some found)
    (more : Bytes) : headEnd? (message ++ more) = some found := by
  obtain ⟨parted, hparted, rfl⟩ := Option.map_eq_some_iff.1 h
  rw [headEnd?, partMessage?_append hparted more]
  rfl

/-! ## Complete responses -/

/-- A body that is all there stays so. -/
theorem isBodyComplete_append {fields : List HeaderField} {body : Bytes}
    (h : isBodyComplete fields body = true) (more : Bytes) :
    isBodyComplete fields (body ++ more) = true := by
  unfold isBodyComplete at h ⊢
  by_cases hchunked : isChunked fields = true
  · rw [if_pos hchunked, decide_eq_true_eq] at h
    rw [if_pos hchunked, decide_eq_true_eq, ChunkedBody.read_append h]
    exact mt ChunkedBody.Reading.followedBy_eq_incomplete_iff.1 h
  · rw [if_neg hchunked, Option.any_eq_true_iff_get] at h
    rw [if_neg hchunked, Option.any_eq_true_iff_get]
    obtain ⟨hsome, hle⟩ := h
    rw [decide_eq_true_eq] at hle
    refine ⟨hsome, decide_eq_true ?_⟩
    rw [List.length_append]
    omega

/-- Bytes hold a complete response when there is a final response with a whole head, and its body is
all there or there is none. -/
theorem isComplete_iff {isHead : Bool} {received : Bytes} :
    isComplete isHead received = true ↔
      ∃ final parted, finalResponse? received = some final ∧ partMessage? final = some parted ∧
        (isHead = true ∨ (statusCodeOf? (firstLine parted.head)).any isBodiless = true ∨
          isBodyComplete (fieldsOf parted.head) parted.body = true) := by
  unfold isComplete
  constructor
  · intro h
    split at h
    · cases h
    · rename_i parted hparted
      obtain ⟨final, hfinal, hpart⟩ := Option.bind_eq_some_iff.1 hparted
      simp only [Bool.or_eq_true, or_assoc] at h
      exact ⟨final, parted, hfinal, hpart, h⟩
  · rintro ⟨final, parted, hfinal, hpart, h⟩
    simp only [hfinal, Option.bind_some, hpart, Bool.or_eq_true, or_assoc]
    exact h

/-- A response that is all there stays so. -/
theorem isComplete_append {isHead : Bool} {received : Bytes}
    (h : isComplete isHead received = true) (more : Bytes) :
    isComplete isHead (received ++ more) = true := by
  obtain ⟨final, parted, hfinal, hpart, hcomplete⟩ := isComplete_iff.1 h
  refine isComplete_iff.2 ⟨_, _, finalResponse?_append hfinal more, partMessage?_append hpart more,
    ?_⟩
  exact hcomplete.imp_right (Or.imp_right fun hbody => isBodyComplete_append hbody more)

/-- Bytes at the front of an incomplete response are an incomplete response. -/
theorem isComplete_eq_false_of_front {isHead : Bool} {front bytes : Bytes}
    (hfront : front <+: bytes) (h : isComplete isHead bytes = false) :
    isComplete isHead front = false := by
  obtain ⟨more, rfl⟩ := hfront
  cases hcomplete : isComplete isHead front with
  | false => rfl
  | true =>
    rw [isComplete_append hcomplete more] at h
    cases h

theorem isComplete_nil (isHead : Bool) : isComplete isHead [] = false := by
  rw [isComplete, finalResponse?, cutAt]
  rfl

/-- A response that is complete when it answers another request is complete when it answers HEAD. -/
theorem isComplete_head_of_isComplete {isHead : Bool} {received : Bytes}
    (h : isComplete isHead received = true) : isComplete true received = true := by
  obtain ⟨final, parted, hfinal, hpart, -⟩ := isComplete_iff.1 h
  exact isComplete_iff.2 ⟨final, parted, hfinal, hpart, Or.inl rfl⟩

/-- Whatever has been found in a buffer is found in every longer one: that the response is complete,
where the final response begins, and where a head ends.  What completes a response to another
request completes one to HEAD. -/
theorem completeness_grows (received more : Bytes) (isHead : Bool) :
    (isComplete isHead received = true → isComplete isHead (received ++ more) = true) ∧
    (∀ offset, finalOffset? received = some offset →
      finalOffset? (received ++ more) = some offset) ∧
    (∀ found, headEnd? received = some found → headEnd? (received ++ more) = some found) ∧
    (isComplete false received = true → isComplete true received = true) := by
  refine ⟨?_, ?_, ?_, ?_⟩
  · intro h
    exact isComplete_append h more
  · intro offset h
    exact finalOffset?_append h more
  · intro found h
    exact headEnd?_append h more
  · intro h
    exact isComplete_head_of_isComplete h

/-- An interim response before one of two bytes, which are all there. -/
def interimThenFinal : Bytes :=
  "HTTP/1.1 100 Continue\r\n\r\nHTTP/1.1 200 OK\r\nContent-Length: 2\r\n\r\nok".toUTF8.toList

/-- A response behind an interim one is complete and stays so, and its parts stay where they are. -/
theorem completeness_grows_past_interim :
    isComplete false interimThenFinal = true ∧
    isComplete false (interimThenFinal ++ [lf, lf]) = true ∧
    finalOffset? (interimThenFinal ++ [lf, lf]) = some 25 ∧
    headEnd? (interimThenFinal ++ [lf, lf]) = some (21, 4) ∧
    isComplete true interimThenFinal = true := by
  have hcomplete : isComplete false interimThenFinal = true := by decide +kernel
  have hoffset : finalOffset? interimThenFinal = some 25 := by decide +kernel
  have hhead : headEnd? interimThenFinal = some (21, 4) := by decide +kernel
  obtain ⟨hgrow, hstay, hend, htoHead⟩ := completeness_grows interimThenFinal [lf, lf] false
  exact ⟨hcomplete, hgrow hcomplete, hstay 25 hoffset, hend (21, 4) hhead, htoHead hcomplete⟩

end HttpConformance
