import HttpConformance.Message.Chunked

/-!
# One chunk of a chunked body

The reader of chunked bodies takes one chunk after the other.  This module gives its step, which
either ends the body or yields the data of one chunk, so that a statement about all bodies needs one
case for the end and one for a chunk.

Main definitions: `ChunkedBody.Step`, `ChunkedBody.step`.

Main result: `ChunkedBody.readFrom_eq_step`, that the reader is its step, repeated.
-/

namespace HttpConformance.ChunkedBody

/-! ## The step -/

/-- What the front of some bytes is to a chunked body: its end, or one of its chunks. -/
inductive Step where
  | stop (reading : Reading)
  | chunk (data : Bytes) (offset : Nat) (rest : Bytes)

/-- The step after a size line, when the data of the chunk begins at `start`. -/
def dataStep (start size : Nat) (text : Text) (bytes : Bytes) : Step :=
  if sizeBound ≤ start + size then .stop (.malformed (.sizeTooLarge text))
  else if bytes.length < size then .stop .incomplete
  else
    match readBreak (bytes.drop size) with
    | .cut => .stop .incomplete
    | .missing => .stop (.malformed .missingLineBreak)
    | .present rest =>
      .chunk (bytes.take size) (start + size + (bytes.length - size - rest.length)) rest

/-- The first step of reading a chunked body of which `offset` bytes have been read. -/
def step (offset : Nat) (bytes : Bytes) : Step :=
  match cutAt lf bytes with
  | none => .stop .incomplete
  | some (line, rest) =>
    let text := Utf8.decodeLossy (withoutLast cr line)
    match Numeral.readHex? sizeBound (sizeText text) with
    | none => .stop (.malformed (.invalidSizeLine text))
    | some 0 => .stop ((afterTrailer? rest).elim .incomplete (.complete []))
    | some size => dataStep (offset + line.length + 1) size (sizeText text) rest

/-- A chunk is read by its size line. -/
theorem step_of_size {offset size : Nat} {bytes line rest : Bytes}
    (hline : cutAt lf bytes = some (line, rest))
    (hsize : Numeral.readHex? sizeBound (sizeText (Utf8.decodeLossy (withoutLast cr line))) =
      some size) (hne : size ≠ 0) :
    step offset bytes = dataStep (offset + line.length + 1) size
      (sizeText (Utf8.decodeLossy (withoutLast cr line))) rest := by
  cases size with
  | zero => exact absurd rfl hne
  | succ size => simp only [step, hline, hsize]

/-- The reader takes one step, and goes on behind a chunk. -/
theorem readFrom_eq_step (offset : Nat) (bytes : Bytes) :
    readFrom offset bytes =
      match step offset bytes with
      | .stop reading => reading
      | .chunk data offset rest => (readFrom offset rest).afterChunk data := by
  rw [readFrom]
  split
  · rename_i hline
    simp only [step, hline]
  · rename_i line rest hline
    dsimp only
    split
    · rename_i hsize
      simp only [step, hline, hsize]
    · rename_i hsize
      simp only [step, hline, hsize]
      cases afterTrailer? rest <;> rfl
    · rename_i size hne hsize
      rw [step_of_size hline hsize hne, dataStep]
      split
      · rfl
      · split
        · rfl
        · split <;> rename_i hbreak <;> simp only [hbreak]

end HttpConformance.ChunkedBody
