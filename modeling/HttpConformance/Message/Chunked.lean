import HttpConformance.Message.Head
import HttpConformance.Text.Quoted

/-!
# Chunked bodies

A chunked body is a sequence of chunks, each with its size in hexadecimal on a line before it and a
line break after it, ended by a chunk of size zero and a trailer of lines up to a blank one. The
reader hands back what follows the body, and tells a body that is not all there yet from one that
can never become well formed.

Main definitions: `ChunkedBody.Reading`, `ChunkedBody.read`.
-/

namespace HttpConformance.ChunkedBody

/-- Why bytes are not the beginning of a chunked body. -/
inductive Error where
  | invalidSizeLine (line : Text)
  | sizeTooLarge (size : Text)
  | missingLineBreak
  deriving DecidableEq, Repr

/-- The wording of an error. -/
def Error.message : Error → Text
  | .invalidSizeLine line => "Invalid chunk size line: ".toList ++ Text.quoted line
  | .sizeTooLarge size => "Chunk size too large: ".toList ++ Text.quoted size
  | .missingLineBreak => "Chunk data is not followed by a line break".toList

/-- What bytes are, read as a chunked body. -/
inductive Reading where
  /-- More bytes are needed. -/
  | incomplete
  /-- No bytes that may follow make it a chunked body. -/
  | malformed (error : Error)
  /-- The content of the body, and what follows the body. -/
  | complete (content rest : Bytes)
  deriving DecidableEq, Repr

/-- The reading with a chunk before what it has read. -/
def Reading.afterChunk (chunk : Bytes) : Reading → Reading
  | .complete content rest => .complete (chunk ++ content) rest
  | reading => reading

/-- One more than the largest size and offset. -/
def sizeBound : Nat := 18446744073709551616

/-- The text in which a size line gives the size: what precedes an extension, without blanks. -/
def sizeText (line : Text) : Text :=
  Text.trim (line.takeWhile (· != ';'))

/-- What follows the trailer, a sequence of lines up to and with the first blank one. -/
def afterTrailer? (bytes : Bytes) : Option Bytes :=
  match h : cutAt lf bytes with
  | none => none
  | some (line, rest) =>
    have := length_lt_of_cutAt h
    if line = [] ∨ line = [cr] then some rest else afterTrailer? rest
termination_by bytes.length

/-- The line break after the data of a chunk. -/
inductive Break where
  | present (rest : Bytes)
  | cut
  | missing

/-- Reads the line break at the front of some bytes. -/
def readBreak (bytes : Bytes) : Break :=
  match [cr, lf].isPrefixOf? bytes, [lf].isPrefixOf? bytes with
  | some rest, _ => .present rest
  | none, some rest => .present rest
  | none, none => if bytes.length < 2 then .cut else .missing

/-- What stands behind a line break is shorter than the whole. -/
theorem length_lt_of_readBreak {bytes rest : Bytes} (h : readBreak bytes = .present rest) :
    rest.length < bytes.length := by
  unfold readBreak at h
  split at h
  · rename_i hfront
    rw [eq_append_of_isPrefixOf? hfront, ← Break.present.inj h]
    simp only [List.length_append, List.length_cons, List.length_nil]
    omega
  · rename_i hfront
    rw [eq_append_of_isPrefixOf? hfront, ← Break.present.inj h]
    simp only [List.length_append, List.length_cons, List.length_nil]
    omega
  · split at h <;> exact absurd h (by simp)

/-- Reads a chunked body of which `offset` bytes have been read. The data of a chunk must end before
the largest offset. -/
def readFrom (offset : Nat) (bytes : Bytes) : Reading :=
  match hline : cutAt lf bytes with
  | none => .incomplete
  | some (line, rest) =>
    let text := Utf8.decodeLossy (withoutLast cr line)
    match Numeral.readHex? sizeBound (sizeText text) with
    | none => .malformed (.invalidSizeLine text)
    | some 0 =>
      match afterTrailer? rest with
      | none => .incomplete
      | some rest => .complete [] rest
    | some size =>
      let start := offset + line.length + 1
      if sizeBound ≤ start + size then .malformed (.sizeTooLarge (sizeText text))
      else if rest.length < size then .incomplete
      else
        match hbreak : readBreak (rest.drop size) with
        | .cut => .incomplete
        | .missing => .malformed .missingLineBreak
        | .present after =>
          have hrest := length_lt_of_cutAt hline
          have hafter := length_lt_of_readBreak hbreak
          have : after.length < bytes.length := by
            rw [List.length_drop] at hafter
            omega
          (readFrom (start + size + (rest.length - size - after.length)) after).afterChunk
            (rest.take size)
termination_by bytes.length

/-- Reads a chunked body. -/
def read (bytes : Bytes) : Reading :=
  readFrom 0 bytes

end HttpConformance.ChunkedBody
