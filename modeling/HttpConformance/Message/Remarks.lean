import HttpConformance.Log.Level
import HttpConformance.Message.Response

/-!
# Remarks on a response

What is passed over in reading a response, for the log.

Main definition: `Response.remarks`.
-/

namespace HttpConformance

/-- The lines after a status line that say nothing, when a field has been read before them or
not. -/
def silentLines (afterField : Bool) : List Bytes → List Bytes
  | [] => []
  | line :: rest =>
    if line = [] ∨ (afterField ∧ isContinuation line) then silentLines afterField rest
    else if (HeaderField.ofLine? line).isSome then silentLines true rest
    else line :: silentLines afterField rest

/-- How many bytes follow a body of the announced length, and that length. -/
def beyondContentLength? (fields : List HeaderField) (body : Bytes) : Option (Nat × Nat) :=
  if isChunked fields then none
  else
    match contentLength? fields with
    | some length => if length < body.length then some (body.length - length, length) else none
    | none => none

/-- What is passed over in reading a response. -/
def Response.remarks (raw : Bytes) : List (Level × Text) :=
  let parted := partedOf (selected raw)
  let lines := linesOf parted.head
  if (StatusLine.parse? (Utf8.decodeLossy (lines.headD []))).isNone then []
  else
    (silentLines false lines.tail).map (fun line =>
      (.debug, "Skipping response header line without colon: ".toList ++
        Text.quoted (Utf8.decodeLossy line))) ++
    ((beyondContentLength? (foldedFields lines.tail) parted.body).map fun (extra, length) =>
      (.trace, "Response carried ".toList ++ Numeral.write extra ++
        " bytes beyond its Content-Length of ".toList ++ Numeral.write length)).toList

end HttpConformance
