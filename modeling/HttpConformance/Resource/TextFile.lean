import HttpConformance.Failure
import HttpConformance.Text.Utf8

/-!
# Text files

A file that should hold a text is read as UTF-8, strictly.

Main definition: `textOfFile`.
-/

namespace HttpConformance

/-- The error of reading bytes as a text that they do not encode. -/
def notUtf8 : SystemError :=
  .plain "stream did not contain valid UTF-8"

/-- The text in a file, given what reading the file has yielded. -/
def textOfFile (content : Except SystemError Bytes) : Except SystemError Text :=
  match content with
  | .error error => .error error
  | .ok bytes =>
    match Utf8.decode? bytes with
    | some text => .ok text
    | none => .error notUtf8

end HttpConformance
