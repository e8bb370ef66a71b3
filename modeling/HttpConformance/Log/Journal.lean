import HttpConformance.Text.Basic

/-!
# Journals

A journal collects log entries and writes them to a file when there are enough of them, or when it
is told to. It performs no write itself but says what is to be written.

Main definitions: `Journal`, with `Journal.openFile`, `Journal.add` and `Journal.flush`.
-/

namespace HttpConformance

/-- Log entries that wait to be written, the file they go to, and the number of entries at which
they are written. -/
structure Journal where
  id : Text
  path : Option Text := none
  entries : List Text := []
  limit : Nat := 50
  deriving DecidableEq, Repr

/-- What is to be added at the end of a file. -/
structure Appending where
  path : Text
  content : Text
  deriving DecidableEq, Repr

namespace Journal

/-- The journal after a new file has been made for it. Entries that wait go to the new file. -/
def openFile (path : Text) (journal : Journal) : Journal :=
  { journal with path := some path }

/-- The entries as they are written, each ended by a line break. -/
def content (journal : Journal) : Text :=
  journal.entries.flatMap (· ++ ['\n'])

/-- Hands over the entries for writing, if there are enough of them or if it is forced to. The
journal is empty afterwards, whether the write succeeds or not. -/
def flush (force : Bool) (journal : Journal) : Journal × Option Appending :=
  match journal.path with
  | none => (journal, none)
  | some path =>
    if journal.entries = [] ∨ (!force ∧ journal.entries.length < journal.limit) then
      (journal, none)
    else ({ journal with entries := [] }, some ⟨path, journal.content⟩)

/-- Adds an entry, once there is a file for it. -/
def add (entry : Text) (journal : Journal) : Journal × Option Appending :=
  match journal.path with
  | none => (journal, none)
  | some _ => { journal with entries := journal.entries ++ [entry] }.flush false

end Journal

end HttpConformance
