import HttpConformance.Host.Failure
import HttpConformance.Machine

/-!
# The files of the host

Main definition: `Host.files`.
-/

namespace HttpConformance.Host

/-- What is found under a path. -/
def kind (path : Text) : IO FileKind := do
  if '\x00' ∈ path then return .missing
  try
    match (← (← IO.FS.realPath (String.ofList path)).metadata).type with
    | .file => return .file
    | _ => return .other
  catch _ =>
    return .missing

/-- The directory that a path is in, empty for the current one. -/
def directoryOf (path : Text) : Text :=
  dropEndWhile (· != '/') (dropEndWhile (· == '/') path)

/-- Makes an empty file, and the directories that lead to it. -/
def create (path : Text) : IO Unit := do
  let directory := directoryOf path
  if directory ≠ [] then
    IO.FS.createDirAll (String.ofList directory)
  IO.FS.writeFile (String.ofList path) ""

/-- The error of a file that is not there. -/
def notFound : IO.Error :=
  .noFileOrDirectory "" 2 ""

/-- Adds bytes at the end of a file that is there. -/
def append (path : Text) (bytes : Bytes) : IO Unit := do
  if (← kind path) = .missing then throw notFound
  let handle ← IO.FS.Handle.mk (String.ofList path) .append
  handle.write ⟨bytes.toArray⟩

/-- What an action on the file of a path yields, or the error that it ends in. -/
def onFile {α : Type} (path : Text) (action : IO α) : IO (Except SystemError α) :=
  if '\x00' ∈ path then return .error .nulInName else guarded action

/-- What can be done with the files of the host. -/
def files : Files IO where
  kind := kind
  read path := onFile path do return (← IO.FS.readBinFile (String.ofList path)).toList
  create path := onFile path (create path)
  append path bytes := onFile path (append path bytes)

end HttpConformance.Host
