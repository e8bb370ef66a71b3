import HttpConformance.Text.Quoted

/-!
# Resource paths

A resource is named by a path under a root. Backslashes count as slashes, and a path that would
leave the root through `..` is refused.

Main definitions: `normalizeRoot`, `ResourcePath`, `ResourcePath.make`.
-/

namespace HttpConformance

/-- The root without blanks around it and without slashes at its end, except a root that is nothing
but slashes, which is one slash. -/
def normalizeRoot (root : Text) : Text :=
  let slashed := Text.replaceChar '\\' '/' (Text.trim root)
  if slashed ≠ [] ∧ dropEndWhile (· == '/') slashed = [] then ['/']
  else dropEndWhile (· == '/') slashed

/-- A path under a root, and the two put together. -/
structure ResourcePath where
  root : Text
  path : Text
  fullPath : Text
  deriving DecidableEq, Repr

namespace ResourcePath

/-- Why a path names no resource. -/
inductive Error where
  | escapesRoot (path : Text)
  | namesNoFile (path : Text)
  deriving DecidableEq, Repr

/-- The wording of an error. -/
def Error.message : Error → Text
  | .escapesRoot path =>
    "Resource path ".toList ++ Text.quoted path ++ " escapes the resource root".toList
  | .namesNoFile path =>
    "Resource path ".toList ++ Text.quoted path ++ " does not name a file".toList

/-- The names that remain of some segments, last one first, below the names already kept: empty
segments and `.` count for nothing, and `..` takes back the name before it. -/
def keep (kept : List Text) : List Text → Option (List Text)
  | [] => some kept
  | segment :: rest =>
    if segment = [] ∨ segment = ['.'] then keep kept rest
    else if segment = ['.', '.'] then
      match kept with
      | [] => none
      | _ :: above => keep above rest
    else keep (segment :: kept) rest

/-- The names of a path, in order. -/
def namesOf? (path : Text) : Option (List Text) :=
  (keep [] (path.splitOn '/')).map List.reverse

/-- A path put under a root. -/
def underRoot (root path : Text) : Text :=
  if root = [] ∨ root = ['.'] then path
  else if root = ['/'] then '/' :: path
  else root ++ '/' :: path

/-- The resource that a path names under a root. -/
def make (root path : Text) : Except Error ResourcePath :=
  let slashed := Text.replaceChar '\\' '/' (Text.trim path)
  match namesOf? slashed with
  | none => .error (.escapesRoot slashed)
  | some [] => .error (.namesNoFile path)
  | some names =>
    let cleaned := Text.join ['/'] names
    let root := normalizeRoot root
    .ok ⟨root, cleaned, underRoot root cleaned⟩

end ResourcePath

end HttpConformance
