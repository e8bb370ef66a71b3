import HttpConformance.CommandLine.Basic

/-!
# File trees

Files and directories as a value. A path is walked name by name from the root, or from the current
directory if it does not begin with a slash; every name but the last one must be that of a
directory.

Main definitions: `FileTree`, with `kind`, `read`, `create`, `append` and `remove`, and
`FileTree.ofEntries`.
-/

namespace HttpConformance.Simulation

/-! ## Faults -/

/-- Why something cannot be done with a path. -/
inductive FileFault where
  | notFound
  | notDirectory
  | isDirectory
  | alreadyThere
  | nameTooLong
  | nulInPath
  deriving DecidableEq, Repr

/-- The wording of a fault. -/
def FileFault.toSystemError : FileFault → SystemError
  | .notFound => .plain "No such file or directory (os error 2)"
  | .notDirectory => .plain "Not a directory (os error 20)"
  | .isDirectory => .plain "Is a directory (os error 21)"
  | .alreadyThere => .plain "File exists (os error 17)"
  | .nameTooLong => .plain "File name too long (os error 36)"
  | .nulInPath => .nulInName

/-! ## Trees -/

/-- What is found under a name. -/
inductive Node where
  | file (content : Bytes)
  | directory
  deriving DecidableEq, Repr

/-- Nodes by the names that lead to them, the last name first, and the names that lead to the
current directory. -/
structure FileTree where
  nodes : List (List Text × Node)
  current : List Text
  deriving DecidableEq, Repr

namespace FileTree

/-- The tree with nothing in it but the current directory and the one that it is in. -/
def empty : FileTree :=
  let home : List Text := ["home".toList]
  let work : List Text := "work".toList :: home
  ⟨[(work, .directory), (home, .directory)], work⟩

/-- What the names lead to; no names lead to the root. -/
def node? (tree : FileTree) (names : List Text) : Option Node :=
  if names = [] then some .directory else tree.nodes.lookup names

/-- The tree with a node in place of any that was there. -/
def put (tree : FileTree) (names : List Text) (node : Node) : FileTree :=
  { tree with nodes := (names, node) :: tree.nodes.filter (·.1 ≠ names) }

/-! ## Walking -/

/-- The largest number of bytes in a name. -/
def maxName : Nat := 255

/-- The largest number of bytes in a path. -/
def maxPath : Nat := 4095

/-- Walks one segment of a path. An empty segment, which only asks for a directory, may also follow
a name that is not there. -/
def walkSegment (tree : FileTree) (names : List Text) (segment : Text) :
    Except FileFault (List Text) :=
  match tree.node? names with
  | some (.file _) => .error .notDirectory
  | none => if segment = [] then .ok names else .error .notFound
  | some .directory =>
    if segment = [] ∨ segment = ['.'] then .ok names
    else if segment = ['.', '.'] then .ok names.tail
    else if maxName < (Utf8.encode segment).length then .error .nameTooLong
    else .ok (segment :: names)

/-- Walks some segments of a path, if the path as a whole can be walked. -/
def walk (tree : FileTree) (path : Text) (segments : List Text) : Except FileFault (List Text) :=
  if '\x00' ∈ path then .error .nulInPath
  else if path = [] then .error .notFound
  else if maxPath < (Utf8.encode path).length then .error .nameTooLong
  else segments.foldlM tree.walkSegment (if path.head? = some '/' then [] else tree.current)

/-- The names that a path leads to, of which the last one may not be there. -/
def resolve (tree : FileTree) (path : Text) : Except FileFault (List Text) :=
  tree.walk path (path.splitOn '/')

/-- The names of the directory in which a path has its last name. -/
def resolveParent (tree : FileTree) (path : Text) : Except FileFault (List Text) :=
  tree.walk path ((dropEndWhile (· = []) (path.splitOn '/')).dropLast ++ [['.']])

/-! ## Looking -/

/-- What is found under a path. -/
def kind (tree : FileTree) (path : Text) : FileKind :=
  match (tree.resolve path).toOption.bind tree.node? with
  | some (.file _) => .file
  | some .directory => .other
  | none => .missing

/-- The content of a file. -/
def read (tree : FileTree) (path : Text) : Except FileFault Bytes := do
  match tree.node? (← tree.resolve path) with
  | some (.file content) => .ok content
  | some .directory => .error .isDirectory
  | none => .error .notFound

/-! ## Directories -/

/-- Makes a directory. -/
def makeDirectory (tree : FileTree) (path : Text) : Except FileFault FileTree := do
  let names ← tree.resolve path
  match tree.node? names with
  | some _ => .error .alreadyThere
  | none => .ok (tree.put names .directory)

/-- The segments of a path that count: all but empty ones and points, except at the front. -/
def segmentsOf (path : Text) : List Text :=
  let segments := path.splitOn '/'
  segments.take 1 ++ segments.tail.filter fun segment => segment ≠ [] ∧ segment ≠ ['.']

/-- The tree after an attempt to change it, and the fault that the attempt has ended in. -/
def settle (tree : FileTree) : Except FileFault FileTree → FileTree × Option FileFault
  | .ok tree => (tree, none)
  | .error fault => (tree, some fault)

/-- The tree after an attempt to make a directory, which may have been there. -/
def settleDirectory (tree : FileTree) (path : Text) (made : Except FileFault FileTree) :
    FileTree × Option FileFault :=
  if tree.kind path = .other then (tree, none) else tree.settle made

/-- Makes a directory and those that lead to it, given the segments of its path, the last one
first. What has been made before a fault stays. -/
def makeDirectories (tree : FileTree) : List Text → FileTree × Option FileFault
  | [] | [[]] => (tree, none)
  | segment :: outer =>
    let path := Text.join ['/'] (segment :: outer).reverse
    match tree.makeDirectory path with
    | .error .notFound =>
      match makeDirectories tree outer with
      | (tree, none) => tree.settleDirectory path (tree.makeDirectory path)
      | failed => failed
    | made => tree.settleDirectory path made

/-- The segments of the directory that a path is in, the last one first. -/
def parentSegments (path : Text) : List Text :=
  (segmentsOf path).reverse.tail

/-! ## Files -/

/-- Makes an empty file, in place of any that is there, in a directory that is there. A path that
ends in a slash is that of a directory, whatever its last name leads to. -/
def createFile (tree : FileTree) (path : Text) : Except FileFault FileTree := do
  if path.getLast? = some '/' then
    let _ ← tree.resolveParent path
    .error .isDirectory
  else
    let names ← tree.resolve path
    match tree.node? names with
    | some .directory => .error .isDirectory
    | _ => .ok (tree.put names (.file []))

/-- Makes an empty file, and the directories that lead to it, which stay when the file cannot be
made. -/
def create (tree : FileTree) (path : Text) : FileTree × Option FileFault :=
  match tree.makeDirectories (parentSegments path) with
  | (tree, none) => tree.settle (tree.createFile path)
  | failed => failed

/-- Adds bytes at the end of a file. -/
def append (tree : FileTree) (path : Text) (bytes : Bytes) : Except FileFault FileTree := do
  let names ← tree.resolve path
  match tree.node? names with
  | some (.file content) => .ok (tree.put names (.file (content ++ bytes)))
  | some .directory => .error .isDirectory
  | none => .error .notFound

/-- Takes a file away. -/
def remove (tree : FileTree) (path : Text) : Except FileFault FileTree := do
  let names ← tree.resolve path
  match tree.node? names with
  | some (.file _) => .ok { tree with nodes := tree.nodes.filter (·.1 ≠ names) }
  | some .directory => .error .isDirectory
  | none => .error .notFound

/-! ## Making trees -/

/-- Makes a file with the given content, or a directory if there is none. An entry that cannot be
made is passed over. -/
def addEntry (tree : FileTree) (entry : Text × Option Bytes) : FileTree :=
  match entry with
  | (path, none) => (tree.makeDirectories (segmentsOf path).reverse).1
  | (path, some content) =>
    match tree.create path with
    | (tree, none) => (tree.settle (tree.append path content)).1
    | (tree, some _) => tree

/-- The tree of some files and directories. -/
def ofEntries (entries : List (Text × Option Bytes)) : FileTree :=
  entries.foldl addEntry empty

end FileTree

end HttpConformance.Simulation
