import HttpConformance.Check.Body
import HttpConformance.Log.Level
import HttpConformance.Resource.Path

/-!
# Golden resources

The expected contents that the body expectations of a test name, loaded from under a resource root.

Main definitions: `Golden.load`, `Golden.loadAll`.
-/

namespace HttpConformance.Golden

/-- A failure to find a golden resource. -/
def notFound (message : Text) : Failure :=
  ⟨.resourceNotFound, message⟩

/-- The failure of reading the file of a resource. -/
def unreadable (path : Text) (resource : ResourcePath) (error : SystemError) : Failure :=
  notFound ("Golden resource '".toList ++ path ++ "' could not be read from '".toList ++
    resource.fullPath ++ "': ".toList ++ error.message)

section

variable {m : Type → Type} [Monad m]

/-- The content of the resource that a path names under a root. -/
def load (readFile : Text → m (Except SystemError Bytes)) (log : Level → Text → m Unit)
    (root path : Text) : m (Except Failure Bytes) := do
  match ResourcePath.make root path with
  | .error error =>
    if let .escapesRoot rejected := error then
      log .debug ("Rejected resource path escaping the resource root: ".toList ++ rejected)
    return .error (notFound error.message)
  | .ok resource =>
    match ← readFile resource.fullPath with
    | .error error => return .error (unreadable path resource error)
    | .ok content =>
      log .trace ("Loaded golden resource ".toList ++ resource.fullPath ++ " (".toList ++
        Numeral.write content.length ++ " bytes)".toList)
      return .ok content

/-- The contents of the resources that some body expectations name, by their substituted paths. The
first resource that cannot be loaded ends the loading. -/
def loadAll (readFile : Text → m (Except SystemError Bytes)) (log : Level → Text → m Unit)
    (root : Text) (vars : Variables) :
    List BodyExpectation → m (Except Failure Goldens)
  | [] => return .ok []
  | .golden path :: rest => do
    let path := vars.substitute path
    match ← load readFile log root path with
    | .error failure => return .error failure
    | .ok content =>
      match ← loadAll readFile log root vars rest with
      | .error failure => return .error failure
      | .ok goldens => return .ok ((path, content) :: goldens)
  | _ :: rest => loadAll readFile log root vars rest

end

end HttpConformance.Golden
