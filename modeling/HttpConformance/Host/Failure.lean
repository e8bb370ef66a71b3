import HttpConformance.Failure

/-!
# Errors of the host

How an error of the host system is told to the library: by its number, for which there is a wording.

Main definitions: `Host.systemError`, `Host.guarded`.
-/

namespace HttpConformance.Host

/-- The wordings of the errors that files and connections end in, by number. -/
def wordings : List (Nat × String) :=
  [(2, "No such file or directory"), (13, "Permission denied"), (17, "File exists"),
    (20, "Not a directory"), (21, "Is a directory"), (28, "No space left on device"),
    (32, "Broken pipe"), (36, "File name too long"), (98, "Address already in use"),
    (99, "Cannot assign requested address"), (101, "Network is unreachable"),
    (103, "Software caused connection abort"), (104, "Connection reset by peer"),
    (110, "Connection timed out"), (111, "Connection refused"), (113, "No route to host")]

/-- The kinds of the errors that connections end in, by number. -/
def kinds : List (Nat × SystemErrorKind) :=
  [(32, .brokenPipe), (103, .connectionAborted), (104, .connectionReset), (110, .timedOut),
    (111, .connectionRefused)]

/-- The number of an error and what the host says about it. -/
def codeOf? : IO.Error → Option (UInt32 × String)
  | .alreadyExists _ code details | .otherError code details | .resourceBusy code details
  | .resourceVanished code details | .unsupportedOperation code details
  | .hardwareFault code details | .unsatisfiedConstraints code details
  | .illegalOperation code details | .protocolError code details | .timeExpired code details
  | .interrupted _ code details | .noFileOrDirectory _ code details
  | .invalidArgument _ code details | .permissionDenied _ code details
  | .resourceExhausted _ code details | .inappropriateType _ code details
  | .noSuchThing _ code details => some (code, details)
  | .unexpectedEof | .userError _ => none

/-- The number of an error, which may be given with a minus sign. -/
def numberOf (code : UInt32) : Nat :=
  min code.toNat (4294967296 - code.toNat)

/-- An error of the host. -/
def systemError (error : IO.Error) : SystemError :=
  match codeOf? error with
  | none => .plain error.toString
  | some (code, details) =>
    let number := numberOf code
    ⟨(kinds.lookup number).getD .other,
      ((wordings.lookup number).getD details ++ " (os error " ++ toString number ++ ")").toList⟩

/-- What an action yields, or the error that it ends in. -/
def guarded {α : Type} (action : IO α) : IO (Except SystemError α) := do
  try
    return .ok (← action)
  catch error =>
    return .error (systemError error)

end HttpConformance.Host
