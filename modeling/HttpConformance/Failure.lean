import HttpConformance.Text.Basic

/-!
# Failures

Why a test could not be carried out, as opposed to what it found. A failure has a kind, which says
who is to blame, and a message for the reader of a report.

Main definitions:

- `Failure`, `FailureKind` and `Failure.describe`.
- `SystemError` and `Failure.ofSystemError`: an error reported by the operating system, and the
  connection failure that it amounts to.
-/

namespace HttpConformance

/-! ## Kinds -/

/-- How a connection failed. -/
inductive ConnectionFault where
  | refused
  | connectTimeout
  | readTimeout
  | reset
  | io
  deriving DecidableEq, Repr

/-- What is wrong with the bytes of a response. -/
inductive ResponseFault where
  | empty
  | invalidStatusLine
  | invalidChunkedBody
  deriving DecidableEq, Repr

/-- Who is to blame for a failure. -/
inductive FailureKind where
  | connection (fault : ConnectionFault)
  | malformedResponse (fault : ResponseFault)
  | resourceNotFound
  | configuration
  | redirect
  deriving DecidableEq, Repr

/-- The name of the category of a kind. -/
def FailureKind.category : FailureKind → Text
  | .connection _ => "ConnectionError".toList
  | .malformedResponse _ => "MalformedResponseError".toList
  | .resourceNotFound => "ResourceNotFoundError".toList
  | .configuration => "ConfigurationError".toList
  | .redirect => "RedirectError".toList

/-- Why a test could not be carried out. -/
structure Failure where
  kind : FailureKind
  message : Text
  deriving DecidableEq, Repr

/-- The failure in one line: its category and its message. -/
def Failure.describe (failure : Failure) : Text :=
  failure.kind.category ++ [':', ' '] ++ failure.message

/-- A failure of the test's own configuration. -/
def Failure.configuration (message : Text) : Failure :=
  ⟨.configuration, message⟩

/-! ## Errors of the operating system -/

/-- The kinds of system error that are told apart. -/
inductive SystemErrorKind where
  | connectionRefused
  | connectionReset
  | connectionAborted
  | brokenPipe
  | timedOut
  | other
  deriving DecidableEq, Repr

/-- An error reported by the operating system. -/
structure SystemError where
  kind : SystemErrorKind
  message : Text
  deriving DecidableEq, Repr

/-- An error without a kind of its own. -/
def SystemError.plain (message : String) : SystemError :=
  ⟨.other, message.toList⟩

/-- The error of a name with the character U+0000 in it, which the operating system would take for
the end of the name. -/
def SystemError.nulInName : SystemError :=
  .plain "file name contained an unexpected NUL byte"

/-- How a connection failed that ended in a system error. -/
def SystemErrorKind.fault : SystemErrorKind → ConnectionFault
  | .connectionRefused => .refused
  | .connectionReset => .reset
  | .connectionAborted => .reset
  | .brokenPipe => .reset
  | .timedOut => .readTimeout
  | .other => .io

/-- The failure that a system error amounts to when it arises from talking to a server. -/
def Failure.ofSystemError (error : SystemError) (context : Text) : Failure :=
  ⟨.connection error.kind.fault, context ++ [':', ' '] ++ error.message⟩

end HttpConformance
