import BrowserRelay.Failure

/-!
# What a system refuses

A system that keeps files, starts programs and carries text between them refuses some
requests, and each refusal has its own wording.
-/

namespace BrowserRelay

/-- Why a system refuses a request. -/
inductive Refusal where
  | missing
  | tooManyBytes
  | notPermitted
  | busy
  | alreadyThere
  | notDirectory
  | isDirectory
  | noSpace
  | brokenPipe
  | nameTooLong
  | strayNul
  deriving DecidableEq

namespace Refusal

/-- The wording of a refusal. -/
def message : Refusal → String
  | missing => "No such file or directory (os error 2)"
  | tooManyBytes => "Argument list too long (os error 7)"
  | notPermitted => "Permission denied (os error 13)"
  | busy => "Device or resource busy (os error 16)"
  | alreadyThere => "File exists (os error 17)"
  | notDirectory => "Not a directory (os error 20)"
  | isDirectory => "Is a directory (os error 21)"
  | noSpace => "No space left on device (os error 28)"
  | brokenPipe => "Broken pipe (os error 32)"
  | nameTooLong => "File name too long (os error 36)"
  | strayNul => "file name contained an unexpected NUL byte"

def failure (refusal : Refusal) : Failure := .io refusal.message

end Refusal

end BrowserRelay
