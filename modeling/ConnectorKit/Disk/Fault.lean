/-!
Why an operation on files fails, with the wording of the operating system.
-/

set_option autoImplicit false
set_option relaxedAutoImplicit false

namespace ConnectorKit.Disk

inductive Fault where
  | missing
  | wrongFormat
  | noPermission
  | busy
  | exists
  | notDirectory
  | isDirectory
  | invalid
  | nameTooLong
  | linkLoop
  | zeroInPath
  | zeroInArgument
  | notText
  deriving DecidableEq, Repr

/-- What the operating system says of a fault. -/
def Fault.words : Fault → String
  | .missing => "No such file or directory"
  | .wrongFormat => "Exec format error"
  | .noPermission => "Permission denied"
  | .busy => "Device or resource busy"
  | .exists => "File exists"
  | .notDirectory => "Not a directory"
  | .isDirectory => "Is a directory"
  | .invalid => "Invalid argument"
  | .nameTooLong => "File name too long"
  | .linkLoop => "Too many levels of symbolic links"
  | .zeroInPath => "file name contained an unexpected NUL byte"
  | .zeroInArgument => "nul byte found in provided data"
  | .notText => "stream did not contain valid UTF-8"

/-- The number that the operating system has for a fault; what never reached it has none. -/
def Fault.number? : Fault → Option Nat
  | .missing => some 2
  | .wrongFormat => some 8
  | .noPermission => some 13
  | .busy => some 16
  | .exists => some 17
  | .notDirectory => some 20
  | .isDirectory => some 21
  | .invalid => some 22
  | .nameTooLong => some 36
  | .linkLoop => some 40
  | .zeroInPath | .zeroInArgument | .notText => none

/-- The words for a fault, with its number if it has one. -/
def Fault.message (f : Fault) : String :=
  match f.number? with
  | some n => f.words ++ " (os error " ++ toString n ++ ")"
  | none => f.words

end ConnectorKit.Disk
