import DiagnosticRepair.Text.DecimalDigit
import DiagnosticRepair.Text.Quoted
import DiagnosticRepair.Path.Basic

namespace DiagnosticRepair

inductive Refusal where
  | notPermitted
  | notFound
  | failedTransfer
  | argumentsTooLong
  | notExecutable
  | tryAgain
  | outOfMemory
  | permissionDenied
  | alreadyExists
  | notDirectory
  | isDirectory
  | tooManyOpenFiles
  | fileBusy
  | nameTooLong
  | linkLoop
  deriving DecidableEq, Repr

namespace Refusal

def number : Refusal → Nat
  | .notPermitted => 1
  | .notFound => 2
  | .failedTransfer => 5
  | .argumentsTooLong => 7
  | .notExecutable => 8
  | .tryAgain => 11
  | .outOfMemory => 12
  | .permissionDenied => 13
  | .alreadyExists => 17
  | .notDirectory => 20
  | .isDirectory => 21
  | .tooManyOpenFiles => 24
  | .fileBusy => 26
  | .nameTooLong => 36
  | .linkLoop => 40

def wording : Refusal → Text
  | .notPermitted => "Operation not permitted"
  | .notFound => "No such file or directory"
  | .failedTransfer => "Input/output error"
  | .argumentsTooLong => "Argument list too long"
  | .notExecutable => "Exec format error"
  | .tryAgain => "Resource temporarily unavailable"
  | .outOfMemory => "Cannot allocate memory"
  | .permissionDenied => "Permission denied"
  | .alreadyExists => "File exists"
  | .notDirectory => "Not a directory"
  | .isDirectory => "Is a directory"
  | .tooManyOpenFiles => "Too many open files"
  | .fileBusy => "Text file busy"
  | .nameTooLong => "File name too long"
  | .linkLoop => "Too many levels of symbolic links"

def message (refusal : Refusal) (name : Text) : Text :=
  "[Errno " ++ Text.ofNat refusal.number ++ "] " ++ refusal.wording ++ ": " ++ Text.quoted name

def meansAbsent (refusal : Refusal) : Bool :=
  refusal = .notFound || refusal = .notDirectory || refusal = .linkLoop

end Refusal

end DiagnosticRepair
