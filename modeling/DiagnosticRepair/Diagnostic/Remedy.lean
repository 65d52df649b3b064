import DiagnosticRepair.Diagnostic.Basic
import DiagnosticRepair.Text.Word
import DiagnosticRepair.Conventions

namespace DiagnosticRepair

inductive Remedy where
  | addImport (name statement : Text)
  | addNamespaceImport (name statement : Text)
  | underscore (name : Text)
  | reviewType
  | unresolved (name : Option Text) (reason : Text)
  deriving DecidableEq

namespace Remedy

def kind : Remedy → Text
  | addImport .. => "missing_import"
  | addNamespaceImport .. => "namespace_import"
  | underscore _ => "unused_identifier"
  | reviewType => "manual_review"
  | unresolved .. => "unresolved"

def name? : Remedy → Option Text
  | addImport name _ => some name
  | addNamespaceImport name _ => some name
  | underscore name => some name
  | reviewType => none
  | unresolved name _ => name

def statement? : Remedy → Option Text
  | addImport _ statement => some statement
  | addNamespaceImport _ statement => some statement
  | _ => none

def reason : Remedy → Text
  | reviewType => "type annotation"
  | unresolved _ reason => reason
  | _ => []

def isFixable : Remedy → Bool
  | addImport .. => true
  | addNamespaceImport .. => true
  | underscore _ => true
  | _ => false

def search {α : Type} (read? : Text → Option α) : Text → Option α
  | [] => read? []
  | c :: rest =>
      match read? (c :: rest) with
      | some found => some found
      | none => search read? rest

def quotedName? (p : Char → Bool) (start stop text : Text) : Option Text := do
  let (name, rest) ← Text.run? p (← Text.after? start text)
  let _ ← Text.after? stop rest
  some name

def missingName? (message : Text) : Option Text :=
  search (quotedName? Text.isWord "Cannot find name '" "'") message

def globalNamespace? (message : Text) : Option Text :=
  search (quotedName? Text.isWord "'" "' refers to a UMD global") message

def unusedWordings : List Text := [
  "' is declared but its value is never used",
  "' is declared but its value is never read",
  "' is declared but never used",
  "' is declared but never read"]

def unusedName? (message : Text) : Option Text :=
  search
    (fun text => unusedWordings.findSome? fun stop => quotedName? Text.isNameChar "'" stop text)
    message

def missesType (message : Text) : Bool :=
  Text.occursIn "implicitly has an 'any' type" message

def forNamespace (name : Text) : Remedy :=
  match Conventions.importOfNamespace? name with
  | some statement => addNamespaceImport name statement
  | none => unresolved name ("no known import for namespace '" ++ name ++ "'")

def forName (name : Text) : Remedy :=
  match Conventions.importOf? name with
  | some statement => addImport name statement
  | none => unresolved name ("no known import for '" ++ name ++ "'")

def ofCode? (code message : Text) : Option Remedy :=
  if code = "TS2686".toList then (globalNamespace? message).map forNamespace
  else if code = "TS2304".toList then (missingName? message).map forName
  else if code = "TS6133".toList then (unusedName? message).map underscore
  else if code = "TS7006".toList && missesType message then some reviewType
  else none

def ofDiagnostic (diagnostic : Diagnostic) : Remedy :=
  (ofCode? diagnostic.code diagnostic.message).getD
    (unresolved none ("no fixer for " ++ diagnostic.code))

end Remedy

end DiagnosticRepair
