import DiagnosticRepair.Text.Basic

namespace DiagnosticRepair

inductive Category where
  | info
  | success
  | warning
  | error
  | snapshot
  deriving DecidableEq, Repr

namespace Category

def name : Category → Text
  | .info => "info"
  | .success => "success"
  | .warning => "warning"
  | .error => "error"
  | .snapshot => "snapshot"

def all : List Category :=
  [.info, .success, .warning, .error, .snapshot]

def ofName? (name : Text) : Option Category :=
  all.find? (·.name = name)

def unknownMessage (quotedName : Text) : Text :=
  quotedName ++ " is not a valid LogCategory"

theorem ofName?_name (category : Category) : ofName? category.name = some category := by
  cases category <;> rfl

def isWarning (category : Category) : Bool :=
  category = .warning || category = .error

end Category

structure Entry where
  category : Category
  message : Text
  deriving DecidableEq

def Entry.render (entry : Entry) : Text :=
  "[" ++ entry.category.name ++ "] " ++ entry.message

end DiagnosticRepair
