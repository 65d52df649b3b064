import DiagnosticRepair.Settings.Basic
import DiagnosticRepair.Settings.Library
import DiagnosticRepair.Tool.Words

namespace DiagnosticRepair.Settings

abbrev Checked (V C α : Type) := Except (List (Issue V C)) α

namespace Checked

variable {V C α β γ : Type}

def complain (place : Place V) (complaint : C) : Checked V C α :=
  .error [⟨place, complaint⟩]

def both (f : α → β → γ) : Checked V C α → Checked V C β → Checked V C γ
  | .ok a, .ok b => .ok (f a b)
  | .ok _, .error e => .error e
  | .error d, .ok _ => .error d
  | .error d, .error e => .error (d ++ e)

end Checked

def rootField : Text := "root"

def checkerField : Text := "checker_command"

def testField : Text := "test_command"

def testRootField : Text := "test_root"

def componentsField : Text := "components_root"

def limitField : Text := "report_limit"

def fields : List Text :=
  [rootField, checkerField, testField, testRootField, componentsField, limitField]

variable {V C X α : Type} (library : Library V C X)

def placeOf (field : Text) : Option Nat → Place V
  | none => .field field
  | some index => .item field index

def commandWords (field : Text) (value : V) : Checked V C (List Text) :=
  match library.text? value with
  | some line =>
      match Words.split line with
      | .ok words => .ok words
      | .error e => Checked.complain (.field field) (library.violated e.message value)
  | none => (library.words value).mapError fun complaints =>
      complaints.map fun (index, complaint) => ⟨placeOf field index, complaint⟩

def checkCommand (field : Text) (value : V) : Checked V C (List Text) := do
  let words ← commandWords library field value
  if words.isEmpty then
    Checked.complain (.field field) (library.violated "command must not be empty" value)
  else .ok words

def checkPath (field : Text) (value : V) : Checked V C Path :=
  match library.path value with
  | .ok path => .ok path
  | .error complaint => Checked.complain (.field field) complaint

def checkLimit (value : V) : Checked V C Nat :=
  match library.integer value with
  | .error complaint => Checked.complain (.field limitField) complaint
  | .ok n =>
      if n < 0 then Checked.complain (.field limitField) (library.negative value) else .ok n.toNat

def checkField (values : List (V × V)) (field : Text) (standard : α) (check : V → Checked V C α) :
    Checked V C α :=
  match values.find? (library.text? ·.1 = some field) with
  | none => .ok standard
  | some (_, value) => check value

def checkUnknown (values : List (V × V)) : Checked V C Unit :=
  match values.filter fun (key, _) => !(library.text? key).any fields.contains with
  | [] => .ok ()
  | unknown => .error (unknown.map fun (key, value) => ⟨.unknown key, library.unknown value⟩)

def ofValues (root : Path) (values : List (V × V)) : Checked V C Settings :=
  let standard := ofRoot root
  let path field default := checkField library values field default (checkPath library field)
  let command field default := checkField library values field default (checkCommand library field)
  Checked.both (fun settings _ => settings)
    (Checked.both (· ·)
      (Checked.both (· ·)
        (Checked.both (· ·)
          (Checked.both (· ·)
            (Checked.both Settings.mk (path rootField standard.root)
              (command checkerField standard.checkerCommand))
            (command testField standard.testCommand))
          (path testRootField standard.testRoot))
        (path componentsField standard.componentsRoot))
      (checkField library values limitField standard.reportLimit (checkLimit library)))
    (checkUnknown library values)

end DiagnosticRepair.Settings
