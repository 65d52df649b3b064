import DiagnosticRepair.Text.Blank
import DiagnosticRepair.Text.Lines

namespace DiagnosticRepair

def openBrace : Char := '\x7b'

def closeBrace : Char := '\x7d'

namespace ImportBlock

def startsImport (line : Text) : Bool :=
  "import ".toList.isPrefixOf line

def leavesOpen (line : Text) : Bool :=
  line.contains openBrace && !line.contains closeBrace

/-- Reads lines from number `index` on, where `block` is the number of lines up to the end of the
last import met and `within` tells whether that import still waits for its closing brace. -/
def endFrom : Bool → Nat → Nat → List Text → Nat
  | _, _, block, [] => block
  | true, index, _, line :: rest =>
      endFrom (!line.contains closeBrace) (index + 1) (index + 1) rest
  | false, index, block, line :: rest =>
      if startsImport line then endFrom (leavesOpen line) (index + 1) (index + 1) rest
      else if Text.allBlank line || block = 0 then endFrom false (index + 1) block rest
      else block

def endIndex (lines : List Text) : Nat :=
  endFrom false 0 0 lines

def needle (statement : Text) : Text :=
  if statement.getLast? = some ';' then statement.dropLast else statement

def select (textWith : List Text → Text) (statements : List Text) : List Text :=
  statements.foldl
    (fun inserted statement =>
      if Text.occursIn (needle statement) (textWith inserted) then inserted
      else inserted ++ [statement])
    []

def insert (text : Text) (statements : List Text) : Text × List Text :=
  let ending := LineEnding.ofText text
  let lines := ending.split text
  let index := endIndex lines
  let textWith inserted := ending.join (lines.take index ++ inserted ++ lines.drop index)
  let inserted := select textWith statements
  (textWith inserted, inserted)

theorem insert_of_none (text : Text) (statements : List Text)
    (h : (insert text statements).2 = []) : (insert text statements).1 = text := by
  have := (LineEnding.ofText text).join_split text
  unfold insert at h ⊢
  simp only at h ⊢
  rw [h]
  simpa using this

end ImportBlock

end DiagnosticRepair
