import DiagnosticRepair.Text.Lines
import DiagnosticRepair.Value.Conversion
import DiagnosticRepair.Yaml.Document

namespace DiagnosticRepair.Yaml

inductive Trouble where
  | noSuchCharacter
  | scalar (error : ScalarError)
  | longInteger
  deriving DecidableEq

def Trouble.message? : Trouble → Option Text
  | .noSuchCharacter => some "chr() arg not in range(0x110000)"
  | .scalar e => e.message?
  | .longInteger => some ("Exceeds the limit (4300 digits) for integer string conversion; " ++
      "use sys.set_int_max_str_digits() to increase the limit")

def readErrorOf : DocumentError → Settings.ReadError Trouble
  | .malformed => .malformed []
  | .noSuchCharacter => .other .noSuchCharacter
  | .scalar e => .other (.scalar e)

def readBytes (bytes : Bytes) : Except (Settings.ReadError Trouble) Value :=
  match Utf8.decodeStream bytes with
  | .error e => .error (.undecodable e)
  | .ok text =>
      match Document.read (Text.unifyLineEnds text) with
      | .error e => .error (readErrorOf e)
      | .ok document => .ok (document.getD .null)

def documents : Settings.Documents Value Trouble where
  read := readBytes
  isTruthy := Value.isTruthy
  entries? := Value.entries?
  isText := fun value => value.text?.isSome
  text? := Value.text?
  display := fun value => if value.hasLongInt then .error .longInteger else .ok value.display

/-- What the program runs with. -/
def library : Settings.Library Value Complaint Trouble :=
  { documents, Value.coercions with }

end DiagnosticRepair.Yaml
