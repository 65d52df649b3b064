import DiagnosticRepair.Value.Calendar
import DiagnosticRepair.Number.Numeral
import DiagnosticRepair.Number.Shortest

namespace DiagnosticRepair

/-- Mappings keep the order of their keys. A value that contains itself has `enclosing` in its
place. -/
inductive Value where
  | null
  | bool (b : Bool)
  | int (n : Int)
  | float (x : Float)
  | text (t : Text)
  | date (d : Date)
  | moment (m : Moment)
  | list (items : List Value)
  | mapping (entries : List (Value × Value))
  | enclosing (isMapping : Bool)

instance : Inhabited Value := ⟨.null⟩

namespace Value

def braced (inner : Text) : Text :=
  "\x7b" ++ inner ++ "\x7d"

mutual

def literal : Value → Text
  | null => "None"
  | bool true => "True"
  | bool false => "False"
  | int n => Text.ofInt n
  | float x => FloatStyle.standard.text x
  | text t => Text.quoted t
  | date d => "datetime.date(" ++ Text.join ", " (d.numbers.map Text.ofNat) ++ ")"
  | moment m =>
      "datetime.datetime("
        ++ Text.join ", " (m.numbers.map Text.ofNat ++ (m.offset.map Moment.zoneText).toList) ++ ")"
  | list items => "[" ++ Text.join ", " (literals items) ++ "]"
  | mapping entries => braced (Text.join ", " (entryLiterals entries))
  | enclosing isMapping => if isMapping then braced "..." else "[...]"

def literals : List Value → List Text
  | [] => []
  | item :: rest => literal item :: literals rest

def entryLiterals : List (Value × Value) → List Text
  | [] => []
  | (key, value) :: rest => (literal key ++ ": " ++ literal value) :: entryLiterals rest

end

def display : Value → Text
  | text t => t
  | date d => d.text
  | moment m => m.text
  | value => value.literal

def isTruthy : Value → Bool
  | null => false
  | bool b => b
  | int n => n ≠ 0
  | float x => x != 0
  | text t => !t.isEmpty
  | list items => !items.isEmpty
  | mapping entries => !entries.isEmpty
  | _ => true

def text? : Value → Option Text
  | text t => some t
  | _ => none

def entries? : Value → Option (List (Value × Value))
  | mapping entries => some entries
  | _ => none

mutual

def hasLongInt : Value → Bool
  | int n => TooManyDigits.limit < (Text.ofNat n.natAbs).length
  | list items => haveLongInt items
  | mapping entries => entriesHaveLongInt entries
  | _ => false

def haveLongInt : List Value → Bool
  | [] => false
  | item :: rest => hasLongInt item || haveLongInt rest

def entriesHaveLongInt : List (Value × Value) → Bool
  | [] => false
  | (key, value) :: rest => hasLongInt key || hasLongInt value || entriesHaveLongInt rest

end

def toInt? : Value → Option Int
  | bool b => some (if b then 1 else 0)
  | int n => some n
  | float x => (Binary.ofFloat? x).bind Binary.toInt?
  | _ => none

def sameKey : Value → Value → Bool
  | null, null => true
  | text s, text t => s = t
  | date d, date e => d = e
  | moment m, moment n => m = n
  | float x, float y => x == y
  | a, b =>
      match a.toInt?, b.toInt? with
      | some m, some n => m = n
      | _, _ => false

def insert (key value : Value) : List (Value × Value) → List (Value × Value)
  | [] => [(key, value)]
  | entry :: rest =>
      if sameKey entry.1 key then (entry.1, value) :: rest else entry :: insert key value rest

end Value

end DiagnosticRepair
