import DiagnosticRepair.Yaml.Layout
import DiagnosticRepair.Yaml.Node
import DiagnosticRepair.Yaml.Scalar

namespace DiagnosticRepair.Yaml

inductive DocumentError where
  | malformed
  | noSuchCharacter
  | scalar (error : ScalarError)
  deriving DecidableEq

def DocumentError.ofReadError : ReadError → DocumentError
  | .malformed => .malformed
  | .noSuchCharacter => .noSuchCharacter

namespace Node

/-- A tree whose mappings have taken in what is merged into them; one into which something else
than a mapping was to be merged has no entries to give. -/
inductive Merged where
  | scalar (kind : Kind) (text : Text)
  | sequence (kind : Kind) (items : List Merged)
  | mapping (kind : Kind) (entries : Option (List (Merged × Merged)))
  | enclosing (isMapping : Bool)

namespace Merged

def given? : Merged → Option (List (Merged × Merged))
  | mapping _ entries => entries
  | enclosing true => some []
  | _ => none

def givenAll? : List Merged → Option (List (Merged × Merged))
  | [] => some []
  | item :: rest => do
      let own ← item.given?
      let others ← givenAll? rest
      some (others ++ own)

def merges? : Merged → Option (List (Merged × Merged))
  | sequence _ items => givenAll? items
  | node => node.given?

def isMergeKey : Merged → Bool
  | scalar .merge _ => true
  | sequence .merge _ => true
  | mapping .merge _ => true
  | _ => false

def asKey : Merged → Merged
  | scalar .defaultValue text => scalar .text text
  | node => node

def mergeEntries (entries : List (Merged × Merged)) : Option (List (Merged × Merged)) := do
  let merged ← (entries.filter (·.1.isMergeKey)).mapM (·.2.merges?)
  let own := entries.filter (!·.1.isMergeKey)
  some (merged.flatten ++ own.map fun (key, value) => (key.asKey, value))

mutual

def ofNode : Node → Merged
  | .scalar kind text => .scalar kind text
  | .sequence kind items => .sequence kind (ofItems items)
  | .mapping kind entries => .mapping kind (mergeEntries (ofEntries entries))
  | .enclosing isMapping => .enclosing isMapping

def ofItems : List Node → List Merged
  | [] => []
  | item :: rest => ofNode item :: ofItems rest

def ofEntries : List (Node × Node) → List (Merged × Merged)
  | [] => []
  | (key, value) :: rest => (ofNode key, ofNode value) :: ofEntries rest

end

structure Failure where
  level : Nat
  error : DocumentError

abbrev Valued := Except Failure

def Failure.nearer (first second : Failure) : Failure :=
  if second.level < first.level then second else first

def both {α β γ : Type} (f : α → β → γ) : Valued α → Valued β → Valued γ
  | .ok a, .ok b => .ok (f a b)
  | .error e, .ok _ => .error e
  | .ok _, .error e => .error e
  | .error d, .error e => .error (d.nearer e)

def refuse {α : Type} (level : Nat) : Valued α :=
  .error ⟨level, .malformed⟩

def isCollection (kind : Kind) : Bool :=
  kind = .sequence || kind = .mapping

def scalarValue (level : Nat) (kind : Kind) (text : Text) : Valued Value :=
  match Scalar.value? kind text with
  | some (.ok value) => .ok value
  | some (.error e) => .error ⟨level, .scalar e⟩
  | none => refuse (if isCollection kind then level + 1 else level)

def keyValue (level : Nat) : Merged → Valued Value
  | scalar kind text => if isCollection kind then refuse level else scalarValue level kind text
  | _ => refuse level

mutual

def value (level : Nat) : Merged → Valued Value
  | scalar kind text => scalarValue level kind text
  | sequence .sequence items => (values (level + 1) items).map .list
  | sequence kind _ => refuse (if isCollection kind then level + 1 else level)
  | mapping .mapping (some entries) =>
      (entryValues (level + 1) entries).map fun pairs =>
        .mapping (pairs.foldl (fun dict (key, value) => Value.insert key value dict) [])
  | mapping kind _ => refuse (if isCollection kind then level + 1 else level)
  | enclosing isMapping => .ok (.enclosing isMapping)

def values (level : Nat) : List Merged → Valued (List Value)
  | [] => .ok []
  | item :: rest => both List.cons (value level item) (values level rest)

def entryValues (level : Nat) : List (Merged × Merged) → Valued (List (Value × Value))
  | [] => .ok []
  | (key, item) :: rest =>
      both List.cons (both Prod.mk (keyValue level key) (value level item)) (entryValues level rest)

end

end Merged

def toValue (node : Node) : Except DocumentError Value :=
  ((Merged.ofNode node).value 0).mapError (·.error)

end Node

def Document.read (text : Text) : Except DocumentError (Option Value) := do
  if !text.all isAllowed then .error .malformed
  else
    match ← (Node.ofTokens (Token.ofText text)).mapError .ofReadError with
    | none => return none
    | some node => return some (← node.toValue)

end DiagnosticRepair.Yaml
