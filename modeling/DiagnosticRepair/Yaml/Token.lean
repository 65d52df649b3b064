import DiagnosticRepair.Text.Basic

namespace DiagnosticRepair.Yaml

inductive ReadError where
  | malformed
  | noSuchCharacter
  deriving DecidableEq, Repr

structure TagName where
  handle : Option Text
  rest : Text
  deriving DecidableEq

inductive Directive where
  | version (major : Nat)
  | tagHandle (handle stem : Text)
  | other
  deriving DecidableEq

inductive Token where
  | directive (directive : Directive)
  | documentStart
  | documentEnd
  | documentsEnd
  | sequenceStart
  | mappingStart
  | blockEnd
  | flowSequenceStart
  | flowSequenceEnd
  | flowMappingStart
  | flowMappingEnd
  | flowEntry
  | blockEntry
  | key
  | value
  | alias (name : Text)
  | anchor (name : Text)
  | tag (tag : TagName)
  | scalar (text : Text) (plain : Bool)
  | broken (error : ReadError)
  deriving DecidableEq

end DiagnosticRepair.Yaml
