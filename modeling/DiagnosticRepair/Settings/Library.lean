import DiagnosticRepair.Path.Basic
import DiagnosticRepair.Text.Utf8

namespace DiagnosticRepair.Settings

inductive ReadError (X : Type) where
  | malformed (message : Text)
  | undecodable (error : Utf8.DecodeError)
  | other (error : X)

inductive Place (V : Type) where
  | field (name : Text)
  | item (name : Text) (index : Nat)
  | unknown (key : V)

structure Issue (V C : Type) where
  place : Place V
  complaint : C

/-- The reader of documents and its values. Texts with unpaired surrogates are texts for `isText`
but not for `text?`. -/
structure Documents (V X : Type) where
  read : Bytes → Except (ReadError X) V
  isTruthy : V → Bool
  entries? : V → Option (List (V × V))
  isText : V → Bool
  text? : V → Option Text
  display : V → Except X Text

/-- What the validation library takes values for, and the complaints it makes. A value is `violated`
by the error that a validator of the settings raises about it. -/
structure Coercions (V C : Type) where
  words : V → Except (List (Option Nat × C)) (List Text)
  path : V → Except C Path
  integer : V → Except C Int
  negative : V → C
  unknown : V → C
  violated : Text → V → C
  report : List (Issue V C) → Text

structure Library (V C X : Type) extends Documents V X, Coercions V C

/-- The file is read to its end before there is a value. -/
def Library.ReadsUtf8 {V C X : Type} (library : Library V C X) : Prop :=
  ∀ bytes value, library.read bytes = .ok value → ∃ text, bytes = Utf8.encode text

end DiagnosticRepair.Settings
