import DiagnosticRepair.Text.Order

namespace DiagnosticRepair

def IsFileName (text : Text) : Prop :=
  text ≠ [] ∧ text ≠ ['.'] ∧ text ≠ ['.', '.'] ∧ '/' ∉ text

instance (text : Text) : Decidable (IsFileName text) :=
  inferInstanceAs (Decidable (_ ∧ _ ∧ _ ∧ _))

structure FileName where
  text : Text
  valid : IsFileName text
  deriving DecidableEq

namespace FileName

theorem ext_text {a b : FileName} (h : a.text = b.text) : a = b := by
  cases a; cases b; cases h; rfl

def le (a b : FileName) : Bool :=
  Text.le a.text b.text

def stemAndSuffix (name : Text) : Text × Text :=
  let suffix := (name.reverse.takeWhile (· != '.')).reverse
  let stem := name.take (name.length - suffix.length - 1)
  if suffix.length = name.length || suffix.isEmpty || stem.isEmpty then (name, [])
  else (stem, '.' :: suffix)

end FileName

inductive Step where
  | up
  | down (name : FileName)
  deriving DecidableEq

namespace Step

def text : Step → Text
  | .up => ['.', '.']
  | .down name => name.text

def ofText? (component : Text) : Option Step :=
  if component = ['.', '.'] then some .up
  else if h : IsFileName component then some (.down ⟨component, h⟩)
  else none

theorem ofText?_text (step : Step) : ofText? step.text = some step := by
  cases step with
  | up => simp [ofText?, text]
  | down name => simp [ofText?, text, name.valid, name.valid.2.2.1]

end Step

/-- Where a path starts. Two leading slashes, unlike three, are kept apart from one. -/
inductive Anchor where
  | here
  | root
  | doubleRoot
  deriving DecidableEq, Repr

def Anchor.text : Anchor → Text
  | .here => []
  | .root => ['/']
  | .doubleRoot => ['/', '/']

structure Path where
  anchor : Anchor
  steps : List Step
  deriving DecidableEq

namespace Path

def readAnchor : Text → Anchor
  | ['/', '/'] => .doubleRoot
  | '/' :: '/' :: c :: _ => if c = '/' then .root else .doubleRoot
  | '/' :: _ => .root
  | _ => .here

def ofText (text : Text) : Path :=
  ⟨readAnchor text, (Text.splitOn ['/'] text).filterMap Step.ofText?⟩

instance : Coe String Path := ⟨fun s => ofText s.toList⟩

def text (path : Path) : Text :=
  match path.anchor, path.steps with
  | .here, [] => ['.']
  | anchor, steps => anchor.text ++ Text.join ['/'] (steps.map Step.text)

def isAbsolute (path : Path) : Bool :=
  path.anchor ≠ .here

def append (path other : Path) : Path :=
  if other.isAbsolute then other else ⟨path.anchor, path.steps ++ other.steps⟩

instance : Append Path := ⟨append⟩

def parent (path : Path) : Path :=
  { path with steps := path.steps.dropLast }

def name (path : Path) : Text :=
  (path.steps.getLast?.map Step.text).getD []

def stem (path : Path) : Text :=
  (FileName.stemAndSuffix path.name).1

def suffix (path : Path) : Text :=
  (FileName.stemAndSuffix path.name).2

def relativeTo? (path base : Path) : Option Path :=
  if path.anchor = base.anchor && base.steps.isPrefixOf path.steps then
    some ⟨.here, path.steps.drop base.steps.length⟩
  else none

def below (path base : Path) : Path :=
  (path.relativeTo? base).getD path

def child (path : Path) (name : FileName) : Path :=
  { path with steps := path.steps ++ [.down name] }

theorem append_here (path : Path) (steps : List Step) :
    path ++ ⟨.here, steps⟩ = ⟨path.anchor, path.steps ++ steps⟩ := rfl

theorem append_of_isAbsolute (path other : Path) (h : other.isAbsolute = true) :
    path ++ other = other := by
  show append path other = other
  simp [append, h]

theorem append_below (path base : Path) (steps : List Step)
    (h : path = ⟨base.anchor, base.steps ++ steps⟩) : base ++ path.below base = path := by
  subst h
  simp [below, relativeTo?, List.isPrefixOf_iff_prefix, append_here]

end Path

end DiagnosticRepair
