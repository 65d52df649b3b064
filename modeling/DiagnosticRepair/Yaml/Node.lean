import DiagnosticRepair.Yaml.Token
import DiagnosticRepair.Yaml.Kind

namespace DiagnosticRepair.Yaml

/-- An alias within the collection that it stands for is `enclosing`. -/
inductive Node where
  | scalar (kind : Kind) (text : Text)
  | sequence (kind : Kind) (items : List Node)
  | mapping (kind : Kind) (entries : List (Node × Node))
  | enclosing (isMapping : Bool)

namespace Node

inductive Anchored where
  | whole (node : Node)
  | unfinished (isMapping : Bool)

def Anchored.node : Anchored → Node
  | .whole node => node
  | .unfinished isMapping => .enclosing isMapping

structure Builder where
  tokens : List Token
  anchors : List (Text × Anchored)
  handles : List (Text × Text)

abbrev Build := StateT Builder (Except ReadError)

def fail {α : Type} : Build α :=
  throw .malformed

def peek : Build Token := do
  match (← get).tokens.head? with
  | some (.broken e) => throw e
  | some token => return token
  | none => fail

def pass : Build Unit :=
  modify fun b => { b with tokens := b.tokens.tail }

def nextIs (tokens : List Token) : Build Bool := do
  return tokens.contains (← peek)

def accept (token : Token) : Build Bool := do
  if (← peek) = token then
    pass
    return true
  else return false

def empty : Node :=
  .scalar .null []

structure Properties where
  anchor : Option Text
  tag : Option TagName

def takeAnchor : Build (Option Text) := do
  match ← peek with
  | .anchor name =>
      pass
      return some name
  | _ => return none

def takeTag : Build (Option TagName) := do
  match ← peek with
  | .tag name =>
      pass
      return some name
  | _ => return none

def properties : Build Properties := do
  match ← takeAnchor with
  | some anchor => return ⟨some anchor, ← takeTag⟩
  | none =>
      let tag ← takeTag
      let anchor ← if tag.isSome then takeAnchor else pure none
      return ⟨anchor, tag⟩

def fullTag (tag : TagName) : Build Text := do
  match tag.handle with
  | none => return tag.rest
  | some handle =>
      match (← get).handles.lookup handle with
      | some stem => return stem ++ tag.rest
      | none => fail

def openTag : Text := "!"

def scalarKind (tag : Option Text) (plain : Bool) (text : Text) : Kind :=
  match tag with
  | none => if plain then .ofPlain text else .text
  | some tag => if tag = openTag then .ofPlain text else .ofTag tag

def collectionKind (tag : Option Text) (kind : Kind) : Kind :=
  match tag with
  | none => kind
  | some tag => if tag = openTag then kind else .ofTag tag

def nameNode (anchor : Option Text) (anchored : Anchored) : Build Unit := do
  match anchor with
  | none => return
  | some name =>
      if ((← get).anchors.lookup name).isSome then fail
      modify fun b => { b with anchors := (name, anchored) :: b.anchors }

def finishNode (anchor : Option Text) (node : Node) : Build Node := do
  match anchor with
  | none => return node
  | some name =>
      modify fun b => { b with anchors := (name, .whole node) :: b.anchors }
      return node

def aliased (name : Text) : Build Node := do
  match (← get).anchors.lookup name with
  | some anchored => return anchored.node
  | none => fail

def orEmpty (before : List Token) (read : Build Node) : Build Node := do
  if ← nextIs before then return empty else read

inductive Place where
  | flow
  | block
  | compact
  deriving DecidableEq, Repr

mutual

def read (place : Place) : Nat → Build Node
  | 0 => fail
  | bound + 1 => do
      match ← peek with
      | .alias name =>
          pass
          aliased name
      | _ =>
          let ⟨anchor, tag⟩ ← properties
          let tag ← tag.mapM fullTag
          let sequence (items : Build (List Node)) : Build Node := do
            nameNode anchor (.unfinished false)
            finishNode anchor (.sequence (collectionKind tag .sequence) (← items))
          let mapping (entries : Build (List (Node × Node))) : Build Node := do
            nameNode anchor (.unfinished true)
            finishNode anchor (.mapping (collectionKind tag .mapping) (← entries))
          let scalar (text : Text) (plain : Bool) : Build Node := do
            let node := Node.scalar (scalarKind tag plain text) text
            nameNode anchor (.whole node)
            return node
          match ← peek, place with
          | .blockEntry, .compact => sequence (compactItems bound)
          | .scalar text plain, _ =>
              pass
              scalar text plain
          | .flowSequenceStart, _ =>
              pass
              sequence (flowItems true bound)
          | .flowMappingStart, _ =>
              pass
              mapping (flowEntries true bound)
          | .sequenceStart, .block =>
              pass
              sequence (blockItems bound)
          | .sequenceStart, .compact =>
              pass
              sequence (blockItems bound)
          | .mappingStart, .block =>
              pass
              mapping (blockEntries bound)
          | .mappingStart, .compact =>
              pass
              mapping (blockEntries bound)
          | _, _ => if anchor.isSome || tag.isSome then scalar [] true else fail

def blockItems : Nat → Build (List Node)
  | 0 => fail
  | bound + 1 => do
      if ← accept .blockEntry then
        let item ← orEmpty [.blockEntry, .blockEnd] (read .block bound)
        return item :: (← blockItems bound)
      else if ← accept .blockEnd then return []
      else fail

def compactItems : Nat → Build (List Node)
  | 0 => fail
  | bound + 1 => do
      if ← accept .blockEntry then
        let item ← orEmpty [.blockEntry, .key, .value, .blockEnd] (read .block bound)
        return item :: (← compactItems bound)
      else return []

def blockEntries : Nat → Build (List (Node × Node))
  | 0 => fail
  | bound + 1 => do
      let before : List Token := [.key, .value, .blockEnd]
      if ← accept .key then
        let key ← orEmpty before (read .compact bound)
        let value ←
          if ← accept .value then orEmpty before (read .compact bound) else pure empty
        return (key, value) :: (← blockEntries bound)
      else if ← accept .blockEnd then return []
      else fail

def flowPair (close : Token) : Nat → Build (Node × Node)
  | 0 => fail
  | bound + 1 => do
      let key ← orEmpty [.value, .flowEntry, close] (read .flow bound)
      let value ←
        if ← accept .value then orEmpty [.flowEntry, close] (read .flow bound) else pure empty
      return (key, value)

def flowItems (first : Bool) : Nat → Build (List Node)
  | 0 => fail
  | bound + 1 => do
      if ← accept .flowSequenceEnd then return []
      if !first then
        if !(← accept .flowEntry) then fail
      if ← accept .key then
        let pair ← flowPair .flowSequenceEnd bound
        return .mapping .mapping [pair] :: (← flowItems false bound)
      else if ← accept .flowSequenceEnd then return []
      else
        let item ← read .flow bound
        return item :: (← flowItems false bound)

def flowEntries (first : Bool) : Nat → Build (List (Node × Node))
  | 0 => fail
  | bound + 1 => do
      if ← accept .flowMappingEnd then return []
      if !first then
        if !(← accept .flowEntry) then fail
      if ← accept .key then
        let pair ← flowPair .flowMappingEnd bound
        return pair :: (← flowEntries false bound)
      else if ← accept .flowMappingEnd then return []
      else
        let key ← read .flow bound
        return (key, empty) :: (← flowEntries false bound)

end

def defaultHandles : List (Text × Text) := [
  ("!", "!"),
  ("!!", Kind.tagStem)]

def directives : Nat → Bool → List (Text × Text) → Build (List (Text × Text))
  | 0, _, _ => fail
  | bound + 1, versioned, handles => do
      match ← peek with
      | .directive (.version major) =>
          pass
          if versioned || major ≠ 1 then fail else directives bound true handles
      | .directive (.tagHandle handle stem) =>
          pass
          if (handles.lookup handle).isSome then fail
          else directives bound versioned ((handle, stem) :: handles)
      | .directive .other =>
          pass
          directives bound versioned handles
      | _ => return handles

def isDirective : Token → Bool
  | .directive _ => true
  | _ => false

def content (bound : Nat) : Build Node := do
  let token ← peek
  if isDirective token then return empty
  else orEmpty [.documentStart, .documentEnd, .documentsEnd] (read .block bound)

def passDocumentEnds : Nat → Build Unit
  | 0 => return
  | bound + 1 => do
      if ← accept .documentEnd then passDocumentEnds bound

def document (bound : Nat) : Build Node := do
  let directed := isDirective (← peek)
  let handles ← directives bound false []
  modify fun b => { b with handles := handles ++ defaultHandles }
  if ← accept .documentStart then content bound
  else if directed then fail
  else read .block bound

def single (bound : Nat) : Build (Option Node) := do
  if ← nextIs [.documentsEnd] then return none
  let node ← document bound
  passDocumentEnds bound
  if ← nextIs [.documentsEnd] then return some node else fail

/-- A reader that takes no token itself calls one that does, so the bound is never met. -/
def ofTokens (tokens : List Token) : Except ReadError (Option Node) := do
  let bound := 4 * tokens.length + 4
  let (node, _) ← (single bound).run ⟨tokens, [], []⟩
  return node

end Node

end DiagnosticRepair.Yaml
