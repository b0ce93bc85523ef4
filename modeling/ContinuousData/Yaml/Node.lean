import ContinuousData.Yaml.Token

/-! YAML documents: scalars, sequences and mappings. Anchored nodes are copied to where they are
referred to. -/
namespace ContinuousData.Yaml

inductive Node where
  /-- Only a plain scalar, one without quotes, can be a number or nothing at all. -/
  | scalar (text : List Char) (plain : Bool)
  | sequence (items : List Node)
  | mapping (entries : List (Node × Node))
  deriving Repr

namespace Node

def nothing : Node := scalar [] true

end Node

/-- The tokens that are left, and the anchored nodes so far. -/
structure Reading where
  tokens : List Token
  anchors : List (List Char × Node) := []
  deriving Repr

/-- A reader of tokens that may find them without meaning. -/
abbrev NodeReader := StateT Reading Option

namespace NodeReader

def peek : NodeReader (Option Token) :=
  return (← get).tokens.head?

def advance : NodeReader Unit :=
  modify fun r => { r with tokens := r.tokens.drop 1 }

/-- Takes the next token if it is this one. -/
def accept (token : Token) : NodeReader Bool := do
  if (← peek) = some token then
    advance
    return true
  return false

def expect (token : Token) : NodeReader Unit := do
  unless ← accept token do failure

/-- The next token is among these, so no node stands before it. -/
def nextIsOneOf (tokens : List Token) : NodeReader Bool := do
  match ← peek with
  | some token => return token ∈ tokens
  | none => return true

/-- The anchor and the tag before a node, in any order. -/
def properties : Nat → Option (List Char) → Bool → NodeReader (Option (List Char) × Bool)
  | 0, anchor, tagged => return (anchor, tagged)
  | fuel + 1, anchor, tagged => do
    match ← peek with
    | some (.anchor name) =>
      if anchor.isSome then failure
      advance
      properties fuel (some name) tagged
    | some .tag =>
      if tagged then failure
      advance
      properties fuel anchor true
    | _ => return (anchor, tagged)

mutual

/-- A node; `block` allows block collections, `indentless` sequences at their parent's column. -/
def node : Nat → (block indentless : Bool) → NodeReader Node
  | 0, _, _ => failure
  | fuel + 1, block, indentless => do
    if let some (.alias name) ← peek then
      advance
      match (← get).anchors.lookup name with
      | some target => return target
      | none => failure
    let (anchor, tagged) ← properties 2 none false
    let content ← content fuel block indentless (anchor.isSome || tagged)
    if let some name := anchor then
      modify fun r => { r with anchors := (name, content) :: r.anchors }
    return content

def content : Nat → (block indentless mayBeEmpty : Bool) → NodeReader Node
  | 0, _, _, _ => failure
  | fuel + 1, block, indentless, mayBeEmpty => do
    match ← peek with
    | some (.scalar text plain) =>
      advance
      return .scalar text plain
    | some .blockEntry =>
      if indentless then return .sequence (← indentlessItems fuel)
      else if mayBeEmpty then return .nothing
      else failure
    | some .flowSequenceStart =>
      advance
      return .sequence (← flowItems fuel true)
    | some .flowMappingStart =>
      advance
      return .mapping (← flowEntries fuel true)
    | some .blockSequenceStart =>
      if block then
        advance
        return .sequence (← blockItems fuel)
      else if mayBeEmpty then return .nothing
      else failure
    | some .blockMappingStart =>
      if block then
        advance
        return .mapping (← blockEntries fuel)
      else if mayBeEmpty then return .nothing
      else failure
    | _ => if mayBeEmpty then return .nothing else failure

/-- A node, or nothing where one of `ends` is next. -/
def nodeUnless : Nat → List Token → (block indentless : Bool) → NodeReader Node
  | 0, _, _, _ => failure
  | fuel + 1, ends, block, indentless => do
    if ← nextIsOneOf ends then return .nothing
    node fuel block indentless

def blockItems : Nat → NodeReader (List Node)
  | 0 => failure
  | fuel + 1 => do
    if ← accept .blockEnd then return []
    expect .blockEntry
    let item ← nodeUnless fuel [.blockEntry, .blockEnd] true false
    return item :: (← blockItems fuel)

def indentlessItems : Nat → NodeReader (List Node)
  | 0 => failure
  | fuel + 1 => do
    unless ← accept .blockEntry do return []
    let item ← nodeUnless fuel [.blockEntry, .key, .value, .blockEnd] true false
    return item :: (← indentlessItems fuel)

def blockEntries : Nat → NodeReader (List (Node × Node))
  | 0 => failure
  | fuel + 1 => do
    if ← accept .blockEnd then return []
    expect .key
    let key ← nodeUnless fuel [.key, .value, .blockEnd] true true
    let value ← if ← accept .value then nodeUnless fuel [.key, .value, .blockEnd] true true
      else pure .nothing
    return (key, value) :: (← blockEntries fuel)

def flowItems : Nat → (first : Bool) → NodeReader (List Node)
  | 0, _ => failure
  | fuel + 1, first => do
    if ← accept .flowSequenceEnd then return []
    unless first do expect .flowEntry
    if ← accept .flowSequenceEnd then return []
    let item ←
      if ← accept .key then do
        let key ← nodeUnless fuel [.value, .flowEntry, .flowSequenceEnd] false false
        let value ← if ← accept .value then nodeUnless fuel [.flowEntry, .flowSequenceEnd] false false
          else pure .nothing
        pure (.mapping [(key, value)])
      else node fuel false false
    return item :: (← flowItems fuel false)

def flowEntries : Nat → (first : Bool) → NodeReader (List (Node × Node))
  | 0, _ => failure
  | fuel + 1, first => do
    if ← accept .flowMappingEnd then return []
    unless first do expect .flowEntry
    if ← accept .flowMappingEnd then return []
    let entry ←
      if ← accept .key then do
        let key ← nodeUnless fuel [.value, .flowEntry, .flowMappingEnd] false false
        let value ← if ← accept .value then nodeUnless fuel [.flowEntry, .flowMappingEnd] false false
          else pure .nothing
        pure (key, value)
      else do
        let key ← node fuel false false
        pure (key, .nothing)
    return entry :: (← flowEntries fuel false)

end

/-- The tokens that end a document. -/
def documentEnds : List Token := [.directive, .documentStart, .documentEnd]

def skipAll (token : Token) : Nat → NodeReader Unit
  | 0 => return
  | fuel + 1 => do
    if ← accept token then skipAll token fuel

/-- The only document of a text. -/
def document (fuel : Nat) : NodeReader Node := do
  if (← peek).isNone then failure
  let root ←
    if ← nextIsOneOf [.directive, .documentStart] then do
      skipAll .directive fuel
      expect .documentStart
      nodeUnless fuel documentEnds true false
    else node fuel true false
  skipAll .documentEnd fuel
  unless (← peek).isNone do failure
  return root

end NodeReader

/-- The document of a text, or none if the text is not YAML or has not exactly one document. -/
def document? (text : String) : Option Node := do
  let tokens ← tokens? text
  let (root, _) ← (NodeReader.document (4 * tokens.length + 8)).run { tokens }
  return root

end ContinuousData.Yaml
