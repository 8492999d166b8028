import ResilientChat.Config.Yaml.Lexer
import ResilientChat.Config.Yaml.Scalar

/-!
YAML documents from their tokens. A node may have an anchor, and an alias stands
for the last node before it with that anchor. A key or a value that is left out is
null. A text holds at most one document, and that is a mapping.
-/

namespace ResilientChat

namespace Config

namespace Yaml

/-- The tokens that are left, and what is known of those before them. -/
structure Progress where
  tokens : List Token
  /-- The meanings of the handles that are declared. -/
  handles : List (String × String) := []
  /-- The anchors so far; one has no node before that is complete. -/
  anchors : Array (String × Option Node) := #[]

abbrev Building := StateT Progress Option

namespace Building

def peek : Building (Option Token) := do
  return (← get).tokens.head?

def advance : Building Unit := modify fun s => { s with tokens := s.tokens.tail }

def accept (t : Token) : Building Bool := do
  if (← peek) = some t then
    advance
    return true
  else return false

def expect (t : Token) : Building Unit := do
  unless ← accept t do failure

def anchor? : Building (Option Nat) := do
  match ← peek with
  | some (.anchor name) =>
    advance
    let s ← get
    set { s with anchors := s.anchors.push (name, none) }
    return some s.anchors.size
  | _ => return none

def complete (anchor : Nat) (v : Node) : Building Unit :=
  modify fun s => { s with anchors := s.anchors.modify anchor fun a => (a.1, some v) }

/-- The node that an alias stands for; inside that node it has no value. -/
def aliased (name : String) : Building Node := do
  match (← get).anchors.toList.reverse.lookup name with
  | some node? => return node?.getD .misfit
  | none => failure

/-- What a handle stands for; one between two marks has to be declared. -/
def handleMeaning? (handles : List (String × String)) (handle : String) : Option String :=
  let isNamed := handle.startsWith "!" && handle.endsWith "!" && 2 ≤ handle.length
  handles.lookup handle <|>
    if handle = "!!" then some Tag.common else if isNamed then none else some handle

def tag? : Building (Option Tag) := do
  match ← peek with
  | some (.tag handle suffix) =>
    advance
    match handleMeaning? (← get).handles handle with
    | some meaning => return some ⟨meaning, suffix⟩
    | none => failure
  | _ => return none

def properties : Building (Option Nat × Option Tag) := do
  match ← anchor? with
  | some anchor => return (some anchor, ← tag?)
  | none =>
    let tag? ← tag?
    return (← anchor?, tag?)

/-- A node that is left out if one of the `stops` comes next. -/
def orNull (stops : List Token) (node : Building Node) : Building Node := do
  if (← peek).any stops.contains then return .null else node

def valueOrNull (stops : List Token) (node : Building Node) : Building Node := do
  if ← accept .value then orNull stops node else return .null

def mapping (nodes : List Node) : Building Node := do
  match Node.mapping? nodes with
  | some v => return v
  | none => failure

mutual

/--
A node. With `block` it may go by indentation, and with `bare` it may be a sequence that is not
indented further than the key in front of it.
-/
def node : (bound : Nat) → (block bare : Bool) → Building Node
  | 0, _, _ => failure
  | bound + 1, block, bare => do
    if let some (.alias name) ← peek then
      advance
      return ← aliased name
    let (anchor?, tag?) ← properties
    let v ← content bound block bare (anchor?.isSome || tag?.isSome) tag?
    if let some anchor := anchor? then complete anchor v
    return v

/-- A node without its anchor and tag; behind one of these it may be empty. -/
def content : (bound : Nat) → (block bare mayBeEmpty : Bool) → Option Tag → Building Node
  | 0, _, _, _, _ => failure
  | bound + 1, block, bare, mayBeEmpty, tag? => do
    match ← peek, block, bare with
    | some (.scalar isPlain text), _, _ =>
      advance
      return Scalar.node isPlain tag? text
    | some .openSequence, _, _ =>
      advance
      return .sequence (← flowItems bound true)
    | some .openMapping, _, _ =>
      advance
      mapping (← flowPairs bound true)
    | some .blockSequence, true, _ =>
      advance
      return .sequence (← blockItems bound)
    | some .blockMapping, true, _ =>
      advance
      mapping (← blockPairs bound)
    | some .item, _, true => return .sequence (← bareItems bound)
    | _, _, _ => if mayBeEmpty then return Scalar.node true tag? "" else failure

def blockItems : (bound : Nat) → Building (List Node)
  | 0 => failure
  | bound + 1 => do
    if ← accept .blockEnd then return []
    expect .item
    let v ← orNull [.item, .blockEnd] (node bound true false)
    return v :: (← blockItems bound)

/-- The items of a sequence without tokens for its ends. -/
def bareItems : (bound : Nat) → Building (List Node)
  | 0 => failure
  | bound + 1 => do
    if !(← accept .item) then return []
    let v ← orNull [.item, .key, .value, .blockEnd] (node bound true false)
    return v :: (← bareItems bound)

def blockPairs : (bound : Nat) → Building (List Node)
  | 0 => failure
  | bound + 1 => do
    if ← accept .blockEnd then return []
    let stops : List Token := [.key, .value, .blockEnd]
    let key ←
      if ← accept .key then orNull stops (node bound true true)
      else if (← peek) = some .value then pure Node.null
      else failure
    let v ← valueOrNull stops (node bound true true)
    return key :: v :: (← blockPairs bound)

/-- The rest of a sequence in brackets; a comma stands in front of all items but the first. -/
def flowItems : (bound : Nat) → (first : Bool) → Building (List Node)
  | 0, _ => failure
  | bound + 1, first => do
    if ← accept .closeSequence then return []
    unless first do expect .comma
    if ← accept .closeSequence then return []
    let v ← if ← accept .key then flowPair bound else node bound false false
    return v :: (← flowItems bound false)

/-- An item that is a mapping without braces. A key that is left out takes a mark with it. -/
def flowPair : (bound : Nat) → Building Node
  | 0 => failure
  | bound + 1 => do
    let key ←
      if (← peek).any [Token.value, .comma, .closeSequence].contains then
        advance
        pure Node.null
      else node bound false false
    let v ← valueOrNull [.comma, .closeSequence] (node bound false false)
    mapping [key, v]

def flowPairs : (bound : Nat) → (first : Bool) → Building (List Node)
  | 0, _ => failure
  | bound + 1, first => do
    if ← accept .closeMapping then return []
    unless first do expect .comma
    if ← accept .closeMapping then return []
    let key ←
      if ← accept .key then orNull [.value, .comma, .closeMapping] (node bound false false)
      else if (← peek) = some .value then pure Node.null
      else
        let key ← node bound false false
        return key :: .null :: (← flowPairs bound false)
    let v ← valueOrNull [.comma, .closeMapping] (node bound false false)
    return key :: v :: (← flowPairs bound false)

end

/-- The lines in front of a document; each one forgets the handles of those before it. -/
def directives : (bound : Nat) → (versioned : Bool) → Building Unit
  | 0, _ => failure
  | bound + 1, versioned => do
    match ← peek with
    | some .version =>
      if versioned then failure
      modify fun s => { s with tokens := s.tokens.tail, handles := [] }
      directives bound true
    | some (.tagHandle handle meaning) =>
      modify fun s => { s with tokens := s.tokens.tail, handles := [(handle, meaning)] }
      directives bound versioned
    | _ => return

def skipDocumentEnds : Building Unit :=
  modify fun s => { s with tokens := s.tokens.dropWhile (· = .documentEnd) }

/-- The one document of a text; an empty text is an empty mapping. -/
def document : Building Node := do
  skipDocumentEnds
  let bound := 4 * (← get).tokens.length + 4
  match ← peek with
  | none => return .tree (.table [])
  | some .version | some (.tagHandle ..) =>
    directives bound false
    expect .documentStart
  | _ => discard (accept .documentStart)
  let v ← node bound true false
  skipDocumentEnds
  if (← peek).isSome then failure
  return v

end Building

end Yaml

def readYaml (text : String) : Option Entries := do
  let tokens ← Yaml.tokens? text
  let (v, _) ← Yaml.Building.document.run { tokens }
  (← v.tree?).root?

end Config

end ResilientChat
