import Walkthrough.Yaml.Token

/-!
# YAML nodes

The tree that the tokens of a text form: scalars that still have to be understood, sequences and
mappings, which lie in each other only so deep. An alias stands for the node of its anchor. A text
has at most one document.
-/

namespace Walkthrough.Yaml

/-- A node of a YAML document. -/
inductive Node where
  | scalar (text : String) (plain : Bool)
  | sequence (items : List Node)
  | mapping (entries : List (Node × Node))

instance : Inhabited Node := ⟨.scalar "" true⟩

/-- A place without content, which is a plain scalar without text. -/
def Node.empty : Node := .scalar "" true

/-- How many collections may lie around each other. -/
def maxDepth : Nat := 490

/-- The tokens that are left, and the anchors so far with their nodes once these are complete. -/
structure Reader where
  tokens : List Token
  /-- How many collections may lie around each other from here on. -/
  room : Nat := maxDepth
  /-- Why there is no token after the last. -/
  stop : YamlFault := .malformed
  anchors : List (String × Option Node) := []

/-- A step of reading nodes. -/
abbrev Read := StateT Reader (Except YamlFault)

namespace Read

/-- The next token. -/
def peek : Read Token := do
  match (← get).tokens with
  | token :: _ => return token
  | [] => throw (← get).stop

/-- Passes over the next token. -/
def pass : Read Unit :=
  modify fun reader => { reader with tokens := reader.tokens.drop 1 }

/-- Passes over a token that has to come next. -/
def expect (token : Token) : Read Unit := do
  if (← peek) != token then throw .malformed
  pass

/-- Whether the next token is one of some. -/
def isNext (tokens : List Token) : Read Bool := do
  return tokens.contains (← peek)

/-- Reads what lies in a collection. -/
def within {α : Type} (inside : Read α) : Read α := do
  let room := (← get).room
  if room = 0 then throw .tooDeep
  modify fun reader => { reader with room := room - 1 }
  let found ← inside
  modify fun reader => { reader with room }
  return found

/-- The node of an alias. -/
def aliased (name : String) : Read Node := do
  match (← get).anchors.lookup name with
  | some (some node) => return node
  | _ => throw .malformed

/-- Declares an anchor, whose name must be new. -/
def declare (name : String) : Read Unit := do
  if ((← get).anchors.lookup name).isSome then throw .malformed
  modify fun reader => { reader with anchors := (name, none) :: reader.anchors }

/-- Gives an anchor its node. -/
def complete (name : String) (node : Node) : Read Unit :=
  modify fun reader => { reader with anchors := (name, some node) :: reader.anchors }

mutual

/-- A node. In a block there may be block collections, and where a mapping's value is due also a
sequence that is not indented. -/
def node : (fuel : Nat) → (inBlock loose : Bool) → Read Node
  | 0, _, _ => throw .malformed
  | fuel + 1, inBlock, loose => do
    match ← peek with
    | .alias name =>
      pass
      aliased name
    | .anchor name =>
      pass
      let _ ← peek
      declare name
      let found ← content fuel inBlock loose
      let node := found.getD .empty
      complete name node
      return node
    | _ =>
      match ← content fuel inBlock loose with
      | some node => return node
      | none => throw .malformed

/-- A node without its anchor, if there is one. -/
def content : (fuel : Nat) → (inBlock loose : Bool) → Read (Option Node)
  | 0, _, _ => throw .malformed
  | fuel + 1, inBlock, loose => do
    match ← peek with
    | .scalar text plain =>
      pass
      return some (.scalar text plain)
    | .entry =>
      if loose then return some (.sequence (← within (looseItems fuel))) else return none
    | .flowSequence =>
      pass
      return some (.sequence (← within (flowItems fuel true)))
    | .flowMapping =>
      pass
      return some (.mapping (← within (flowEntries fuel true)))
    | .blockSequence =>
      if inBlock then
        pass
        return some (.sequence (← within (blockItems fuel)))
      else return none
    | .blockMapping =>
      if inBlock then
        pass
        return some (.mapping (← within (blockEntries fuel)))
      else return none
    | _ => return none

/-- A node in a block, or no content before one of some tokens. -/
def nodeUnless : (fuel : Nat) → (stops : List Token) → (inBlock loose : Bool) → Read Node
  | 0, _, _, _ => throw .malformed
  | fuel + 1, stops, inBlock, loose => do
    if ← isNext stops then return .empty else node fuel inBlock loose

/-- The items of a block sequence up to its end. -/
def blockItems : (fuel : Nat) → Read (List Node)
  | 0 => throw .malformed
  | fuel + 1 => do
    if ← isNext [.entry] then
      pass
      let item ← nodeUnless fuel [.entry, .blockEnd] true false
      return item :: (← blockItems fuel)
    else
      expect .blockEnd
      return []

/-- The items of a sequence that is not indented. -/
def looseItems : (fuel : Nat) → Read (List Node)
  | 0 => throw .malformed
  | fuel + 1 => do
    if ← isNext [.entry] then
      pass
      let item ← nodeUnless fuel [.entry, .key, .value, .blockEnd] true false
      return item :: (← looseItems fuel)
    else return []

/-- The value after a key, up to one of some tokens. -/
def valueOf : (fuel : Nat) → (stops : List Token) → (inBlock : Bool) → Read Node
  | 0, _, _ => throw .malformed
  | fuel + 1, stops, inBlock => do
    if ← isNext [.value] then
      pass
      nodeUnless fuel stops inBlock inBlock
    else return .empty

/-- The entries of a block mapping up to its end. -/
def blockEntries : (fuel : Nat) → Read (List (Node × Node))
  | 0 => throw .malformed
  | fuel + 1 => do
    if ← isNext [.key] then
      pass
      let key ← nodeUnless fuel [.key, .value, .blockEnd] true true
      let value ← valueOf fuel [.key, .value, .blockEnd] true
      return (key, value) :: (← blockEntries fuel)
    else
      expect .blockEnd
      return []

/-- The items of a flow sequence up to its end. A key among them stands for a mapping of one
entry. -/
def flowItems : (fuel : Nat) → (first : Bool) → Read (List Node)
  | 0, _ => throw .malformed
  | fuel + 1, first => do
    if ← isNext [.flowSequenceEnd] then
      pass
      return []
    else
      if !first then expect .comma
      if ← isNext [.key] then
        pass
        let entry ← within do
          let key ← nodeUnless fuel [.value, .comma, .flowSequenceEnd] false false
          return (key, ← valueOf fuel [.comma, .flowSequenceEnd] false)
        return .mapping [entry] :: (← flowItems fuel false)
      else if ← isNext [.flowSequenceEnd] then
        pass
        return []
      else
        let item ← node fuel false false
        return item :: (← flowItems fuel false)

/-- The entries of a flow mapping up to its end; a node without a colon is a key without a value. -/
def flowEntries : (fuel : Nat) → (first : Bool) → Read (List (Node × Node))
  | 0, _ => throw .malformed
  | fuel + 1, first => do
    if ← isNext [.flowMappingEnd] then
      pass
      return []
    else
      if !first then expect .comma
      if ← isNext [.key] then
        pass
        let key ← nodeUnless fuel [.value, .comma, .flowMappingEnd] false false
        let value ← valueOf fuel [.comma, .flowMappingEnd] false
        return (key, value) :: (← flowEntries fuel false)
      else if ← isNext [.flowMappingEnd] then
        pass
        return []
      else
        let key ← node fuel false false
        return (key, .empty) :: (← flowEntries fuel false)

end

/-- Passes over marks of a document's end. -/
def passEnds : (fuel : Nat) → Read Unit
  | 0 => pure ()
  | fuel + 1 => do
    if ← isNext [.documentEnd] then
      pass
      passEnds fuel

/-- The root of the only document, if there is one. -/
def document : Read (Option Node) := do
  let fuel := 4 * (← get).tokens.length + 4
  match ← peek with
  | .finish => return none
  | .documentStart =>
    pass
    let root ← nodeUnless fuel [.documentStart, .documentEnd, .finish] true false
    passEnds fuel
    expect .finish
    return some root
  | _ =>
    let root ← node fuel true false
    passEnds fuel
    expect .finish
    return some root

end Read

/-- The root of the only document of a source, if there is one. -/
def Node.ofSource? (source : Source) : Except YamlFault (Option Node) := do
  let found := tokens source
  let (root, _) ← Read.document.run
    { tokens := found.tokens, stop := found.stop.getD .malformed }
  return root

end Walkthrough.Yaml
