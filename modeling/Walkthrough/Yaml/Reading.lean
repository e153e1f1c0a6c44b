import Walkthrough.Yaml.Node
import Walkthrough.Yaml.Plain

/-!
# Reading YAML

A source is read into tokens, nodes and at last values. Of two entries with one key the last value
stands, at the place of the first. A mapping may take in the entries of others, which its own
entries outdo. Of several nodes without a value the one is told of that lies in the least deep
collection, and of those the first.
-/

namespace Walkthrough.Yaml

namespace Node

/-- Whether a key takes in the entries of other mappings. -/
def isMerge : Node → Bool
  | scalar words plain => plain && words = "<<"
  | _ => false

mutual

/-- The entries that the value of a merge brings: those of a mapping, or those of each of several,
the first outdoing the later ones. -/
def brought : Node → Except YamlFault (List (Node × Node))
  | scalar _ _ => .error .malformed
  | sequence items => broughtByAll items
  | mapping entries => do
    let (merged, own) ← parted entries
    return merged ++ own

/-- The entries that several mappings bring, those of the first at the end. -/
def broughtByAll : List Node → Except YamlFault (List (Node × Node))
  | [] => .ok []
  | mapping entries :: rest => do
    let (merged, own) ← parted entries
    return (← broughtByAll rest) ++ (merged ++ own)
  | _ :: _ => .error .malformed

/-- The entries that merges bring, and those besides the merges. -/
def parted : List (Node × Node) → Except YamlFault (List (Node × Node) × List (Node × Node))
  | [] => .ok ([], [])
  | (key, value) :: rest => do
    if key.isMerge then
      let more ← brought value
      let (merged, own) ← parted rest
      return (more ++ merged, own)
    else
      let (merged, own) ← parted rest
      return (merged, (key, value) :: own)

end

/-- The entries of a mapping with all merges carried out, those that are brought in front. -/
def flattened (entries : List (Node × Node)) : Except YamlFault (List (Node × Node)) := do
  let (merged, own) ← parted entries
  return merged ++ own

mutual

/-- How many collections lie around each other in a node, itself among them. -/
def depth : Node → Nat
  | scalar _ _ => 1
  | sequence items => depthOfItems items + 1
  | mapping entries => depthOfEntries entries + 1

/-- The greatest depth of several nodes. -/
def depthOfItems : List Node → Nat
  | [] => 0
  | item :: rest => max item.depth (depthOfItems rest)

/-- The greatest depth of the parts of several entries. -/
def depthOfEntries : List (Node × Node) → Nat
  | [] => 0
  | (key, value) :: rest => max (max key.depth value.depth) (depthOfEntries rest)

end

/-- The value of a key, which must be no collection. -/
def keyValue : Node → Except YamlFault Yaml
  | scalar words plain => if plain && words != "=" then Plain.value words else .ok (.text words)
  | _ => .error .malformed

/-- The value of a scalar. -/
def scalarValue (words : String) (plain : Bool) : Except YamlFault Yaml :=
  if plain then Plain.value words else .ok (.text words)

/-- A node as a collection to look into, unless it is a scalar, which must have a value. -/
def opened : Node → Except YamlFault (List Node)
  | scalar words plain => (scalarValue words plain).map fun _ => []
  | node => .ok [node]

/-- The collections right below a node, all else below it having a value. -/
def inner : Node → Except YamlFault (List Node)
  | scalar words plain => (scalarValue words plain).map fun _ => []
  | sequence items => do return (← items.mapM opened).flatten
  | mapping entries => do
    let nodes ← (← flattened entries).mapM fun (key, value) => do
      let _ ← key.keyValue
      value.opened
    return nodes.flatten

/-- Looks into nodes and all that lies below them, one depth after the other. -/
def lookInto : (depth : Nat) → List Node → Except YamlFault Unit
  | 0, _ => .ok ()
  | depth + 1, nodes => do lookInto depth (← nodes.mapM inner).flatten

/-- The value of a node of at most some depth. -/
def valueWithin : (depth : Nat) → Node → Except YamlFault Yaml
  | 0, _ => .error .malformed
  | depth + 1, node =>
    match node with
    | scalar words plain => scalarValue words plain
    | sequence items => do return .list (← items.mapM (valueWithin depth))
    | mapping entries => do
      let pairs ← (← flattened entries).mapM fun (key, value) => do
        return (← key.keyValue, ← valueWithin depth value)
      return .mapping (pairs.foldl (fun all entry => putEntry entry.1 entry.2 all) [])

/-- The value of a node, once all that lies below it is known to have one. -/
def value (node : Node) : Except YamlFault Yaml := do
  lookInto node.depth [node]
  valueWithin node.depth node

end Node

/-- The value of a source; one without a document is nothing. -/
def ofSource (source : Source) : Except YamlFault Yaml := do
  match ← Node.ofSource? source with
  | none => return .null
  | some root => root.value

/-- The value of octets. -/
def ofOctets (octets : List UInt8) : Except YamlFault Yaml :=
  ofSource (.ofOctets octets)

end Walkthrough.Yaml
