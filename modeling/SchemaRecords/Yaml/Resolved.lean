import SchemaRecords.Yaml.ScalarValue

/-!
# Resolved nodes

Before the nodes of a document have values, its mappings take over what they merge, its keys that
are equals signs become texts, and its scalars are read. All three are done once for a node, however
often it is mentioned, and level by level from the root on: so a fault nearer the root comes before
a deeper one, whatever their order in the text, and a node may be met before or after a key that it
is as well has become a text.

* `Resolved` -- the nodes as they stand, and what their scalars write;
* `Resolved.merge` -- a mapping gets the entries it takes over in front, so that its own win;
* `Resolved.textOf` -- the text of a node where a scalar is asked for: a mapping has that of its
  equals sign;
* `Resolved.visit` -- the first look at a node: a scalar is read, a collection waits for its turn;
* `Resolved.expand` -- the turn of a collection: a look at each of its parts;
* `Resolved.ofNodes` -- the resolved nodes of a document.
-/

namespace SchemaRecords.Yaml

open Document

/-! ## 1. States -/

/-- What a scalar writes. All names of the double that is not a number are one, with no place; any
    other scalar has the place of its node. -/
structure Constant where
  value : Scalar
  place : Option Nat
  deriving DecidableEq, Repr

/-- The nodes as they stand, what the scalars among them write, which nodes were looked at, and the
    collections that wait for their turn, the last one first. -/
structure Resolved where
  nodes : Array Node
  constants : Array (Option Constant)
  seen : Array Bool
  waiting : List Nat

namespace Resolved

/-- The state before the first look at a node. -/
def start (nodes : Array Node) : Resolved :=
  ⟨nodes, .replicate nodes.size none, .replicate nodes.size false, []⟩

/-- The node at a place. -/
def node (r : Resolved) (place : Nat) : Node := r.nodes.getD place default

/-- The tag of the node at a place. -/
def tag (r : Resolved) (place : Nat) : String := (r.node place).tag

/-- The entries of the mapping at a place. -/
def entries (r : Resolved) (place : Nat) : Except Fault (List (Nat × Nat)) :=
  match r.node place with
  | .mapping _ entries => .ok entries
  | _ => malformed

/-- The state with another node at a place. -/
def replace (place : Nat) (n : Node) (r : Resolved) : Resolved :=
  { r with nodes := r.nodes.setIfInBounds place n }

/-! ## 2. Merging -/

/-- A node with another tag. -/
def retag (tag : String) : Node → Node
  | .scalar _ text => .scalar tag text
  | .sequence _ items => .sequence tag items
  | .mapping _ entries => .mapping tag entries

/-- The state in which a key that is an equals sign is a text. -/
def settleKey (place : Nat) (r : Resolved) : Resolved :=
  if r.tag place == coreTag "value" then r.replace place (retag (coreTag "str") (r.node place))
  else r

/-- The places of the mappings that a node stands for where entries are taken over: it is one, or a
    sequence of some. -/
def sources (r : Resolved) (place : Nat) : List Nat :=
  match r.node place with
  | .sequence _ items => items
  | _ => [place]

/-- The state in which the mapping at a place has in front the entries that it takes over, those
    of the last mapping of a sequence first. The number of steps bounds how deep mergings are
    nested. -/
def merge : Nat → Resolved → Nat → Except Fault Resolved
  | 0, _, _ => malformed
  | steps + 1, r, place => do
      let mut r := r
      let mut front : List (Nat × Nat) := []
      let mut own : List (Nat × Nat) := []
      for (key, value) in ← r.entries place do
        if r.tag key == coreTag "merge" then
          let sources := r.sources value
          r ← sources.foldlM (merge steps) r
          let taken ← sources.reverse.mapM r.entries
          front := front ++ taken.flatten
        else
          r := r.settleKey key
          own := (key, value) :: own
      return r.replace place (.mapping (r.tag place) (front ++ own.reverse))

/-! ## 3. Looking at nodes -/

/-- The text of a node where a scalar is asked for. -/
def textOf (r : Resolved) : Nat → Nat → Except Fault String
  | 0, _ => malformed
  | steps + 1, place =>
      match r.node place with
      | .scalar _ text => .ok text
      | .sequence .. => malformed
      | .mapping _ entries =>
          match entries.find? fun e => r.tag e.1 == coreTag "value" with
          | some (_, value) => textOf r steps value
          | none => malformed

/-- The tags of collections. -/
def collectionTags : List String := ["seq", "map", "set", "omap", "pairs"].map coreTag

/-- Whether the collections of a tag are written as mappings. -/
def isMappingTag (tag : String) : Bool := tag == coreTag "map" || tag == coreTag "set"

/-- The first look at a node: a scalar is read, a collection waits for its turn. -/
def visit (r : Resolved) (place : Nat) : Except Fault Resolved := do
  let tag := r.tag place
  if r.seen.getD place true then return r
  else if scalarTags.contains tag then
    let text ← r.textOf r.nodes.size place
    let value ← scalarValue tag text
    let shared := value == .float .nan && isNamedNan text
    let constant : Constant := ⟨value, if shared then none else some place⟩
    return { r with
      constants := r.constants.setIfInBounds place (some constant)
      seen := r.seen.setIfInBounds place true }
  else if collectionTags.contains tag then
    return { r with seen := r.seen.setIfInBounds place true, waiting := place :: r.waiting }
  else malformed

/-- A look at an entry of a mapping; only a scalar can be its key. -/
def visitEntry (r : Resolved) (entry : Nat × Nat) : Except Fault Resolved := do
  let r ← r.visit entry.1
  if scalarTags.contains (r.tag entry.1) then r.visit entry.2 else malformed

/-- A look at the two parts of a pair, which is a mapping with one entry. -/
def visitPair (r : Resolved) (place : Nat) : Except Fault Resolved := do
  match ← r.entries place with
  | [(k, v)] => (← r.visit k).visit v
  | _ => malformed

/-- The turn of a collection. -/
def expand (r : Resolved) (place : Nat) : Except Fault Resolved := do
  let tag := r.tag place
  match r.node place with
  | .scalar .. => malformed
  | .sequence _ items =>
      if tag == coreTag "seq" then items.foldlM visit r
      else if isMappingTag tag then malformed
      else items.foldlM visitPair r
  | .mapping .. =>
      if isMappingTag tag then do
        let r ← merge (r.nodes.size + 1) r place
        (← r.entries place).foldlM visitEntry r
      else malformed

/-- The turns of the collections of a level, and then those of the levels below; the number of steps
    bounds the levels. -/
def descend : Nat → List Nat → Resolved → Except Fault Resolved
  | 0, _, _ => malformed
  | _, [], r => .ok r
  | steps + 1, level, r => do
      let r ← level.foldlM expand { r with waiting := [] }
      descend steps r.waiting.reverse r

/-- The resolved nodes of a document. -/
def ofNodes (nodes : Array Node) : Except Fault Resolved := do
  let r ← (start nodes).visit (nodes.size - 1)
  descend (nodes.size + 1) r.waiting r

end Resolved

end SchemaRecords.Yaml
