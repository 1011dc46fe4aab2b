import SchemaRecords.Yaml.Plain
import SchemaRecords.Yaml.Tokens

/-!
# Nodes of a YAML document

* `Node` -- a scalar, a sequence or a mapping, each with its full tag. The nodes of a document stand
  in a row, and a collection names its parts by their places. A node stands there as soon as it is
  complete, so its parts come before it, and an alias is one more mention of a place;
* `coreTag`, `scalarTag` -- the tags of the core kinds, and that of a scalar without a tag of its
  own;
* `Composer` -- what is known of a document while its nodes are read: the tag handles, the nodes,
  and the anchors with their places, which have none until their nodes are complete;
* `document` -- the nodes of the one document of a stream of tokens; there are none without a
  document, and else the last one is its root.

A number of steps bounds the readers; three for every token is enough.
-/

namespace SchemaRecords.Yaml

/-! ## 1. Nodes and tags -/

/-- A node of a document; its parts are the places of other nodes. -/
inductive Node where
  | scalar (tag text : String)
  | sequence (tag : String) (items : List Nat)
  | mapping (tag : String) (entries : List (Nat × Nat))
  deriving DecidableEq, Repr

instance : Inhabited Node := ⟨.scalar "" ""⟩

/-- The tag of a core kind. -/
def coreTag (word : String) : String := "tag:yaml.org,2002:" ++ word

/-- The tag of a kind of plain word. -/
def PlainKind.tag : PlainKind → String
  | .truth => coreTag "bool"
  | .float => coreTag "float"
  | .whole => coreTag "int"
  | .merge => coreTag "merge"
  | .null => coreTag "null"
  | .calendar => coreTag "timestamp"
  | .value => coreTag "value"
  | .text => coreTag "str"

/-- The tag of a node. -/
def Node.tag : Node → String
  | .scalar t _ => t
  | .sequence t _ => t
  | .mapping t _ => t

/-- The tag of a scalar: its own, or that of the kind of word it is; the tag of an exclamation mark
    alone stands for that too, and a scalar in quotes is a text. -/
def scalarTag (tag : Option String) (plain : Bool) (text : String) : String :=
  match tag with
  | some "!" => (kindOf text).tag
  | some t => t
  | none => if plain then (kindOf text).tag else coreTag "str"

/-- The tag of a collection: its own or the one of its kind. -/
def collectionTag (tag : Option String) (word : String) : String :=
  match tag with
  | some "!" => coreTag word
  | some t => t
  | none => coreTag word

/-! ## 2. Names of a document -/

/-- What is known of a document while its nodes are read. -/
structure Composer where
  handles : List (String × String)
  anchors : List (String × Option Nat)
  nodes : Array Node

/-- The handles that every document has. -/
def defaultHandles : List (String × String) := [("!", "!"), ("!!", coreTag "")]

/-- The full tag for a written one; its handle must be known. -/
def Composer.fullTag (c : Composer) (t : WrittenTag) : Except Fault String :=
  match t.handle with
  | none => .ok t.rest
  | some handle =>
      match c.handles.lookup handle with
      | some start => .ok (start ++ t.rest)
      | none => malformed

/-- The document with an anchor, which must be new. -/
def Composer.declare (anchor : Option String) (c : Composer) : Except Fault Composer :=
  match anchor with
  | none => .ok c
  | some a =>
      if (c.anchors.lookup a).isSome then malformed
      else .ok { c with anchors := (a, none) :: c.anchors }

/-- The place of a new node, and the document with it. -/
def Composer.add (node : Node) (c : Composer) : Nat × Composer :=
  (c.nodes.size, { c with nodes := c.nodes.push node })

/-- The place of a new node of nothing, and the document with it. -/
def Composer.addEmpty (c : Composer) : Nat × Composer := c.add (.scalar (scalarTag none true "") "")

/-- The document with the place of the node of an anchor. -/
def Composer.complete (anchor : Option String) (place : Nat) (c : Composer) : Composer :=
  match anchor with
  | none => c
  | some a => { c with anchors := (a, some place) :: c.anchors }

/-- The place of the node that an anchor names. Inside that node it has none yet. -/
def Composer.place (anchor : String) (c : Composer) : Except Fault Nat :=
  match c.anchors.lookup anchor with
  | some (some place) => .ok place
  | some none => .error .endless
  | none => malformed

/-- The anchor and the tag before a node, in either order. -/
def properties : List Token → Option String × Option WrittenTag × List Token
  | .anchor a :: .tag t :: rest => (some a, some t, rest)
  | .tag t :: .anchor a :: rest => (some a, some t, rest)
  | .anchor a :: rest => (some a, none, rest)
  | .tag t :: rest => (none, some t, rest)
  | rest => (none, none, rest)

/-! ## 3. Reading nodes -/

/-- Where a node stands: in a flow collection, in a block, or in a block at a place where a sequence
    needs no indent of its own. -/
inductive Context where
  | flow
  | block
  | loose
  deriving DecidableEq, Repr

/-- Whether one of the tokens stands at the front. -/
def startsWith (ts : List Token) (rest : List Token) : Bool :=
  match rest with
  | t :: _ => ts.contains t
  | [] => false

/-- The fault of a token that does not belong where it stands. -/
def unexpected {α : Type} : List Token → Except Fault α
  | .broken fault :: _ => .error fault
  | _ => malformed

/-- Whether the node in a flow sequence is a pair. -/
def isPair (ts : List Token) : Bool := startsWith [.key] ts

mutual

/-- A node at the front of the tokens. -/
def node : Nat → Context → Composer → List Token → Except Fault (Nat × Composer × List Token)
  | 0, _, _, _ => malformed
  | steps + 1, context, c, ts =>
      match ts with
      | .alias a :: rest => do return (← c.place a, c, rest)
      | _ => do
          let (anchor, written, rest) := properties ts
          let tag ← written.mapM c.fullTag
          let c ← c.declare anchor
          let (n, c, rest) ←
            match rest with
            | .scalar plain text :: rest =>
                .ok (.scalar (scalarTag tag plain text) text, c, rest)
            | .flowSequence :: rest => do
                let (items, c, rest) ← flowItems steps true c rest
                .ok (.sequence (collectionTag tag "seq") items, c, rest)
            | .flowMapping :: rest => do
                let (entries, c, rest) ← flowEntries steps true c rest
                .ok (.mapping (collectionTag tag "map") entries, c, rest)
            | _ =>
                if context == .loose && startsWith [.blockEntry] rest then do
                  let (items, c, rest) ← looseItems steps c rest
                  .ok (.sequence (collectionTag tag "seq") items, c, rest)
                else if context != .flow && startsWith [.blockSequence] rest then do
                  let (items, c, rest) ← blockItems steps c (rest.drop 1)
                  .ok (.sequence (collectionTag tag "seq") items, c, rest)
                else if context != .flow && startsWith [.blockMapping] rest then do
                  let (entries, c, rest) ← blockEntries steps c (rest.drop 1)
                  .ok (.mapping (collectionTag tag "map") entries, c, rest)
                else if anchor.isSome || tag.isSome then
                  .ok (.scalar (scalarTag tag true "") "", c, rest)
                else unexpected rest
          let (place, c) := c.add n
          return (place, c.complete anchor place, rest)

/-- A node, or nothing where one of the given tokens stands at the front. -/
def nodeUnless : Nat → List Token → Context → Composer → List Token →
    Except Fault (Nat × Composer × List Token)
  | 0, _, _, _, _ => malformed
  | steps + 1, stops, context, c, ts =>
      if startsWith stops ts then
        let (place, c) := c.addEmpty
        .ok (place, c, ts)
      else node steps context c ts

/-- The items of an indented sequence, up to its end. -/
def blockItems : Nat → Composer → List Token → Except Fault (List Nat × Composer × List Token)
  | 0, _, _ => malformed
  | steps + 1, c, ts =>
      match ts with
      | .blockEntry :: rest => do
          let (n, c, rest) ← nodeUnless steps [.blockEntry, .blockEnd] .block c rest
          let (more, c, rest) ← blockItems steps c rest
          return (n :: more, c, rest)
      | .blockEnd :: rest => .ok ([], c, rest)
      | rest => unexpected rest

/-- The items of a sequence without an indent of its own. -/
def looseItems : Nat → Composer → List Token → Except Fault (List Nat × Composer × List Token)
  | 0, _, _ => malformed
  | steps + 1, c, ts =>
      match ts with
      | .blockEntry :: rest => do
          let (n, c, rest) ← nodeUnless steps [.blockEntry, .key, .value, .blockEnd] .block c rest
          let (more, c, rest) ← looseItems steps c rest
          return (n :: more, c, rest)
      | rest => .ok ([], c, rest)

/-- The entries of an indented mapping, up to its end. -/
def blockEntries : Nat → Composer → List Token →
    Except Fault (List (Nat × Nat) × Composer × List Token)
  | 0, _, _ => malformed
  | steps + 1, c, ts =>
      match ts with
      | .key :: rest => do
          let (k, c, rest) ← nodeUnless steps [.key, .value, .blockEnd] .loose c rest
          let (v, c, rest) ← blockValue steps c rest
          let (more, c, rest) ← blockEntries steps c rest
          return ((k, v) :: more, c, rest)
      | .blockEnd :: rest => .ok ([], c, rest)
      | rest => unexpected rest

/-- The value of an entry of an indented mapping. -/
def blockValue : Nat → Composer → List Token → Except Fault (Nat × Composer × List Token)
  | 0, _, _ => malformed
  | steps + 1, c, ts =>
      match ts with
      | .value :: rest => nodeUnless steps [.key, .value, .blockEnd] .loose c rest
      | rest =>
          let (place, c) := c.addEmpty
          .ok (place, c, rest)

/-- The items of a flow sequence, up to its end; a comma stands before all but the first. -/
def flowItems : Nat → Bool → Composer → List Token →
    Except Fault (List Nat × Composer × List Token)
  | 0, _, _, _ => malformed
  | steps + 1, first, c, ts =>
      match ts with
      | .flowSequenceEnd :: rest => .ok ([], c, rest)
      | _ =>
          match if first then some ts else if startsWith [.flowEntry] ts then some (ts.drop 1)
            else none with
          | none => unexpected ts
          | some (.flowSequenceEnd :: rest) => .ok ([], c, rest)
          | some rest =>
              if isPair rest then do
                let (k, c, rest) ←
                  nodeUnless steps [.value, .flowEntry, .flowSequenceEnd] .flow c (rest.drop 1)
                let (v, c, rest) ← flowValue steps .flowSequenceEnd c rest
                let (pair, c) := c.add (.mapping (coreTag "map") [(k, v)])
                let (more, c, rest) ← flowItems steps false c rest
                return (pair :: more, c, rest)
              else do
                let (n, c, rest) ← node steps .flow c rest
                let (more, c, rest) ← flowItems steps false c rest
                return (n :: more, c, rest)

/-- The entries of a flow mapping, up to its end; a comma stands before all but the first. -/
def flowEntries : Nat → Bool → Composer → List Token →
    Except Fault (List (Nat × Nat) × Composer × List Token)
  | 0, _, _, _ => malformed
  | steps + 1, first, c, ts =>
      match ts with
      | .flowMappingEnd :: rest => .ok ([], c, rest)
      | _ =>
          match if first then some ts else if startsWith [.flowEntry] ts then some (ts.drop 1)
            else none with
          | none => unexpected ts
          | some (.flowMappingEnd :: rest) => .ok ([], c, rest)
          | some rest =>
              if isPair rest then do
                let (k, c, rest) ←
                  nodeUnless steps [.value, .flowEntry, .flowMappingEnd] .flow c (rest.drop 1)
                let (v, c, rest) ← flowValue steps .flowMappingEnd c rest
                let (more, c, rest) ← flowEntries steps false c rest
                return ((k, v) :: more, c, rest)
              else do
                let (k, c, rest) ← node steps .flow c rest
                let (v, c) := c.addEmpty
                let (more, c, rest) ← flowEntries steps false c rest
                return ((k, v) :: more, c, rest)

/-- The value of an entry of a flow collection with the given end. -/
def flowValue : Nat → Token → Composer → List Token → Except Fault (Nat × Composer × List Token)
  | 0, _, _, _ => malformed
  | steps + 1, stop, c, ts =>
      match ts with
      | .value :: rest => nodeUnless steps [.flowEntry, stop] .flow c rest
      | rest =>
          let (place, c) := c.addEmpty
          .ok (place, c, rest)

end

/-! ## 4. Documents -/

/-- The handles that directives declare, each once, and whether a version was seen. -/
def directives (version : Bool) (handles : List (String × String)) :
    List Token → Except Fault (List (String × String) × List Token)
  | .directive (.version major) :: rest =>
      if version || major != 1 then malformed else directives true handles rest
  | .directive (.tag handle start) :: rest =>
      if (handles.lookup handle).isSome then malformed
      else directives version ((handle, start) :: handles) rest
  | .directive .other :: rest => directives version handles rest
  | rest => .ok (handles, rest)

/-- Whether a document has no content. -/
def isDocumentBound : List Token → Bool
  | [] => true
  | .directive _ :: _ => true
  | .documentStart :: _ => true
  | .documentEnd :: _ => true
  | _ => false

/-- Whether a document has a marked start. -/
def isMarked : List Token → Bool
  | .directive _ :: _ => true
  | .documentStart :: _ => true
  | _ => false

/-- The nodes of a document with directives and a marked start. -/
def markedDocument (ts : List Token) : Except Fault (Array Node × List Token) := do
  let (handles, rest) ← directives false [] ts
  match rest with
  | .documentStart :: rest =>
      let c : Composer := ⟨handles ++ defaultHandles, [], #[]⟩
      if isDocumentBound rest then return (c.addEmpty.2.nodes, rest)
      else
        let (_, c, rest) ← node (3 * rest.length + 3) .block c rest
        return (c.nodes, rest)
  | rest => unexpected rest

/-- The nodes of the one document of a stream, none if there is no document. What follows it must
    at least begin like a document for that to be its fault. -/
def document (ts : List Token) : Except Fault (Array Node) := do
  if ts.isEmpty then return #[]
  else
    let (nodes, rest) ←
      if isMarked ts then markedDocument ts
      else do
        let (_, c, rest) ← node (3 * ts.length + 3) .block ⟨defaultHandles, [], #[]⟩ ts
        pure (c.nodes, rest)
    match rest.dropWhile (· == .documentEnd) with
    | [] => return nodes
    | rest => do
        let (_, rest) ← directives false [] rest
        unexpected rest

end SchemaRecords.Yaml
