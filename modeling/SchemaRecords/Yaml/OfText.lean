import SchemaRecords.Document.Display
import SchemaRecords.Yaml.Resolved

/-!
# The value of a YAML text

* `assign` -- the entries that assignments to keys leave. Two keys that are no number are one only
  if they are the same constant; of a set, they are its items;
* `Resolved.values` -- the values of all nodes, each from those of its parts before it;
* `Value.ofYaml` -- the value of a whole text, nothing for an empty one.
-/

namespace SchemaRecords.Yaml

open Document

/-! ## 1. Mappings -/

/-- Whether two constants are one as keys. -/
def Constant.same (a b : Constant) : Bool :=
  a.value.same b.value && (a.value != .float .nan || a.place == b.place)

/-- The entries with a key set to a value: an entry that is there keeps its place and its key. -/
def assign (entries : List (Constant × Value)) (entry : Constant × Value) :
    List (Constant × Value) :=
  match entries with
  | [] => [entry]
  | (k, v) :: rest =>
      if k.same entry.1 then (k, entry.2) :: rest else (k, v) :: assign rest entry

/-- The entries of a mapping after the assignments to its keys. -/
def ofConstants (assignments : List (Constant × Value)) : Entries :=
  (assignments.foldl assign []).map fun (k, v) => (k.value, v)

/-! ## 2. Values -/

namespace Resolved

/-- What the scalar at a place writes. -/
def constant (r : Resolved) (place : Nat) : Constant :=
  (r.constants.getD place none).getD ⟨.null, none⟩

/-- The pair that a mapping with one entry is. -/
def pairAt (r : Resolved) (values : Array Value) (place : Nat) : Value :=
  match r.node place with
  | .mapping _ [(k, v)] => .pair (values.getD k .null) (values.getD v .null)
  | _ => .null

/-- The value of a node that is no scalar, from those of the nodes before it. -/
def collection (r : Resolved) (values : Array Value) : Node → Value
  | .scalar .. => .null
  | .sequence tag items =>
      if tag == coreTag "seq" then .list (items.map fun place => values.getD place .null)
      else .list (items.map (r.pairAt values))
  | .mapping tag entries =>
      let entries := ofConstants (entries.map fun (k, v) => (r.constant k, values.getD v .null))
      if tag == coreTag "set" then .set (entries.map (·.1)) else .mapping entries

/-- The values of all nodes: of a scalar what it writes, of a collection what its parts make. -/
def values (r : Resolved) : Array Value :=
  r.nodes.foldl (fun values n => values.push <|
    match r.constants.getD values.size none with
    | some c => .scalar c.value
    | none => if r.seen.getD values.size false then r.collection values n else .null) #[]

end Resolved

/-- The value of the document of a text. -/
def read (text : String) : Except Fault Value := do
  let nodes ← document (tokens text)
  if nodes.isEmpty then return .null
  else
    let r ← Resolved.ofNodes nodes
    return r.values.back?.getD .null

end SchemaRecords.Yaml

namespace SchemaRecords.Document

/-- The value of a YAML text. -/
def Value.ofYaml (text : String) : Except Yaml.Fault Value := Yaml.read text

end SchemaRecords.Document
