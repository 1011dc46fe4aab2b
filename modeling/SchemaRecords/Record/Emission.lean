import SchemaRecords.Record.Basic
import SchemaRecords.Name.Scope

/-!
# The declarations of a schema

A schema becomes the declaration of its root and one for every record under it, in the order in
which a walk meets them: a record, then those under its first property, then those under its second.

* `Nested` -- what a property contributes besides its field: the declarations under it, and the
  new name of its record if the name was taken;
* `emitFields` -- the fields of a record. For each property in order, the record under it claims
  its name and is emitted, and then the field claims its own;
* `emitRoot` -- the declarations of a schema under a root name.
-/

namespace SchemaRecords.Record

open Name

/-! ## 1. Parts of a declaration -/

/-- What a property contributes besides its field. -/
structure Nested where
  declarations : List Declaration
  renamed : Option (Nat × String)
  scope : Scope

/-- The type of a property; a record under it that got a new name is referred to by that name. -/
def fieldType (composed : String) (renamed : Option (Nat × String)) (schema : Schema) : TypeRef :=
  match renamed with
  | none => .ofSchema schema (some composed)
  | some (depth, name) => .ofSchema (schema.retitle name depth) (some composed)

/-- The field of a property. -/
def fieldOf (name key : String) (required : Bool) (type : TypeRef) (schema : Schema) : Field :=
  { name
    key
    type := if required then type else type.optional
    documentation := schema.documentation?
    required }

/-- The declaration of a record with its fields, at the head of those under it. -/
def declare (name : String) (description : Option String) (fields : List Field)
    (nested : List Declaration) : Outcome Clash (List Declaration) :=
  ⟨[.emitted name fields.length], .ok (⟨name, present? description, fields⟩ :: nested)⟩

/-- Emits a record under a name that is claimed: first its fields, in a scope of their own, then
    its declaration. -/
def emitRecord (name : String) (description : Option String) (scope : Scope)
    (walk : Scope → Outcome Clash (List Field × List Declaration × Scope)) :
    Outcome Clash (List Declaration × Scope) := do
  let (fields, nested, scope) ← walk (Scope.new scope.policy (some name))
  let declarations ← declare name description fields nested
  return (declarations, scope)

/-- Emits the object a property leads to, `depth` arrays down, if it is a record: it claims the
    name that its type has there. -/
def emitObject (composed : String) (depth : Nat) (scope : Scope) (schema : Schema)
    (walk : String → Scope → Scope → Outcome Clash (List Field × List Declaration × Scope)) :
    Outcome Clash Nested :=
  if schema.isRecord then do
    let target := (TypeRef.ofSchema schema (some (composed ++ Name.items depth))).name
    let (name, scope) ← scope.claim target
    let (declarations, scope) ←
      emitRecord name schema.keywords.description scope fun own => walk name own scope
    let renamed := if name == target then none else some (depth, name)
    return { declarations, renamed, scope }
  else .done { declarations := [], renamed := none, scope }

/-! ## 2. The walk -/

mutual

/-- The fields of a record, the declarations under it, and the scope of the run after them. -/
def emitFields (record : String) (required : List String) (own scope : Scope) :
    List (String × Schema) → Outcome Clash (List Field × List Declaration × Scope)
  | [] => .done ([], [], scope)
  | (key, schema) :: rest => do
      let composed := compose record key 0
      let nested ← emitNested composed 0 scope schema
      let (name, own) ← own.claim (pascal key)
      let type := fieldType composed nested.renamed schema
      let field := fieldOf name key (required.contains key) type schema
      let (fields, more, scope) ← emitFields record required own nested.scope rest
      return (field :: fields, nested.declarations ++ more, scope)

/-- What lies under a property, `depth` arrays down: the items of an array that is no reference,
    or a record, or nothing. -/
def emitNested (composed : String) (depth : Nat) (scope : Scope) :
    Schema → Outcome Clash Nested
  | .node k items properties =>
      let object := emitObject composed depth scope (.node k items properties)
        fun name own scope => emitFields name k.required own scope properties
      match items with
      | some item =>
          if (present? k.ref).isNone && k.kind == .array then
            emitNested composed (depth + 1) scope item
          else object
      | none => object

end

/-- The declarations of a schema under a root name, which is claimed first. -/
def emitRoot (schema : Schema) (root : String) (scope : Scope) :
    Outcome Clash (List Declaration × Scope) := do
  let (name, scope) ← scope.claim root
  emitRecord name schema.keywords.description scope fun own =>
    emitFields name schema.keywords.required own scope schema.properties

/-- The declarations of a schema under a root name, in a run of their own. -/
def ofSchema (schema : Schema) (root : String) (policy : Policy) :
    Outcome Clash (List Declaration) := do
  let (declarations, _) ← emitRoot schema root (.new policy none)
  return declarations

end SchemaRecords.Record
