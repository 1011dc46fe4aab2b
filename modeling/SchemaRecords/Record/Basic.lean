import SchemaRecords.TypeRef

/-!
# Record declarations

* `Field` -- a field of a record: its name, the key it stands for, its type, its documentation and
  whether it is required;
* `Declaration` -- a record: its name, its documentation and its fields in order.
-/

namespace SchemaRecords.Record

/-- A field of a record. -/
structure Field where
  name : String
  key : String
  type : TypeRef
  documentation : Option String
  required : Bool
  deriving DecidableEq, Repr

/-- A record. -/
structure Declaration where
  name : String
  documentation : Option String
  fields : List Field
  deriving DecidableEq, Repr

end SchemaRecords.Record
