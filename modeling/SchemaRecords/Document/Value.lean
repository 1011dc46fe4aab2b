import SchemaRecords.Document.Date
import SchemaRecords.Number.Double

/-!
# Document values

What a document holds once it is read: scalars, lists, mappings from scalars to values, sets of
scalars, and pairs, which are the items of a list that keeps the order of its entries.

* a mapping is its list of entries, in the order in which their keys came first, and a set that of
  its items;
* `put` sets a key: an entry that is there keeps its place and its key, and takes the new value;
* `Scalar.same` -- two keys are one when they are equal; numbers are equal by their value whatever
  their kind, and moments by their time;
* `lookup` -- the value at a word;
* `truthy` -- a value that is neither nothing, nor zero, nor empty.
-/

namespace SchemaRecords.Document

open Number

/-! ## 1. Scalars -/

/-- A value without parts. -/
inductive Scalar where
  | null
  | bool (b : Bool)
  | int (n : Int)
  | float (x : Double)
  | text (s : String)
  | date (d : Date)
  | moment (m : Moment)
  | bytes (octets : List UInt8)
  deriving DecidableEq, Repr

/-- The whole number a scalar is equal to, if there is one. -/
def Scalar.whole? : Scalar → Option Int
  | .bool b => some (if b then 1 else 0)
  | .int n => some n
  | .float x => x.toInt?
  | _ => none

/-- Whether two scalars are one as keys. -/
def Scalar.same (a b : Scalar) : Bool :=
  match a.whole?, b.whole? with
  | some m, some n => m == n
  | none, none =>
      match a, b with
      | .moment m, .moment n => m.same n
      | _, _ => a == b
  | _, _ => false

@[simp] theorem Scalar.same_text (s t : String) :
    (Scalar.text s).same (.text t) = (s == t) := by
  rw [Bool.eq_iff_iff]
  simp [Scalar.same, Scalar.whole?]

/-! ## 2. Values -/

/-- A value of a document. -/
inductive Value where
  | scalar (s : Scalar)
  | list (items : List Value)
  | pair (first second : Value)
  | mapping (entries : List (Scalar × Value))
  | set (items : List Scalar)
  deriving Repr

/-- The entries of a mapping. -/
abbrev Entries := List (Scalar × Value)

namespace Value

/-- Nothing. -/
def null : Value := .scalar .null

/-- A text. -/
def text (s : String) : Value := .scalar (.text s)

/-- The empty mapping. -/
def empty : Value := .mapping []

/-- The word for the kind of a value. -/
def kindName : Value → String
  | .scalar .null => "NoneType"
  | .scalar (.bool _) => "bool"
  | .scalar (.int _) => "int"
  | .scalar (.float _) => "float"
  | .scalar (.text _) => "str"
  | .scalar (.date _) => "date"
  | .scalar (.moment _) => "datetime"
  | .scalar (.bytes _) => "bytes"
  | .list _ => "list"
  | .pair .. => "tuple"
  | .mapping _ => "dict"
  | .set _ => "set"

/-- Whether the value is neither nothing, nor zero, nor empty. -/
def truthy : Value → Bool
  | .scalar .null => false
  | .scalar (.bool b) => b
  | .scalar (.int n) => n != 0
  | .scalar (.float x) => !x.isZero
  | .scalar (.text s) => s != ""
  | .scalar (.date _) => true
  | .scalar (.moment _) => true
  | .scalar (.bytes octets) => !octets.isEmpty
  | .list items => !items.isEmpty
  | .pair .. => true
  | .mapping entries => !entries.isEmpty
  | .set items => !items.isEmpty

/-- The entries of a value that is a mapping, none of any other. -/
def entries : Value → Entries
  | .mapping entries => entries
  | _ => []

/-- Whether the value is the given text. -/
def isText (word : String) : Value → Bool
  | .scalar (.text s) => s == word
  | _ => false

end Value

/-! ## 3. Entries -/

/-- The entries with a key set to a value. -/
def put (key : Scalar) (value : Value) : Entries → Entries
  | [] => [(key, value)]
  | (k, v) :: rest => if k.same key then (k, value) :: rest else (k, v) :: put key value rest

/-- The entries that the assignments leave, in their order. -/
def ofAssignments (assignments : Entries) : Entries :=
  assignments.foldl (fun entries (k, v) => put k v entries) []

/-- The value at a word, if the word is a key. -/
def lookup (word : String) (entries : Entries) : Option Value :=
  (entries.find? fun e => e.1 == .text word).map (·.2)

/-- The value at a word, nothing if it is no key. -/
def get (word : String) (entries : Entries) : Value :=
  (lookup word entries).getD .null

@[simp] theorem get_nil (word : String) : get word [] = .null := rfl

end SchemaRecords.Document
