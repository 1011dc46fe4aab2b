import SchemaRecords.Name.Compose
import SchemaRecords.Text.Quoted
import SchemaRecords.Outcome

/-!
# Scopes of names

A scope is a set of names in use: those of the declarations of a run, or those of the fields of one
record, whose own name is in use there from the start.

* `Policy` -- what becomes of a name that is taken: it is refused or gets a number;
* `Scope.claim` -- takes a name into use and answers the name it went by.
-/

namespace SchemaRecords.Name

/-! ## 1. Policies -/

/-- What to do about a name that is taken. -/
inductive Policy where
  | refuse
  | number
  deriving DecidableEq, Repr

/-- The word for a policy. -/
def Policy.name : Policy → String
  | .refuse => "error"
  | .number => "suffix"

/-- The policies, in the order they are offered. -/
def Policy.all : List Policy := [.refuse, .number]

/-- The policy a word stands for. -/
def Policy.ofName? (word : String) : Option Policy := Policy.all.find? (·.name == word)

@[simp] theorem Policy.ofName?_name (p : Policy) : Policy.ofName? p.name = some p := by
  cases p <;> decide

/-- The words that refuse an unknown policy. -/
def Policy.unknownMessage (word : String) : String :=
  let words := ", ".intercalate (Policy.all.map Policy.name)
  s!"on_collision must be one of {words}, got {Text.quoted word}"

/-! ## 2. Scopes -/

/-- A name that is taken, by a declaration or by a field of one. -/
inductive Clash where
  | declaration (name : String)
  | field (record name : String)
  deriving DecidableEq, Repr

/-- The words for a clash. -/
def Clash.message : Clash → String
  | .declaration name => s!"Duplicate declaration name: {name}"
  | .field record name => s!"Duplicate field name {name} in {record}"

/-- The names in use, for the whole run or, with an owner, for the fields of one record. -/
structure Scope where
  policy : Policy
  owner : Option String
  taken : List String
  deriving DecidableEq, Repr

namespace Scope

/-- The scope in which only the owner's name is in use. -/
def new (policy : Policy) (owner : Option String) : Scope := ⟨policy, owner, owner.toList⟩

/-- The clash over a name of the scope. -/
def clash (s : Scope) (name : String) : Clash :=
  match s.owner with
  | none => .declaration name
  | some record => .field record name

/-- The notice that a name of the scope got a number. -/
def renamed (s : Scope) (name newName : String) : Notice :=
  match s.owner with
  | none => .renamedDeclaration name newName
  | some record => .renamedField record name newName

/-- The scope with one more name in use. -/
def take (s : Scope) (name : String) : Scope := { s with taken := name :: s.taken }

/-- Takes a name into use. A free name is answered as it is; about a taken one the policy
    decides. -/
def claim (s : Scope) (name : String) : Outcome Clash (String × Scope) :=
  if name ∈ s.taken then
    match s.policy with
    | .refuse => .fail (s.clash name)
    | .number =>
        let newName := numbered name s.taken
        ⟨[s.renamed name newName], .ok (newName, s.take newName)⟩
  else .done (name, s.take name)

theorem claim_free {s : Scope} {name : String} (h : name ∉ s.taken) :
    s.claim name = .done (name, s.take name) := by
  simp [claim, h]

end Scope

end SchemaRecords.Name
