import SchemaRecords.Name.Casing

/-!
# Composed names

Where the name of a record comes from.

* `ofReference` -- the last segment of a reference, or `object` where that has no word;
* `compose` -- a record reached through a property: the enclosing name, the property, and one
  `Item` for every array between them;
* `ofRequest` -- the parameters of a tool;
* `numbered` -- a name that is not taken: the name itself, else the first of its numbered forms,
  counted from two. Among one more candidate than there are taken names one is free, so the search
  is bounded by their number.
-/

namespace SchemaRecords.Name

/-- What follows the last slash of a reference. -/
def lastSegment (ref : List Char) : List Char :=
  (ref.reverse.takeWhile (· != '/')).reverse

/-- The name a reference stands for. -/
def ofReference (ref : String) : String :=
  let name := pascal (String.ofList (lastSegment ref.toList))
  if name == "" then "object" else name

/-- The mark of `depth` arrays. -/
def items : Nat → String
  | 0 => ""
  | depth + 1 => "Item" ++ items depth

/-- The name of what a property holds, `depth` arrays down. -/
def compose (parent property : String) (depth : Nat) : String :=
  parent ++ pascal property ++ items depth

/-- The name of a tool's parameters. -/
def ofRequest (tool : String) : String := pascal tool ++ "Request"

/-- The name with a number. -/
def withNumber (name : String) (k : Nat) : String := name ++ toString k

/-- The name, or the first of its numbered forms that is not taken. -/
def numbered (name : String) (taken : List String) : String :=
  if name ∈ taken then
    let candidates := (List.range (taken.length + 1)).map fun i => withNumber name (i + 2)
    (candidates.find? (· ∉ taken)).getD name
  else name

end SchemaRecords.Name
