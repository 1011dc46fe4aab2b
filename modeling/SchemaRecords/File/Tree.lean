import SchemaRecords.File.Path
import SchemaRecords.Text.Quoted
import SchemaRecords.Text.Utf8

/-!
# File trees

A tree knows the files and folders below a root, and the folder that paths without a slash at their
front start from.

* `Tree.locate` -- follows a path name by name: every name but the last must lead to a folder, two
  dots lead to the folder above, and a name has at most 255 octets;
* `Tree.read`, `Tree.write` -- the octets of a file;
* `Tree.makeFolder`, `Tree.ensureFolder` -- a new folder; a folder with all those above it, where
  one that is there is as good as a new one;
* `Tree.save` -- writes a file after making the folders above it; folders that were made stay when
  a later step is denied;
* `Denial` -- why an operation is denied, and for which path.
-/

namespace SchemaRecords.File

/-! ## 1. Denials -/

/-- Why an operation on a path is denied. -/
inductive Reason where
  | noEntry
  | exists
  | notFolder
  | isFolder
  | nameTooLong
  deriving DecidableEq, Repr

/-- The number of a reason. -/
def Reason.number : Reason → Nat
  | .noEntry => 2
  | .exists => 17
  | .notFolder => 20
  | .isFolder => 21
  | .nameTooLong => 36

/-- The words for a reason. -/
def Reason.message : Reason → String
  | .noEntry => "No such file or directory"
  | .exists => "File exists"
  | .notFolder => "Not a directory"
  | .isFolder => "Is a directory"
  | .nameTooLong => "File name too long"

/-- A reason and the path that it concerns. -/
structure Denial where
  reason : Reason
  path : Path
  deriving DecidableEq, Repr

/-- The words for a denial. -/
def Denial.message (d : Denial) : String :=
  s!"[Errno {d.reason.number}] {d.reason.message}: {Text.quoted d.path.text}"

/-! ## 2. Trees -/

/-- The names from the root to an entry. -/
abbrev Location := List String

/-- What stands at a location. -/
inductive Entry where
  | folder
  | file (octets : List UInt8)
  deriving DecidableEq, Repr

/-- The entries below a root; a later entry for a location stands in front of an earlier one. -/
structure Tree where
  here : Location
  entries : List (Location × Entry)
  deriving DecidableEq, Repr

/-- What is left of a tree after some changes, and why the last one was denied, if it was. -/
structure Change where
  tree : Tree
  denial : Option Denial
  deriving DecidableEq, Repr

namespace Change

/-- What a step leaves of a tree that is made as a whole or not at all. -/
def ofStep (t : Tree) : Except Denial Tree → Change
  | .ok t => ⟨t, none⟩
  | .error denial => ⟨t, some denial⟩

/-- One more step, unless one was denied. -/
def next (c : Change) (step : Tree → Except Denial Tree) : Change :=
  if c.denial.isSome then c else ofStep c.tree (step c.tree)

end Change

namespace Tree

/-- What stands at a location; the root is a folder. -/
def entry (t : Tree) (l : Location) : Option Entry :=
  if l.isEmpty then some .folder else t.entries.lookup l

/-- The tree with an entry set. -/
def set (t : Tree) (l : Location) (e : Entry) : Tree :=
  { t with entries := (l, e) :: t.entries.filter fun x => x.1 != l }

theorem entry_set_self (t : Tree) {l : Location} (e : Entry) (h : l ≠ []) :
    (t.set l e).entry l = some e := by
  simp [entry, set, h]

theorem entry_set_of_ne (t : Tree) {l m : Location} (e : Entry) (h : m ≠ l) :
    (t.set l e).entry m = t.entry m := by
  have hm : (m == l) = false := by simpa using h
  have lookup_filter : ∀ es : List (Location × Entry),
      (es.filter fun x => x.1 != l).lookup m = es.lookup m := by
    intro es
    induction es with
    | nil => rfl
    | cons x rest ih =>
      obtain ⟨k, v⟩ := x
      by_cases hk : k = l
      · subst hk
        simpa [List.lookup_cons, hm] using ih
      · have hk' : (k != l) = true := by simpa using hk
        simp only [List.filter_cons, hk', if_true, List.lookup_cons, ih]
  simp only [entry, set, List.lookup_cons, hm, lookup_filter]

/-- The most octets a name may have. -/
def longestName : Nat := 255

/-- The most octets a path may have. -/
def longestPath : Nat := 4095

/-- Follows names from a location on. -/
def follow (t : Tree) (l : Location) : List String → Except Reason Location
  | [] => .ok l
  | name :: rest =>
      match t.entry l with
      | none => .error .noEntry
      | some (.file _) => .error .notFolder
      | some .folder =>
          if name == ".." then t.follow l.dropLast rest
          else if longestName < Text.Utf8.size name then .error .nameTooLong
          else t.follow (l ++ [name]) rest

/-- The location a path leads to; what stands there may be nothing. -/
def locate (t : Tree) (p : Path) : Except Reason Location :=
  if longestPath < Text.Utf8.size p.text then .error .nameTooLong
  else t.follow (if p.slashes == 0 then t.here else []) p.names

/-- Whether a path leads to a folder. -/
def isFolder (t : Tree) (p : Path) : Bool :=
  match t.locate p with
  | .ok l => t.entry l == some .folder
  | .error _ => false

/-- The octets of the file a path leads to. -/
def read (t : Tree) (p : Path) : Except Denial (List UInt8) :=
  match t.locate p with
  | .error reason => .error ⟨reason, p⟩
  | .ok l =>
      match t.entry l with
      | none => .error ⟨.noEntry, p⟩
      | some .folder => .error ⟨.isFolder, p⟩
      | some (.file octets) => .ok octets

/-- The tree with the octets of the file a path leads to. -/
def write (t : Tree) (p : Path) (octets : List UInt8) : Except Denial Tree :=
  match t.locate p with
  | .error reason => .error ⟨reason, p⟩
  | .ok l =>
      if t.entry l == some .folder then .error ⟨.isFolder, p⟩ else .ok (t.set l (.file octets))

/-- The tree with a new folder. -/
def makeFolder (t : Tree) (p : Path) : Except Reason Tree := do
  let l ← t.locate p
  if (t.entry l).isSome then .error .exists else return t.set l .folder

/-- The tree with a folder that is new or there already. -/
def admitFolder (t : Tree) (p : Path) : Except Denial Tree :=
  match t.makeFolder p with
  | .ok t => .ok t
  | .error reason => if t.isFolder p then .ok t else .error ⟨reason, p⟩

/-- Makes a folder and those above it, whose names are given from the last to the first. -/
def ensureNames (slashes : Nat) : List String → Tree → Change
  | [], t => .ofStep t (t.admitFolder ⟨slashes, []⟩)
  | name :: above, t =>
      let p : Path := ⟨slashes, (name :: above).reverse⟩
      match t.makeFolder p with
      | .error .noEntry => (ensureNames slashes above t).next (·.admitFolder p)
      | _ => .ofStep t (t.admitFolder p)

/-- Makes a folder and those above it. -/
def ensureFolder (t : Tree) (p : Path) : Change := ensureNames p.slashes p.names.reverse t

/-- Writes the octets of a file, after making the folders above it. -/
def save (t : Tree) (p : Path) (octets : List UInt8) : Change :=
  (t.ensureFolder p.parent).next (·.write p octets)

end Tree

end SchemaRecords.File
