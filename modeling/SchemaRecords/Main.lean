import SchemaRecords.Command.Run

/-!
# The program

* `treeOf` -- takes the files that the arguments may name into a tree;
* `bringBack` -- writes the files that a run has changed;
* `handlingOf` -- whether halves of pairs are printed, by the name of the locale;
* `main` -- runs the command in between and prints what it left to print.

No connection is made to the web: each address answers that it cannot be reached.
-/

namespace SchemaRecords

/-! ## 1. What the arguments may name -/

/-- The texts of an argument that may name a file: the whole, and what is behind an equals sign. -/
def textsIn (argument : String) : List String := argument :: (Command.cutValue argument).2.toList

/-- The locations that names lead through. -/
def waypoints (l : File.Location) : List String → List File.Location
  | [] => []
  | name :: rest =>
      let next := if name == ".." then l.dropLast else l ++ [name]
      next :: waypoints next rest

/-- The locations that arguments may lead through. -/
def locationsIn (here : File.Location) (arguments : List String) : List File.Location :=
  (arguments.flatMap textsIn).flatMap fun text =>
    let path := File.Path.ofText text
    waypoints (if path.slashes == 0 then here else []) path.names

/-- A web without connections. -/
def noWeb (arguments : List String) : Web.Routes :=
  let answer := fun (argument : String) =>
    match Web.Url.ofText argument with
    | .ok url => some (url.text, Web.Reply.failure "No connection")
    | .error _ => none
  ⟨(arguments.filter isAddress).filterMap answer, true⟩

/-! ## 2. Files of the machine -/

/-- The text of a location. -/
def locationText (l : File.Location) : String := "/" ++ "/".intercalate l

/-- What stands at a location: what cannot be opened is not there, and what can be opened but not
    read is a folder. -/
def entryAt (l : File.Location) : IO (Option File.Entry) := do
  match ← (IO.FS.Handle.mk (locationText l) .read).toBaseIO with
  | .error _ => return none
  | .ok handle =>
      match ← handle.readBinToEnd.toBaseIO with
      | .ok octets => return some (.file octets.toList)
      | .error _ => return some .folder

/-- The tree with what stands at a location of the machine. -/
def visit (tree : File.Tree) (l : File.Location) : IO File.Tree := do
  match ← entryAt l with
  | some entry => return tree.set l entry
  | none => return tree

/-- The files that the arguments may name. -/
def treeOf (arguments : List String) : IO File.Tree := do
  let folder ← IO.currentDir
  let here := File.Path.namesOf (toString folder).toList
  let locations := waypoints [] here ++ locationsIn here arguments
  locations.foldlM visit ⟨here, []⟩

/-- Writes what a run has changed, in the order of the changes. -/
def bringBack (old new : File.Tree) : IO Unit :=
  new.entries.reverse.forM fun (l, entry) => do
    if old.entry l != some entry then
      match entry with
      | .folder => IO.FS.createDirAll (locationText l)
      | .file octets => IO.FS.writeBinFile (locationText l) ⟨octets.toArray⟩

/-! ## 3. The output -/

/-- What becomes of halves in a locale: the plain ones take those that stand for octets. -/
def handlingOf (locale : String) : Text.Utf8.Handling :=
  if ["", "C", "POSIX", "C.UTF-8", "C.utf8", "UTF-8"].contains locale then .lenient else .strict

/-- The name of the locale: the first of three settings that is not empty. -/
def locale : IO String := do
  let settings ← ["LC_ALL", "LC_CTYPE", "LANG"].mapM fun name => return (← IO.getEnv name).getD ""
  return (settings.find? (· != "")).getD ""

end SchemaRecords

open SchemaRecords in
/-- Runs the command on the files of the machine. -/
def main (arguments : List String) : IO UInt32 := do
  let arguments := arguments.map Text.receive
  let tree ← treeOf arguments
  let handling := handlingOf (← locale)
  let report := Command.run ⟨tree, noWeb arguments, handling⟩ arguments
  bringBack tree report.tree
  (← IO.getStdout).write ⟨(Text.Utf8.octets report.stdout).toArray⟩
  IO.eprint (Text.withoutHalves report.stderr)
  match report.ending with
  | .status code => return code.toUInt32
  | .fault fault => do
      IO.eprintln fault.message
      return 1
