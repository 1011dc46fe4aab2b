import SchemaRecords.Command.Request
import SchemaRecords.Load
import SchemaRecords.Text.Terminal

/-!
# Runs of the program

A run takes arguments and the world they speak of, and leaves a report: how it ended, what it
printed, and the files.

* `run` -- the whole;
* `draw` -- the declarations that a request asks for;
* `print`, `write` -- printing a text, and writing it to a file;
* `deliver` -- the text of declarations, printed or written to the file that was named.

The file is written last of all, so whatever goes wrong with the source goes wrong before it. Only a
half of a pair goes wrong later: the file is emptied before its text is looked at, and the line that
tells of it is printed after it was written. What is printed is printed without control sequences;
notices and the file are as they are.
-/

namespace SchemaRecords.Command

/-! ## 1. Reports -/

/-- How a run ends: with a status, or broken off by a fault that is not told as a message. -/
inductive Ending where
  | status (code : Nat)
  | fault (f : Fault)
  deriving DecidableEq, Repr

/-- What a run leaves. -/
structure Report where
  ending : Ending
  stdout : String
  stderr : String
  tree : File.Tree
  deriving DecidableEq, Repr

/-- The lines of notices; only warnings are shown unless all are asked for. -/
def noticeText (verbose : Bool) (log : List Notice) : String :=
  let shown := if verbose then log else log.filter Notice.isWarning
  String.join (shown.map fun n => s!"{n.level.name}: {n.message}\n")

/-- The report of a run that did nothing. -/
def Report.ofStop (tree : File.Tree) : Stop → Report
  | .noArguments => ⟨.status 2, "", Page.program.help, tree⟩
  | .help page => ⟨.status 0, page.help, "", tree⟩
  | .misused page fault => ⟨.status 2, "", Text.shown (fault.text page), tree⟩
  | .broken fault => ⟨.fault fault, "", "", tree⟩

/-- The report of a run that failed after some notices. -/
def Report.ofFault (tree : File.Tree) (notices : String) (fault : Fault) : Report :=
  if fault.isReported then
    ⟨.status 1, "", notices ++ Text.shown s!"{fault.message}\n", tree⟩
  else if fault = .address .interrupted then ⟨.status 1, "", s!"{notices}\nAborted.\n", tree⟩
  else ⟨.fault fault, "", notices, tree⟩

/-! ## 2. Work -/

/-- The declarations that a request asks for. -/
def draw (world : World) (request : Request) : Outcome Fault (List Record.Declaration) := do
  match request.task with
  | .schema root => do
      let schema ← loadSchema world request.source
      declarationsOfSchema schema root request.policy.name
  | .tools => do
      let tools ← loadTools world request.source
      declarationsOfTools tools request.policy.name

/-- Prints a text at the end of a run, unless it has a half that the output does not take. -/
def print (handling : Text.Utf8.Handling) (tree : File.Tree) (notices text : String) : Report :=
  match Text.Utf8.refusal? handling (Text.shown text) with
  | some refusal => .ofFault tree notices (.unencodable refusal)
  | none => ⟨.status 0, Text.shown text, notices, tree⟩

/-- The tree in which a text was written to a file, and what went wrong, if anything did. -/
structure Written where
  tree : File.Tree
  fault : Option Fault
  deriving DecidableEq, Repr

/-- Writes a text to a file, after making the folders above it. The file is empty before the text is
    looked at, and stays so if that has a half. -/
def write (tree : File.Tree) (path : File.Path) (text : String) : Written :=
  let refusal := Text.Utf8.refusal? .strict text
  let change := tree.save path (if refusal.isSome then [] else Text.Utf8.encode text)
  ⟨change.tree, (change.denial.map Fault.denied).or (refusal.map Fault.unencodable)⟩

/-- The line that tells of a file that was written. -/
def generated (path : File.Path) (declarations : List Record.Declaration) : String :=
  s!"Generated {path.text} ({declarations.length} declarations)\n"

/-- Prints the text of declarations, or writes it to the file that was named, after the notices of
    drawing them. -/
def deliver (world : World) (request : Request) (log : List Notice)
    (declarations : List Record.Declaration) : Report :=
  let source := Source.render request.space declarations
  match request.output with
  | none => print world.stdout world.tree (noticeText request.verbose log) source
  | some output =>
      let path := File.Path.ofText output
      let written := write world.tree path source
      match written.fault with
      | some fault => .ofFault written.tree (noticeText request.verbose log) fault
      | none =>
          let log := log ++ [.wrote path.text source.length]
          print world.stdout written.tree (noticeText request.verbose log)
            (generated path declarations)

/-- The report of a request. -/
def perform (world : World) (request : Request) : Report :=
  let drawn := draw world request
  match drawn.result with
  | .error fault => .ofFault world.tree (noticeText request.verbose drawn.log) fault
  | .ok declarations => deliver world request drawn.log declarations

/-- The report of the program called with some arguments. -/
def run (world : World) (arguments : List String) : Report :=
  match Request.ofArguments world.tree arguments with
  | .error stop => .ofStop world.tree stop
  | .ok request => perform world request

end SchemaRecords.Command
