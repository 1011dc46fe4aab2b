/-!
# Notices

What a run reports besides its result.

* `Notice` -- one event each: a document was loaded or fetched, a declaration was emitted, a name
  was already used and got a number, a file was written;
* `Notice.level`, `Notice.message` -- how serious it is and its words.
-/

namespace SchemaRecords

/-- How serious a notice is. -/
inductive Level where
  | debug
  | info
  | warning
  deriving DecidableEq, Repr

/-- The word for a level. -/
def Level.name : Level → String
  | .debug => "DEBUG"
  | .info => "INFO"
  | .warning => "WARNING"

/-- An event of a run. -/
inductive Notice where
  | loaded (source : String)
  | fetched (url : String) (status : Nat) (reason : String)
  | emitted (declaration : String) (fields : Nat)
  | renamedDeclaration (name renamed : String)
  | renamedField (declaration name renamed : String)
  | wrote (path : String) (size : Nat)
  deriving DecidableEq, Repr

/-- Only a renaming is worth a warning. -/
def Notice.level : Notice → Level
  | .fetched .. => .info
  | .renamedDeclaration .. => .warning
  | .renamedField .. => .warning
  | _ => .debug

/-- The words of a notice. -/
def Notice.message : Notice → String
  | .loaded source => s!"Loaded {source}"
  | .fetched url status reason => s!"HTTP Request: GET {url} \"HTTP/1.1 {status} {reason}\""
  | .emitted declaration fields => s!"Emitted declaration {declaration} ({fields} fields)"
  | .renamedDeclaration name renamed =>
      s!"Declaration name {name} already used, renamed to {renamed}"
  | .renamedField declaration name renamed =>
      s!"Field name {name} in {declaration} already used, renamed to {renamed}"
  | .wrote path size => s!"Wrote {path} ({size} bytes)"

/-- Whether the notice tells of a renaming. -/
def Notice.isWarning (n : Notice) : Bool := n.level == .warning

end SchemaRecords
