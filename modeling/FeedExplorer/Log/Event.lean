import FeedExplorer.Text.Quoted

/-!
# Log events

What the program notes about its own doings.
-/

namespace FeedExplorer.Log

/-- From the finest to the coarsest. -/
inductive Level where
  | trace
  | debug
  | info
  | warn
  | error
  deriving DecidableEq, Repr

namespace Level

def rank : Level → Nat
  | .trace => 0
  | .debug => 1
  | .info => 2
  | .warn => 3
  | .error => 4

def name : Level → String
  | .trace => "TRACE"
  | .debug => "DEBUG"
  | .info => "INFO"
  | .warn => "WARN"
  | .error => "ERROR"

end Level

/-- An event of a part of the program, with named values. -/
structure Event where
  level : Level
  part : String
  message : String
  fields : List (String × String)
  deriving Repr

/-- The line that an event makes in a log, without the time. -/
def Event.line (e : Event) : String :=
  e.level.name ++ " " ++ e.part ++ ": " ++ e.message ++
    String.join (e.fields.map fun (k, v) => " " ++ k ++ "=" ++ v)

end FeedExplorer.Log
