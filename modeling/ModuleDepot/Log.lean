import ModuleDepot.Text.Quoted

/-! # Log events

An event has a level, the part of the program it comes from, a message, and named fields
in the order in which they are written. A line of a log is all of these on one line.
-/

namespace ModuleDepot

/-- How much an event matters, most first. -/
inductive Level where
  | error
  | warn
  | info
  | debug
  | trace
  deriving DecidableEq, Repr

namespace Level

/-- The place of a level in the order; a larger one is more talkative. -/
def rank : Level → Nat
  | .error => 1
  | .warn => 2
  | .info => 3
  | .debug => 4
  | .trace => 5

/-- The name of a level in a log line. -/
def text : Level → String
  | .error => "ERROR"
  | .warn => "WARN"
  | .info => "INFO"
  | .debug => "DEBUG"
  | .trace => "TRACE"

end Level

/-- The part of the program an event comes from. -/
inductive Origin where
  | store
  | fetch
  | http
  | resolver
  | command
  deriving DecidableEq, Repr

/-- The name of an origin in log lines and filters. -/
def Origin.target : Origin → String
  | .store => "modfetch::cache::store"
  | .fetch => "modfetch::fetch"
  | .http => "modfetch::remote::http"
  | .resolver => "modfetch::resolver::remote"
  | .command => "modfetch::commands::common"

/-- Something that happened, for the log. -/
structure Event where
  level : Level
  origin : Origin
  message : String
  fields : List (String × String)
  deriving DecidableEq, Repr

namespace Event

/-- The event as a line of a log, without the time. -/
def line (e : Event) : String :=
  let fields := e.fields.map fun f => " " ++ f.1 ++ "=" ++ f.2
  e.level.text ++ " " ++ e.origin.target ++ ": " ++ e.message ++ String.join fields

end Event
end ModuleDepot
