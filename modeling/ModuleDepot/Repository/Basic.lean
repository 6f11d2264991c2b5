import ModuleDepot.ByteStream
import ModuleDepot.Log

/-! # Repositories

A repository is asked for a resource of a module and gives one of three answers: the
content, the news that there is no such resource, or the reason why it cannot tell. It
may change with every request and may have something to say to the log.
-/

namespace ModuleDepot

/-- The answer to a request. -/
inductive Answer where
  | found (stream : ByteStream)
  | notFound
  | unavailable (reason : String)
  deriving DecidableEq, Repr

namespace Answer

/-- Whether the resource was found. -/
def isFound : Answer → Bool
  | .found _ => true
  | _ => false

/-- The content, if there is one. -/
def stream? : Answer → Option ByteStream
  | .found stream => some stream
  | _ => none

/-- The answer for a reader of logs; content is not shown. -/
def quoted : Answer → String
  | .found _ => "Found(..)"
  | .notFound => "NotFound"
  | .unavailable reason => s!"Unavailable({Text.quoted reason})"

end Answer

/-- A request for a resource below the place of a module in the repository. -/
structure Request where
  place : String
  resource : String
  deriving DecidableEq, Repr

/-- What is asked for, as one text. -/
def Request.path (r : Request) : String := r.place ++ r.resource

/-- A repository whose state is a `σ`. -/
structure Repository (σ : Type) where
  description : String
  fetch : σ → Request → Answer × σ × List Event

end ModuleDepot
