import ModuleDepot.Http.Exchange
import ModuleDepot.Repository.Basic
import ModuleDepot.Retry

/-! # Repositories over HTTP

A repository below a root URL. The URL of a resource is the root, then the place of the
module, then the resource, with the characters encoded that would end the path or start
an encoded character.

A request that gets no definite answer is tried again as often as the policy allows. A
definite answer ends the attempts: the resource, its absence, or any other status.
-/

namespace ModuleDepot

/-- A repository below a root URL, and how it is asked. -/
structure HttpRepository where
  rootUrl : String
  timeout : Duration
  retry : RetryPolicy
  deriving DecidableEq, Repr

namespace HttpRepository

/-- The time a request may take when nothing else is said. -/
def standardTimeout : Duration := .ofSeconds 30

/-- The URL with a slash at its end. -/
def slashTerminated (url : String) : String :=
  if url.toList.getLast? == some '/' then url else url ++ "/"

/-- A repository below a root URL, which gets a slash at its end. -/
def create (rootUrl : String) (timeout : Duration) (retry : RetryPolicy) : HttpRepository :=
  ⟨slashTerminated rootUrl, timeout, retry⟩

/-- A repository below a root URL, asked in the standard way. -/
def ofUrl (rootUrl : String) : HttpRepository :=
  create rootUrl standardTimeout .standard

/-- The description of the repository. -/
def description (r : HttpRepository) : String :=
  s!"http repository (url: {r.rootUrl})"

/-! ## The URL of a resource -/

/-- The characters that would not stand for themselves in a path. -/
def encodeChar (c : Char) : List Char :=
  if c = '%' then ['%', '2', '5']
  else if c = '?' then ['%', '3', 'F']
  else if c = '#' then ['%', '2', '3']
  else [c]

/-- A text as a part of a path. -/
def encodePath (s : String) : String :=
  String.ofList (s.toList.flatMap encodeChar)

/-- The URL of a resource, as text. -/
def target (r : HttpRepository) (request : Request) : String :=
  r.rootUrl ++ encodePath request.place ++ encodePath request.resource

/-! ## Events -/

def fetchingEvent (url : String) : Event :=
  ⟨.debug, .http, "Fetching resource", [("url", url)]⟩

def malformedEvent (target reason : String) : Event :=
  ⟨.debug, .http, "Cannot open stream", [("url", target), ("error", reason)]⟩

def failedEvent (url reason : String) : Event :=
  ⟨.debug, .http, "Cannot open stream", [("url", url), ("reason", reason)]⟩

def retryingEvent (url : String) (attempt : Nat) (delay : Duration) : Event :=
  ⟨.debug, .http, "Retrying fetch",
    [("url", url), ("attempt", toString attempt),
     ("delay_ms", toString (delay.milliseconds % (Text.max64 + 1)))]⟩

/-! ## Attempts -/

/-- What a reply means: an answer, or the reason to try again. -/
def judge (r : HttpRepository) (u : Url) : Http.Reply → Except String Answer
  | .timedOut => .error s!"request to {u.text} timed out after {r.timeout.seconds}s"
  | .failed reason => .error reason
  | .status code body =>
    if Http.isSuccess code then .ok (.found body)
    else if Http.isAbsent code then .ok .notFound
    else
      let reason := s!"GET request failed with status {Http.statusText code}"
      if Http.isTransient code then .error reason else .ok (.unavailable reason)

/-- One attempt after the other, while there are some left. The number `attempt` counts
from zero; there is a wait before every attempt but the first. -/
def attempts {σ : Type} (r : HttpRepository) (client : Http.Client σ) (u : Url) :
    (left attempt : Nat) → (last : String) → σ → List Event → Answer × σ × List Event
  | 0, _, last, s, events => (.unavailable last, s, events)
  | left + 1, attempt, _, s, events =>
    let delay := r.retry.waitBefore (UInt32.ofNat attempt)
    let s := if attempt = 0 then s else client.wait delay s
    let events := if attempt = 0 then events else events ++ [retryingEvent u.text attempt delay]
    let events := events ++ [fetchingEvent u.text]
    match client.ask u s with
    | (reply, s) =>
      match r.judge u reply with
      | .ok answer => (answer, s, events)
      | .error reason =>
        attempts r client u left (attempt + 1) reason s (events ++ [failedEvent u.text reason])

/-- The answer to a request, when a client asks for URLs. -/
def fetch {σ : Type} (r : HttpRepository) (client : Http.Client σ) (s : σ) (request : Request) :
    Answer × σ × List Event :=
  let target := r.target request
  match Url.parse target with
  | .error e =>
    (.unavailable s!"malformed URL {target}: {e.message}", s, [malformedEvent target e.message])
  | .ok u => attempts r client u r.retry.attempts 0 "" s []

/-- The repository as a client reaches it. -/
def toRepository {σ : Type} (r : HttpRepository) (client : Http.Client σ) : Repository σ where
  description := r.description
  fetch := r.fetch client

end HttpRepository
end ModuleDepot
