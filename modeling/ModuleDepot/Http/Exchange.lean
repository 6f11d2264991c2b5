import ModuleDepot.ByteStream
import ModuleDepot.Duration
import ModuleDepot.Http.Status
import ModuleDepot.Url.Parser

/-! # Exchanges with servers

A connection gives the raw answer to one request. A client follows redirects over a
connection, up to ten of them, and reports either a final status with its body or why
there is none. Both can also let time pass.
-/

namespace ModuleDepot.Http

/-- The answer of a server. -/
structure Response where
  status : Nat
  location : Option String := none
  body : ByteStream
  deriving DecidableEq, Repr

/-- What comes of sending one request. -/
inductive Exchange where
  | answered (response : Response)
  | broken
  | timedOut
  deriving DecidableEq, Repr

/-- A way to send requests and to let time pass, with a state of its own. -/
structure Connection (σ : Type) where
  send : Url → σ → Exchange × σ
  wait : Duration → σ → σ

/-- What the client makes of a request. -/
inductive Reply where
  | status (code : Nat) (body : ByteStream)
  | timedOut
  | failed (reason : String)
  deriving DecidableEq, Repr

/-- The most redirects that are followed for one request. -/
def maxRedirects : Nat := 10

/-- The request could not be sent or got no answer. -/
def sendingFailed (u : Url) : Reply :=
  .failed s!"error sending request for url ({u.withoutCredentials.text})"

/-- There were too many redirects. -/
def redirectFailed (u : Url) : Reply :=
  .failed s!"error following redirect for url ({u.withoutCredentials.text})"

/-- The request cannot be made for such a URL. -/
def requestInvalid (u : Url) : Reply :=
  .failed s!"builder error for url ({u.withoutCredentials.text})"

/-- Where a response leads: a redirect to a place that can be read as a URL. -/
def redirectTarget (current : Url) (r : Response) : Option Url :=
  if isRedirect r.status then r.location.bind fun place => (current.resolve place).toOption
  else none

/-- Sends a request for `current` and follows redirects; errors name `first`. -/
def followRedirects {σ : Type} (connection : Connection σ) (first : Url) :
    (redirects : Nat) → Url → σ → Reply × σ
  | redirects, current, s =>
    match connection.send current s with
    | (.broken, s) => (sendingFailed first, s)
    | (.timedOut, s) => (.timedOut, s)
    | (.answered response, s) =>
      match redirectTarget current response with
      | none => (.status response.status response.body, s)
      | some next =>
        match redirects with
        | 0 => (redirectFailed first, s)
        | redirects + 1 =>
          if next.isHttp then followRedirects connection first redirects next s
          else (requestInvalid next, s)

/-- A client that asks for URLs and can let time pass. -/
structure Client (σ : Type) where
  ask : Url → σ → Reply × σ
  wait : Duration → σ → σ

/-- The client over a connection, which follows redirects. -/
def Connection.client {σ : Type} (connection : Connection σ) : Client σ where
  ask u s :=
    if u.isHttp then followRedirects connection u maxRedirects u s else (requestInvalid u, s)
  wait := connection.wait

end ModuleDepot.Http
