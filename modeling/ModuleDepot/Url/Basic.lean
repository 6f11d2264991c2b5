import ModuleDepot.Url.Host

/-! # URLs

A URL has a scheme, perhaps an authority with credentials, host and port, a path, and
perhaps a query and a fragment. A path is a list of segments, or a plain text where the
scheme gives it no structure.
-/

namespace ModuleDepot

/-- The path of a URL. -/
inductive Url.UrlPath where
  | plain (text : String)
  | segments (names : List String)
  deriving DecidableEq, Repr

/-- A URL in its parts, all of them in their written form. A port that is the usual one of
the scheme is left out. -/
structure Url where
  scheme : String
  username : String := ""
  password : Option String := none
  host : Option Url.Host := none
  port : Option Nat := none
  path : Url.UrlPath := .segments []
  query : Option String := none
  fragment : Option String := none
  deriving DecidableEq, Repr

namespace Url

/-- The schemes whose URLs have a host and a path of segments, with their usual ports. -/
def specialPorts : List (String × Option Nat) :=
  [("http", some 80), ("https", some 443), ("ws", some 80), ("wss", some 443),
   ("ftp", some 21), ("file", none)]

/-- Whether a scheme is one of the special ones. -/
def isSpecial (scheme : String) : Bool :=
  (specialPorts.lookup scheme).isSome

/-- The port of a scheme when a URL names none. -/
def usualPort (scheme : String) : Option Nat :=
  (specialPorts.lookup scheme).join

/-- Whether the URL can be requested by this program. -/
def isHttp (u : Url) : Bool :=
  u.scheme == "http" || u.scheme == "https"

/-- The written form of a path. -/
def UrlPath.text : UrlPath → String
  | .plain text => text
  | .segments names => String.join (names.map ("/" ++ ·))

/-- The credentials with the sign behind them. -/
def userInfoText (u : Url) : String :=
  match u.password with
  | some password => u.username ++ ":" ++ password ++ "@"
  | none => if u.username.isEmpty then "" else u.username ++ "@"

/-- The authority with the sign before it. -/
def authorityText (u : Url) : String :=
  match u.host with
  | none =>
    match u.path with
    | .segments ("" :: _ :: _) => "/."
    | _ => ""
  | some host =>
    let port := match u.port with
      | some n => ":" ++ toString n
      | none => ""
    "//" ++ u.userInfoText ++ host.text ++ port

/-- A part of a URL behind its sign, if it is there. -/
def markedText (sign : String) : Option String → String
  | some text => sign ++ text
  | none => ""

/-- The written form of a URL. -/
def text (u : Url) : String :=
  u.scheme ++ ":" ++ u.authorityText ++ u.path.text ++ markedText "?" u.query
    ++ markedText "#" u.fragment

/-- What a server is asked for: the path and the query. -/
def requestTarget (u : Url) : String :=
  u.path.text ++ markedText "?" u.query

/-- The URL without its credentials. -/
def withoutCredentials (u : Url) : Url :=
  { u with username := "", password := none }

end Url
end ModuleDepot
