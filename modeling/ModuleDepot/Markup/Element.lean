import ModuleDepot.Markup.Attribute

/-! # Elements of a document

Reading a document gives its elements as events in document order, up to the first fault.
Every closing tag has to close the innermost open element; elements that are still open
at the end are no fault.
-/

namespace ModuleDepot.Markup

/-- What happens to elements as a document is read. -/
inductive ElementEvent where
  | opened (content : List UInt8)
  | single (content : List UInt8)
  | closed (name : List UInt8)
  deriving DecidableEq, Repr

/-- What is wrong with a document. Names are kept as the bytes that were found. -/
inductive DocumentError where
  | notMarkup (error : SyntaxError)
  | missingDoctypeName
  | unmatchedClose (name : List UInt8)
  | mismatchedClose (expected found : List UInt8)
  deriving DecidableEq, Repr

/-- The wording of a document error. -/
def DocumentError.message : DocumentError → String
  | .notMarkup error => s!"syntax error: {error.message}"
  | .missingDoctypeName =>
    "ill-formed document: `<!DOCTYPE>` declaration does not contain a name of a document type"
  | .unmatchedClose name =>
    let name := Text.utf8OrEmpty name
    s!"ill-formed document: close tag `</{name}>` does not match any open tag"
  | .mismatchedClose expected found =>
    let expected := Text.utf8OrEmpty expected
    let found := Text.utf8OrEmpty found
    s!"ill-formed document: expected `</{expected}>`, but `</{found}>` was found"

/-- How the reading of a document ends: at its end, at its end inside a token, or at a
fault before it. -/
inductive Ending where
  | finished
  | unfinished (error : DocumentError)
  | faulty (error : DocumentError)
  deriving DecidableEq, Repr

/-- What a token means when the elements `opened` are open, innermost first: the event, if
there is one, and the elements open behind it. -/
def understand (opened : List (List UInt8)) :
    Token → Except DocumentError (Option ElementEvent × List (List UInt8))
  | .opening content => .ok (some (.opened content), tagName content :: opened)
  | .empty content => .ok (some (.single content), opened)
  | .closing name =>
    match opened with
    | [] => .error (.unmatchedClose name)
    | expected :: outer =>
      if expected == name then .ok (some (.closed name), outer)
      else .error (.mismatchedClose expected name)
  | .doctype content =>
    if content.all isSpace then .error .missingDoctypeName else .ok (none, opened)
  | .other => .ok (none, opened)

/-- Reads on; `read` holds the events so far, last first. -/
def readFrom (opened : List (List UInt8)) (read : List ElementEvent) (bytes : List UInt8) :
    List ElementEvent × Ending :=
  match _h : scan bytes with
  | .finished => (read.reverse, .finished)
  | .unfinished e => (read.reverse, .unfinished (.notMarkup e))
  | .malformed e => (read.reverse, .faulty (.notMarkup e))
  | .token token rest =>
    match understand opened token with
    | .error e => (read.reverse, .faulty e)
    | .ok (event, opened) => readFrom opened (event.toList ++ read) rest
termination_by bytes.length
decreasing_by exact length_scan _h

/-- The events of a document and how its reading ends. -/
def read (bytes : List UInt8) : List ElementEvent × Ending :=
  readFrom [] [] bytes

end ModuleDepot.Markup
