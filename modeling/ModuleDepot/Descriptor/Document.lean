import ModuleDepot.Descriptor.Basic

/-! # Descriptors as documents

A descriptor document lists resources inside an element `resources`, each as an element
`resource-root` with a `path`. Prefixes of names do not matter and everything else in the
document is ignored. The first fault in the document decides, whether it is in the markup
or in a resource.

A stream that breaks is a fault where the document was not at its end already, and a
document without any element is no descriptor.
-/

namespace ModuleDepot.Descriptor

/-- The local name of the element around the resources. -/
def resourcesName : List UInt8 := Text.utf8 "resources"

/-- The local name of an element that declares a resource. -/
def resourceName : List UInt8 := Text.utf8 "resource-root"

/-- The key of the attribute that holds the path of a resource. -/
def pathKey : List UInt8 := Text.utf8 "path"

/-- The path that a tag declares. -/
def declaredPath (content : List UInt8) : Except DescriptorError String :=
  match Markup.attribute? pathKey content with
  | .error e => .error (.attribute e)
  | .ok none => .error .noPath
  | .ok (some raw) =>
    match Text.readUtf8 raw with
    | .error fault => .error (.notText fault)
    | .ok value =>
      match Markup.unescape value with
      | .error e => .error (.reference e)
      | .ok path => .ok path

/-- What the elements read so far say: whether the last `resources` tag opened or closed
one, whether there was any element, and the paths, last first. -/
structure Reading where
  inResources : Bool := false
  sawElement : Bool := false
  paths : List String := []
  deriving DecidableEq, Repr

namespace Reading

/-- Takes in the tag of an element. -/
def tag (r : Reading) (content : List UInt8) : Except DescriptorError Reading :=
  if r.inResources && Markup.localName (Markup.tagName content) == resourceName then
    match declaredPath content with
    | .ok path => .ok { r with sawElement := true, paths := path :: r.paths }
    | .error e => .error e
  else .ok { r with sawElement := true }

/-- Takes in an event. -/
def step (r : Reading) : Markup.ElementEvent → Except DescriptorError Reading
  | .opened content =>
    if Markup.localName (Markup.tagName content) == resourcesName then
      .ok { r with sawElement := true, inResources := true }
    else r.tag content
  | .single content => r.tag content
  | .closed name =>
    if Markup.localName name == resourcesName then .ok { r with inResources := false } else .ok r

/-- Takes in events in order, up to the first fault. -/
def steps (r : Reading) : List Markup.ElementEvent → Except DescriptorError Reading
  | [] => .ok r
  | event :: events =>
    match r.step event with
    | .ok r => steps r events
    | .error e => .error e

end Reading

/-- The resource paths of a document, given what comes behind its bytes: the end, or a
break of the stream. -/
def parseDocument (bytes : List UInt8) (broken : Option IoError) :
    Except DescriptorError (List String) :=
  let (events, ending) := Markup.read bytes
  match Reading.steps {} events with
  | .error e => .error e
  | .ok r =>
    match ending, broken with
    | .faulty e, _ => .error (.document e)
    | _, some cause => .error (.unreadable cause)
    | .unfinished e, none => .error (.document e)
    | .finished, none => if r.sawElement then .ok r.paths.reverse else .error .noRoot

/-- The parser of descriptor documents. -/
def documentParser : DescriptorParser := fun stream =>
  let (bytes, broken) := stream.contents
  parseDocument bytes broken

end ModuleDepot.Descriptor
