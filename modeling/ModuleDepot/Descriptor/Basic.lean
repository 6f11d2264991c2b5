import ModuleDepot.ByteStream
import ModuleDepot.Identifier
import ModuleDepot.Markup.Element
import ModuleDepot.Markup.Reference

/-! # Descriptors

A descriptor says which module it belongs to, where its file lies, and which resources
the module declares, in an order that matters. A module that exists only inside the
process has a descriptor without a file.

A parser turns the stream of a descriptor file into the declared resource paths, or says
why it cannot.
-/

namespace ModuleDepot

/-- Why the content of a descriptor file is no descriptor. -/
inductive DescriptorError where
  | unreadable (cause : IoError)
  | document (error : Markup.DocumentError)
  | attribute (error : Markup.AttributeError)
  | notText (fault : Text.Utf8Fault)
  | reference (error : Markup.ReferenceError)
  | noRoot
  | noPath
  | rejected (reason : String)
  deriving DecidableEq, Repr

/-- The wording of a descriptor error. -/
def DescriptorError.message : DescriptorError → String
  | .unreadable cause => s!"I/O error: {cause.message}"
  | .document error => error.message
  | .attribute error => error.message
  | .notText fault => s!"cannot decode input using UTF-8: {fault.message}"
  | .reference error => error.message
  | .noRoot => "descriptor has no root element"
  | .noPath => "resource-root without a path attribute"
  | .rejected reason => reason

/-- Turns the stream of a descriptor file into the resource paths, in document order. A parser
is not told whose file it reads, and of what goes wrong it can only say why the content is no
descriptor. -/
abbrev DescriptorParser := ByteStream → Except DescriptorError (List String)

/-- A module that was found. -/
structure Descriptor where
  identifier : ModuleId
  location : Option Path
  resources : List String
  deriving DecidableEq, Repr

namespace Descriptor

/-- The descriptor of a module that exists only inside the process. -/
def inProcess (id : ModuleId) : Descriptor := ⟨id, none, []⟩

/-- Where the resources of the module are: beside the descriptor file. -/
def files (d : Descriptor) : List Path :=
  match d.location.bind Path.parent? with
  | none => []
  | some directory => d.resources.map directory.join

end Descriptor
end ModuleDepot
