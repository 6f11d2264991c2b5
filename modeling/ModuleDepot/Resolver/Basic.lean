import ModuleDepot.Layout
import ModuleDepot.LoadError

/-! # Resolvers

A resolver looks up the descriptor of a module. That there is none is an answer; a
resolver may also say so with the error `notFound`. What a resolver answers may depend on
the files and on what it was asked before, which its state `ρ` keeps.
-/

namespace ModuleDepot

/-- The answer of a resolver. -/
abbrev Lookup := Except LoadError (Option Descriptor)

/-- A resolver whose state is a `ρ`. -/
structure Resolver (ρ : Type) where
  find : FileTree → ModuleId → ρ → Lookup × ρ

/-- Both ways to say that there is no such module are the same answer. -/
def Lookup.settled : Lookup → Lookup
  | .error (.notFound _) => .ok none
  | answer => answer

/-- Answers for the module that every process has, and for no other. -/
def systemResolver : Resolver Unit where
  find _ id _ := (.ok (if id.isSystem then some (Descriptor.inProcess id) else none), ())

/-! ## Descriptors on disk -/

/-- Looks for descriptors below a root directory. -/
structure LocalResolver where
  root : Path
  parser : DescriptorParser

namespace LocalResolver

/-- Where the descriptor of a module would be. -/
def descriptorPath (r : LocalResolver) (id : ModuleId) : Path :=
  r.root.join (Layout.file id Layout.descriptorName).text

/-- The descriptor of a module, if there is a file for it. -/
def find (r : LocalResolver) (t : FileTree) (id : ModuleId) : Lookup :=
  let path := r.descriptorPath id
  match t.openFile path with
  | .error cause => if cause.isNotFound then .ok none else .error (.unreadable id path cause)
  | .ok stream =>
    match r.parser stream with
    | .error e => .error (.invalid id e)
    | .ok resources => .ok (some ⟨id, some path, resources⟩)

/-- As a resolver without a state. -/
def toResolver (r : LocalResolver) : Resolver Unit where
  find t id _ := (r.find t id, ())

end LocalResolver
end ModuleDepot
