import ModuleDepot.Descriptor.Basic
import ModuleDepot.Store

/-! # Why a module could not be loaded

That a module is nowhere to be found is an answer, not an error; a resolver may still
report it as `notFound`, and callers take that for the same answer. All other errors are
hard failures, and each names the module.
-/

namespace ModuleDepot

/-- Why loading a module failed. -/
inductive LoadError where
  | notFound (id : ModuleId)
  | unreadable (id : ModuleId) (path : Path) (cause : IoError)
  | notStored (id : ModuleId) (cause : StoreError)
  | interrupted (id : ModuleId) (path : Path) (cause : IoError)
  | invalid (id : ModuleId) (error : DescriptorError)
  deriving DecidableEq, Repr

namespace LoadError

/-- The module whose loading failed. -/
def identifier : LoadError → ModuleId
  | .notFound id | .unreadable id _ _ | .notStored id _ | .interrupted id _ _ | .invalid id _ => id

/-- Whether the error only says that the module is absent. -/
def isNotFound : LoadError → Bool
  | .notFound _ => true
  | _ => false

/-- The wording of a load error. -/
def message : LoadError → String
  | .notFound id => s!"module not found: {id}"
  | .unreadable id path cause => s!"cannot read descriptor of {id} at {path.text}: {cause.message}"
  | .notStored id cause => s!"cannot fetch remote resource for {id}: {cause.message}"
  | .interrupted id path cause =>
    s!"transfer of {path.text} for {id} was interrupted: {cause.message}"
  | .invalid id error => s!"invalid descriptor for {id}: {error.message}"

/-- The wordings of the causes behind a load error, nearest first. -/
def causes : LoadError → List String
  | .notFound _ | .invalid _ _ => []
  | .unreadable _ _ cause | .interrupted _ _ cause => [cause.message]
  | .notStored _ cause => cause.message :: cause.causes

end LoadError
end ModuleDepot
