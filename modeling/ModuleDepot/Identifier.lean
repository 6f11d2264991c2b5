import ModuleDepot.Path

/-! # Module identifiers

A module is named by a dotted name and a slot, which tells variants of one module apart.
The written form is `name:slot`; without a slot the default one is meant.

`ModuleId.parse` accepts exactly the texts whose name has no empty segment and whose
slot, if one is given, is not empty.
-/

namespace ModuleDepot

/-- The slot meant when a text names none. -/
def defaultSlot : String := "main"

/-- The name of the module that every process has. -/
def systemName : String := "system"

/-- The name and slot of a module. -/
structure ModuleId where
  name : String
  slot : String
  deriving DecidableEq, Repr, Inhabited

/-- Why a text names no module. -/
inductive IdentifierError where
  | emptyName (text : String)
  | emptySlot (text : String)
  | emptySegment (name : String)
  deriving DecidableEq, Repr

/-- The wording of an identifier error. -/
def IdentifierError.message : IdentifierError → String
  | .emptyName text => s!"module name is empty in '{text}'"
  | .emptySlot text => s!"module slot is empty in '{text}'"
  | .emptySegment name => s!"module name '{name}' contains an empty segment"

namespace ModuleId

/-- The module that is answered without a repository. -/
def system : ModuleId := ⟨systemName, defaultSlot⟩

/-- Whether this is the module that every process has. -/
def isSystem (id : ModuleId) : Bool :=
  id == system

/-- The parts of the dotted name. -/
def segments (id : ModuleId) : List String :=
  separated '.' id.name

/-- The written form. -/
def text (id : ModuleId) : String :=
  id.name ++ ":" ++ id.slot

instance : ToString ModuleId := ⟨text⟩

/-- The text before the first colon, and the text behind it if there is a colon. -/
def splitSlot (s : String) : String × Option String :=
  let name := s.toList.takeWhile (· != ':')
  match s.toList.dropWhile (· != ':') with
  | [] => (String.ofList name, none)
  | _ :: slot => (String.ofList name, some (String.ofList slot))

/-- Reads `name` or `name:slot`. The first colon ends the name. -/
def parse (s : String) : Except IdentifierError ModuleId :=
  let (name, slot?) := splitSlot s
  let slot := slot?.getD defaultSlot
  if name.isEmpty then .error (.emptyName s)
  else if slot.isEmpty then .error (.emptySlot s)
  else if (separated '.' name).any String.isEmpty then .error (.emptySegment name)
  else .ok ⟨name, slot⟩

/-- The order of identifiers: by name, then by slot. -/
def le (a b : ModuleId) : Bool :=
  a.name < b.name || (a.name == b.name && (a.slot < b.slot || a.slot == b.slot))

/-- The identifiers in order. -/
def sort (ids : List ModuleId) : List ModuleId :=
  ids.mergeSort le

end ModuleId
end ModuleDepot
