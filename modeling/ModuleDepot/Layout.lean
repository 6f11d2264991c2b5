import ModuleDepot.Identifier

/-! # Where the artifacts of a module lie

One rule gives both layouts: the segments of the name, then the slot. In the cache they
are joined as a path, in the repository they are separated by `/` behind the version.
A resource lies beside the descriptor, and its index beside the resource.
-/

namespace ModuleDepot.Layout

/-- The file name of a descriptor. -/
def descriptorName : String := "module.xml"

/-- What a resource name gets behind it to name its index. -/
def indexSuffix : String := ".index"

/-- The directory of a module in the cache. -/
def directory (id : ModuleId) : Path :=
  (Path.ofNames id.segments).join id.slot

/-- A file in the directory of a module. -/
def file (id : ModuleId) (name : String) : Path :=
  (directory id).join name

/-- Where a module lies in the repository, ready for a resource name behind it. -/
def place (version : String) (id : ModuleId) : String :=
  version ++ "/" ++ String.join (id.segments.map (· ++ "/")) ++ id.slot ++ "/"

/-- The name of the index of a resource. -/
def indexOf (resource : String) : String :=
  resource ++ indexSuffix

/-- What follows the last separator of either kind. -/
def lastName (resource : String) : List Char :=
  (resource.toList.reverse.takeWhile fun c => !(c == '/' || c == '\\')).reverse

/-- A resource path stays inside the module directory and names a file: it is relative,
it does not climb, and it does not end in a directory. -/
def isContained (resource : String) : Bool :=
  let first := resource.toList.head?
  let last := String.ofList (lastName resource)
  first != some '/' && first != some '\\' &&
    last != "" && last != "." && last != ".." &&
    (Path.mk resource).components.all fun c =>
      match c with
      | .normal _ | .current => true
      | .root | .parent => false

end ModuleDepot.Layout
