import ModuleDepot.FileTree.Basic

/-! # Walking along a path

A path is followed step by step from the root or from the working directory. Every step
but the last has to lead into a directory, links are followed, and at most forty of them.
Names and paths that are too long are refused.

Two kinds of walk are needed. `resolve` follows a path to the entry it names. `slot`
follows it to the directory in which its last name stands or would stand, and does not
follow what stands there.
-/

namespace ModuleDepot

/-- The longest name, in bytes. -/
def maxNameLength : Nat := 255

/-- The longest path, in bytes. -/
def maxPathLength : Nat := 4095

/-- The number of links a single walk follows. -/
def maxLinks : Nat := 40

namespace FileTree

/-- Follows the steps from a location; `follow` continues behind a link, with the steps
that the link stands for in front. -/
def walkWith (t : FileTree) (follow : Location → List String → Except IoError Location)
    (loc : Location) : List String → Except IoError Location
  | [] => .ok loc
  | step :: rest =>
    if !t.isDirectoryAt loc then .error .notDirectory
    else if step == "." then walkWith t follow loc rest
    else if step == ".." then walkWith t follow loc.dropLast rest
    else if step.utf8ByteSize > maxNameLength then .error .nameTooLong
    else
      match t.lookup (loc ++ [step]) with
      | none => .error .notFound
      | some (.link target) =>
        follow (if target.isAbsolute then [] else loc) (target.steps ++ rest)
      | some _ => walkWith t follow (loc ++ [step]) rest

/-- Follows the steps from a location, and at most so many links. -/
def walk (t : FileTree) : (links : Nat) → Location → List String → Except IoError Location
  | 0 => walkWith t fun _ _ => .error .tooManyLinks
  | links + 1 => walkWith t fun loc steps => walk t links loc steps

/-- The location from which a path starts. -/
def start (t : FileTree) (p : Path) : Location :=
  if p.isAbsolute then [] else t.workingDirectory

/-- Refuses the paths that no walk can follow. -/
def checkPath (p : Path) : Except IoError Unit :=
  if p.hasNul then .error .nulInPath
  else if p.text.isEmpty then .error .notFound
  else if p.text.utf8ByteSize > maxPathLength then .error .nameTooLong
  else .ok ()

/-- The location of the entry that a path names. -/
def resolve (t : FileTree) (p : Path) : Except IoError Location := do
  checkPath p
  t.walk maxLinks (t.start p) p.steps

/-- The entry that a path names. -/
def entryAt (t : FileTree) (p : Path) : Except IoError Entry := do
  let loc ← t.resolve p
  match t.lookup loc with
  | some entry => .ok entry
  | none => .error .notFound

/-- Whether the path names anything. -/
def exists? (t : FileTree) (p : Path) : Bool :=
  (t.entryAt p).toOption.isSome

/-- Whether the path names a regular file. -/
def isFile (t : FileTree) (p : Path) : Bool :=
  match t.entryAt p with
  | .ok (.file _) => true
  | _ => false

/-- Whether the path names a directory. -/
def isDirectory (t : FileTree) (p : Path) : Bool :=
  match t.entryAt p with
  | .ok .directory => true
  | _ => false

/-- Opens what the path names for reading. A directory opens, but gives nothing to read. -/
def openFile (t : FileTree) (p : Path) : Except IoError ByteStream := do
  match ← t.entryAt p with
  | .file content => .ok (.ofBytes content)
  | _ => .ok (.failing .isDirectory)

/-- A place in a directory for a name. -/
structure Slot where
  directory : Location
  name : String
  /-- The path asked for a directory of that name. -/
  asDirectory : Bool
  deriving DecidableEq, Repr

/-- The location of the name. -/
def Slot.location (s : Slot) : Location :=
  s.directory ++ [s.name]

/-- The place that the last name of a path stands for; missing when the path ends in a
dot or two, or has no name at all. -/
def slot (t : FileTree) (p : Path) : Except IoError (Option Slot) := do
  checkPath p
  match p.names.getLast? with
  | none => .ok none
  | some name =>
    let directory ← t.walk maxLinks (t.start p) p.names.dropLast
    if !t.isDirectoryAt directory then .error .notDirectory
    else if name == "." || name == ".." then .ok none
    else if name.utf8ByteSize > maxNameLength then .error .nameTooLong
    else .ok (some ⟨directory, name, p.endsInSeparator⟩)

end FileTree
end ModuleDepot
