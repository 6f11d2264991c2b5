import ModuleDepot.FileTree.Walk

/-! # Changing a tree of files

Each change either gives the new tree or says why the tree stays as it is. Only
`makeDirectories` can fail with a changed tree, since the directories it made before the
failure stay.
-/

namespace ModuleDepot.FileTree

/-- Makes one directory. What stands at its place, of whatever kind, is in the way. -/
def makeDirectory (t : FileTree) (p : Path) : Except IoError FileTree := do
  match ← t.slot p with
  | none => .error .alreadyExists
  | some s =>
    match t.lookup s.location with
    | some _ => .error .alreadyExists
    | none => .ok (t.insert s.location .directory)

/-- Makes the first directory of a chain, after the ones above it if they are missing. A
directory that is there already is as good as one that was made. -/
def makeChain (t : FileTree) : List Path → FileTree × Except IoError Unit
  | [] => (t, .ok ())
  | p :: above =>
    if p.text.isEmpty then (t, .ok ())
    else
      match t.makeDirectory p with
      | .ok made => (made, .ok ())
      | .error e =>
        if e != .notFound then
          (t, if t.isDirectory p then .ok () else .error e)
        else
          match makeChain t above with
          | (t', .error e') => (t', .error e')
          | (t', .ok ()) =>
            match t'.makeDirectory p with
            | .ok made => (made, .ok ())
            | .error e' => (t', if t'.isDirectory p then .ok () else .error e')

/-- Makes a directory and every missing one above it. -/
def makeDirectories (t : FileTree) (p : Path) : FileTree × Except IoError Unit :=
  makeChain t (p :: p.parents)

/-! ## Files -/

/-- A name that no entry of the tree has anywhere: it is longer than all of them. -/
def freshName (t : FileTree) : String :=
  let longest := t.entries.toList.foldl (fun n e =>
    e.1.foldl (fun n name => max n name.length) n) 0
  ".tmp" ++ String.ofList (List.replicate longest 'x')

/-- Makes an empty file of a fresh name in a directory. -/
def makeTemporary (t : FileTree) (directory : Path) : Except IoError (FileTree × Location) := do
  let loc ← if directory.text.isEmpty then .ok t.workingDirectory else t.resolve directory
  if t.isDirectoryAt loc then
    .ok (t.insert (loc ++ [t.freshName]) (.file []), loc ++ [t.freshName])
  else .error .notDirectory

/-- Moves a file onto the place a path names, in place of what stands there. A directory
is never replaced. -/
def moveFile (t : FileTree) (source : Location) (p : Path) : Except IoError FileTree :=
  if p.hasNul then .error .invalidArgument
  else do
    match ← t.slot p, t.lookup source with
    | none, _ => .error .busy
    | some _, none => .error .notFound
    | some s, some entry =>
      if s.asDirectory then .error .notDirectory
      else if t.isDirectoryAt s.location then .error .isDirectory
      else .ok ((t.erase source).insert s.location entry)

/-- Finds where a file of this path is or would be, following links, and changes its
content, given the old content if there is one. -/
def updateFrom (t : FileTree) (update : List UInt8 → List UInt8) :
    (links : Nat) → Location → Path → Except IoError FileTree
  | links, base, p => do
    match p.names.getLast? with
    | none => .error .isDirectory
    | some name =>
      let loc ← t.walk maxLinks base p.names.dropLast
      if !t.isDirectoryAt loc then .error .notDirectory
      else if name == "." || name == ".." || p.endsInSeparator then .error .isDirectory
      else if name.utf8ByteSize > maxNameLength then .error .nameTooLong
      else
        match t.lookup (loc ++ [name]) with
        | none => .ok (t.insert (loc ++ [name]) (.file (update [])))
        | some (.file old) => .ok (t.insert (loc ++ [name]) (.file (update old)))
        | some .directory => .error .isDirectory
        | some (.link target) =>
          match links with
          | 0 => .error .tooManyLinks
          | links + 1 =>
            updateFrom t update links (if target.isAbsolute then [] else loc) target

/-- Writes a file, in place of its old content if it is there. -/
def writeFile (t : FileTree) (p : Path) (content : List UInt8) : Except IoError FileTree := do
  checkPath p
  updateFrom t (fun _ => content) maxLinks (t.start p) p

/-- Adds to the end of a file, which is made if it is missing. -/
def appendFile (t : FileTree) (p : Path) (content : List UInt8) : Except IoError FileTree := do
  checkPath p
  updateFrom t (· ++ content) maxLinks (t.start p) p

/-- Writes a file after the missing directories above it. -/
def placeFile (t : FileTree) (p : Path) (content : List UInt8) : FileTree × Except IoError Unit :=
  match makeChain t p.parents with
  | (t, .error e) => (t, .error e)
  | (t, .ok ()) =>
    match t.writeFile p content with
    | .ok t => (t, .ok ())
    | .error e => (t, .error e)

/-- Makes a link. -/
def makeLink (t : FileTree) (p target : Path) : Except IoError FileTree := do
  match ← t.slot p with
  | none => .error .alreadyExists
  | some s =>
    if (t.lookup s.location).isSome then .error .alreadyExists
    else if s.asDirectory || target.text.isEmpty then .error .notFound
    else .ok (t.insert s.location (.link target))

/-- Removes a file or a link. -/
def removeFile (t : FileTree) (p : Path) : Except IoError FileTree := do
  match ← t.slot p with
  | none => .error .isDirectory
  | some s =>
    match t.lookup s.location with
    | none => .error .notFound
    | some .directory => .error .isDirectory
    | some _ => if s.asDirectory then .error .notDirectory else .ok (t.erase s.location)

/-- Removes what a path names, a directory with all that is below it. -/
def removeAll (t : FileTree) (p : Path) : Except IoError FileTree := do
  match ← t.slot p with
  | none => .error .invalidArgument
  | some s =>
    if (t.lookup s.location).isSome then .ok (t.prune s.location) else .error .notFound

end ModuleDepot.FileTree
