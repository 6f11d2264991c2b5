/-! # Paths

A path is a text in which `/` separates names. Nothing is normalised when a path is put
together, so `join` keeps what it is given: an absolute name replaces the base, every
other name is appended behind one separator.

A path is read in two ways. `components` gives the names without the separators and dots
that change nothing, and decides `parent?` and `fileName?`. `steps` gives what a walk
through directories has to do, where `.` and a separator at the end still count.
-/

namespace ModuleDepot

/-- A path on the file system. -/
structure Path where
  text : String
  deriving DecidableEq, Repr, Inhabited

/-- One component of a path. -/
inductive Component where
  | root
  | current
  | parent
  | normal (name : String)
  deriving DecidableEq, Repr

/-- The text of a component on its own. -/
def Component.text : Component → String
  | .root => "/"
  | .current => "."
  | .parent => ".."
  | .normal name => name

/-- The parts of a text between its separators; there is one more part than separators. -/
def separated (sep : Char) (s : String) : List String :=
  (s.toList.splitOn sep).map String.ofList

namespace Path

/-- An absolute path starts with the separator. -/
def isAbsolute (p : Path) : Bool :=
  p.text.toList.head? == some '/'

/-- A path that ends in the separator names a directory. -/
def endsInSeparator (p : Path) : Bool :=
  p.text.toList.getLast? == some '/'

/-- The base followed by a name. -/
def join (base : Path) (name : String) : Path :=
  if name.toList.head? == some '/' then ⟨name⟩
  else if base.text.isEmpty || base.endsInSeparator then ⟨base.text ++ name⟩
  else ⟨base.text ++ "/" ++ name⟩

/-- The path of names put behind each other, starting from the empty path. -/
def ofNames (names : List String) : Path :=
  names.foldl join ⟨""⟩

/-! ## Components -/

/-- A part that is no component of its own. -/
def isTrivial (part : String) : Bool :=
  part == "" || part == "."

/-- A path split into the sign it starts with (the separator, a leading dot, or nothing)
and the parts behind it. -/
def headAndParts (p : Path) : String × List String :=
  if p.isAbsolute then ("/", separated '/' (String.ofList p.text.toList.tail))
  else match separated '/' p.text with
    | "." :: parts => (".", "" :: parts)
    | parts => ("", parts)

/-- The component that a part behind the head stands for. -/
def componentOf (part : String) : Component :=
  if part == ".." then .parent else .normal part

/-- The components of a path. Empty parts and dots are left out, a leading dot excepted. -/
def components (p : Path) : List Component :=
  let (head, parts) := p.headAndParts
  let named := (parts.filter (!isTrivial ·)).map componentOf
  if head == "/" then .root :: named
  else if head == "." then .current :: named
  else named

/-- The paths that remain when the last named part is taken away, then the one before it,
and so on; `below` holds the parts last first. -/
def withoutLast (head : String) : List String → List Path
  | [] => if head == "." then [⟨""⟩] else []
  | part :: below =>
    if isTrivial part then withoutLast head below
    else ⟨head ++ "/".intercalate (below.dropWhile isTrivial).reverse⟩ :: withoutLast head below

/-- The paths above this one, nearest first. -/
def parents (p : Path) : List Path :=
  let (head, parts) := p.headAndParts
  withoutLast head parts.reverse

/-- The path without its last component; missing for the root and for the empty path. -/
def parent? (p : Path) : Option Path :=
  p.parents.head?

/-- The last component, if it is a name. -/
def fileName? (p : Path) : Option String :=
  match p.components.getLast? with
  | some (.normal name) => some name
  | _ => none

/-! ## Steps -/

/-- The parts of the path that are not empty. -/
def names (p : Path) : List String :=
  (separated '/' p.text).filter (· != "")

/-- What a walk along the path does, step by step. A separator at the end asks once more
for a directory, which is what the step `.` does. -/
def steps (p : Path) : List String :=
  if p.endsInSeparator && !p.names.isEmpty then p.names ++ ["."] else p.names

/-- Whether the path holds the character that ends a name for the operating system. -/
def hasNul (p : Path) : Bool :=
  p.text.toList.contains '\x00'

end Path
end ModuleDepot
