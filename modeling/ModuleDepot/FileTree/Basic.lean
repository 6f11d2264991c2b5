import Std.Data.ExtTreeMap
import ModuleDepot.ByteStream

/-! # Trees of files

A tree maps locations to entries. A location is the list of names from the root down to
the entry; the root itself is always a directory. Two trees with the same entries are
equal, in whatever order the entries were made.

The lemmas say what a look-up sees after an entry was put or taken away.
-/

namespace ModuleDepot

/-- The names that lead from the root to an entry. -/
abbrev Location := List String

/-- What stands at a location. A link holds the path it leads to. -/
inductive Entry where
  | file (content : List UInt8)
  | directory
  | link (target : Path)
  deriving DecidableEq, Repr

/-- A tree of files, and the directory from which relative paths start. -/
structure FileTree where
  entries : Std.ExtTreeMap Location Entry
  workingDirectory : Location := []

namespace FileTree

/-- The tree that holds nothing but its root. -/
def empty : FileTree := { entries := ∅ }

/-- The entry at a location. -/
def lookup (t : FileTree) (loc : Location) : Option Entry :=
  if loc = [] then some .directory else t.entries[loc]?

/-- The tree with an entry put at a location, in place of what stood there. -/
def insert (t : FileTree) (loc : Location) (entry : Entry) : FileTree :=
  { t with entries := t.entries.insert loc entry }

/-- The tree without the entry at a location. -/
def erase (t : FileTree) (loc : Location) : FileTree :=
  { t with entries := t.entries.erase loc }

/-- The tree without the entry at a location and everything below it. -/
def prune (t : FileTree) (loc : Location) : FileTree :=
  { t with entries := t.entries.filter fun l _ => !loc.isPrefixOf l }

/-- Whether a directory stands at the location. -/
def isDirectoryAt (t : FileTree) (loc : Location) : Bool :=
  t.lookup loc == some .directory

/-- The entries strictly below a location, each with the names that lead there from it. -/
def below (t : FileTree) (loc : Location) : List (Location × Entry) :=
  (t.entries.toList.filter fun e => loc.isPrefixOf e.1 && e.1 != loc).map
    fun e => (e.1.drop loc.length, e.2)

/-! ## Look-ups after changes -/

@[simp] theorem lookup_root (t : FileTree) : t.lookup [] = some .directory := by
  simp [lookup]

theorem lookup_insert (t : FileTree) {loc : Location} (h : loc ≠ []) (entry : Entry)
    (l : Location) :
    (t.insert loc entry).lookup l = if loc = l then some entry else t.lookup l := by
  by_cases hl : l = []
  · subst hl
    simp [lookup, h]
  · simp [lookup, insert, hl, Std.ExtTreeMap.getElem?_insert]

theorem lookup_erase (t : FileTree) {loc : Location} (h : loc ≠ []) (l : Location) :
    (t.erase loc).lookup l = if loc = l then none else t.lookup l := by
  by_cases hl : l = []
  · subst hl
    simp [lookup, h]
  · simp [lookup, erase, hl, Std.ExtTreeMap.getElem?_erase]

@[simp] theorem workingDirectory_insert (t : FileTree) (loc : Location) (entry : Entry) :
    (t.insert loc entry).workingDirectory = t.workingDirectory := rfl

@[simp] theorem workingDirectory_erase (t : FileTree) (loc : Location) :
    (t.erase loc).workingDirectory = t.workingDirectory := rfl

/-- Trees with the same entries and the same starting point are equal. -/
theorem ext_entries {t u : FileTree} (h : ∀ loc : Location, t.entries[loc]? = u.entries[loc]?)
    (hw : t.workingDirectory = u.workingDirectory) : t = u := by
  cases t
  cases u
  simp only [mk.injEq] at *
  exact ⟨Std.ExtTreeMap.ext_getElem? h, hw⟩

end FileTree
end ModuleDepot
