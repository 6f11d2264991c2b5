import ModuleDepot.Repository.Basic

/-! # Repositories in memory

A repository that holds its resources itself. Single resources can be out of reach, and so
can the whole repository; each time the reason is known.
-/

namespace ModuleDepot

/-- The resources by their paths, and the reasons why some or all are out of reach. -/
structure MemoryRepository where
  resources : List (String × ByteStream) := []
  broken : List (String × String) := []
  offline : Option String := none
  deriving DecidableEq, Repr

namespace MemoryRepository

/-- Entries without those of a path. -/
def without {α : Type} (path : String) (entries : List (String × α)) : List (String × α) :=
  entries.filter (·.1 != path)

/-- Puts a resource in place of what was there. -/
def put (m : MemoryRepository) (path : String) (stream : ByteStream) : MemoryRepository :=
  { m with resources := (path, stream) :: without path m.resources }

/-- Takes a resource away. -/
def remove (m : MemoryRepository) (path : String) : MemoryRepository :=
  { m with resources := without path m.resources }

/-- Puts a resource out of reach. -/
def breakPath (m : MemoryRepository) (path reason : String) : MemoryRepository :=
  { m with broken := (path, reason) :: without path m.broken }

/-- Puts a resource within reach. -/
def mend (m : MemoryRepository) (path : String) : MemoryRepository :=
  { m with broken := without path m.broken }

/-- The answer to a request. -/
def answer (m : MemoryRepository) (request : Request) : Answer :=
  match m.offline.or (m.broken.lookup request.path) with
  | some reason => .unavailable reason
  | none =>
    match m.resources.lookup request.path with
    | some stream => .found stream
    | none => .notFound

/-- As a repository, whose state is what it holds. -/
def repository : Repository MemoryRepository where
  description := "memory repository"
  fetch m request := (m.answer request, m, [])

end MemoryRepository
end ModuleDepot
