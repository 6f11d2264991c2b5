import ModuleDepot.Identifier

/-! # Reports of fetches

A report says, for a module whose descriptor is in the cache afterwards, what happened to
the descriptor, to each declared resource, and to the index of each.
-/

namespace ModuleDepot

/-- Where a descriptor came from. -/
inductive DescriptorSource where
  | cached
  | fetched
  deriving DecidableEq, Repr

/-- What happened to a resource or an index. -/
inductive Outcome where
  | cached
  | fetched
  | notFound
  | unavailable (reason : String)
  | rejected
  deriving DecidableEq, Repr

namespace Outcome

/-- Whether the artifact is in the cache afterwards. -/
def isCached : Outcome → Bool
  | .cached | .fetched => true
  | _ => false

/-- Whether the artifact was skipped. -/
def isSkipped (o : Outcome) : Bool := !o.isCached

/-- The wording of an outcome. -/
def text : Outcome → String
  | .cached => "cached"
  | .fetched => "fetched"
  | .notFound => "not found"
  | .unavailable reason => s!"unavailable ({reason})"
  | .rejected => "rejected"

end Outcome

/-- What happened to a declared resource and its index. -/
structure ResourceReport where
  path : String
  resource : Outcome
  index : Outcome
  deriving DecidableEq, Repr

namespace ResourceReport

/-- Whether an outcome is a download. -/
def countDownload (o : Outcome) : Nat :=
  if o = .fetched then 1 else 0

/-- How many of the resource and its index were downloaded. -/
def downloads (r : ResourceReport) : Nat :=
  countDownload r.resource + countDownload r.index

end ResourceReport

/-- What happened in a fetch that left the descriptor in the cache. -/
structure Report where
  identifier : ModuleId
  descriptor : DescriptorSource
  resources : List ResourceReport
  deriving DecidableEq, Repr

namespace Report

/-- The number of artifacts downloaded, the descriptor included. -/
def downloads (r : Report) : Nat :=
  (if r.descriptor = .fetched then 1 else 0) + (r.resources.map (·.downloads)).foldr (· + ·) 0

/-- The resources that are not in the cache afterwards. -/
def missing (r : Report) : List ResourceReport :=
  r.resources.filter (·.resource.isSkipped)

/-- Whether every declared resource is in the cache; an index may be missing. -/
def isComplete (r : Report) : Bool := r.missing.isEmpty

end Report
end ModuleDepot
