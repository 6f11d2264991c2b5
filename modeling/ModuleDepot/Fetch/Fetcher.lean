import ModuleDepot.Fetch.Report
import ModuleDepot.Layout
import ModuleDepot.LoadError
import ModuleDepot.Repository.Basic

/-! # Fetching modules into the cache

A fetch makes the descriptor of a module available in the cache and then goes through the
resources it declares, each followed by its index.

* What is in the cache is trusted and not requested again.
* A descriptor that the repository does not have, or cannot deliver, is a negative
  answer. A resource or index of this kind is skipped, with the reason in the report.
* A resource whose path leads out of the module directory is skipped unseen.
* An artifact that arrives and cannot be stored, or that breaks on its way, is an error.
  Nothing partial is left of it, and nothing is requested behind it.
-/

namespace ModuleDepot

/-- What a fetch works on: the files, the repository with its state, the requests made so
far and the log so far, oldest first. -/
structure World (σ : Type) where
  tree : FileTree
  repository : σ
  requests : List Request := []
  events : List Event := []

namespace World

variable {σ : Type}

/-- Adds an event to the log. -/
def log (w : World σ) (e : Event) : World σ :=
  { w with events := w.events ++ [e] }

/-- Asks the repository. -/
def ask (w : World σ) (repository : Repository σ) (request : Request) : Answer × World σ :=
  let (answer, state, events) := repository.fetch w.repository request
  (answer, { w with
    repository := state
    requests := w.requests ++ [request]
    events := w.events ++ events })

end World

/-- Fetches modules from a repository into a store. -/
structure Fetcher (σ : Type) where
  store : Store
  repository : Repository σ
  parser : DescriptorParser
  version : String

namespace Fetcher

variable {σ : Type}

/-! ## Events -/

def cachedEvent (id : ModuleId) : Event :=
  ⟨.debug, .fetch, "Descriptor already cached", [("module", id.text)]⟩

def unknownModuleEvent (id : ModuleId) : Event :=
  ⟨.debug, .fetch, "Module not found in repository", [("module", id.text)]⟩

def unavailableModuleEvent (id : ModuleId) (reason : String) : Event :=
  ⟨.warn, .fetch, "Cannot fetch module descriptor", [("module", id.text), ("reason", reason)]⟩

def rejectedEvent (id : ModuleId) (resource : String) : Event :=
  ⟨.warn, .fetch, "Skipping resource outside module directory",
    [("module", id.text), ("resource", resource)]⟩

def unknownArtifactEvent (id : ModuleId) (name : String) : Event :=
  ⟨.debug, .fetch, "Artifact not in repository", [("module", id.text), ("artifact", name)]⟩

def unavailableArtifactEvent (id : ModuleId) (name reason : String) : Event :=
  ⟨.warn, .fetch, "Skipping unavailable artifact",
    [("module", id.text), ("artifact", name), ("reason", reason)]⟩

def completedEvent (report : Report) : Event :=
  ⟨.info, .fetch, "Module fetch completed",
    [("module", report.identifier.text), ("fetched", toString report.downloads),
     ("missing", toString report.missing.length)]⟩

/-! ## Steps of a fetch -/

/-- The request for an artifact of a module. -/
def request (f : Fetcher σ) (id : ModuleId) (name : String) : Request :=
  ⟨Layout.place f.version id, name⟩

/-- Stores an artifact of a module. -/
def keep (f : Fetcher σ) (id : ModuleId) (stream : ByteStream) (name : Path)
    (w : World σ) : Except LoadError Unit × World σ :=
  let written := f.store.write w.tree stream name
  let w := { w with tree := written.tree, events := w.events ++ written.events }
  match written.result with
  | .ok _ => (.ok (), w)
  | .error (.brokenSource path cause) => (.error (.interrupted id path cause), w)
  | .error e => (.error (.notStored id e), w)

/-- Brings one artifact into the cache unless it is there. -/
def bring (f : Fetcher σ) (id : ModuleId) (name : String) (w : World σ) :
    Except LoadError Outcome × World σ :=
  let place := Layout.file id name
  if f.store.has w.tree place then (.ok .cached, w)
  else
    match w.ask f.repository (f.request id name) with
    | (.found stream, w) =>
      match f.keep id stream place w with
      | (.ok (), w) => (.ok .fetched, w)
      | (.error e, w) => (.error e, w)
    | (.notFound, w) => (.ok .notFound, w.log (unknownArtifactEvent id name))
    | (.unavailable reason, w) =>
      (.ok (.unavailable reason), w.log (unavailableArtifactEvent id name reason))

/-- Brings a declared resource and its index into the cache. -/
def bringResource (f : Fetcher σ) (id : ModuleId) (path : String) (w : World σ) :
    Except LoadError ResourceReport × World σ :=
  if !Layout.isContained path then
    (.ok ⟨path, .rejected, .rejected⟩, w.log (rejectedEvent id path))
  else
    match f.bring id path w with
    | (.error e, w) => (.error e, w)
    | (.ok resource, w) =>
      match f.bring id (Layout.indexOf path) w with
      | (.error e, w) => (.error e, w)
      | (.ok index, w) => (.ok ⟨path, resource, index⟩, w)

/-- Brings the declared resources into the cache, in order, up to the first error. -/
def bringResources (f : Fetcher σ) (id : ModuleId) :
    List String → World σ → Except LoadError (List ResourceReport) × World σ
  | [], w => (.ok [], w)
  | path :: paths, w =>
    match f.bringResource id path w with
    | (.error e, w) => (.error e, w)
    | (.ok report, w) =>
      match bringResources f id paths w with
      | (.error e, w) => (.error e, w)
      | (.ok reports, w) => (.ok (report :: reports), w)

/-- Brings the descriptor into the cache unless it is there. The answer is missing if the
repository does not have it or cannot deliver it. -/
def bringDescriptor (f : Fetcher σ) (id : ModuleId) (w : World σ) :
    Except LoadError (Option DescriptorSource) × World σ :=
  let place := Layout.file id Layout.descriptorName
  if f.store.has w.tree place then (.ok (some .cached), w.log (cachedEvent id))
  else
    match w.ask f.repository (f.request id Layout.descriptorName) with
    | (.found stream, w) =>
      match f.keep id stream place w with
      | (.ok (), w) => (.ok (some .fetched), w)
      | (.error e, w) => (.error e, w)
    | (.notFound, w) => (.ok none, w.log (unknownModuleEvent id))
    | (.unavailable reason, w) => (.ok none, w.log (unavailableModuleEvent id reason))

/-- The resource paths of the descriptor in the cache, whatever was sent. -/
def readDescriptor (f : Fetcher σ) (id : ModuleId) (t : FileTree) :
    Except LoadError (List String) :=
  let path := f.store.path (Layout.file id Layout.descriptorName)
  match t.openFile path with
  | .error cause => .error (.unreadable id path cause)
  | .ok stream =>
    match f.parser stream with
    | .error e => .error (.invalid id e)
    | .ok paths => .ok paths

/-- Makes a module available in the cache and reports what happened to each artifact. The
report is missing if the descriptor is neither cached nor to be had. -/
def fetch (f : Fetcher σ) (id : ModuleId) (w : World σ) :
    Except LoadError (Option Report) × World σ :=
  match f.bringDescriptor id w with
  | (.error e, w) => (.error e, w)
  | (.ok none, w) => (.ok none, w)
  | (.ok (some source), w) =>
    match f.readDescriptor id w.tree with
    | .error e => (.error e, w)
    | .ok paths =>
      match f.bringResources id paths w with
      | (.error e, w) => (.error e, w)
      | (.ok resources, w) =>
        let report : Report := ⟨id, source, resources⟩
        (.ok (some report), w.log (completedEvent report))

/-- Makes a module available in the cache; the answer tells whether its descriptor is
there afterwards. -/
def ensure (f : Fetcher σ) (id : ModuleId) (w : World σ) :
    Except LoadError Bool × World σ :=
  match f.fetch id w with
  | (.error e, w) => (.error e, w)
  | (.ok report, w) => (.ok report.isSome, w)

end Fetcher
end ModuleDepot
