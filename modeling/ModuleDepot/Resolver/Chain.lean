import ModuleDepot.Fetch.Fetcher
import ModuleDepot.Resolver.Basic

/-! # The resolver chain

The chain asks its primary resolver first. If that has no answer, the module is fetched
into the cache, and if its descriptor is there afterwards, the primary is asked once
more. The module that every process has is left to a resolver of its own and never
fetched.
-/

namespace ModuleDepot

/-- A primary resolver, backed by fetching, and the resolver of the system module. -/
structure Chain (ρ τ σ : Type) where
  primary : Resolver ρ
  system : Resolver τ
  fetcher : Fetcher σ

/-- What a chain works on: the files with the repository, and the states of its
resolvers. -/
structure ChainState (ρ τ σ : Type) where
  world : World σ
  primary : ρ
  system : τ

namespace Chain

variable {ρ τ σ : Type}

/-- The event before a fetch. -/
def fallbackEvent (id : ModuleId) (repository : String) : Event :=
  ⟨.debug, .resolver, "Falling back to remote fetch",
    [("module", id.text), ("repository", repository)]⟩

/-- The description of the chain. -/
def description (c : Chain ρ τ σ) : String :=
  s!"remote module resolver ({c.fetcher.repository.description})"

/-- Asks the primary resolver, for which both kinds of a miss are the same. -/
def consult (c : Chain ρ τ σ) (id : ModuleId) (s : ChainState ρ τ σ) :
    Lookup × ChainState ρ τ σ :=
  let (answer, primary) := c.primary.find s.world.tree id s.primary
  (answer.settled, { s with primary := primary })

/-- Asks the resolver of the system module. -/
def askSystem (c : Chain ρ τ σ) (id : ModuleId) (s : ChainState ρ τ σ) :
    Lookup × ChainState ρ τ σ :=
  let (answer, system) := c.system.find s.world.tree id s.system
  (answer, { s with system := system })

/-- Fetches a module after a miss. -/
def fetchMissing (c : Chain ρ τ σ) (id : ModuleId) (s : ChainState ρ τ σ) :
    Except LoadError Bool × ChainState ρ τ σ :=
  let world := s.world.log (fallbackEvent id c.fetcher.repository.description)
  let (answer, world) := c.fetcher.ensure id world
  (answer, { s with world := world })

/-- The fetch after a miss, with its report. It is irreducible, as what is proved of a chain does
not look into a fetch. -/
@[irreducible] def fallback (c : Chain ρ τ σ) (id : ModuleId) (w : World σ) :
    Except LoadError (Option Report) × World σ :=
  c.fetcher.fetch id (w.log (fallbackEvent id c.fetcher.repository.description))

/-- Of the report of the fetch the chain only reads whether there is one. -/
theorem fetchMissing_eq (c : Chain ρ τ σ) (id : ModuleId) (s : ChainState ρ τ σ) :
    c.fetchMissing id s =
      ((c.fallback id s.world).1.map Option.isSome,
        { s with world := (c.fallback id s.world).2 }) := by
  unfold fetchMissing Fetcher.ensure fallback
  dsimp only
  rcases c.fetcher.fetch id _ with ⟨e | report, w⟩ <;> rfl

/-- The descriptor of a module, fetched if necessary. -/
def find (c : Chain ρ τ σ) (id : ModuleId) (s : ChainState ρ τ σ) :
    Lookup × ChainState ρ τ σ :=
  if id.isSystem then c.askSystem id s
  else
    match c.consult id s with
    | (.ok none, s) =>
      match c.fetchMissing id s with
      | (.error e, s) => (.error e, s)
      | (.ok false, s) => (.ok none, s)
      | (.ok true, s) => c.consult id s
    | answered => answered

end Chain
end ModuleDepot
