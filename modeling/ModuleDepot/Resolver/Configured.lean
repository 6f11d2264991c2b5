import ModuleDepot.Config.Basic
import ModuleDepot.Descriptor.Document
import ModuleDepot.Resolver.Chain

/-! # The chain that a configuration describes

The cache root holds the store of an fetcher and is searched by the primary
resolver, so that what was fetched is found there.
-/

namespace ModuleDepot

/-- The fetcher that a configuration describes, for a repository and a parser. -/
def Fetcher.ofConfig {σ : Type} (t : FileTree) (config : Config) (repository : Repository σ)
    (parser : DescriptorParser) : Except ConfigError (Fetcher σ) :=
  match Store.openAt t config.cacheRoot with
  | .error e => .error (.store e)
  | .ok store => .ok ⟨store, repository, parser, config.repositoryVersion⟩

namespace Chain

/-- The chain that a usable configuration describes, with an HTTP repository and descriptor
documents. -/
def ofConfig {σ : Type} (t : FileTree) (config : Config) (client : Http.Client σ) :
    Except ConfigError (Chain Unit Unit σ) := do
  let config ← config.validate
  let repository := HttpRepository.create config.rootUrl config.timeout config.retry
  let fetcher ←
    Fetcher.ofConfig t config (repository.toRepository client) Descriptor.documentParser
  let primary : LocalResolver := ⟨config.cacheRoot, Descriptor.documentParser⟩
  return ⟨primary.toResolver, systemResolver, fetcher⟩

end Chain
end ModuleDepot
