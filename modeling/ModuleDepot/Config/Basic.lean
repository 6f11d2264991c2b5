import ModuleDepot.Repository.Http
import ModuleDepot.Store

/-! # Configurations

A configuration says where the repository is, which version of it is used, where the
cache is, and how requests are made. `validate` accepts exactly those that can be used,
and gives their root URL the slash that resource names are put behind.
-/

namespace ModuleDepot

/-- How modules are found and fetched. -/
structure Config where
  rootUrl : String
  repositoryVersion : String
  cacheRoot : Path
  timeout : Duration
  retry : RetryPolicy
  deriving DecidableEq, Repr

/-- Why there is no usable configuration. -/
inductive ConfigError where
  | noCacheRoot
  | badRootUrl (url reason : String)
  | badVersion (version : String)
  | badNumber (key value : String)
  | unreadableFile (path : Path) (reason : String)
  | store (cause : StoreError)
  | client (reason : String)
  deriving DecidableEq, Repr

namespace ConfigError

/-- The wording of a configuration error. An error of the store keeps its own. -/
def message : ConfigError → String
  | .noCacheRoot =>
    "no cache root configured (set [cache] root, MODFETCH_CACHE_ROOT or MODULEPATH)"
  | .badRootUrl url reason => s!"invalid repository URL '{url}': {reason}"
  | .badVersion version =>
    s!"invalid repository version '{version}': must be non-empty and contain no '/'"
  | .badNumber key value => s!"invalid value '{value}' for {key}"
  | .unreadableFile path reason => s!"failed to read config file {path.text}: {reason}"
  | .store cause => cause.message
  | .client reason => s!"failed to create HTTP client: {reason}"

/-- The wordings of the causes behind a configuration error, nearest first. -/
def causes : ConfigError → List String
  | .store cause => cause.causes
  | _ => []

end ConfigError

namespace Config

/-- The repository that is used when none is named. -/
def standardRootUrl : String := "http://www.jboss.org/jbossas/modules/"

/-- The version of the repository that is used when none is named. -/
def standardVersion : String := "trunk"

/-- The configuration with a cache root and the standard of everything else. -/
def ofCacheRoot (cacheRoot : Path) : Config :=
  ⟨standardRootUrl, standardVersion, cacheRoot, HttpRepository.standardTimeout, .standard⟩

/-- Why a text is no URL of a repository, if it is none. -/
def rootUrlFault? (url : String) : Option String :=
  match Url.parse url with
  | .error e => some e.message
  | .ok u => if u.isHttp then none else some s!"unsupported scheme '{u.scheme}'"

/-- A version is one segment of a path: it is not empty and has no separator. -/
def isVersion (version : String) : Bool :=
  !version.isEmpty && !version.toList.contains '/'

/-- Refuses a configuration that cannot be used, and ends its root URL in a slash. -/
def validate (c : Config) : Except ConfigError Config :=
  if c.cacheRoot.text.isEmpty then .error .noCacheRoot
  else
    match rootUrlFault? c.rootUrl with
    | some reason => .error (.badRootUrl c.rootUrl reason)
    | none =>
      if isVersion c.repositoryVersion then
        .ok { c with rootUrl := HttpRepository.slashTerminated c.rootUrl }
      else .error (.badVersion c.repositoryVersion)

end Config
end ModuleDepot
