import ModuleDepot.Config.Basic
import ModuleDepot.Config.Ini

/-! # Where configurations come from

Settings are the parts of a configuration that one source gives. A settings file and the
variables of the environment are such sources; where both give a part, the variables win,
and what neither gives is the standard. A blank value counts as not given.

A number that cannot be read is an error even where another source would win.
-/

namespace ModuleDepot

/-- The parts of a configuration that were given. -/
structure Settings where
  rootUrl : Option String := none
  repositoryVersion : Option String := none
  cacheRoot : Option String := none
  timeoutSeconds : Option UInt64 := none
  maxRetries : Option UInt32 := none
  backoffMilliseconds : Option UInt64 := none
  deriving DecidableEq, Repr

/-- The variables that give parts of a configuration. -/
inductive Variable where
  | rootUrl
  | repositoryVersion
  | cacheRoot
  | modulePath
  | timeoutSeconds
  deriving DecidableEq, Repr

/-- The name of a variable in the environment. -/
def Variable.name : Variable → String
  | .rootUrl => "MODFETCH_ROOT_URL"
  | .repositoryVersion => "MODFETCH_REPOSITORY_VERSION"
  | .cacheRoot => "MODFETCH_CACHE_ROOT"
  | .modulePath => "MODULEPATH"
  | .timeoutSeconds => "MODFETCH_TIMEOUT_SECS"

/-- The values of the variables that are set. -/
abbrev Variables := Variable → Option String

namespace Settings

/-! ## Values -/

/-- A value, unless it is blank. -/
def given (value : Option String) : Option String :=
  value.filter (!Text.isBlankText ·)

/-- A number of at most 64 bits, with blanks around it. -/
def readNumber64 (key value : String) : Except ConfigError UInt64 :=
  match Text.readUnsigned? Text.max64 (Text.trim value) with
  | some n => .ok (UInt64.ofNat n)
  | none => .error (.badNumber key value)

/-- A number of at most 32 bits, with blanks around it. -/
def readNumber32 (key value : String) : Except ConfigError UInt32 :=
  match Text.readUnsigned? Text.max32 (Text.trim value) with
  | some n => .ok (UInt32.ofNat n)
  | none => .error (.badNumber key value)

/-! ## Sources -/

/-- The value of a key in a section of a settings file, without blanks around it. -/
def fromFile (d : Ini.Document) (heading key : String) : Option String :=
  given ((d.get? heading key).map Text.trim)

/-- The settings that a settings file gives. -/
def ofDocument (d : Ini.Document) : Except ConfigError Settings := do
  let timeout ← (fromFile d "remote" "timeout_secs").mapM (readNumber64 "remote.timeout_secs")
  let retries ← (fromFile d "remote" "max_retries").mapM (readNumber32 "remote.max_retries")
  let backoff ←
    (fromFile d "remote" "retry_backoff_ms").mapM (readNumber64 "remote.retry_backoff_ms")
  return {
    rootUrl := fromFile d "remote" "root_url"
    repositoryVersion := fromFile d "remote" "repository_version"
    cacheRoot := fromFile d "cache" "root"
    timeoutSeconds := timeout
    maxRetries := retries
    backoffMilliseconds := backoff }

/-- The settings that the variables give. -/
def ofVariables (vars : Variables) : Except ConfigError Settings := do
  let timeout ←
    (given (vars .timeoutSeconds)).mapM (readNumber64 Variable.timeoutSeconds.name)
  return {
    rootUrl := given (vars .rootUrl)
    repositoryVersion := given (vars .repositoryVersion)
    cacheRoot := (given (vars .cacheRoot)).or (given (vars .modulePath))
    timeoutSeconds := timeout }

/-- Two sources together; where both give a part, the upper one wins. -/
def above (upper lower : Settings) : Settings where
  rootUrl := upper.rootUrl.or lower.rootUrl
  repositoryVersion := upper.repositoryVersion.or lower.repositoryVersion
  cacheRoot := upper.cacheRoot.or lower.cacheRoot
  timeoutSeconds := upper.timeoutSeconds.or lower.timeoutSeconds
  maxRetries := upper.maxRetries.or lower.maxRetries
  backoffMilliseconds := upper.backoffMilliseconds.or lower.backoffMilliseconds

/-! ## Configurations -/

/-- The configuration that settings give below a cache root, with the standard for what
they do not give. -/
def complete (s : Settings) (cacheRoot : String) : Config :=
  let standard := Config.ofCacheRoot ⟨cacheRoot⟩
  { standard with
    rootUrl := s.rootUrl.getD standard.rootUrl
    repositoryVersion := s.repositoryVersion.getD standard.repositoryVersion
    timeout := (s.timeoutSeconds.map fun n => .ofSeconds n.toNat).getD standard.timeout
    retry := { standard.retry with
      maxRetries := s.maxRetries.getD standard.retry.maxRetries
      firstWait := (s.backoffMilliseconds.map fun n => .ofMilliseconds n.toNat).getD
        standard.retry.firstWait } }

/-- The usable configuration that settings give; they have to name a cache root. -/
def toConfig (s : Settings) : Except ConfigError Config :=
  match s.cacheRoot with
  | none => .error .noCacheRoot
  | some cacheRoot => (s.complete cacheRoot).validate

/-- The settings of a file. -/
def ofFile (t : FileTree) (p : Path) : Except ConfigError Settings :=
  match t.openFile p with
  | .error e => .error (.unreadableFile p e.message)
  | .ok stream =>
    match stream.contents with
    | (_, some e) => .error (.unreadableFile p e.message)
    | (bytes, none) =>
      match Text.readUtf8 bytes with
      | .error _ => .error (.unreadableFile p IoError.notText.message)
      | .ok text =>
        match Ini.parse text with
        | .error problem => .error (.unreadableFile p problem.message)
        | .ok document => ofDocument document

end Settings

namespace Config

/-- The configuration that a settings file gives, if one is named, below the variables. -/
def load (t : FileTree) (file : Option Path) (vars : Variables) : Except ConfigError Config := do
  let lower ← match file with
    | none => .ok {}
    | some p => Settings.ofFile t p
  let upper ← Settings.ofVariables vars
  (upper.above lower).toConfig

/-- The configuration that a settings file alone gives. -/
def ofFile (t : FileTree) (p : Path) : Except ConfigError Config := do
  (← Settings.ofFile t p).toConfig

/-- The configuration that the variables alone give. -/
def ofVariables (vars : Variables) : Except ConfigError Config := do
  (← Settings.ofVariables vars).toConfig

/-- Where the settings file of a user is, below the home directory. -/
def standardFile (home : Path) : Path :=
  (home.join ".modfetch").join "config.ini"

end Config
end ModuleDepot
