import ModuleDepot.Command.Arguments
import ModuleDepot.Command.Filter
import ModuleDepot.Config.Settings
import ModuleDepot.Resolver.Configured

/-! # Running the command

The command reads its arguments, opens the log, and does its task in a world of files and
a server. What it prints, how it ends and what it leaves behind follow from these alone.

A task reads the module it is given before the configuration, and prints nothing unless
it succeeds.
-/

namespace ModuleDepot.Command

/-- Why the command failed. -/
inductive CommandError where
  | config (cause : ConfigError)
  | identifier (cause : IdentifierError)
  | load (cause : LoadError)
  | notFound (id : ModuleId)
  | logging (reason : String)
  deriving DecidableEq, Repr

namespace CommandError

/-- The wording of a failure. -/
def message : CommandError → String
  | .config cause => s!"Configuration error: {cause.message}"
  | .identifier cause => s!"Invalid module identifier: {cause.message}"
  | .load cause => cause.message
  | .notFound id => s!"Module {id} not found locally or in the repository"
  | .logging reason => s!"Failed to initialize logging: {reason}"

/-- The wordings of the causes behind a failure, nearest first. -/
def causes : CommandError → List String
  | .config cause => cause.message :: cause.causes
  | .identifier cause => [cause.message]
  | .load cause => cause.message :: cause.causes
  | .notFound _ | .logging _ => []

end CommandError

/-- What the command finds around it. -/
structure Environment where
  home : Path
  given : Variables
  logRules : Option String

/-! ## Configuration -/

/-- The variables that the options stand for. -/
def flags (o : Options) : Variables
  | .rootUrl => o.get? .rootUrl
  | .repositoryVersion => o.get? .repositoryVersion
  | .cacheRoot => o.get? .cacheRoot
  | .modulePath | .timeoutSeconds => none

/-- The values of the variables, where an option takes the place of its variable. -/
def valuesOf (env : Environment) (o : Options) : Variables := fun v =>
  (flags o v).or (env.given v)

/-- The settings file that is read: the one named, or the user's if there is one. -/
def settingsFile (env : Environment) (o : Options) (t : FileTree) : Option Path :=
  match o.get? .configFile with
  | some path => some ⟨path⟩
  | none => (some (Config.standardFile env.home)).filter t.isFile

/-- A settings file for the log. -/
def quotedFile : Option Path → String
  | none => "None"
  | some path => s!"Some({Text.quotedName path.text})"

/-- The event that tells the configuration. -/
def configEvent (file : Option Path) (c : Config) : Event :=
  ⟨.debug, .command, "Effective configuration",
    [("config_file", quotedFile file), ("root_url", c.rootUrl),
     ("repository_version", c.repositoryVersion), ("cache_root", c.cacheRoot.text),
     ("timeout_secs", toString c.timeout.seconds),
     ("max_retries", toString c.retry.maxRetries.toNat)]⟩

/-- The configuration that options, variables and settings file give. -/
def loadConfig (env : Environment) (o : Options) (t : FileTree) :
    Except CommandError (Config × Event) :=
  let file := settingsFile env o t
  match Config.load t file (valuesOf env o) with
  | .error e => .error (.config e)
  | .ok c => .ok (c, configEvent file c)

/-- The module that an argument names. -/
def readModule (text : String) : Except CommandError ModuleId :=
  match ModuleId.parse text with
  | .ok id => .ok id
  | .error e => .error (.identifier e)

/-! ## Printing -/

/-- Lines, each with the sign that ends it. -/
def lines (ls : List String) : String :=
  String.join (ls.map (· ++ "\n"))

/-- What is printed for a module that was found. -/
def descriptorText (t : FileTree) (d : Descriptor) : String :=
  let first := match d.location with
    | some path => s!"{d.identifier} -> {path.text}"
    | none => s!"{d.identifier} (in-process)"
  let files := d.files.map fun p =>
    (if t.isFile p then "  present  " else "  missing  ") ++ p.text
  lines (first :: files)

/-- What is printed for a report. -/
def reportText (r : Report) : String :=
  let source := match r.descriptor with
    | .cached => "cached"
    | .fetched => "fetched"
  let resources := r.resources.map fun s =>
    s!"  {s.path}: {s.resource.text} (index: {s.index.text})"
  let missing := r.missing.length
  lines ([s!"{r.identifier}: descriptor {source}"] ++ resources ++
    if missing = 0 then [] else [s!"{missing} resource(s) could not be cached"])

/-- What is printed for the places of a module. -/
def pathsText (c : Config) (id : ModuleId) : String :=
  let place := c.cacheRoot.join (Layout.directory id).text
  lines [
    s!"Local:  {place.text}",
    s!"Remote: {c.rootUrl}{Layout.place c.repositoryVersion id}",
    s!"Descriptor: {(place.join Layout.descriptorName).text}"]

/-- What is printed for a configuration. -/
def configText (c : Config) : String :=
  lines [
    s!"root_url           = {c.rootUrl}",
    s!"repository_version = {c.repositoryVersion}",
    s!"cache_root         = {c.cacheRoot.text}",
    s!"timeout_secs       = {c.timeout.seconds}",
    s!"max_retries        = {c.retry.maxRetries.toNat}",
    s!"retry_backoff_ms   = {c.retry.firstWait.milliseconds}"]

/-! ## Tasks -/

section Tasks

variable {σ : Type}

/-- The printed text or the failure of a task, and the world it leaves. -/
abbrev Attempt (σ : Type) := Except CommandError String × World σ

/-- Goes on with the configuration, if there is one. -/
def withConfig (env : Environment) (o : Options) (w : World σ)
    (next : Config → World σ → Attempt σ) : Attempt σ :=
  match loadConfig env o w.tree with
  | .error e => (.error e, w)
  | .ok (c, event) => next c (w.log event)

/-- Goes on with the chain that a configuration describes. -/
def withChain (client : Http.Client σ) (c : Config) (w : World σ)
    (next : Chain Unit Unit σ → Attempt σ) : Attempt σ :=
  match Chain.ofConfig w.tree c client with
  | .error e => (.error (.config e), w)
  | .ok chain => next chain

/-- Finds a module, which is fetched if it is missing. -/
def resolve (client : Http.Client σ) (c : Config) (id : ModuleId) (w : World σ) : Attempt σ :=
  withChain client c w fun chain =>
    let (answer, state) := chain.find id ⟨w, (), ()⟩
    let w := state.world
    match answer with
    | .error e => (.error (.load e), w)
    | .ok none => (.error (.notFound id), w)
    | .ok (some d) => (.ok (descriptorText w.tree d), w)

/-- Fetches a module and tells what happened to each artifact. -/
def fetch (client : Http.Client σ) (c : Config) (id : ModuleId) (w : World σ) : Attempt σ :=
  withChain client c w fun chain =>
    match chain.fetcher.fetch id w with
    | (.error e, w) => (.error (.load e), w)
    | (.ok none, w) => (.error (.notFound id), w)
    | (.ok (some report), w) => (.ok (reportText report), w)

/-- Does something with a module under the configuration. -/
def withModule (env : Environment) (o : Options) (text : String) (w : World σ)
    (next : Config → ModuleId → World σ → Attempt σ) : Attempt σ :=
  match readModule text with
  | .error e => (.error e, w)
  | .ok id => withConfig env o w fun c w => next c id w

/-- Does a task. -/
def perform (client : Http.Client σ) (env : Environment) (o : Options) (task : Task)
    (w : World σ) : Attempt σ :=
  match task with
  | .resolve text => withModule env o text w (resolve client)
  | .fetch text => withModule env o text w (fetch client)
  | .paths text => withModule env o text w fun c id w => (.ok (pathsText c id), w)
  | .config => withConfig env o w fun c w => (.ok (configText c), w)

end Tasks

/-! ## The log -/

/-- Why a log cannot be kept. -/
inductive LogFault where
  | notFile (path : Path)
  | unusable
  deriving DecidableEq, Repr

/-- Makes a log file where there is none, with the directories above it if they are
missing. -/
def makeLog (t : FileTree) (p : Path) : FileTree × Except LogFault Path :=
  match t.appendFile p [] with
  | .ok t => (t, .ok p)
  | .error _ =>
    match p.parent? with
    | none => (t, .error .unusable)
    | some directory =>
      match t.makeDirectories directory with
      | (t, .error _) => (t, .error .unusable)
      | (t, .ok ()) =>
        match t.appendFile p [] with
        | .ok t => (t, .ok p)
        | .error _ => (t, .error .unusable)

/-- Makes the log file that a path names. The path has to end in a name. -/
def openLog (t : FileTree) (p : Path) : FileTree × Except LogFault Path :=
  match p.fileName? with
  | none => (t, .error (.notFile p))
  | some name =>
    let directory := (p.parent?.filter (!·.text.isEmpty)).getD ⟨"."⟩
    makeLog t (directory.join name)

/-- The rules of the log: those of the environment if they can be read. -/
def logFilter (env : Environment) (o : Options) : Filter :=
  (env.logRules.bind Filter.parse?).getD (Filter.standard o.verbose)

/-- What the log holds of the events. -/
def logText (f : Filter) (events : List Event) : String :=
  lines ((events.filter (Filter.admits f)).map Event.line)

/-! ## The command -/

/-- How the command ended. -/
inductive Ending where
  | printed (text : String)
  | helped
  | failed (error : CommandError)
  | misused (error : UsageError)
  | crashed
  deriving DecidableEq, Repr

/-- The exit code. -/
def Ending.exitCode : Ending → UInt32
  | .printed _ | .helped => 0
  | .failed _ => 1
  | .misused _ => 2
  | .crashed => 101

/-- The name and version of the program. -/
def versionText : String := lines ["modfetch 0.1.0"]

/-- How the command ended, the world it left, and what it has to say to the log where that
is not a file. -/
structure Outcome (σ : Type) where
  ending : Ending
  world : World σ
  logged : String := ""

/-- How a task that was attempted ends. -/
def Ending.ofResult : Except CommandError String → Ending
  | .ok text => .printed text
  | .error e => .failed e

/-- Does a task and writes its log at the end. -/
def runTask {σ : Type} (client : Http.Client σ) (env : Environment) (o : Options) (task : Task)
    (w : World σ) : Outcome σ :=
  match o.get? .logFile with
  | none =>
    let (result, w) := perform client env o task w
    ⟨.ofResult result, w, logText (logFilter env o) w.events⟩
  | some file =>
    match openLog w.tree ⟨file⟩ with
    | (t, .error (.notFile p)) =>
      ⟨.failed (.logging s!"not a file: {p.text}"), { w with tree := t }, ""⟩
    | (t, .error .unusable) => ⟨.crashed, { w with tree := t }, ""⟩
    | (t, .ok log) =>
      let (result, w) := perform client env o task { w with tree := t }
      let text := Text.utf8 (logText (logFilter env o) w.events)
      let t := (w.tree.appendFile log text).toOption.getD w.tree
      ⟨.ofResult result, { w with tree := t }, ""⟩

/-- Runs the command with its arguments. -/
def run {σ : Type} (client : Http.Client σ) (env : Environment) (args : List String)
    (w : World σ) : Outcome σ :=
  match readArguments args with
  | .ok (o, task) => runTask client env o task w
  | .error .help => ⟨.helped, w, ""⟩
  | .error .version => ⟨.printed versionText, w, ""⟩
  | .error (.misuse e) => ⟨.misused e, w, ""⟩

end ModuleDepot.Command
