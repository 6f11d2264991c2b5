/-! # Arguments of the command

The command is given options and the name of a task, and for most tasks a module. Options
may stand on either side of the name; where both sides give one, the one behind the name
counts, but a side gives none twice. Behind `--` nothing is an option.

The arguments are read one by one. An option that asks for help or for the version ends
the reading, so what is wrong behind it does not matter.
-/

namespace ModuleDepot.Command

/-- The options that have a value. -/
inductive Setting where
  | configFile
  | cacheRoot
  | rootUrl
  | repositoryVersion
  | logFile
  deriving DecidableEq, Repr

namespace Setting

/-- All options that have a value. -/
def all : List Setting := [.configFile, .cacheRoot, .rootUrl, .repositoryVersion, .logFile]

/-- The name behind two dashes. -/
def name : Setting → String
  | .configFile => "config"
  | .cacheRoot => "cache-root"
  | .rootUrl => "root-url"
  | .repositoryVersion => "repository-version"
  | .logFile => "log-file"

/-- The value is a path, which cannot be empty. -/
def isPath : Setting → Bool
  | .configFile | .cacheRoot | .logFile => true
  | .rootUrl | .repositoryVersion => false

/-- The option of a name. -/
def ofName? (name : String) : Option Setting :=
  all.find? (·.name == name)

end Setting

/-- The options given. -/
structure Options where
  settings : List (Setting × String) := []
  verbose : Bool := false
  deriving DecidableEq, Repr

namespace Options

/-- The value of an option, if it was given. -/
def get? (o : Options) (s : Setting) : Option String :=
  o.settings.lookup s

/-- The options of both sides; those of the upper side count where both give one. -/
def above (upper lower : Options) : Options :=
  ⟨upper.settings ++ lower.settings, upper.verbose || lower.verbose⟩

end Options

/-- What the command can do. -/
inductive Task where
  | resolve (module : String)
  | fetch (module : String)
  | paths (module : String)
  | config
  deriving DecidableEq, Repr

/-- A task by its name: one that is complete, or one that still needs a module. -/
def taskOfName? (name : String) : Option (Task ⊕ (String → Task)) :=
  if name == "resolve" then some (.inr .resolve)
  else if name == "fetch" then some (.inr .fetch)
  else if name == "paths" then some (.inr .paths)
  else if name == "config" then some (.inl .config)
  else none

/-- Why arguments make no sense. -/
inductive UsageError where
  | unexpected (argument : String)
  | repeated (option : String)
  | missingValue (option : String)
  | missingTask
  | missingModule
  deriving DecidableEq, Repr

/-- The wording of a usage error. -/
def UsageError.message : UsageError → String
  | .unexpected argument => s!"unexpected argument '{argument}'"
  | .repeated option => s!"the option '{option}' is given twice"
  | .missingValue option => s!"the option '{option}' needs a value"
  | .missingTask => "a task is needed: resolve, fetch, paths or config"
  | .missingModule => "the task needs a module"

/-- Why reading ends before all arguments are read. -/
inductive Stop where
  | help
  | version
  | misuse (error : UsageError)
  deriving DecidableEq, Repr

/-! ## Options -/

/-- The options read so far on one side of the task's name. An option may await its value,
and a value is not looked at before the next option or the end. -/
structure Progress where
  options : Options := {}
  awaiting : Option Setting := none
  pending : Option (Setting × String) := none
  deriving DecidableEq, Repr

namespace Progress

/-- Takes over the value that was not looked at yet. -/
def settle (p : Progress) : Except Stop Progress :=
  match p.awaiting, p.pending with
  | some s, _ => .error (.misuse (.missingValue s.name))
  | none, none => .ok p
  | none, some (s, value) =>
    if (p.options.get? s).isSome then .error (.misuse (.repeated s.name))
    else if s.isPath && value.isEmpty then .error (.misuse (.missingValue s.name))
    else .ok { p with
      options := { p.options with settings := p.options.settings ++ [(s, value)] }
      pending := none }

/-- Takes over the sign for a talkative log. -/
def beVerbose (p : Progress) : Except Stop Progress :=
  match p.settle with
  | .error stop => .error stop
  | .ok p =>
    if p.options.verbose then .error (.misuse (.repeated "verbose"))
    else .ok { p with options := { p.options with verbose := true } }

/-- Ends the reading, unless what was read before is wrong. -/
def stopWith (p : Progress) (stop : Stop) : Except Stop Progress :=
  match p.settle with
  | .error earlier => .error earlier
  | .ok _ => .error stop

/-- An option that has no value: of its name or letter, and where the version may be
asked for. -/
def bare (p : Progress) (atStart : Bool) (name : String) : Except Stop Progress :=
  if name == "verbose" || name == "v" then p.beVerbose
  else if name == "help" || name == "h" then p.stopWith .help
  else if atStart && (name == "version" || name == "V") then p.stopWith .version
  else .error (.misuse (.unexpected name))

/-- Reads a word that starts with two dashes. -/
def long (p : Progress) (atStart : Bool) (text : List Char) : Except Stop Progress :=
  let name := String.ofList (text.takeWhile (· != '='))
  match Setting.ofName? name, text.dropWhile (· != '=') with
  | some s, [] =>
    match p.settle with
    | .error stop => .error stop
    | .ok p => .ok { p with awaiting := some s }
  | some s, _ :: value =>
    match p.settle with
    | .error stop => .error stop
    | .ok p => { p with pending := some (s, String.ofList value) }.settle
  | none, [] =>
    if text.length == 1 then .error (.misuse (.unexpected name)) else p.bare atStart name
  | none, _ :: _ => .error (.misuse (.unexpected name))

/-- Reads the letters behind one dash. -/
def short (p : Progress) (atStart : Bool) : List Char → Except Stop Progress
  | [] => .ok p
  | c :: rest =>
    match p.bare atStart (String.singleton c) with
    | .error stop => .error stop
    | .ok p => short p atStart rest

/-- Reads an option. -/
def option (p : Progress) (atStart : Bool) (word : String) : Except Stop Progress :=
  match word.toList with
  | '-' :: '-' :: text => p.long atStart text
  | _ :: letters => p.short atStart letters
  | [] => .error (.misuse (.unexpected word))

/-- Takes a word as the value that an option awaits. -/
def accept (p : Progress) (s : Setting) (word : String) : Progress :=
  { p with awaiting := none, pending := some (s, word) }

end Progress

/-- A word that starts with a dash and goes on is an option. -/
def isOption (word : String) : Bool :=
  match word.toList with
  | '-' :: _ :: _ => true
  | _ => false

/-! ## Tasks -/

/-- What is read behind the name of a task. -/
structure Request where
  progress : Progress := {}
  module : Option String := none
  deriving DecidableEq, Repr

/-- Takes a word that is no option. -/
def Request.take (r : Request) (needsModule : Bool) (word : String) : Except Stop Request :=
  if needsModule && r.module.isNone then .ok { r with module := some word }
  else .error (.misuse (.unexpected word))

/-- Reads the arguments behind the name of a task; `literal` says that none is an option. -/
def readRequest (needsModule : Bool) :
    (literal : Bool) → Request → List String → Except Stop Request
  | _, r, [] => r.progress.settle.map fun progress => { r with progress := progress }
  | literal, r, word :: rest =>
    match r.progress.awaiting with
    | some s =>
      if isOption word then .error (.misuse (.missingValue s.name))
      else readRequest needsModule literal { r with progress := r.progress.accept s word } rest
    | none =>
      if literal || !isOption word then
        match r.take needsModule word with
        | .error stop => .error stop
        | .ok r => readRequest needsModule literal r rest
      else if word == "--" then readRequest needsModule true r rest
      else
        match r.progress.option false word with
        | .error stop => .error stop
        | .ok progress => readRequest needsModule literal { r with progress := progress } rest

/-- Reads a task and the options behind its name. -/
def readTask (task : Task ⊕ (String → Task)) (args : List String) : Except Stop (Options × Task) :=
  match task with
  | .inl task => (readRequest false false {} args).map fun r => (r.progress.options, task)
  | .inr task =>
    match readRequest true false {} args with
    | .error stop => .error stop
    | .ok r =>
      match r.module with
      | none => .error (.misuse .missingModule)
      | some module => .ok (r.progress.options, task module)

/-- Reads what help is asked for: nothing, or one task. -/
def readHelp (args : List String) : Stop :=
  match args with
  | [] => .help
  | [name] =>
    if name == "help" || (taskOfName? name).isSome then .help else .misuse (.unexpected name)
  | _ :: word :: _ => .misuse (.unexpected word)

/-- Reads the arguments from the start: options, then a task. -/
def readFrom (p : Progress) : List String → Except Stop (Options × Task)
  | [] =>
    match p.settle with
    | .error stop => .error stop
    | .ok _ => .error (.misuse .missingTask)
  | word :: rest =>
    match p.awaiting with
    | some s =>
      if isOption word then .error (.misuse (.missingValue s.name))
      else readFrom (p.accept s word) rest
    | none =>
      if word == "--" then .error (.misuse .missingTask)
      else if isOption word then
        match p.option true word with
        | .error stop => .error stop
        | .ok p => readFrom p rest
      else if word == "help" then .error (readHelp rest)
      else
        match taskOfName? word with
        | none => .error (.misuse (.unexpected word))
        | some task =>
          match readTask task rest with
          | .error stop => .error stop
          | .ok (behind, task) =>
            match p.settle with
            | .error stop => .error stop
            | .ok p => .ok (behind.above p.options, task)

/-- The options and the task that the arguments name, or what they ask for instead. -/
def readArguments (args : List String) : Except Stop (Options × Task) :=
  readFrom {} args

end ModuleDepot.Command
