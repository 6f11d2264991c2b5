import ModuleDepot.Command.Run

/-! # The program

The files that a task may look at are read into a tree, the command runs on the tree, and
what it changed there is written back. The program has no line to a server: a request
goes unanswered, and only what the cache holds can be found.
-/

namespace ModuleDepot.Program

open ModuleDepot.Command

/-- The absolute path of a location. -/
def pathText (loc : Location) : String :=
  "/" ++ "/".intercalate loc

/-- The location of a path, without following links. -/
def locationOf (workingDirectory : Location) (p : Path) : Location :=
  p.names.foldl
    (fun loc name =>
      if name == "." then loc else if name == ".." then loc.dropLast else loc ++ [name])
    (if p.isAbsolute then [] else workingDirectory)

/-! ## Reading -/

/-- Reads what stands at a location into the tree. -/
def probe (t : FileTree) (loc : Location) : IO FileTree := do
  if loc.isEmpty || (t.lookup loc).isSome then return t
  try
    let content ← IO.FS.readBinFile (pathText loc)
    return t.insert loc (.file content.toList)
  catch e =>
    match e with
    | .inappropriateType _ 21 _ => return t.insert loc .directory
    | _ => return t

/-- Reads what a path names into the tree, and what stands on the way to it. -/
def readPath (t : FileTree) (p : Path) : IO FileTree := do
  let loc := locationOf t.workingDirectory p
  (List.range (loc.length + 1)).foldlM (fun t n => probe t (loc.take n)) t

/-- Reads what paths name into the tree. -/
def readPaths (t : FileTree) (ps : List Path) : IO FileTree :=
  ps.foldlM readPath t

/-- The module that a task is about. -/
def moduleOf : Task → Option ModuleId
  | .resolve text | .fetch text | .paths text => (ModuleId.parse text).toOption
  | .config => none

/-- The files of a module that its descriptor in the cache declares. -/
def cachedFiles (t : FileTree) (c : Config) (id : ModuleId) : List Path :=
  let found := LocalResolver.find ⟨c.cacheRoot, Descriptor.documentParser⟩ t id
  match found with
  | .ok (some d) =>
    d.resources.flatMap fun resource =>
      [resource, Layout.indexOf resource].map fun name =>
        c.cacheRoot.join (Layout.file id name).text
  | _ => []

/-- Reads the files that a task may look at. -/
def readFiles (env : Environment) (o : Options) (task : Task) (t : FileTree) : IO FileTree := do
  let named := [Setting.configFile, .logFile].filterMap fun s => (o.get? s).map Path.mk
  let t ← readPaths t (Config.standardFile env.home :: named)
  match loadConfig env o t, moduleOf task with
  | .ok (c, _), some id =>
    let descriptor := c.cacheRoot.join (Layout.file id Layout.descriptorName).text
    let t ← readPaths t [c.cacheRoot, descriptor]
    readPaths t (cachedFiles t c id)
  | .ok (c, _), none => readPath t c.cacheRoot
  | .error _, _ => return t

/-- What the program finds around it. -/
def environment : IO Environment := do
  let names : List Variable :=
    [.rootUrl, .repositoryVersion, .cacheRoot, .modulePath, .timeoutSeconds]
  let values ← names.mapM fun v => do return (v, ← IO.getEnv v.name)
  return {
    home := ⟨(← IO.getEnv "HOME").getD ""⟩
    given := fun v => (values.lookup v).join
    logRules := ← IO.getEnv "RUST_LOG" }

/-! ## Writing -/

/-- Writes an entry to its location. -/
def store (loc : Location) : Entry → IO Unit
  | .directory => IO.FS.createDirAll (pathText loc)
  | .file content => do
    IO.FS.createDirAll (pathText loc.dropLast)
    IO.FS.writeBinFile (pathText loc) ⟨content.toArray⟩
  | .link _ => pure ()

/-- Writes the entries in which a tree differs from an earlier one. -/
def writeChanges (earlier later : FileTree) : IO Unit :=
  later.entries.toList.forM fun (loc, entry) =>
    if earlier.lookup loc == some entry then pure () else store loc entry

/-! ## Running -/

/-- A client that reaches no server. -/
def offline : Http.Client Unit :=
  Http.Connection.client ⟨fun _ s => (.broken, s), fun _ s => s⟩

/-- What is said about the arguments. -/
def usage : String :=
  lines [
    "usage: modfetch [OPTION]... TASK",
    "",
    "  resolve MODULE   find a module, fetching it if needed",
    "  fetch MODULE     fetch a module and tell what happened to each artifact",
    "  paths MODULE     show where a module is cached and where it is fetched from",
    "  config           show the configuration",
    "",
    "  --config FILE              settings file",
    "  --cache-root DIR           directory of the cache",
    "  --root-url URL             root of the repository",
    "  --repository-version TAG   version of the repository",
    "  --log-file FILE            file for the log",
    "  -v, --verbose              talkative log",
    "  -h, --help                 this text",
    "  -V, --version              name and version of the program"]

/-- Prints how the command ended. -/
def report (ending : Ending) : IO Unit :=
  match ending with
  | .printed text => IO.print text
  | .helped => IO.print usage
  | .failed e => IO.eprintln s!"Error: {e.message}"
  | .misused e => IO.eprint s!"error: {e.message}\n\n{usage}"
  | .crashed => IO.eprintln "the log file cannot be used"

/-- Runs the command with the arguments of the program. -/
def run (args : List String) : IO UInt32 := do
  let env ← environment
  let workingDirectory := (Path.mk (← IO.currentDir).toString).names
  let bare : FileTree := { FileTree.empty with workingDirectory := workingDirectory }
  let here ← readPath bare ⟨"."⟩
  let t ← match readArguments args with
    | .ok (o, task) => readFiles env o task here
    | .error _ => pure here
  let outcome := Command.run offline env args { tree := t, repository := () }
  writeChanges t outcome.world.tree
  IO.eprint outcome.logged
  report outcome.ending
  return outcome.ending.exitCode

end ModuleDepot.Program

/-- The program. -/
def main (args : List String) : IO UInt32 :=
  ModuleDepot.Program.run args
