import ModuleDepot.FileTree.Change
import ModuleDepot.Log

/-! # The store of artifacts

A directory whose files are the artifacts. Presence of a file is the only state: there is
no index of what is stored, and nothing stored is changed or removed by the store.

`write` gathers the content in a file of a fresh name beside its place and moves it there
when it is complete, so that a reader sees the whole artifact or none. Whatever goes
wrong, the file of the fresh name is gone afterwards; only directories that were made for
it stay.
-/

namespace ModuleDepot

/-- Why the store could not do something, and with which path. -/
inductive StoreError where
  | invalidRoot (path : Path) (reason : String)
  | createDirectory (path : Path) (cause : IoError)
  | notWritten (path : Path) (cause : IoError)
  | brokenSource (path : Path) (cause : IoError)
  | notRead (path : Path) (cause : IoError)
  deriving DecidableEq, Repr

namespace StoreError

/-- The wording of a store error. -/
def message : StoreError → String
  | .invalidRoot path reason => s!"invalid cache root {path.text}: {reason}"
  | .createDirectory path cause => s!"failed to create directory {path.text}: {cause.message}"
  | .notWritten path cause => s!"failed to write {path.text}: {cause.message}"
  | .brokenSource path cause => s!"failed to read source for {path.text}: {cause.message}"
  | .notRead path cause => s!"failed to read {path.text}: {cause.message}"

/-- The wordings of the causes behind a store error, nearest first. -/
def causes : StoreError → List String
  | .invalidRoot _ _ => []
  | .createDirectory _ cause | .notWritten _ cause | .brokenSource _ cause
  | .notRead _ cause =>
    [cause.message]

end StoreError

/-- A store of artifacts below a root directory. -/
structure Store where
  root : Path
  deriving DecidableEq, Repr

namespace Store

/-- A store below a root, which need not exist yet but must not be anything else than a
directory. -/
def openAt (t : FileTree) (root : Path) : Except StoreError Store :=
  if root.text.isEmpty then .error (.invalidRoot root "path is empty")
  else if t.exists? root && !t.isDirectory root then .error (.invalidRoot root "not a directory")
  else .ok ⟨root⟩

/-- The path of an artifact. -/
def path (store : Store) (name : Path) : Path :=
  store.root.join name.text

/-- Whether an artifact is stored. -/
def has (store : Store) (t : FileTree) (name : Path) : Bool :=
  t.isFile (store.path name)

/-- Opens an artifact for reading. -/
def openArtifact (store : Store) (t : FileTree) (name : Path) : Except StoreError ByteStream :=
  match t.openFile (store.path name) with
  | .ok stream => .ok stream
  | .error e => .error (.notRead (store.path name) e)

/-- The event before content is gathered. -/
def savingEvent (path : Path) : Event :=
  ⟨.debug, .store, "Saving resource", [("path", path.text)]⟩

/-- The event after content was moved into place. -/
def savedEvent (path : Path) (bytes : Nat) : Event :=
  ⟨.debug, .store, "Resource saved", [("path", path.text), ("bytes", toString bytes)]⟩

/-- What an attempt to write leaves behind. -/
structure Written where
  tree : FileTree
  events : List Event
  result : Except StoreError Path

/-- Gathers the stream in a file beside `path` and moves it there. The directory is there
already. -/
def fill (t : FileTree) (directory path : Path) (stream : ByteStream) : Written :=
  match t.makeTemporary directory with
  | .error e => ⟨t, [savingEvent path], .error (.notWritten path e)⟩
  | .ok (t₁, temporary) =>
    match stream.contents with
    | (_, some e) => ⟨t₁.erase temporary, [savingEvent path], .error (.brokenSource path e)⟩
    | (content, none) =>
      let t₂ := t₁.insert temporary (.file content)
      match t₂.moveFile temporary path with
      | .error e => ⟨t₂.erase temporary, [savingEvent path], .error (.notWritten path e)⟩
      | .ok t₃ => ⟨t₃, [savingEvent path, savedEvent path content.length], .ok path⟩

/-- The tree once the stream is used up: a file that it held on to is gone. -/
def release (t : FileTree) (stream : ByteStream) : FileTree :=
  match stream.releases with
  | none => t
  | some p => (t.removeFile p).toOption.getD t

/-- Stores the whole content of a stream under a name, and gives the path. -/
def write (store : Store) (t : FileTree) (stream : ByteStream) (name : Path) : Written :=
  let path := store.path name
  let directory := path.parent?.getD store.root
  match t.makeDirectories directory with
  | (t₁, .error e) => ⟨release t₁ stream, [], .error (.createDirectory directory e)⟩
  | (t₁, .ok ()) =>
    let written := fill t₁ directory path stream
    { written with tree := release written.tree stream }

end Store
end ModuleDepot
