import ModuleDepot.Descriptor.Document
import ModuleDepot.Proofs.Fetch.Order
import ModuleDepot.Proofs.Fetch.Repeat
import ModuleDepot.Proofs.Path.Beside

/-! # The chain agrees with its fetcher

A chain that looks into the cache which its fetcher fills, with the same parser, sees there what the
fetcher stored (`overCache_agrees`), for every identifier and root. Both compute the path of the
descriptor in the same way; the resources lie beside it, where their paths differ from those of the
fetcher by parts that change nothing.

Two things spoil this (`overCache_disagrees`): a reader that removes the descriptor before it is
looked for again, and a directory in the place of the descriptor.
-/

namespace ModuleDepot

open FileTree

variable {σ τ : Type}

/-- The entry that a path names stands somewhere in the tree. -/
theorem FileTree.exists_lookup_of_entryAt {t : FileTree} {p : Path} {entry : Entry}
    (h : t.entryAt p = .ok entry) : ∃ loc, t.lookup loc = some entry := by
  obtain ⟨loc, -, hentry⟩ := ok_of_bind h
  refine ⟨loc, ?_⟩
  split at hentry
  next hlookup =>
    cases hentry
    exact hlookup
  next => cases hentry

/-- The parser of descriptor documents does not do without bytes. -/
theorem Descriptor.documentParser_failing {cause : IoError} (h : cause.isInterruption = false) :
    documentParser (.failing cause) = .error (.unreadable cause) := by
  have hread : Markup.read [] = ([], .finished) := by
    rw [Markup.read, Markup.readFrom]
    rfl
  rw [documentParser, ByteStream.contents_failing h]
  dsimp only
  rw [parseDocument, hread]
  rfl

/-- What opens is a file, or a directory, from which nothing can be read. -/
theorem FileTree.openFile_cases {t : FileTree} {p : Path} {stream : ByteStream}
    (hlinks : t.LinkFree) (h : t.openFile p = .ok stream) :
    (t.isFile p = true ∧ ∃ content, stream = .ofBytes content) ∨
      (t.isDirectory p = true ∧ stream = .failing .isDirectory) := by
  obtain ⟨entry, hentry, hstream⟩ := ok_of_bind h
  unfold isFile isDirectory
  rw [hentry]
  cases entry with
  | file content =>
      cases hstream
      exact .inl ⟨rfl, content, rfl⟩
  | directory =>
      cases hstream
      exact .inr ⟨rfl, rfl⟩
  | link target =>
      obtain ⟨loc, hloc⟩ := exists_lookup_of_entryAt hentry
      exact absurd hloc (hlinks loc target)

/-- What the resolver finds is what the parser makes of the stream that is opened. -/
theorem LocalResolver.exists_stream_of_find {r : LocalResolver} {t : FileTree} {id : ModuleId}
    {d : Descriptor} (h : r.find t id = .ok (some d)) :
    d.location = some (r.descriptorPath id) ∧
      ∃ stream, t.openFile (r.descriptorPath id) = .ok stream ∧
        r.parser stream = .ok d.resources := by
  unfold find at h
  dsimp only at h
  cases hopen : t.openFile (r.descriptorPath id) with
  | error cause =>
      rw [hopen] at h
      dsimp only at h
      split at h <;> cases h
  | ok stream =>
      rw [hopen] at h
      dsimp only at h
      cases hparse : r.parser stream with
      | error e =>
          rw [hparse] at h
          cases h
      | ok resources =>
          rw [hparse] at h
          cases h
          exact ⟨rfl, stream, rfl, hparse⟩

namespace Fetcher

variable {f : Fetcher σ} {id : ModuleId} {t : FileTree}

/-- Looks into the cache of a fetcher, with the same parser. -/
def localResolver (f : Fetcher σ) : LocalResolver :=
  ⟨f.store.root, f.parser⟩

/-- What the fetcher reads the resolver finds. -/
theorem find_of_readDescriptor {paths : List String} (h : f.readDescriptor id t = .ok paths) :
    f.localResolver.find t id =
      .ok (some ⟨id, some (f.artifactPath id Layout.descriptorName), paths⟩) := by
  unfold readDescriptor at h
  extract_lets path at h
  unfold LocalResolver.find
  extract_lets path'
  rw [show path' = path from rfl]
  cases hopen : t.openFile path with
  | error cause =>
      rw [hopen] at h
      cases h
  | ok stream =>
      rw [hopen] at h
      dsimp only [localResolver] at h ⊢
      cases hparse : f.parser stream with
      | error e =>
          rw [hparse] at h
          cases h
      | ok resources =>
          rw [hparse] at h
          cases h
          rfl

/-- The descriptor comes from the file of the module: it is there, and the resources are what the
parser makes of its bytes. -/
structure Supplies (f : Fetcher σ) (id : ModuleId) (t : FileTree) (d : Descriptor) : Prop where
  isFile : t.isFile (f.artifactPath id Layout.descriptorName) = true
  declares : f.Declares id t d.resources

/-- **What the resolver finds comes from the file of the module**, where no directory stands in its
place. -/
theorem supplies_of_find {d : Descriptor} (hlinks : t.LinkFree)
    (h : f.localResolver.find t id = .ok (some d)) :
    d.location = some (f.artifactPath id Layout.descriptorName) ∧
      (t.isDirectory (f.artifactPath id Layout.descriptorName) = false → f.Supplies id t d) := by
  obtain ⟨hlocation, stream, hopen, hparse⟩ := LocalResolver.exists_stream_of_find h
  refine ⟨hlocation, fun hno => ?_⟩
  rcases openFile_cases hlinks hopen with ⟨hfile, content, rfl⟩ | ⟨hdirectory, -⟩
  · exact ⟨hfile, content, hopen, hparse⟩
  · cases hno.symm.trans hdirectory

/-- An artifact lies in the module directory. -/
theorem artifactPath_eq_join (f : Fetcher σ) (id : ModuleId) {name : String}
    (hname : Path.isAbsolute ⟨name⟩ = false) :
    f.artifactPath id name = (f.modulePath id).join name :=
  Path.join_join f.store.root (Layout.directory id) hname

/-- **The available resources of a module are found beside its descriptor.** -/
theorem isFile_files {entries : List ResourceReport} {P : String → Outcome → Prop}
    (h : ∀ entry ∈ entries, EntryOf P entry)
    (hP : ∀ {name outcome}, P name outcome → outcome.isCached = true →
      t.isFile (f.artifactPath id name) = true) :
    List.Forall₂ (fun entry file => entry.resource.isCached = true → t.isFile file = true) entries
      (Descriptor.files ⟨id, some (f.artifactPath id Layout.descriptorName),
        entries.map (·.path)⟩) := by
  have hlast : IsPlainName Layout.descriptorName := by decide
  obtain ⟨directory, hparent, htrims⟩ := Path.exists_trims_parent? (f.modulePath id) hlast
  rw [← artifactPath_eq_join f id (Path.isAbsolute_of_isPlainName hlast)] at hparent
  have hfiles : Descriptor.files ⟨id, some (f.artifactPath id Layout.descriptorName),
      entries.map (·.path)⟩ = entries.map fun entry => directory.join entry.path := by
    rw [Descriptor.files, Option.bind_some, hparent]
    exact List.map_map
  rw [hfiles, List.forall₂_map_right_iff, List.forall₂_same]
  intro entry hmem havailable
  cases h entry hmem with
  | rejected => cases havailable
  | @brought path _ _ hcontained hfile _ =>
      have hpath := Layout.isContainedPath hcontained
      have hne : path ≠ "" := by
        rintro rfl
        exact hpath.counts rfl
      have hthere := hP hfile havailable
      rw [artifactPath_eq_join f id hpath.relative] at hthere
      exact isFile_join_of_trims htrims hpath.relative hne hthere

end Fetcher

namespace Chain

/-- What a chain finds, its primary resolver has found in the world where the chain ends. -/
theorem exists_consult_of_find {ρ : Type} (c : Chain ρ τ σ) {id : ModuleId}
    (hid : id.isSystem = false) {s : ChainState ρ τ σ} {d : Descriptor}
    (h : (c.find id s).1 = .ok (some d)) :
    ∃ s', (c.consult id s').1 = .ok (some d) ∧ (c.find id s).2.world = s'.world := by
  generalize hresult : c.find id s = result at h ⊢
  rw [find, if_neg (by simp [hid])] at hresult
  split at hresult
  next s' _ =>
    split at hresult <;> subst hresult
    next => cases h
    next => cases h
    next s'' _ => exact ⟨s'', h, c.world_consult id s''⟩
  next =>
    subst hresult
    exact ⟨s, h, c.world_consult id s⟩

/-- If the fetch after a miss says that it has the descriptor, it ended with a report. -/
theorem exists_report_of_fetchMissing {ρ : Type} (c : Chain ρ τ σ) {id : ModuleId}
    {s s' : ChainState ρ τ σ} (h : c.fetchMissing id s = (.ok true, s')) :
    ∃ report, c.fetcher.fetch id (s.world.log (fallbackEvent id c.fetcher.repository.description)) =
      (.ok (some report), s'.world) := by
  rw [fetchMissing_eq] at h
  unfold fallback at h
  generalize c.fetcher.fetch id _ = fetched at h ⊢
  obtain ⟨result, v⟩ := fetched
  cases result with
  | error => cases h
  | ok report? =>
      cases report? with
      | none => cases h
      | some report =>
          cases h
          exact ⟨report, rfl⟩
/-- The chain that looks into the cache of its fetcher. -/
def overCache (f : Fetcher σ) (system : Resolver τ) : Chain Unit τ σ :=
  ⟨f.localResolver.toResolver, system, f⟩

variable {f : Fetcher σ} {system : Resolver τ} {id : ModuleId} {s : ChainState Unit τ σ}

theorem consult_overCache :
    (overCache f system).consult id s = ((f.localResolver.find s.world.tree id).settled, s) := by
  unfold consult overCache LocalResolver.toResolver
  dsimp only

theorem consult_of_find {d : Descriptor}
    (h : f.localResolver.find s.world.tree id = .ok (some d)) :
    (overCache f system).consult id s = (.ok (some d), s) := by
  rw [consult_overCache, h]
  rfl

theorem find_of_consult {d : Descriptor}
    (h : ((overCache f system).consult id s).1 = .ok (some d)) :
    f.localResolver.find s.world.tree id = .ok (some d) := by
  rw [consult_overCache] at h
  dsimp only at h
  unfold Lookup.settled at h
  split at h
  · cases h
  · exact h

/-- What is in the cache is found there, and nothing is fetched. -/
theorem find_of_cached (hid : id.isSystem = false) {d : Descriptor}
    (h : f.localResolver.find s.world.tree id = .ok (some d)) :
    (overCache f system).find id s = (.ok (some d), s) := by
  rw [find, if_neg (by simp [hid]), consult_of_find h]

/-- **The chain and its fetcher agree.** Let a chain look into the cache that its fetcher fills,
and let the tree have no links. What it finds has the path of the descriptor in the cache, and comes
from the file there, where no directory stands in its place.

If, moreover, the readers leave the tree alone, then a descriptor that was fetched after a miss is
found. And after a fetch that ended with a report the chain finds the descriptor without fetching,
with the resources of the report, whose files are there where they are available.

The parser is any that reads the stream alone and not the identifier, and whose errors say that the
descriptor is invalid. -/
theorem overCache_agrees (f : Fetcher σ) (system : Resolver τ) (id : ModuleId)
    (s : ChainState Unit τ σ) (hid : id.isSystem = false) (hlinks : s.world.tree.LinkFree)
    (ht : s.world.tree.Rooted) :
    let c := overCache f system
    (∀ d, (c.find id s).1 = .ok (some d) →
      let tree := (c.find id s).2.world.tree
      let path := f.artifactPath id Layout.descriptorName
      d.location = some path ∧ (tree.isDirectory path = false → f.Supplies id tree d)) ∧
    (f.repository.LeavesFiles s.world.repository →
      (∀ s', c.fetchMissing id (c.consult id s).2 = (.ok true, s') →
        ∃ d, (c.consult id s').1 = .ok (some d)) ∧
      ∀ report, (f.fetch id s.world).1 = .ok (some report) →
        let fetched := { s with world := (f.fetch id s.world).2 }
        ∃ d, c.find id fetched = (.ok (some d), fetched) ∧
          d.resources = report.resources.map (·.path) ∧
          List.Forall₂ (fun entry file => entry.resource.isCached = true →
            fetched.world.tree.isFile file = true) report.resources d.files) := by
  intro c
  refine ⟨fun d hfind => ?_, fun hreaders => ⟨fun s' hfetch => ?_, fun report hreport => ?_⟩⟩
  · obtain ⟨s', hconsult, hworld⟩ := c.exists_consult_of_find hid hfind
    have hlinks' := (Fetcher.located_of_runs hlinks (c.runs_find id s)).linkFree
    rw [hworld] at hlinks' ⊢
    exact Fetcher.supplies_of_find hlinks' (find_of_consult hconsult)
  · obtain ⟨report, hreport⟩ := c.exists_report_of_fetchMissing hfetch
    have hcalm : c.fetcher.Calm ((c.consult id s).2.world.log
        (fallbackEvent id c.fetcher.repository.description)) := ⟨hlinks, hreaders⟩
    obtain ⟨-, -, hread, -⟩ := Fetcher.says_of_fetch hcalm ht (congrArg Prod.fst hreport)
    rw [hreport] at hread
    exact ⟨_, congrArg Prod.fst (consult_of_find (Fetcher.find_of_readDescriptor hread))⟩
  · obtain ⟨-, -, hread, hentries⟩ := Fetcher.says_of_fetch ⟨hlinks, hreaders⟩ ht hreport
    generalize (f.fetch id s.world).2 = v at hread hentries ⊢
    exact ⟨_, find_of_cached hid (Fetcher.find_of_readDescriptor hread), rfl,
      Fetcher.isFile_files hentries fun hsaid => hsaid.available⟩

/-- After a fetch of the sample module the chain finds it, with the files of its resources. -/
theorem overCache_agrees_after_fetch :
    let c := overCache Fetcher.pair systemResolver
    let s : ChainState Unit Unit MemoryRepository :=
      ⟨⟨.empty, Fetcher.pairResources (.ofBytes [1]) (.ofBytes [2]), [], []⟩, (), ()⟩
    let fetched := { s with world := (c.fetcher.fetch Fetcher.pairModule s.world).2 }
    Fetcher.pairModule.isSystem = false ∧ s.world.tree.LinkFree ∧ s.world.tree.Rooted ∧
    c.fetcher.repository.LeavesFiles s.world.repository ∧
    ∃ d, c.find Fetcher.pairModule fetched = (.ok (some d), fetched) ∧ d.resources = ["x", "y"] ∧
      List.Forall₂ (fun entry file => entry.resource.isCached = true →
        fetched.world.tree.isFile file = true) Fetcher.pairReport.resources d.files := by
  intro c s fetched
  have hreaders : c.fetcher.repository.LeavesFiles s.world.repository :=
    Fetcher.leavesFiles_pairResources rfl rfl
  have hid : Fetcher.pairModule.isSystem = false := by decide
  have hreport : (Fetcher.pair.fetch Fetcher.pairModule s.world).1 =
      .ok (some Fetcher.pairReport) := by decide +kernel
  have hagrees := overCache_agrees Fetcher.pair systemResolver Fetcher.pairModule s hid
    linkFree_empty rooted_empty
  obtain ⟨d, hfind, hresources, hfiles⟩ := (hagrees.2 hreaders).2 Fetcher.pairReport hreport
  exact ⟨hid, linkFree_empty, rooted_empty, hreaders, d, hfind, hresources, hfiles⟩

/-- **A reader that touches the tree spoils this, and so does a directory.** The reader of the
resource removes the descriptor, and the chain does not find what it has just fetched. And where a
directory stands in the place of the descriptor, a chain whose parser does without bytes finds a
descriptor without a file. -/
theorem overCache_disagrees :
    (let c := overCache (Fetcher.pair.withParser fun _ => .ok ["x"]) systemResolver
      let s : ChainState Unit Unit MemoryRepository :=
        ⟨⟨.empty, Fetcher.pairResources (Fetcher.releasing "module.xml" [.data [1]]) (.ofBytes []),
          [], []⟩, (), ()⟩
      Fetcher.pairModule.isSystem = false ∧ s.world.tree.LinkFree ∧ s.world.tree.Rooted ∧
      (c.fetchMissing Fetcher.pairModule (c.consult Fetcher.pairModule s).2).1 = .ok true ∧
      (c.find Fetcher.pairModule s).1 = .ok none) ∧
    (let c := overCache Fetcher.pair systemResolver
      let tree := (FileTree.empty.makeDirectories ⟨"/c/m/main/module.xml"⟩).1
      let s : ChainState Unit Unit MemoryRepository := ⟨⟨tree, {}, [], []⟩, (), ()⟩
      Fetcher.pairModule.isSystem = false ∧ tree.LinkFree ∧ tree.Rooted ∧
      ∃ d, (c.find Fetcher.pairModule s).1 = .ok (some d) ∧
        d.location = some ⟨"/c/m/main/module.xml"⟩ ∧
        (c.find Fetcher.pairModule s).2.world.tree.isFile ⟨"/c/m/main/module.xml"⟩ = false) := by
  refine ⟨⟨by decide, linkFree_empty, rooted_empty, by decide +kernel, by decide +kernel⟩, ?_⟩
  intro c tree s
  have hmakes := makes_makeDirectories FileTree.empty ⟨"/c/m/main/module.xml"⟩
  have hfind : (c.find Fetcher.pairModule s).1 = .ok (some ⟨Fetcher.pairModule,
      some ⟨"/c/m/main/module.xml"⟩, ["x", "y"]⟩) := by decide +kernel
  exact ⟨by decide, hmakes.grows.linkFree linkFree_empty, hmakes.rooted rooted_empty, _, hfind, rfl,
    by decide +kernel⟩

end Chain
end ModuleDepot
