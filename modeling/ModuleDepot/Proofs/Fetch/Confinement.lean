import ModuleDepot.Proofs.Fetch.Course
import ModuleDepot.Proofs.Fetch.Places
import ModuleDepot.Proofs.Store.Missing

/-! # Fetches stay in the module directory

If the segments and the slot of an identifier are plain names, a fetch changes a tree without
links in the directory of the module only, whatever the descriptor declares
(`fetch_stays_in_module_directory`). A descriptor cannot lead out of it, nor can it have the
directory itself replaced.

The names of all artifacts start with those of the module directory, and none of them climbs.
So the places where a fetch may change the tree are below the place of the directory, or above
it and directories that were missing. A reader that lets go of a file in the way to the directory
makes no room for it: the descriptor could not be stored before, and nothing follows it
(`not_directory_of_blocked`).
-/

namespace ModuleDepot.Fetcher

open FileTree
open ModuleDepot.Path (undotted)

variable {σ : Type} {f : Fetcher σ} {id : ModuleId} {w w' : World σ}

/-- The place of the directory of a module below the root of the cache. -/
def moduleLocation (f : Fetcher σ) (id : ModuleId) (t : FileTree) : Location :=
  t.place f.store.root ++ id.segments ++ [id.slot]

/-- Strictly below a location. -/
def IsInside (directory loc : Location) : Prop :=
  directory <+: loc ∧ loc ≠ directory

theorem isInside_append {directory names : Location} (h : names ≠ []) :
    IsInside directory (directory ++ names) :=
  ⟨List.prefix_append _ _, by simpa using h⟩

/-- The names of the module directory in the cache are those of the root, the segments and
the slot. -/
theorem names_modulePath (hid : id.IsPlain) :
    (f.modulePath id).names = f.store.root.names ++ (id.segments ++ [id.slot]) ∧
      (f.modulePath id).isAbsolute = f.store.root.isAbsolute := by
  obtain ⟨hnames, habs⟩ := Layout.names_directory hid
  exact ⟨(Path.names_join habs).trans (congrArg _ hnames), Path.isAbsolute_join habs⟩

theorem not_mem_names_modulePath (hid : id.IsPlain) (hroot : ".." ∉ f.store.root.names) :
    ".." ∉ (f.modulePath id).names := by
  have hdirectory := Layout.not_mem_names_directory hid
  rw [(Layout.names_directory hid).1] at hdirectory
  rw [(names_modulePath hid).1, List.mem_append, not_or]
  exact ⟨hroot, hdirectory⟩

/-- The place of the module directory. -/
theorem moduleLocation_eq (hid : id.IsPlain) (hroot : ".." ∉ f.store.root.names)
    (t : FileTree) :
    f.moduleLocation id t = t.start (f.modulePath id) ++ undotted (f.modulePath id).names := by
  obtain ⟨hnames, habs⟩ := names_modulePath (f := f) hid
  have hplain := Layout.undotted_names_directory hid
  rw [(Layout.names_directory hid).1] at hplain
  rw [moduleLocation, FileTree.place, descend_of_not_mem hroot, hnames, Path.undotted_append,
    hplain]
  simp [FileTree.start, habs]

/-- What the names of an artifact say of its place. -/
structure Lies (f : Fetcher σ) (id : ModuleId) (t : FileTree) (name : String) : Prop where
  start : t.start (f.artifactPath id name) = t.start (f.modulePath id)
  noDots : ".." ∉ undotted (f.artifactPath id name).names

theorem lies (hid : id.IsPlain) (hroot : ".." ∉ f.store.root.names) (t : FileTree)
    {name : String} (hname : Layout.isContained name = true) : f.Lies id t name := by
  have hpath := Layout.isContainedPath hname
  have habs : (f.artifactPath id name).isAbsolute = (f.modulePath id).isAbsolute :=
    (Layout.names_path_file f.store id hpath.relative).2
  refine ⟨by simp [FileTree.start, habs], fun hmem => ?_⟩
  rw [(undotted_names_artifactPath f id hname).1, List.mem_append] at hmem
  rcases hmem with hmem | hmem
  · exact not_mem_names_modulePath hid hroot (Path.mem_of_mem_undotted hmem)
  · exact hpath.noDots (Path.mem_of_mem_undotted hmem)

/-- First names of an artifact lead to a place above the module directory, to the directory
itself or to a place inside. -/
theorem above_or_isInside (hid : id.IsPlain) (hroot : ".." ∉ f.store.root.names) (t : FileTree)
    {name : String} (hname : Layout.isContained name = true) {first : List String}
    (hfirst : first <+: undotted (f.artifactPath id name).names) :
    let loc := descend (t.start (f.artifactPath id name)) first
    loc <+: f.moduleLocation id t ∨ IsInside (f.moduleLocation id t) loc := by
  intro loc
  obtain ⟨hstart, hdots⟩ := lies hid hroot t hname
  have hloc : loc = t.start (f.modulePath id) ++ first := by
    show descend (t.start (f.artifactPath id name)) first = _
    rw [descend_first hdots hfirst, hstart]
  rw [moduleLocation_eq hid hroot, hloc]
  rw [(undotted_names_artifactPath f id hname).1] at hfirst
  -- The names either do not reach the directory or go on behind it.
  rcases List.prefix_or_prefix_of_prefix hfirst (List.prefix_append _ _) with habove | hbelow
  · exact .inl ((List.prefix_append_right_inj _).mpr habove)
  · obtain ⟨rest, rfl⟩ := hbelow
    rw [← List.append_assoc]
    cases rest with
    | nil => exact .inl (by simp)
    | cons => exact .inr (isInside_append (by simp))

/-- An artifact lies inside the module directory. -/
theorem isInside_artifact (hid : id.IsPlain) (hroot : ".." ∉ f.store.root.names) (t : FileTree)
    {name : String} (hname : Layout.isContained name = true) :
    IsInside (f.moduleLocation id t) (t.place (f.artifactPath id name)) := by
  obtain ⟨hstart, hdots⟩ := lies hid hroot t hname
  obtain ⟨hnames, hne⟩ := undotted_names_artifactPath f id hname
  have hplace : t.place (f.artifactPath id name) =
      t.start (f.modulePath id) ++ undotted (f.artifactPath id name).names := by
    rw [FileTree.place, ← descend_undotted, descend_first hdots List.prefix_rfl, hstart]
  rw [hplace, hnames, ← List.append_assoc, ← moduleLocation_eq hid hroot]
  exact isInside_append hne

/-- The directory in which an artifact is stored is the module directory or lies inside. -/
theorem descend_directory (hid : id.IsPlain) (hroot : ".." ∉ f.store.root.names) (t : FileTree)
    {name : String} (hname : Layout.isContained name = true) :
    descend (t.start (f.artifactPath id name))
        (undotted (f.artifactPath id name).names).dropLast =
      f.moduleLocation id t ++ (undotted (Path.names ⟨name⟩)).dropLast := by
  obtain ⟨hstart, hdots⟩ := lies hid hroot t hname
  obtain ⟨hnames, hne⟩ := undotted_names_artifactPath f id hname
  rw [descend_first hdots (List.dropLast_prefix _), hstart, moduleLocation_eq hid hroot,
    hnames, List.dropLast_append_of_ne_nil hne, List.append_assoc]

/-- What stands at first names of the path of an artifact, up to the module directory, stands in
the way to the descriptor. -/
theorem blocked_of_liesAbove (hid : id.IsPlain) (hroot : ".." ∉ f.store.root.names)
    {t : FileTree} {loc : Location} {content : List UInt8} (h : f.LiesAbove id t loc)
    (habove : loc <+: f.moduleLocation id t) (hfile : t.lookup loc = some (.file content)) :
    f.store.Blocked t (Layout.file id Layout.descriptorName) loc := by
  obtain ⟨name, first, hname, hfirst, hloc⟩ := h
  replace hfirst := hfirst.trans (List.dropLast_prefix _)
  obtain ⟨hstart, hdots⟩ := lies hid hroot t hname
  obtain ⟨hstart', hdots'⟩ := lies hid hroot t Layout.isContained_descriptorName
  obtain ⟨hnames, hne⟩ := undotted_names_artifactPath f id Layout.isContained_descriptorName
  have hloc' : loc = t.start (f.modulePath id) ++ first := by
    rw [hloc, descend_first hdots hfirst, hstart]
  rw [moduleLocation_eq hid hroot, hloc', List.prefix_append_right_inj] at habove
  have hway : first <+:
      (undotted (f.artifactPath id Layout.descriptorName).names).dropLast := by
    rw [hnames, List.dropLast_append_of_ne_nil hne]
    exact habove.trans (List.prefix_append _ _)
  refine ⟨⟨first, hway, ?_⟩, content, hfile⟩
  show loc = descend (t.start (f.artifactPath id Layout.descriptorName)) first
  rw [descend_first hdots' (hway.trans (List.dropLast_prefix _)), hstart', hloc']

/-- An artifact with a file in the way is not to be had, and the file does not become a
directory. -/
theorem settle_of_blocked {store : Store} {name : String} {t : FileTree} {loc : Location}
    (h : store.Blocked t (Layout.file id name) loc) (ht : t.LinkFree)
    (hne : undotted (store.path (Layout.file id name)).names ≠ []) (answer : Answer) :
    (∀ outcome, (store.settle id name answer t).1 = .ok outcome → outcome.source? = none) ∧
      (store.settle id name answer t).2.lookup loc ≠ some .directory := by
  have hmissing := h.has ht hne
  have hfile : t.lookup loc ≠ some .directory := by
    rw [Ne, ← isDirectoryAt_iff, h.isDirectoryAt]
    exact nofun
  by_cases hfound : ∃ stream, answer = .found stream
  · obtain ⟨stream, rfl⟩ := hfound
    obtain ⟨⟨e, herror⟩, hwrite⟩ := h.write ht stream
    rw [Store.settle_of_found hmissing, herror]
    dsimp only
    refine ⟨?_, hwrite⟩
    rintro _ ⟨⟩
  · rw [Store.settle_of_not_found hmissing (not_exists.mp hfound)]
    refine ⟨?_, hfile⟩
    rintro _ ⟨⟩
    cases answer with
    | found stream => exact absurd ⟨stream, rfl⟩ hfound
    | notFound | unavailable => rfl

/-- **No directory is made of a file in the way to the descriptor**: a fetch ends there. -/
theorem not_directory_of_blocked {loc : Location} (hlinks : w.tree.LinkFree)
    (h : f.store.Blocked w.tree (Layout.file id Layout.descriptorName) loc) :
    (f.fetch id w).2.tree.lookup loc ≠ some .directory := by
  have hne : undotted (f.artifactPath id Layout.descriptorName).names ≠ [] :=
    undotted_names_artifactPath_ne_nil Layout.isContained_descriptorName
  obtain ⟨hsource, hdir⟩ :=
    settle_of_blocked h hlinks hne (f.answer id Layout.descriptorName w)
  rw [← result_bring] at hsource
  rwa [tree_fetch_of_not_source f id hsource, tree_bring]

/-- **A descriptor cannot lead out of the directory of its module.** In a tree without
links, a fetch of a plain module makes the directory of the module and those above it where
they are missing, and makes its other changes strictly inside; so does it with the files in
which it gathers content. The artifacts are contained resources, the indexes among them. The parser
is any that reads the stream alone.

A resource is reported as rejected, with its index, if and only if it is not contained. Its turn
is the same whatever the files and the repository hold, and leaves an entry in the log and nothing
else. So the fetch is the one that goes without it, the log but for these entries included.

A reader that lets go of a file of its own is no part of the fetch: there the file is removed, and
nothing else happens. -/
theorem fetch_stays_in_module_directory (f : Fetcher σ) (id : ModuleId) (w : World σ)
    (hid : id.IsPlain) (hroot : ".." ∉ f.store.root.names) (hlinks : w.tree.LinkFree) :
    let w' := (f.fetch id w).2
    let directory := f.moduleLocation id w.tree
    (∀ loc, w'.tree.lookup loc ≠ w.tree.lookup loc →
      (loc <+: directory ∧ w.tree.lookup loc = none ∧ w'.tree.lookup loc = some .directory) ∨
      IsInside directory loc ∨
      ∃ path content, f.Releases id w w' path ∧ loc = w.tree.place path ∧
        w.tree.lookup loc = some (.file content) ∧ w'.tree.lookup loc = none) ∧
    (∀ m name t temporary, f.Runs id w m → Layout.isContained name = true →
      (f.store.prepared m.tree (Layout.file id name)).makeTemporary
        (f.store.directoryOf (Layout.file id name)) = .ok (t, temporary) →
      IsInside directory temporary) ∧
    (∀ report, (f.fetch id w).1 = .ok (some report) → ∀ entry ∈ report.resources,
      (entry.resource = .rejected ↔ Layout.isContained entry.path = false) ∧
      (entry.index = .rejected ↔ Layout.isContained entry.path = false)) ∧
    (∀ path, Layout.isContained path = false → ∀ v, f.bringResource id path v =
      (.ok ⟨path, .rejected, .rejected⟩, v.log (rejectedEvent id path))) ∧
    ((f.withParser (filtered f.parser)).fetch id w).1 =
      (f.fetch id w).1.map (·.map Report.withoutRejected) ∧
    w'.SameUpTo (rejections id) ((f.withParser (filtered f.parser)).fetch id w).2 := by
  intro w' directory
  have hlocated : f.Located id w w' := located_of_runs hlinks (runs_fetch f id w)
  refine ⟨fun loc hne => ?_, fun m name t temporary hruns hname hmake => ?_,
    fun report hreport entry hmem => ?_, fun path hout v => bringResource_of_rejected f id hout v,
    fetch_filtered f id w⟩
  · have hplace : f.LiesAbove id w.tree loc → loc <+: directory ∨ IsInside directory loc := by
      rintro ⟨name, first, hname, hfirst, rfl⟩
      exact above_or_isInside hid hroot w.tree hname (hfirst.trans (List.dropLast_prefix _))
    cases hlocated.changed loc hne with
    | above habove hnone hdir =>
        exact (hplace habove).imp (fun hup => ⟨hup, hnone, hdir⟩) .inl
    | artifact name hname hloc =>
        exact .inr (.inl (hloc ▸ isInside_artifact hid hroot w.tree hname))
    | released path content hreleases hloc hfile hnow =>
        rcases hnow with hgone | ⟨habove, hdir⟩
        · exact .inr (.inr ⟨path, content, hreleases, hloc, hfile, hgone⟩)
        · rcases hplace habove with hup | hinside
          · have hblocked := blocked_of_liesAbove hid hroot habove hup hfile
            exact absurd hdir (not_directory_of_blocked hlinks hblocked)
          · exact .inr (.inl hinside)
  · -- Content is gathered beside the place of its artifact, by the names of its path alone.
    have hmade : f.Located id w m := located_of_runs hlinks hruns
    have hgrows := (Store.makes_prepared f.store m.tree (Layout.file id name)).grows
    have htemporary := Store.temporary_eq (hgrows.linkFree hmade.linkFree)
      (undotted_names_artifactPath_ne_nil (f := f) hname) hmake
    have hstart : (f.store.prepared m.tree (Layout.file id name)).start
        (f.store.path (Layout.file id name)) = w.tree.start (f.artifactPath id name) :=
      (hgrows.start _).trans (hmade.start _)
    have hdirectory := descend_directory (f := f) hid hroot w.tree hname
    rw [hstart] at htemporary
    rw [htemporary]
    show IsInside directory (descend (w.tree.start (f.artifactPath id name))
      (undotted (f.artifactPath id name).names).dropLast ++ _)
    rw [hdirectory, List.append_assoc]
    exact isInside_append (by simp)
  · obtain ⟨hresource, hindex⟩ := judged_of_fetch hreport entry hmem
    exact ⟨hresource, hindex⟩

/-- A descriptor that declares what it should not, and a cache that is still empty. -/
def sample : Fetcher MemoryRepository :=
  ⟨⟨⟨"cache"⟩⟩, MemoryRepository.repository,
    fun _ => .ok ["/etc/x", "../x", "lib//x", ".", "lib/", "lib", "x\x00", "..\\x", "lib//x"], "1"⟩

def sampleWorld : World MemoryRepository :=
  ⟨.empty, { resources := [("1/a/b/main/module.xml", .ofBytes [60]),
    ("1/a/b/main/lib//x", .ofBytes [1]), ("1/a/b/main/lib//x.index", .ofBytes [2]),
    ("1/a/b/main/lib", .ofBytes [3]), ("1/a/b/main/..\\x", .ofBytes [4]),
    ("1/a/b/main/../x", .ofBytes [5])] }, [], []⟩

/-- Without readers that touch the files, all changes are at the module directory. -/
theorem fetch_stays_in_module_directory_of_sample :
    let id : ModuleId := ⟨"a.b", "main"⟩
    id.IsPlain ∧ ".." ∉ sample.store.root.names ∧ sampleWorld.tree.LinkFree ∧
    ∀ loc, (sample.fetch id sampleWorld).2.tree.lookup loc ≠ sampleWorld.tree.lookup loc →
      loc <+: ["cache", "a", "b", "main"] ∨ IsInside ["cache", "a", "b", "main"] loc := by
  intro id
  have hid : id.IsPlain := by decide
  have hroot : ".." ∉ sample.store.root.names := by decide
  have hlinks : sampleWorld.tree.LinkFree := linkFree_empty
  have hreaders : sample.repository.LeavesFiles sampleWorld.repository :=
    MemoryRepository.leavesFiles (by decide)
  have hdirectory : sample.moduleLocation id sampleWorld.tree = ["cache", "a", "b", "main"] := by
    decide
  refine ⟨hid, hroot, hlinks, fun loc hne => ?_⟩
  have hstays := (fetch_stays_in_module_directory sample id sampleWorld hid hroot hlinks).1 loc hne
  rw [hdirectory] at hstays
  rcases hstays with ⟨habove, -⟩ | hinside | ⟨path, _, hreleases, -⟩
  · exact .inl habove
  · exact .inr hinside
  · exact absurd hreleases (not_releases hreaders)

end ModuleDepot.Fetcher
