import ModuleDepot.Proofs.Path.Components
import ModuleDepot.Proofs.Resolver.Agreement

/-! # The files of a module that was found

The files of a descriptor are its resources, each joined to the directory of the descriptor file,
and nothing is left out. So what a resource is decides whether its file lies inside that directory
(`files_of_find`): that of a contained one does, and that of a resource which climbs, or is absolute
and names another place, does not, although the fetcher refuses to fetch it
(`hands_out_rejected_resource`).
-/

namespace ModuleDepot

open ModuleDepot.Path (undotted)

variable {σ : Type}

/-- The path of a descriptor file has a path above it, which is not empty. -/
theorem LocalResolver.exists_directory (r : LocalResolver) {id : ModuleId} (hid : id.IsPlain) :
    ∃ directory, (r.descriptorPath id).parent? = some directory ∧ directory.text ≠ "" := by
  have hrel : Path.isAbsolute ⟨Layout.descriptorName⟩ = false := by decide
  obtain ⟨hmodule, hdirectory⟩ := Layout.names_directory hid
  -- Behind the names of the root stand those of the module directory, and the name of the file.
  have hnames : undotted (r.descriptorPath id).names =
      undotted r.root.names ++ (id.segments ++ [id.slot]) ++ [Layout.descriptorName] := by
    have hfile := (Layout.names_path_file ⟨r.root⟩ id hrel).1
    have hpath : (Store.path ⟨r.root⟩ (Layout.directory id)).names =
        r.root.names ++ (Layout.directory id).names := Path.names_join hdirectory
    have hlast : undotted (Path.names ⟨Layout.descriptorName⟩) = [Layout.descriptorName] := by
      decide
    have hself : r.descriptorPath id =
        Store.path ⟨r.root⟩ (Layout.file id Layout.descriptorName) := rfl
    rw [hself, hfile, hpath, Path.undotted_append, Path.undotted_append,
      Layout.undotted_names_directory hid, hmodule, hlast]
  have hne : undotted (r.descriptorPath id).names ≠ [] := by simp [hnames]
  obtain ⟨directory, hparent⟩ := Path.exists_parent? hne
  refine ⟨directory, hparent, fun hempty => ?_⟩
  obtain rfl : directory = ⟨""⟩ := congrArg Path.mk hempty
  obtain ⟨name, -, hname⟩ := Path.names_of_parent?_empty hparent hne
  have hlength := congrArg List.length (hnames.symm.trans hname)
  simp only [List.length_append, List.length_singleton] at hlength
  omega

namespace Descriptor

/-- The file that is handed out for a resource: it is joined to the directory whatever it is, and
lies inside if and only if the resource leads there. -/
structure IsFileOf (directory : Path) (resource : String) (file : Path) : Prop where
  joined : file = directory.join resource
  inside : Layout.isContained resource = true → file.IsInside directory
  inside_iff : file.IsInside directory ↔
    Layout.IsContainedPath resource ∨
      Path.isAbsolute ⟨resource⟩ = true ∧ Path.IsInside ⟨resource⟩ directory

theorem isFileOf_join {directory : Path} (hne : directory.text ≠ "") (resource : String) :
    IsFileOf directory resource (directory.join resource) where
  joined := rfl
  inside hcontained := (Path.isInside_join_iff hne).mpr (.inl (Layout.isContainedPath hcontained))
  inside_iff := Path.isInside_join_iff hne

theorem forall₂_files {d : Descriptor} {directory : Path}
    (h : d.location.bind Path.parent? = some directory) (hne : directory.text ≠ "") :
    List.Forall₂ (IsFileOf directory) d.resources d.files := by
  rw [files, h, List.forall₂_map_right_iff, List.forall₂_same]
  exact fun resource _ => isFileOf_join hne resource

end Descriptor

namespace Chain

/-- The chain that looks for descriptors on disk, and for the module that every process has. -/
def overDisk (r : LocalResolver) (f : Fetcher σ) : Chain Unit Unit σ :=
  ⟨r.toResolver, systemResolver, f⟩

variable {r : LocalResolver} {f : Fetcher σ} {id : ModuleId} {s : ChainState Unit Unit σ}
  {d : Descriptor}

theorem find_system_of_overDisk (hid : id.isSystem = true) :
    ((overDisk r f).find id s).1 = .ok (some (.inProcess id)) := by
  rw [find, if_pos hid]
  unfold askSystem overDisk systemResolver
  dsimp only
  rw [if_pos hid]

theorem exists_find_of_overDisk (hid : id.isSystem = false)
    (h : ((overDisk r f).find id s).1 = .ok (some d)) :
    ∃ t, r.find t id = .ok (some d) := by
  obtain ⟨s', hconsult, -⟩ := exists_consult_of_find _ hid h
  refine ⟨s'.world.tree, ?_⟩
  unfold consult overDisk LocalResolver.toResolver at hconsult
  dsimp only at hconsult
  unfold Lookup.settled at hconsult
  split at hconsult
  · cases hconsult
  · exact hconsult

/-- **The files of a module that was found** are its resources, joined to the directory of the
descriptor file one by one. The file of a contained resource lies inside; of the others do those
that the fetcher refuses for their spelling, and absolute ones that happen to name a place inside.
-/
theorem files_of_find (hid : id.IsPlain) (h : ((overDisk r f).find id s).1 = .ok (some d)) :
    id.isSystem = true ∧ d.location = none ∧ d.files = [] ∨
      d.location = some (r.descriptorPath id) ∧
      ∃ directory, (r.descriptorPath id).parent? = some directory ∧
        List.Forall₂ (Descriptor.IsFileOf directory) d.resources d.files := by
  cases hsystem : id.isSystem with
  | true =>
      rw [find_system_of_overDisk hsystem] at h
      cases h
      exact .inl ⟨rfl, rfl, rfl⟩
  | false =>
      obtain ⟨t, hfind⟩ := exists_find_of_overDisk hsystem h
      obtain ⟨hlocation, -⟩ := LocalResolver.exists_stream_of_find hfind
      obtain ⟨directory, hparent, hne⟩ := r.exists_directory hid
      refine .inr ⟨hlocation, directory, hparent, Descriptor.forall₂_files ?_ hne⟩
      rwa [hlocation, Option.bind_some]

/-- Of four declared resources two have a file in the module directory. -/
theorem files_of_find_of_four :
    let r : LocalResolver := ⟨⟨"/c"⟩, fun _ => .ok ["x", "../y", "/etc/z", "lib/"]⟩
    let tree := Fetcher.cacheOfX.insert ["c", "m", "main", "module.xml"] (.file [])
    let s : ChainState Unit Unit MemoryRepository := ⟨⟨tree, {}, [], []⟩, (), ()⟩
    let directory : Path := ⟨"/c/m/main"⟩
    Fetcher.pairModule.IsPlain ∧
    ∃ d, ((overDisk r Fetcher.pair).find Fetcher.pairModule s).1 = .ok (some d) ∧
      d.files = [⟨"/c/m/main/x"⟩, ⟨"/c/m/main/../y"⟩, ⟨"/etc/z"⟩, ⟨"/c/m/main/lib/"⟩] ∧
      List.Forall₂ (Descriptor.IsFileOf directory) ["x", "../y", "/etc/z", "lib/"] d.files := by
  intro r tree s directory
  have hid : Fetcher.pairModule.IsPlain := by decide
  have hfind : ((overDisk r Fetcher.pair).find Fetcher.pairModule s).1 = .ok (some
      ⟨Fetcher.pairModule, some ⟨"/c/m/main/module.xml"⟩, ["x", "../y", "/etc/z", "lib/"]⟩) := by
    decide +kernel
  refine ⟨hid, _, hfind, by decide +kernel, ?_⟩
  rcases files_of_find hid hfind with ⟨hsystem, -⟩ | ⟨-, directory', hparent, hfiles⟩
  · exact absurd hsystem (by decide)
  · obtain rfl : directory = directory' :=
      Option.some.inj (Eq.trans (by decide +kernel) hparent)
    exact hfiles

/-- **A resource that the fetcher refuses is handed out**, with a file outside the directory. -/
theorem hands_out_rejected_resource :
    let f := Fetcher.pair.withParser Descriptor.documentParser
    let document := Text.utf8 ("<module><resources><resource-root path=\"../x\"/></resources>" ++
      "</module>")
    let s : ChainState Unit Unit MemoryRepository :=
      ⟨⟨.empty, { resources := [("1/m/main/module.xml", .ofBytes document)] }, [], []⟩, (), ()⟩
    let directory : Path := ⟨"/c/m/main"⟩
    Fetcher.pairModule.IsPlain ∧
    (f.fetch Fetcher.pairModule s.world).1 =
      .ok (some ⟨Fetcher.pairModule, .fetched, [⟨"../x", .rejected, .rejected⟩]⟩) ∧
    ∃ d, ((overDisk f.localResolver f).find Fetcher.pairModule s).1 = .ok (some d) ∧
      d.location.bind Path.parent? = some directory ∧ d.files = [directory.join "../x"] ∧
      ¬ (directory.join "../x").IsInside directory := by
  intro f document s directory
  have hfind : ((overDisk f.localResolver f).find Fetcher.pairModule s).1 = .ok (some
      ⟨Fetcher.pairModule, some ⟨"/c/m/main/module.xml"⟩, ["../x"]⟩) := by
    decide +kernel
  refine ⟨by decide, by decide +kernel, _, hfind, by decide +kernel, by decide +kernel, ?_⟩
  rw [Path.isInside_join_iff (by decide)]
  rintro (hcontained | ⟨habsolute, -⟩)
  · exact hcontained.noDots (by decide)
  · exact absurd habsolute (by decide)

end Chain
end ModuleDepot
