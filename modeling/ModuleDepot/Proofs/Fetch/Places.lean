import ModuleDepot.Proofs.Fetch.Steps

/-! # Where a fetch changes the files

In a tree without links the locations that a fetch changes can be told from the paths of the
artifacts (`located_of_runs`), whatever the identifier and the root are: they are the
places of artifacts, places above them where a directory was missing, and places of files
that readers let go of, where nothing but the removal happens unless a directory is made there
afterwards. No entry of the tree comes into it, because no entry of a tree
without links leads a walk astray, those made by earlier steps included.
-/

namespace ModuleDepot.Fetcher

open FileTree
open ModuleDepot.Path (undotted)

variable {σ : Type} {f : Fetcher σ} {id : ModuleId} {w w' w'' : World σ}

/-- The path of an artifact in the cache. -/
def artifactPath (f : Fetcher σ) (id : ModuleId) (name : String) : Path :=
  f.store.path (Layout.file id name)

/-- The path of the module directory in the cache. -/
def modulePath (f : Fetcher σ) (id : ModuleId) : Path :=
  f.store.path (Layout.directory id)

/-- Between the two worlds the repository found an artifact of the module whose reader lets
go of the file `released`. -/
def Releases (f : Fetcher σ) (id : ModuleId) (w w' : World σ) (released : Path) : Prop :=
  ∃ name stream m, f.Runs id w m ∧ f.answer id name m = .found stream ∧
    stream.releases = some released ∧ f.Runs id (f.obtain id name m) w'

theorem Releases.tail {released : Path} (h : f.Releases id w w' released)
    (hstep : f.Step id w' w'') : f.Releases id w w'' released := by
  obtain ⟨name, stream, m, hbefore, hfound, hreleases, hafter⟩ := h
  exact ⟨name, stream, m, hbefore, hfound, hreleases, hafter.tail hstep⟩

theorem not_releases (hreaders : f.repository.LeavesFiles w.repository) {released : Path} :
    ¬ f.Releases id w w' released := by
  rintro ⟨name, stream, m, hbefore, hfound, hreleases, -⟩
  have hnone := (leavesFiles_of_runs hbefore hreaders).now hfound
  cases hreleases.symm.trans hnone

/-- A location above an artifact, where a directory is made if it is missing. -/
def LiesAbove (f : Fetcher σ) (id : ModuleId) (t : FileTree) (loc : Location) : Prop :=
  ∃ name first, Layout.isContained name = true ∧
    first <+: (undotted (f.artifactPath id name).names).dropLast ∧
    loc = descend (t.start (f.artifactPath id name)) first

/-- How a location can have changed between two worlds. -/
inductive ChangedAt (f : Fetcher σ) (id : ModuleId) (w w' : World σ) (loc : Location) : Prop
  /-- A directory that was missing above an artifact. -/
  | above : f.LiesAbove id w.tree loc → w.tree.lookup loc = none →
      w'.tree.lookup loc = some .directory → ChangedAt f id w w' loc
  /-- The place of an artifact. -/
  | artifact (name : String) : Layout.isContained name = true →
      loc = w.tree.place (f.artifactPath id name) → ChangedAt f id w w' loc
  /-- A file that a reader let go of. In its place there can be a directory that was made later. -/
  | released (path : Path) (content : List UInt8) : f.Releases id w w' path →
      loc = w.tree.place path → w.tree.lookup loc = some (.file content) →
      (w'.tree.lookup loc = none ∨
        f.LiesAbove id w.tree loc ∧ w'.tree.lookup loc = some .directory) →
      ChangedAt f id w w' loc

theorem undotted_names_artifactPath (f : Fetcher σ) (id : ModuleId) {name : String}
    (hname : Layout.isContained name = true) :
    undotted (f.artifactPath id name).names =
        undotted (f.modulePath id).names ++ undotted (Path.names ⟨name⟩) ∧
      undotted (Path.names ⟨name⟩) ≠ [] := by
  have hpath := Layout.isContainedPath hname
  refine ⟨?_, hpath.counts⟩
  rw [artifactPath, (Layout.names_path_file f.store id hpath.relative).1, Path.undotted_append]
  rfl

theorem undotted_names_artifactPath_ne_nil {name : String}
    (hname : Layout.isContained name = true) : undotted (f.artifactPath id name).names ≠ [] := by
  obtain ⟨hnames, hne⟩ := undotted_names_artifactPath f id hname
  rw [hnames]
  exact List.append_ne_nil_of_right_ne_nil _ hne

/-- What the locations of changes rest on. -/
structure Located (f : Fetcher σ) (id : ModuleId) (w w' : World σ) : Prop where
  runs : f.Runs id w w'
  linkFree : w'.tree.LinkFree
  workingDirectory : w'.tree.workingDirectory = w.tree.workingDirectory
  changed : ∀ loc, w'.tree.lookup loc ≠ w.tree.lookup loc → f.ChangedAt id w w' loc

theorem Located.start (h : f.Located id w w') (p : Path) : w'.tree.start p = w.tree.start p := by
  simp [FileTree.start, h.workingDirectory]

theorem Located.place (h : f.Located id w w') (p : Path) : w'.tree.place p = w.tree.place p := by
  rw [FileTree.place, FileTree.place, h.start]

/-- A location that a step leaves is changed as before. -/
theorem Located.changedAt_of_eq (h : f.Located id w w') (hstep : f.Step id w' w'')
    {loc : Location} (heq : w''.tree.lookup loc = w'.tree.lookup loc)
    (hne : w''.tree.lookup loc ≠ w.tree.lookup loc) : f.ChangedAt id w w'' loc := by
  cases h.changed loc (heq ▸ hne) with
  | above habove hnone hdir => exact .above habove hnone (heq.trans hdir)
  | artifact name hname hloc => exact .artifact name hname hloc
  | released path content hreleases hloc hfile hnow =>
      exact .released path content (hreleases.tail hstep) hloc hfile (heq ▸ hnow)

/-- A directory that a step makes is new, or a reader has made room for it. -/
theorem Located.changedAt_of_made (h : f.Located id w w') (hstep : f.Step id w' w'')
    {loc : Location} (habove : f.LiesAbove id w.tree loc) (hnone : w'.tree.lookup loc = none)
    (hdir : w''.tree.lookup loc = some .directory) : f.ChangedAt id w w'' loc := by
  by_cases hbefore : w.tree.lookup loc = none
  · exact .above habove hbefore hdir
  · cases h.changed loc (by rw [hnone]; exact Ne.symm hbefore) with
    | above _ hnone' _ => exact absurd hnone' hbefore
    | artifact name hname hloc => exact .artifact name hname hloc
    | released path content hpath hloc hfile _ =>
        exact .released path content (hpath.tail hstep) hloc hfile (.inr ⟨habove, hdir⟩)

/-- A file that a step lets go of was there from the start, or it is an artifact. -/
theorem Located.changedAt_of_gone (h : f.Located id w w') {loc : Location} {path : Path}
    {content : List UInt8} (hreleases : f.Releases id w w'' path)
    (hloc : loc = w.tree.place path) (hfile : w'.tree.lookup loc = some (.file content))
    (hgone : w''.tree.lookup loc = none) : f.ChangedAt id w w'' loc := by
  by_cases hbefore : w'.tree.lookup loc = w.tree.lookup loc
  · exact .released path content hreleases hloc (hbefore.symm.trans hfile) (.inl hgone)
  · cases h.changed loc hbefore with
    | above _ _ hdir => cases hdir.symm.trans hfile
    | artifact name hname hloc' => exact .artifact name hname hloc'
    | released _ _ _ _ _ hnow =>
        rcases hnow with hnone | ⟨-, hdir⟩
        · cases hnone.symm.trans hfile
        · cases hdir.symm.trans hfile

theorem Located.step (h : f.Located id w w') (hstep : f.Step id w' w'') :
    f.Located id w w'' := by
  rcases hstep.tree_cases with htree | ⟨name, stream, hname, -, hfound, rfl, htree⟩
  · exact ⟨h.runs.tail hstep, htree ▸ h.linkFree, htree ▸ h.workingDirectory, fun loc hne =>
      h.changedAt_of_eq hstep (by rw [htree]) hne⟩
  have hwork := (congrArg FileTree.workingDirectory htree).trans Store.workingDirectory_write
  refine ⟨h.runs.tail hstep, htree ▸ Store.linkFree_write h.linkFree,
    hwork.trans h.workingDirectory, fun loc hne => ?_⟩
  by_cases heq : (f.obtain id name w').tree.lookup loc = w'.tree.lookup loc
  · exact h.changedAt_of_eq hstep heq hne
  rw [htree] at heq
  rcases Store.write_places h.linkFree (undotted_names_artifactPath_ne_nil hname) heq with
    ⟨hnone, hdir, first, hfirst, hloc⟩ | hloc | ⟨path, content, hreleases, hloc, hfile, hgone⟩
  · rw [← htree] at hdir
    exact h.changedAt_of_made hstep
      ⟨name, first, hname, hfirst, hloc.trans (by rw [h.start]; rfl)⟩ hnone hdir
  · exact .artifact name hname (hloc.trans (h.place _))
  · rw [← htree] at hgone
    exact h.changedAt_of_gone ⟨name, stream, w', h.runs, hfound, hreleases, .refl⟩
      (hloc.trans (h.place path)) hfile hgone

/-- **Where the steps of a fetch change a tree without links.** -/
theorem located_of_runs (hlinks : w.tree.LinkFree) (hruns : f.Runs id w w') :
    f.Located id w w' := by
  induction hruns with
  | refl => exact ⟨.refl, hlinks, rfl, fun _ hne => absurd rfl hne⟩
  | tail _ hstep ih => exact ih.step hstep

end ModuleDepot.Fetcher
