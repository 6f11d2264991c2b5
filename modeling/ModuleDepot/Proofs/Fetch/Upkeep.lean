import ModuleDepot.Proofs.Fetch.Course
import ModuleDepot.Proofs.Fetch.Immutability
import ModuleDepot.Proofs.Fetch.Once
import ModuleDepot.Proofs.Fetch.Places
import ModuleDepot.Proofs.Store.Missing

/-! # What a fetch builds on

Once the ways to the artifacts of a module are clear, `Ready`, every step of a fetch keeps them
so, and it keeps the content of all files (`Ready.lookup_of_runs`) and the presence of all
artifacts but the one it obtains (`Ready.isCached_bring_of_ne`).

The ways are clear from the start if the identifier is plain, and otherwise as soon as the
descriptor is in the cache, whose way is theirs as well.
-/

namespace ModuleDepot

namespace Layout

/-- The names of an artifact below the module directory, without those that stay. -/
def normalNames (name : String) : List String :=
  Path.undotted (Path.names ⟨name⟩)

end Layout

namespace Fetcher

open FileTree
open ModuleDepot.Path (undotted)

variable {σ : Type} {f : Fetcher σ} {id : ModuleId} {w w' : World σ} {name other : String}

/-- An artifact lies below the module directory, where its own names lead. -/
theorem place_artifactPath (f : Fetcher σ) (id : ModuleId)
    (hname : Layout.isContained name = true) (t : FileTree) :
    t.place (f.artifactPath id name) = t.place (f.modulePath id) ++ Layout.normalNames name := by
  have hpath := Layout.isContainedPath hname
  obtain ⟨hnames, habs⟩ := Layout.names_path_file f.store id hpath.relative
  have habs : (f.artifactPath id name).isAbsolute = (f.modulePath id).isAbsolute := habs
  have hstart : t.start (f.artifactPath id name) = t.start (f.modulePath id) := by
    simp [FileTree.start, habs]
  rw [FileTree.place, hstart, artifactPath, hnames, descend_append,
    descend_of_not_mem hpath.noDots]
  rfl

/-- The tree is in order, the readers to come leave it alone, and the paths of the artifacts lead
down from where there is a way. -/
structure Ready (f : Fetcher σ) (id : ModuleId) (w : World σ) : Prop where
  calm : f.Calm w
  rooted : w.tree.Rooted
  down : ∀ name, Layout.isContained name = true → LeadsDown w.tree (f.artifactPath id name)

theorem Calm.rooted_step (h : f.Calm w) (ht : w.tree.Rooted) (hstep : f.Step id w w') :
    w'.tree.Rooted := by
  rcases hstep.tree_cases with htree | ⟨name, stream, -, -, hfound, -, htree⟩
  · rwa [htree]
  · rw [htree]
    exact Store.rooted_write (h.leavesFiles.now hfound) ht

theorem Calm.rooted_of_runs (h : f.Calm w) (ht : w.tree.Rooted) (hruns : f.Runs id w w') :
    w'.tree.Rooted := by
  induction hruns with
  | refl => exact ht
  | tail hbefore hstep ih => exact (h.evolves (evolves_of_runs hbefore)).1.rooted_step ih hstep

/-- None of the artifacts in the cache is requested. -/
theorem Calm.requests_of_runs (h : f.Calm w) (hruns : f.Runs id w w') :
    ∃ new, w'.requests = w.requests ++ new ∧
      ∀ name, f.isCached id name w = true → f.request id name ∉ new := by
  have hgrows : ∃ new, w'.requests = w.requests ++ new := by
    induction hruns with
    | refl => exact ⟨[], by simp⟩
    | tail _ hstep ih =>
        obtain ⟨new, hnew⟩ := ih
        cases hstep with
        | log e => exact ⟨new, hnew⟩
        | obtain name =>
            refine ⟨new ++ [f.request id name], ?_⟩
            rw [requests_obtain, hnew, List.append_assoc]
  obtain ⟨new, hnew⟩ := hgrows
  refine ⟨new, hnew, fun name hcached => ?_⟩
  obtain ⟨new', hnew', hnot⟩ := not_requested_of_runs h hruns hcached
  rwa [List.append_cancel_left (hnew.symm.trans hnew')]

/-- What is brought and reported as available is in the cache. -/
theorem Calm.isCached_of_bring (h : f.Calm w) (hname : Layout.isContained name = true)
    {outcome : Outcome} (hbring : f.bring id name w = (.ok outcome, w'))
    (houtcome : outcome.isCached = true) : f.isCached id name w' = true := by
  rcases bring_eq_ok hbring with ⟨hcached, -, rfl⟩ | ⟨-, rfl⟩
  · exact hcached
  · cases hanswer : f.answer id name w with
    | found stream =>
        rw [hanswer] at hbring
        exact (persists_of_bring hname hbring).isCached h
    | notFound => simp [hanswer, Outcome.ofAnswer, Outcome.isCached] at houtcome
    | unavailable reason => simp [hanswer, Outcome.ofAnswer, Outcome.isCached] at houtcome

theorem ready_of_isPlain (hid : id.IsPlain) (hroot : ".." ∉ f.store.root.names) (h : f.Calm w)
    (ht : w.tree.Rooted) : f.Ready id w :=
  ⟨h, ht, fun _ hname => leadsDown_of_not_mem (not_mem_names_artifact hroot hid hname)⟩

/-- **One artifact in the cache clears the ways to the others.** -/
theorem ready_of_isCached (h : f.Calm w) (ht : w.tree.Rooted)
    (hother : Layout.isContained other = true) (hcached : f.isCached id other w = true) :
    f.Ready id w := by
  refine ⟨h, ht, fun name hname => ?_⟩
  have hpath := Layout.isContainedPath hname
  obtain ⟨hnames, habs⟩ := Layout.names_path_file f.store id hpath.relative
  obtain ⟨hnames', habs'⟩ := Layout.names_path_file f.store id
    (Layout.isContainedPath hother).relative
  -- The way to the artifact that is there begins with the module directory, like all others.
  obtain ⟨d, content, hd, -⟩ := isFile_iff.mp hcached
  have hlead := (resolve_eq_ok_iff.mp hd).2
  rw [steps_of_isFile hcached, hnames'] at hlead
  obtain ⟨m, -, hway, -⟩ := hlead.split rfl
  have hstart : w.tree.start (f.artifactPath id name) =
      w.tree.start (f.store.path (Layout.file id other)) := by
    simp [FileTree.start, artifactPath, habs, habs']
  exact ⟨_, _, m, hnames, hstart ▸ hway, hpath.noDots⟩

/-- Once the descriptor was brought it is in the cache, and all ways are clear. -/
theorem ready_of_descriptor (h : f.Calm w) (ht : w.tree.Rooted) {outcome : Outcome}
    {source : DescriptorSource} (hbring : f.bring id Layout.descriptorName w = (.ok outcome, w'))
    (hsource : outcome.source? = some source) :
    f.isCached id Layout.descriptorName w' = true ∧ f.Ready id w' := by
  have hruns := runs_bring f id Layout.isContained_descriptorName w
  rw [hbring] at hruns
  have hcached : f.isCached id Layout.descriptorName w' = true := by
    refine h.isCached_of_bring Layout.isContained_descriptorName hbring ?_
    cases outcome <;> first | rfl | cases hsource
  exact ⟨hcached, ready_of_isCached (h.evolves (evolves_of_runs hruns)).1
    (h.rooted_of_runs ht hruns) Layout.isContained_descriptorName hcached⟩

namespace Ready

/-- **A step keeps the ways clear and the content of files what it is.** -/
theorem step (h : f.Ready id w) (hstep : f.Step id w w') :
    f.Ready id w' ∧ ∀ {loc content}, w.tree.lookup loc = some (.file content) →
      w'.tree.lookup loc = some (.file content) := by
  obtain ⟨hcalm, hkeeps⟩ := h.calm.step hstep
  refine ⟨⟨hcalm, h.calm.rooted_step h.rooted hstep, fun name hname =>
    (h.down name hname).mono hkeeps⟩, fun hfile => ?_⟩
  rcases hstep.tree_cases with htree | ⟨name, stream, hname, hmissing, hfound, -, htree⟩
  · rwa [htree]
  · rw [htree]
    exact Store.lookup_write_of_file (h.calm.leavesFiles.now hfound) h.calm.linkFree h.rooted
      (h.down name hname) hmissing hfile

theorem of_runs (h : f.Ready id w) (hruns : f.Runs id w w') : f.Ready id w' := by
  induction hruns with
  | refl => exact h
  | tail _ hstep ih => exact (ih.step hstep).1

/-- What is in the cache stays there. -/
theorem isCached_of_runs (h : f.Ready id w) (hruns : f.Runs id w w')
    (hcached : f.isCached id name w = true) : f.isCached id name w' = true :=
  isCached_of_evolves h.calm (evolves_of_runs hruns) hcached

/-- **The content of files stays what it is.** -/
theorem lookup_of_runs (h : f.Ready id w) (hruns : f.Runs id w w') {loc : Location}
    {content : List UInt8} (hfile : w.tree.lookup loc = some (.file content)) :
    w'.tree.lookup loc = some (.file content) := by
  induction hruns with
  | refl => exact hfile
  | tail hbefore hstep ih => exact ((h.of_runs hbefore).step hstep).2 ih

/-- An artifact in the cache is read as the same bytes later on. -/
theorem openFile_of_runs (h : f.Ready id w) (hruns : f.Runs id w w')
    (hcached : f.isCached id name w = true) :
    ∃ content, w.tree.openFile (f.artifactPath id name) = .ok (.ofBytes content) ∧
      w'.tree.openFile (f.artifactPath id name) = .ok (.ofBytes content) := by
  obtain ⟨d, content, hd, hfile⟩ := isFile_iff.mp hcached
  have hkeeps := (h.calm.evolves (evolves_of_runs hruns)).2
  have hopen : ∀ {t : FileTree}, t.resolve (f.artifactPath id name) = .ok d →
      t.lookup d = some (.file content) →
      t.openFile (f.artifactPath id name) = .ok (.ofBytes content) := by
    intro t hresolve hlookup
    simp [openFile, entryAt, hresolve, hlookup, bind, Except.bind]
  exact ⟨content, hopen hd hfile, hopen (hkeeps.resolve hd) (h.lookup_of_runs hruns hfile)⟩

/-- **A descriptor in the cache declares the same resources later on.** -/
theorem readDescriptor_of_runs (h : f.Ready id w) (hruns : f.Runs id w w')
    (hcached : f.isCached id Layout.descriptorName w = true) :
    f.readDescriptor id w'.tree = f.readDescriptor id w.tree := by
  obtain ⟨content, hbefore, hafter⟩ := h.openFile_of_runs hruns hcached
  have hopen := hafter.trans hbefore.symm
  unfold readDescriptor
  extract_lets path
  rw [show w'.tree.openFile path = w.tree.openFile path from hopen]

/-- **Bringing an artifact does not make another one present.** -/
theorem isCached_bring_of_ne (h : f.Ready id w) (hname : Layout.isContained name = true)
    (hother : Layout.isContained other = true)
    (hne : Layout.normalNames other ≠ Layout.normalNames name) :
    f.isCached id other (f.bring id name w).2 = f.isCached id other w := by
  have hplaces : w.tree.place (f.artifactPath id other) ≠
      w.tree.place (f.artifactPath id name) := by
    rw [place_artifactPath f id hother, place_artifactPath f id hname]
    exact fun heq => hne (List.append_cancel_left heq)
  cases hcached : f.isCached id name w with
  | true => rw [bring_of_cached f id hcached]
  | false =>
      rw [isCached, (sameButLog_bring f id hcached).tree]
      by_cases hfound : ∃ stream, f.answer id name w = .found stream
      · obtain ⟨stream, hfound⟩ := hfound
        rw [tree_obtain_of_found hfound]
        exact Store.has_write_of_ne (h.calm.leavesFiles.now hfound) h.calm.linkFree h.rooted
          (undotted_names_artifactPath_ne_nil hname) (h.down other hother) hplaces
      · rw [tree_obtain_of_not_found (not_exists.mp hfound)]
        rfl

end Ready

/-! ## A module with two resources -/

/-- Fetches a module whose descriptor declares two resources. -/
def pair : Fetcher MemoryRepository :=
  ⟨⟨⟨"/c"⟩⟩, MemoryRepository.repository, fun _ => .ok ["x", "y"], "1"⟩

def pairModule : ModuleId := ⟨"m", "main"⟩

/-- The descriptor and both resources, which are the given streams. -/
def pairResources (x y : ByteStream) : MemoryRepository :=
  { resources := [("1/m/main/module.xml", .ofBytes [60]), ("1/m/main/x", x),
      ("1/m/main/y", y)] }

theorem leavesFiles_pairResources {x y : ByteStream} (hx : x.releases = none)
    (hy : y.releases = none) : pair.repository.LeavesFiles (pairResources x y) :=
  MemoryRepository.leavesFiles (by simp [pairResources, ByteStream.ofBytes, hx, hy])

/-- A stream that lets go of an artifact of the module. -/
def releasing (name : String) (signals : List Signal) : ByteStream :=
  ⟨signals, some ⟨"/c/m/main/" ++ name⟩⟩

end Fetcher
end ModuleDepot
