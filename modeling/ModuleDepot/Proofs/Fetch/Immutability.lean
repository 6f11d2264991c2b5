import ModuleDepot.Proofs.Fetch.Steps
import ModuleDepot.Resolver.Chain

/-! # Artifacts stay and are whole

Once a file is in the cache no call changes it, and a file that a call adds is a complete
answer of the repository (`calls_keep_and_complete_artifacts`). This holds for every tree,
links included, for every behaviour of the repository and of the parser, and whether the
calls succeed or fail.

`Intact` is what every step of a fetch keeps (`Intact.step`). It holds between the world
before a fetch and each world in its course, so the replacement of a file would show at the
step that does it; and that step asks first whether the file is there.
-/

namespace ModuleDepot

namespace Fetcher

open FileTree

variable {σ : Type} {f : Fetcher σ} {id : ModuleId} {w w' w'' : World σ}

/-- Between the two worlds the repository found an artifact of the module whose location is
`loc`, and its stream gave the whole content. -/
def Delivers (f : Fetcher σ) (id : ModuleId) (w w' : World σ) (loc : Location)
    (content : List UInt8) : Prop :=
  ∃ name stream m, f.Runs id w m ∧ f.answer id name m = .found stream ∧
    stream.contents = (content, none) ∧
    f.store.target m.tree (Layout.file id name) = some loc ∧
    f.Runs id (f.obtain id name m) w'

theorem Delivers.tail {loc : Location} {content : List UInt8}
    (h : f.Delivers id w w' loc content) (hstep : f.Step id w' w'') :
    f.Delivers id w w'' loc content := by
  obtain ⟨name, stream, m, hbefore, hfound, hcontents, htarget, hafter⟩ := h
  exact ⟨name, stream, m, hbefore, hfound, hcontents, htarget, hafter.tail hstep⟩

/-- What has become of a location between two worlds: it is as it was, or a directory was
made where nothing stood, or a whole artifact was put where no file stood. -/
def Keeps (f : Fetcher σ) (id : ModuleId) (w w' : World σ) (loc : Location) : Prop :=
  w'.tree.lookup loc = w.tree.lookup loc ∨
  (w.tree.lookup loc = none ∧ w'.tree.lookup loc = some .directory) ∨
  ((∀ old, w.tree.lookup loc ≠ some (.file old)) ∧ ∃ content,
    w'.tree.lookup loc = some (.file content) ∧ f.Delivers id w w' loc content)

theorem Keeps.of_eq {loc : Location} (h : f.Keeps id w w' loc) (hstep : f.Step id w' w'')
    (heq : w''.tree.lookup loc = w'.tree.lookup loc) : f.Keeps id w w'' loc := by
  unfold Keeps
  rw [heq]
  rcases h with hsame | hnew | ⟨hno, content, hfile, hdelivers⟩
  · exact .inl hsame
  · exact .inr (.inl hnew)
  · exact .inr (.inr ⟨hno, content, hfile, hdelivers.tail hstep⟩)

/-- What holds between the world before a fetch and one in its course. -/
structure Intact (f : Fetcher σ) (id : ModuleId) (w w' : World σ) : Prop where
  runs : f.Runs id w w'
  leavesFiles : f.repository.LeavesFiles w'.repository
  rooted : w'.tree.Rooted
  keeps : ∀ loc, f.Keeps id w w' loc

/-- The path of an artifact of a plain module does not climb. -/
theorem not_mem_names_artifact (hroot : ".." ∉ f.store.root.names) (hid : id.IsPlain)
    {name : String} (hname : Layout.isContained name = true) :
    ".." ∉ (f.store.path (Layout.file id name)).names := by
  have hpath := Layout.isContainedPath hname
  rw [(Layout.names_path_file f.store id hpath.relative).1]
  have hdirectory : (f.store.path (Layout.directory id)).names =
      f.store.root.names ++ (Layout.directory id).names :=
    Path.names_join (Layout.names_directory hid).2
  rw [hdirectory, List.mem_append, List.mem_append, not_or, not_or]
  exact ⟨⟨hroot, Layout.not_mem_names_directory hid⟩, hpath.noDots⟩

/-- **A step keeps what is there, and adds nothing that is not whole.** -/
theorem Intact.step (hroot : ".." ∉ f.store.root.names) (hid : id.IsPlain)
    (h : f.Intact id w w') (hstep : f.Step id w' w'') : f.Intact id w w'' := by
  rcases hstep.tree_cases with htree | ⟨name, stream, hname, hmissing, hfound, rfl, htree⟩
  · exact ⟨h.runs.tail hstep, hstep.leavesFiles h.leavesFiles, htree ▸ h.rooted, fun loc =>
      (h.keeps loc).of_eq hstep (by rw [htree])⟩
  have hreleases : stream.releases = none := h.leavesFiles.now hfound
  have hrooted : (f.obtain id name w').tree.Rooted :=
    htree ▸ Store.rooted_write hreleases h.rooted
  refine ⟨h.runs.tail hstep, hstep.leavesFiles h.leavesFiles, hrooted, fun loc => ?_⟩
  have hchanges := Store.write_changes f.store w'.tree (Layout.file id name) hreleases loc
  rw [← htree] at hchanges
  rcases hchanges with heq | ⟨hnone, hdir⟩ | ⟨content, s, hstores, rfl, hfile⟩
  · exact (h.keeps loc).of_eq hstep heq
  · -- Where a directory is missing now, nothing stood before the fetch either.
    rcases h.keeps loc with heq | ⟨_, hdir'⟩ | ⟨_, _, hfile, _⟩
    · exact .inr (.inl ⟨heq ▸ hnone, hdir⟩)
    · cases hnone.symm.trans hdir'
    · cases hnone.symm.trans hfile
  · -- The artifact was missing, so the write replaces no file of the world before the step,
    -- and hence none of the world before the fetch.
    have hno := hstores.ne_file h.rooted (not_mem_names_artifact hroot hid hname) hmissing
    have hdelivers : f.Delivers id w (f.obtain id name w') s.location content :=
      ⟨name, stream, w', h.runs, hfound, hstores.contents, hstores.target_eq, .refl⟩
    refine .inr (.inr ⟨fun old hold => ?_, content, hfile, hdelivers⟩)
    rcases h.keeps s.location with heq | ⟨hnone, _⟩ | ⟨hno', _⟩
    · exact hno old (heq.trans hold)
    · cases hnone.symm.trans hold
    · exact hno' old hold

/-- What a step keeps is kept all the time. -/
theorem intact_of_runs (hroot : ".." ∉ f.store.root.names)
    (hreaders : f.repository.LeavesFiles w.repository) (hid : id.IsPlain)
    (ht : w.tree.Rooted) (hruns : f.Runs id w w') : f.Intact id w w' := by
  induction hruns with
  | refl => exact ⟨.refl, hreaders, ht, fun _ => .inl rfl⟩
  | tail _ hstep ih => exact ih.step hroot hid hstep

end Fetcher

/-! ## Calls -/

/-- A call of the library, with what the parser makes of descriptors in its course. -/
inductive Call where
  | fetch (id : ModuleId) (parser : DescriptorParser)
  | find (id : ModuleId) (parser : DescriptorParser)

/-- The module that is asked for. -/
def Call.id : Call → ModuleId
  | .fetch id _ => id
  | .find id _ => id

def Call.parser : Call → DescriptorParser
  | .fetch _ parser => parser
  | .find _ parser => parser

namespace Chain

variable {ρ τ σ : Type} (c : Chain ρ τ σ)

/-- The chain in the course of a call. -/
def during (call : Call) : Chain ρ τ σ :=
  { c with fetcher := { c.fetcher with parser := call.parser } }

/-- The state after a call, whatever it answered. -/
def perform (s : ChainState ρ τ σ) (call : Call) : ChainState ρ τ σ :=
  match call with
  | .fetch id _ => { s with world := ((c.during call).fetcher.fetch id s.world).2 }
  | .find id _ => ((c.during call).find id s).2

/-- The state after calls, one after the other. -/
def performAll (s : ChainState ρ τ σ) (calls : List Call) : ChainState ρ τ σ :=
  calls.foldl c.perform s

theorem world_consult (id : ModuleId) (s : ChainState ρ τ σ) :
    (c.consult id s).2.world = s.world := rfl

theorem runs_fetchMissing (id : ModuleId) (s : ChainState ρ τ σ) :
    c.fetcher.Runs id s.world (c.fetchMissing id s).2.world := by
  have hfetch := Fetcher.runs_fetch c.fetcher id
    (s.world.log (fallbackEvent id c.fetcher.repository.description))
  rw [fetchMissing_eq]
  unfold fallback
  dsimp only
  exact .head (.log _) hfetch

theorem runs_find (id : ModuleId) (s : ChainState ρ τ σ) :
    c.fetcher.Runs id s.world (c.find id s).2.world := by
  have hworld := c.world_consult id s
  unfold find
  split
  · rw [show (c.askSystem id s).2.world = s.world from rfl]
  split
  next s' hconsult =>
    rw [hconsult] at hworld
    have hfetch := c.runs_fetchMissing id s'
    rw [hworld] at hfetch
    split
    next hmissing => rwa [hmissing] at hfetch
    next hmissing => rwa [hmissing] at hfetch
    next s'' hmissing =>
      rw [hmissing] at hfetch
      rwa [world_consult]
  next => rw [hworld]

theorem runs_perform (s : ChainState ρ τ σ) (call : Call) :
    (c.during call).fetcher.Runs call.id s.world (c.perform s call).world := by
  unfold perform
  cases call with
  | fetch id parser =>
      dsimp only [Call.id]
      exact Fetcher.runs_fetch _ _ s.world
  | find id parser =>
      dsimp only [Call.id]
      exact runs_find _ id s

/-- Calls keep what the theorem below asks of the state they start from. -/
theorem rooted_performAll (hroot : ".." ∉ c.fetcher.store.root.names) {calls : List Call}
    (hplain : ∀ call ∈ calls, call.id.IsPlain) {s : ChainState ρ τ σ}
    (hreaders : c.fetcher.repository.LeavesFiles s.world.repository)
    (ht : s.world.tree.Rooted) :
    c.fetcher.repository.LeavesFiles (c.performAll s calls).world.repository ∧
      (c.performAll s calls).world.tree.Rooted := by
  induction calls generalizing s with
  | nil => exact ⟨hreaders, ht⟩
  | cons call rest ih =>
      have hintact := Fetcher.intact_of_runs (f := (c.during call).fetcher) hroot hreaders
        (hplain call List.mem_cons_self) ht (c.runs_perform s call)
      exact ih (fun x hx => hplain x (List.mem_cons_of_mem _ hx)) hintact.leavesFiles
        hintact.rooted

/-- **Artifacts stay and are whole.** Whatever calls were made before, a call of `fetch` or
`find` on plain modules keeps every file as it is, and a file that is new after it is the
whole content of an answer that the repository gave in its course for the artifact at this
place. Besides, it makes directories where nothing stood, and nothing else is left of it: no
file for gathering content, and no part of one. -/
theorem calls_keep_and_complete_artifacts (s : ChainState ρ τ σ) (before : List Call)
    (call : Call) (hroot : ".." ∉ c.fetcher.store.root.names)
    (hreaders : c.fetcher.repository.LeavesFiles s.world.repository)
    (ht : s.world.tree.Rooted) (hplain : ∀ x ∈ before ++ [call], x.id.IsPlain) :
    let w := (c.performAll s before).world
    let w' := (c.performAll s (before ++ [call])).world
    (∀ loc content, w.tree.lookup loc = some (.file content) →
      w'.tree.lookup loc = some (.file content)) ∧
    (∀ loc content, w'.tree.lookup loc = some (.file content) →
      w.tree.lookup loc = some (.file content) ∨
      (c.during call).fetcher.Delivers call.id w w' loc content) ∧
    (∀ loc, w'.tree.lookup loc ≠ w.tree.lookup loc →
      (w.tree.lookup loc = none ∧ w'.tree.lookup loc = some .directory) ∨
      ∃ content, w'.tree.lookup loc = some (.file content) ∧
        (c.during call).fetcher.Delivers call.id w w' loc content) := by
  intro w w'
  obtain ⟨hreaders, hrooted⟩ := c.rooted_performAll hroot
    (fun x hx => hplain x (List.mem_append_left _ hx)) hreaders ht
  have hruns : (c.during call).fetcher.Runs call.id w w' := by
    have hlast : c.performAll s (before ++ [call]) = c.perform (c.performAll s before) call := by
      simp [performAll]
    have := c.runs_perform (c.performAll s before) call
    rwa [← hlast] at this
  have hintact := Fetcher.intact_of_runs (f := (c.during call).fetcher) hroot hreaders
    (hplain call (by simp)) hrooted hruns
  refine ⟨fun loc content hfile => ?_, fun loc content hfile => ?_, fun loc hne => ?_⟩
  · rcases hintact.keeps loc with heq | ⟨hnone, _⟩ | ⟨hno, _⟩
    · exact heq.trans hfile
    · cases hnone.symm.trans hfile
    · exact absurd hfile (hno content)
  · rcases hintact.keeps loc with heq | ⟨_, hdir⟩ | ⟨_, content', hfile', hdelivers⟩
    · exact .inl (heq.symm.trans hfile)
    · cases hdir.symm.trans hfile
    · cases hfile'.symm.trans hfile
      exact .inr hdelivers
  · rcases hintact.keeps loc with heq | hnew | ⟨_, hdelivered⟩
    · exact absurd heq hne
    · exact .inl hnew
    · exact .inr hdelivered

/-- A chain over a repository in memory, with a cache that is still empty. -/
def sample : Chain Unit Unit MemoryRepository :=
  ⟨(LocalResolver.mk ⟨"/cache"⟩ fun _ => .ok []).toResolver, systemResolver,
    ⟨⟨⟨"/cache"⟩⟩, MemoryRepository.repository, fun _ => .ok [], "1"⟩⟩

def sampleState : ChainState Unit Unit MemoryRepository :=
  ⟨⟨.empty, { resources := [("1/a/b/main/module.xml", .ofBytes [60]),
    ("1/a/b/main/lib/x", ⟨[.data [1], .interrupted, .data [2]], none⟩),
    ("1/a/b/main/lib", .ofBytes [3])] }, [], []⟩, (), ()⟩

def sampleFetch : Call :=
  .fetch ⟨"a.b", "main"⟩ fun _ => .ok ["lib/x", "../y", "lib"]

/-- A file that one call stored is the same after the next one. -/
theorem calls_keep_and_complete_artifacts_after_fetch :
    ".." ∉ sample.fetcher.store.root.names ∧
    sample.fetcher.repository.LeavesFiles sampleState.world.repository ∧
    sampleState.world.tree.Rooted ∧
    (∀ x ∈ [sampleFetch] ++ [sampleFetch], x.id.IsPlain) ∧
    (sample.performAll sampleState ([sampleFetch] ++ [sampleFetch])).world.tree.lookup
      ["cache", "a", "b", "main", "lib", "x"] = some (.file [1, 2]) := by
  have hroot : ".." ∉ sample.fetcher.store.root.names := by decide
  have hreaders : sample.fetcher.repository.LeavesFiles sampleState.world.repository :=
    MemoryRepository.leavesFiles (by decide)
  have htree : sampleState.world.tree.Rooted := FileTree.rooted_empty
  have hplain : ∀ x ∈ [sampleFetch] ++ [sampleFetch], x.id.IsPlain := by decide
  have hfetched : (sample.performAll sampleState [sampleFetch]).world.tree.lookup
      ["cache", "a", "b", "main", "lib", "x"] = some (.file [1, 2]) := by decide +kernel
  have hkept := calls_keep_and_complete_artifacts sample sampleState [sampleFetch] sampleFetch
    hroot hreaders htree hplain
  exact ⟨hroot, hreaders, htree, hplain, hkept.1 _ _ hfetched⟩

end Chain
end ModuleDepot
