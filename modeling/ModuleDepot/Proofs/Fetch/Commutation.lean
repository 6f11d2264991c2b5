import ModuleDepot.Proofs.Fetch.Confinement
import ModuleDepot.Proofs.Fetch.Order
import ModuleDepot.Proofs.Store.Elsewhere

/-! # Fetches of unrelated modules commute

If neither module directory lies below the other, it does not matter which of two modules is fetched
first (`fetch_commutes`): both orders end with the same files, and with the same two results.

All that the fetch of one module changes are further entries for the fetch of the other
(`Ready.adds_changes`): they keep clear of its directory, and on the way there they are directories
at most, which a fetch makes when they are missing and takes as they are when they are not. So a
fetch goes the same way with them and without (`Apart.fetch`).

A reader that touches the tree is not bound to the directory of its module
(`fetch_depends_on_releasing_reader`).
-/

namespace ModuleDepot

open FileTree
open ModuleDepot.Path (undotted)

namespace FileTree.Adds

open ModuleDepot.Store (LeadsHome)

variable {d : Location → Option Entry} {start home : Location} {t u : FileTree}

/-- **The same becomes of an artifact below `home`.** -/
theorem settle (h : Adds d start home t u) (ht : LinkFree t) (hu : LinkFree u) (hrooted : Rooted t)
    (hrooted' : Rooted u) {store : Store} {id : ModuleId} {name : String} {answer : Answer}
    (hname : LeadsHome store start home t (Layout.file id name))
    (hanswer : ∀ stream, answer = .found stream → stream.releases = none) :
    (store.settle id name answer u).1 = (store.settle id name answer t).1 ∧
      Adds d start home (store.settle id name answer t).2 (store.settle id name answer u).2 := by
  have hhas : store.has u (Layout.file id name) = store.has t (Layout.file id name) :=
    h.isFile_eq ht hu hrooted (leadsDown_of_not_mem hname.noDots) hname.place
  cases hcached : store.has t (Layout.file id name) with
  | true =>
      rw [Store.settle_of_has hcached, Store.settle_of_has (hhas.trans hcached)]
      exact ⟨rfl, h⟩
  | false =>
      have hmissing := hhas.trans hcached
      by_cases hfound : ∃ stream, answer = .found stream
      · obtain ⟨stream, rfl⟩ := hfound
        have hwrite := h.write ht hu hrooted hrooted' hname (hanswer stream rfl)
        rw [Store.settle_of_found hcached, Store.settle_of_found hmissing]
        generalize store.write t stream (Layout.file id name) = written at hwrite ⊢
        generalize store.write u stream (Layout.file id name) = written' at hwrite ⊢
        obtain ⟨hresult, hadds⟩ := hwrite
        rw [hresult]
        exact ⟨rfl, hadds⟩
      · have hanswer := not_exists.mp hfound
        rw [Store.settle_of_not_found hcached hanswer, Store.settle_of_not_found hmissing hanswer]
        exact ⟨rfl, h⟩

end FileTree.Adds

namespace Fetcher

variable {σ : Type} {f : Fetcher σ} {id other : ModuleId} {w w' v v' : World σ}
  {answers : Request → Answer} {d : Location → Option Entry} {name : String}

/-- The artifacts of a plain module lead down from the start of the root to the module directory. -/
theorem leadsHome (hid : id.IsPlain) (hroot : ".." ∉ f.store.root.names) (t : FileTree)
    (hname : Layout.isContained name = true) :
    Store.LeadsHome f.store (t.start f.store.root) (f.moduleLocation id t) t
      (Layout.file id name) := by
  have hpath := Layout.isContainedPath hname
  obtain ⟨hmodule, habs⟩ := names_modulePath (f := f) hid
  obtain ⟨hnames, hne⟩ := undotted_names_artifactPath f id hname
  refine ⟨?_, not_mem_names_artifact hroot hid hname, ?_, ?_,
    (isInside_artifact hid hroot t hname).1⟩
  · have hstart : t.start (f.modulePath id) = t.start f.store.root := by
      rw [FileTree.start, FileTree.start, habs]
    exact (lies hid hroot t hname).start.trans hstart
  · rw [(Layout.names_path_file f.store id hpath.relative).1,
      List.getLast?_append_of_ne_nil _ fun hnil => hpath.counts (by rw [hnil]; rfl)]
    exact Layout.getLast?_names_of_isContained hname
  · -- The names of the module directory stay when the last name of the artifact goes.
    have hslot : undotted (f.modulePath id).names ≠ [] := by
      rw [hmodule, Path.undotted_append, Path.undotted_append, Path.undotted_cons hid.slot.ne_dot]
      simp
    show (undotted (f.artifactPath id name).names).dropLast ≠ []
    rw [hnames, List.dropLast_append_of_ne_nil hne]
    exact List.append_ne_nil_of_left_ne_nil hslot _

/-! ## A fetch with further entries elsewhere -/

/-- Two worlds for the fetch of a module. The second has further entries, which keep clear of the
module directory. -/
structure Apart (f : Fetcher σ) (id : ModuleId) (answers : Request → Answer)
    (d : Location → Option Entry) (w v : World σ) : Prop where
  adds : Adds d (w.tree.start f.store.root) (f.moduleLocation id w.tree) w.tree v.tree
  ready : f.Ready id w
  ready' : f.Ready id v
  gives : f.repository.Gives w.repository answers
  gives' : f.repository.Gives v.repository answers

theorem Apart.of_runs (h : f.Apart id answers d w v) (hruns : f.Runs id w w')
    (hruns' : f.Runs id v v')
    (hadds : Adds d (w.tree.start f.store.root) (f.moduleLocation id w.tree) w'.tree v'.tree) :
    f.Apart id answers d w' v' := by
  have hlocated := located_of_runs h.ready.calm.linkFree hruns
  have hhome : f.moduleLocation id w'.tree = f.moduleLocation id w.tree := by
    rw [moduleLocation, moduleLocation, hlocated.place]
  refine ⟨?_, h.ready.of_runs hruns, h.ready'.of_runs hruns', gives_of_runs h.gives hruns,
    gives_of_runs h.gives' hruns'⟩
  rw [hhome, hlocated.start]
  exact hadds

section Plain

variable (hid : id.IsPlain) (hroot : ".." ∉ f.store.root.names)

include hid hroot

/-- **An artifact is brought in the same way.** -/
theorem Apart.bring (h : f.Apart id answers d w v) (hname : Layout.isContained name = true) :
    (f.bring id name v).1 = (f.bring id name w).1 ∧
      f.Apart id answers d (f.bring id name w).2 (f.bring id name v).2 := by
  have hanswer : f.answer id name w = answers (f.request id name) := answer_of_gives h.gives name
  have hanswer' : f.answer id name v = answers (f.request id name) := answer_of_gives h.gives' name
  have hreaders : ∀ stream, answers (f.request id name) = .found stream →
      stream.releases = none := fun stream hfound =>
    h.ready.calm.leavesFiles.now (hanswer.trans hfound)
  obtain ⟨hresult, hadds⟩ := h.adds.settle h.ready.calm.linkFree h.ready'.calm.linkFree
    h.ready.rooted h.ready'.rooted (leadsHome hid hroot w.tree hname) hreaders
  refine ⟨?_, h.of_runs (runs_bring f id hname w) (runs_bring f id hname v) ?_⟩
  · rw [result_bring, result_bring, hanswer, hanswer', hresult]
  · rw [tree_bring, tree_bring, hanswer, hanswer']
    exact hadds

theorem Apart.bringAll (h : f.Apart id answers d w v) {names : List String}
    (hnames : ∀ name ∈ names, Layout.isContained name = true) :
    (f.bringAll id names v).1 = (f.bringAll id names w).1 ∧
      f.Apart id answers d (f.bringAll id names w).2 (f.bringAll id names v).2 := by
  induction names generalizing w v with
  | nil => exact ⟨rfl, h⟩
  | cons name rest ih =>
      obtain ⟨hresult, hapart⟩ := h.bring hid hroot (hnames name List.mem_cons_self)
      rw [bringAll_cons, bringAll_cons]
      generalize f.bring id name w = brought at hresult hapart ⊢
      generalize f.bring id name v = brought' at hresult hapart ⊢
      obtain ⟨result, w'⟩ := brought
      obtain ⟨result', v'⟩ := brought'
      obtain rfl : result' = result := hresult
      cases result' with
      | error e => exact ⟨rfl, hapart⟩
      | ok outcome =>
          obtain ⟨hothers, hends⟩ := ih hapart fun n hn => hnames n (List.mem_cons_of_mem name hn)
          exact ⟨congrArg (·.map (outcome :: ·)) hothers, hends⟩

/-- A descriptor in the cache is read in the same way. -/
theorem Apart.readDescriptor (h : f.Apart id answers d w v)
    (hcached : f.isCached id Layout.descriptorName w = true) :
    f.readDescriptor id v.tree = f.readDescriptor id w.tree := by
  have hplace := (leadsHome (f := f) hid hroot w.tree Layout.isContained_descriptorName).place
  unfold Fetcher.readDescriptor
  extract_lets path
  rw [h.adds.openFile_eq h.ready.calm.linkFree hplace hcached]

theorem Apart.outline (h : f.Apart id answers d w v) :
    (f.outline id v).1 = (f.outline id w).1 ∧
      f.Apart id answers d (f.outline id w).2 (f.outline id v).2 := by
  obtain ⟨hresult, hapart⟩ := h.bring hid hroot Layout.isContained_descriptorName
  unfold Fetcher.outline
  rcases hbring : f.bring id Layout.descriptorName w with ⟨result, w'⟩
  generalize f.bring id Layout.descriptorName v = brought' at hresult hapart ⊢
  rw [hbring] at hresult hapart
  obtain ⟨result', v'⟩ := brought'
  obtain rfl : result' = result := hresult
  cases result' with
  | error e => exact ⟨rfl, hapart⟩
  | ok outcome =>
      dsimp only at hapart ⊢
      cases hsource : outcome.source? with
      | none => exact ⟨rfl, hapart⟩
      | some source =>
          obtain ⟨hcached, -⟩ := ready_of_descriptor h.ready.calm h.ready.rooted hbring hsource
          dsimp only
          rw [hapart.readDescriptor hid hroot hcached]
          cases f.readDescriptor id w'.tree with
          | error e => exact ⟨rfl, hapart⟩
          | ok paths =>
              obtain ⟨houtcomes, hends⟩ :=
                hapart.bringAll hid hroot (Layout.isContained_of_mem_artifacts paths)
              dsimp only
              generalize f.bringAll id (Layout.artifacts paths) w' = all at houtcomes hends ⊢
              generalize f.bringAll id (Layout.artifacts paths) v' = all' at houtcomes hends ⊢
              obtain ⟨outcomes, w''⟩ := all
              obtain ⟨outcomes', v''⟩ := all'
              obtain rfl : outcomes' = outcomes := houtcomes
              cases outcomes' with
              | error e => exact ⟨rfl, hends⟩
              | ok => exact ⟨rfl, hends⟩

/-- **A fetch goes the same way, and the further entries stay the same.** -/
theorem Apart.fetch (h : f.Apart id answers d w v) :
    (f.fetch id v).1 = (f.fetch id w).1 ∧
      Adds d (w.tree.start f.store.root) (f.moduleLocation id w.tree) (f.fetch id w).2.tree
        (f.fetch id v).2.tree := by
  obtain ⟨hresult, hends⟩ := h.outline hid hroot
  obtain ⟨hfetch, hsame⟩ := fetch_eq_outline f id w
  obtain ⟨hfetch', hsame'⟩ := fetch_eq_outline f id v
  have hlocated : f.Located id w (f.fetch id w).2 :=
    located_of_runs h.ready.calm.linkFree (runs_fetch f id w)
  have hhome : f.moduleLocation id (f.fetch id w).2.tree = f.moduleLocation id w.tree := by
    rw [moduleLocation, moduleLocation, hlocated.place]
  have hadds := hends.adds
  rw [← hsame.tree, ← hsame'.tree, hhome, hlocated.start] at hadds
  exact ⟨hfetch'.trans (hresult.trans hfetch.symm), hadds⟩

/-! ## The fetch of another module -/

/-- No fetch makes the directory from which the root of the cache starts. -/
theorem Ready.lookup_start_of_runs (h : f.Ready id w) (hruns : f.Runs id w w') :
    w'.tree.lookup (w.tree.start f.store.root) = w.tree.lookup (w.tree.start f.store.root) := by
  induction hruns with
  | refl => rfl
  | @tail m v hbefore hstep ih =>
      have hm := h.of_runs hbefore
      have hlocated := located_of_runs h.calm.linkFree hbefore
      rw [← ih]
      rcases hstep.tree_cases with htree | ⟨name, stream, hname, -, hfound, -, htree⟩
      · rw [htree]
      · have hhome := leadsHome hid hroot m.tree hname
        have hstart := Store.lookup_start_write hm.calm.linkFree hhome.noDots hhome.names_ne_nil
          (hm.calm.leavesFiles.now hfound)
        rw [hhome.start, hlocated.start] at hstart
        rw [htree, hstart]

/-- **What a fetch changes are further entries for another module**, if neither directory lies below
the other. -/
theorem Ready.adds_changes (h : f.Ready id w) (hruns : f.Runs id w w')
    (hup : ¬ f.moduleLocation id w.tree <+: f.moduleLocation other w.tree)
    (hdown : ¬ f.moduleLocation other w.tree <+: f.moduleLocation id w.tree) :
    Adds (changes w.tree w'.tree) (w.tree.start f.store.root) (f.moduleLocation other w.tree)
      w.tree w'.tree := by
  have hlocated := located_of_runs h.calm.linkFree hruns
  have hkeep := (h.calm.evolves (evolves_of_runs hruns)).2
  refine FileTree.adds_changes hkeep h.calm.linkFree (h.lookup_of_runs hruns)
    (h.lookup_start_of_runs hid hroot hruns) fun loc hne hway => ?_
  have hoff : ¬ f.moduleLocation id w.tree <+: loc := by
    intro hinside
    rcases hway with habove | hbelow
    · exact hup (hinside.trans habove)
    · exact (List.prefix_or_prefix_of_prefix hinside hbelow).elim hup hdown
  cases hlocated.changed loc hne with
  | released _ _ hreleases => exact absurd hreleases (not_releases h.calm.leavesFiles)
  | artifact name hname hloc =>
      exact absurd (hloc ▸ (isInside_artifact hid hroot w.tree hname).1) hoff
  | above habove _ hdir =>
      obtain ⟨name, first, hname, hfirst, hloc⟩ := habove
      have hplace := above_or_isInside hid hroot w.tree hname
        (hfirst.trans (List.dropLast_prefix _))
      rw [← hloc] at hplace
      have habove := hplace.resolve_right fun hinside => hoff hinside.1
      have hnot : ¬ f.moduleLocation other w.tree <+: loc := fun hbelow =>
        hdown (hbelow.trans habove)
      exact ⟨hdir, hway.resolve_right hnot, fun heq => hnot (heq ▸ List.prefix_rfl)⟩

/-- The worlds before and after the fetch of another module. -/
theorem apart_of_fetch (hother : other.IsPlain) (h : f.Calm w) (ht : w.tree.Rooted)
    (hgives : f.repository.Gives w.repository answers)
    (hup : ¬ (Layout.directory other).components <+: (Layout.directory id).components)
    (hdown : ¬ (Layout.directory id).components <+: (Layout.directory other).components) :
    f.Apart id answers (changes w.tree (f.fetch other w).2.tree) w (f.fetch other w).2 := by
  have hruns := runs_fetch f other w
  have hcalm := (h.evolves (evolves_of_runs hruns)).1
  have hrooted := h.rooted_of_runs ht hruns
  have hbelow : ∀ {x y : ModuleId}, x.IsPlain → y.IsPlain →
      f.moduleLocation x w.tree <+: f.moduleLocation y w.tree →
      (Layout.directory x).components <+: (Layout.directory y).components := by
    intro x y hx hy hprefix
    rw [moduleLocation, moduleLocation, List.append_assoc, List.append_assoc,
      List.prefix_append_right_inj] at hprefix
    rw [Layout.components_directory hx, Layout.components_directory hy]
    exact hprefix.map _
  have hadds := (ready_of_isPlain hother hroot h ht).adds_changes hother hroot hruns
    (mt (hbelow hother hid) hup) (mt (hbelow hid hother) hdown)
  exact ⟨hadds, ready_of_isPlain hid hroot h ht, ready_of_isPlain hid hroot hcalm hrooted, hgives,
    gives_of_runs hgives hruns⟩

end Plain

/-- No fetch puts anything in the place of the root. -/
theorem Calm.root_of_runs (h : f.Calm w) (hruns : f.Runs id w w') :
    w'.tree.entries[([] : Location)]? = w.tree.entries[([] : Location)]? := by
  induction hruns with
  | refl => rfl
  | tail hbefore hstep ih =>
      rw [← ih]
      rcases hstep.tree_cases with htree | ⟨name, stream, -, -, hfound, -, htree⟩
      · rw [htree]
      · have hcalm := (h.evolves (evolves_of_runs hbefore)).1
        rw [htree, Store.root_write (hcalm.leavesFiles.now hfound)]

/-- **Fetches of unrelated modules commute.** In a tree without links, and with a repository that
gives fixed answers and whose readers do not touch the tree, let two modules be plain and the
directory of neither be at or below that of the other. Whichever is fetched first, the tree is the
same in the end, and so is the result for each of the two, be it a report or an error. The parser is
any that reads the stream alone. -/
theorem fetch_commutes (f : Fetcher σ) (a b : ModuleId) (w : World σ)
    (answers : Request → Answer) (hlinks : w.tree.LinkFree) (ht : w.tree.Rooted)
    (hroot : ".." ∉ f.store.root.names) (ha : a.IsPlain) (hb : b.IsPlain)
    (hab : ¬ (Layout.directory a).components <+: (Layout.directory b).components)
    (hba : ¬ (Layout.directory b).components <+: (Layout.directory a).components)
    (hgives : f.repository.Gives w.repository answers)
    (hreaders : f.repository.LeavesFiles w.repository) :
    (f.fetch b (f.fetch a w).2).2.tree = (f.fetch a (f.fetch b w).2).2.tree ∧
    (f.fetch a (f.fetch b w).2).1 = (f.fetch a w).1 ∧
    (f.fetch b (f.fetch a w).2).1 = (f.fetch b w).1 := by
  have hcalm : f.Calm w := ⟨hlinks, hreaders⟩
  have hfirst := apart_of_fetch hb hroot ha hcalm ht hgives hab hba
  have hsecond := apart_of_fetch ha hroot hb hcalm ht hgives hba hab
  obtain ⟨hresult, hadds⟩ := hfirst.fetch hb hroot
  obtain ⟨hresult', hadds'⟩ := hsecond.fetch ha hroot
  refine ⟨ext_entries (fun loc => ?_) ?_, hresult', hresult⟩
  · have hruns := runs_fetch f a w
    have hruns' := runs_fetch f b w
    by_cases hloc : loc = []
    · -- A look-up does not tell what is kept for the root itself.
      subst hloc
      rw [((hcalm.evolves (evolves_of_runs hruns)).1).root_of_runs (runs_fetch f b _),
        ((hcalm.evolves (evolves_of_runs hruns')).1).root_of_runs (runs_fetch f a _),
        hcalm.root_of_runs hruns, hcalm.root_of_runs hruns']
    · have hsame := Adds.lookup_comm hfirst.adds hsecond.adds hadds hadds' loc
      rw [lookup, lookup, if_neg hloc, if_neg hloc] at hsame
      exact hsame
  · rw [hadds.workingDirectory, hadds'.workingDirectory, hfirst.adds.workingDirectory,
      hsecond.adds.workingDirectory]

/-- A module that shares the directory above its own with the sample module. -/
def siblingModule : ModuleId := ⟨"m", "other"⟩

/-- The descriptors of both, where that of the second is the given stream. -/
def siblingResources (descriptor : ByteStream) : MemoryRepository :=
  { resources := [("1/m/main/module.xml", .ofBytes [60]), ("1/m/other/module.xml", descriptor)] }

/-- One of the modules has a resource in the cache, which the fetch of the other leaves alone. -/
theorem fetch_commutes_of_siblings :
    let w : World MemoryRepository := ⟨cacheOfX, siblingResources (.ofBytes [60]), [], []⟩
    w.tree.LinkFree ∧ w.tree.Rooted ∧ ".." ∉ pair.store.root.names ∧
    pairModule.IsPlain ∧ siblingModule.IsPlain ∧
    (¬ (Layout.directory pairModule).components <+: (Layout.directory siblingModule).components ∧
      ¬ (Layout.directory siblingModule).components <+: (Layout.directory pairModule).components) ∧
    pair.repository.Gives w.repository w.repository.answer ∧
    pair.repository.LeavesFiles w.repository ∧
    (pair.fetch siblingModule (pair.fetch pairModule w).2).2.tree =
      (pair.fetch pairModule (pair.fetch siblingModule w).2).2.tree ∧
    (pair.fetch pairModule (pair.fetch siblingModule w).2).1 = .ok (some ⟨pairModule, .fetched,
      [⟨"x", .cached, .notFound⟩, ⟨"y", .notFound, .notFound⟩]⟩) ∧
    (pair.fetch siblingModule (pair.fetch pairModule w).2).1 = .ok (some ⟨siblingModule, .fetched,
      [⟨"x", .notFound, .notFound⟩, ⟨"y", .notFound, .notFound⟩]⟩) := by
  intro w
  have hroot : ".." ∉ pair.store.root.names := by decide
  have hfirst : pairModule.IsPlain := by decide
  have hsecond : siblingModule.IsPlain := by decide
  have hup : ¬ (Layout.directory pairModule).components <+:
      (Layout.directory siblingModule).components := by decide +kernel
  have hdown : ¬ (Layout.directory siblingModule).components <+:
      (Layout.directory pairModule).components := by decide +kernel
  have hgives : pair.repository.Gives w.repository w.repository.answer :=
    Repository.gives_memory _
  have hreaders : pair.repository.LeavesFiles w.repository :=
    MemoryRepository.leavesFiles (by decide)
  obtain ⟨htree, hresult, hresult'⟩ := fetch_commutes pair pairModule siblingModule w
    w.repository.answer linkFree_cacheOfX rooted_cacheOfX hroot hfirst hsecond hup hdown hgives
    hreaders
  refine ⟨linkFree_cacheOfX, rooted_cacheOfX, hroot, hfirst, hsecond, ⟨hup, hdown⟩, hgives,
    hreaders, htree, hresult.trans ?_, hresult'.trans ?_⟩
  · decide +kernel
  · decide +kernel

/-- **A reader that touches the tree spoils this.** The reader of the descriptor of one module
removes a resource of the other from the cache. -/
theorem fetch_depends_on_releasing_reader :
    let w : World MemoryRepository :=
      ⟨cacheOfX, siblingResources (releasing "x" [.data [60]]), [], []⟩
    w.tree.LinkFree ∧ w.tree.Rooted ∧ ".." ∉ pair.store.root.names ∧
    pairModule.IsPlain ∧ siblingModule.IsPlain ∧
    (¬ (Layout.directory pairModule).components <+: (Layout.directory siblingModule).components ∧
      ¬ (Layout.directory siblingModule).components <+: (Layout.directory pairModule).components) ∧
    pair.repository.Gives w.repository w.repository.answer ∧
    (pair.fetch pairModule (pair.fetch siblingModule w).2).1 ≠ (pair.fetch pairModule w).1 := by
  intro w
  have halone : (pair.fetch pairModule w).1 = .ok (some ⟨pairModule, .fetched,
      [⟨"x", .cached, .notFound⟩, ⟨"y", .notFound, .notFound⟩]⟩) := by decide +kernel
  have hafter : (pair.fetch pairModule (pair.fetch siblingModule w).2).1 =
      .ok (some ⟨pairModule, .fetched,
        [⟨"x", .notFound, .notFound⟩, ⟨"y", .notFound, .notFound⟩]⟩) := by decide +kernel
  refine ⟨linkFree_cacheOfX, rooted_cacheOfX, by decide, by decide, by decide,
    ⟨by decide +kernel, by decide +kernel⟩, Repository.gives_memory _, ?_⟩
  rw [halone, hafter]
  decide

end Fetcher
end ModuleDepot
