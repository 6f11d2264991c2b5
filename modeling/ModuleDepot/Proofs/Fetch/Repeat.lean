import ModuleDepot.Proofs.Fetch.Upkeep

/-! # Fetching again

A fetch that succeeded need not be made again, and can be made again offline
(`fetch_again`). Whatever the repository of a second fetch is, it is not asked for anything that
the first report calls available. If it cannot be reached, or answers as the one before did, the
second fetch succeeds with what is in the cache and leaves the tree as it is.

All this hangs on the readers leaving the tree alone. One that removes an artifact has it
requested again (`requested_again_of_releasing_reader`).
-/

namespace ModuleDepot

namespace Repository

variable {τ : Type}

/-- From a state on nothing can be reached. -/
def IsUnreachable (r : Repository τ) (s : τ) : Prop :=
  ∀ requests request, ∃ reason, (r.fetch (r.stateAfter s requests) request).1 = .unavailable reason

/-- From a state on the request is not answered with content, whatever was asked before. -/
def Withholds (r : Repository τ) (s : τ) (request : Request) : Prop :=
  ∀ requests stream, (r.fetch (r.stateAfter s requests) request).1 ≠ .found stream

theorem Withholds.next {r : Repository τ} {s : τ} {request : Request} (h : r.Withholds s request)
    (other : Request) : r.Withholds (r.fetch s other).2.1 request :=
  fun requests => h (other :: requests)

theorem IsUnreachable.withholds {r : Repository τ} {s : τ} (h : r.IsUnreachable s)
    (request : Request) : r.Withholds s request := by
  intro requests stream hfound
  obtain ⟨reason, hreason⟩ := h requests request
  cases hreason.symm.trans hfound

theorem Gives.withholds {r : Repository τ} {s : τ} {answers : Request → Answer}
    (h : r.Gives s answers) {request : Request}
    (hrequest : ∀ stream, answers request ≠ .found stream) : r.Withholds s request := by
  intro requests stream hfound
  exact hrequest stream ((h requests request).symm.trans hfound)

end Repository

namespace Fetcher

open FileTree

variable {σ τ : Type} {f : Fetcher σ} {id : ModuleId} {w : World σ}

/-- The same fetcher with another repository. -/
def withRepository (f : Fetcher σ) (r : Repository τ) : Fetcher τ :=
  ⟨f.store, r, f.parser, f.version⟩

theorem readDescriptor_withRepository (r : Repository τ) (t : FileTree) :
    (f.withRepository r).readDescriptor id t = f.readDescriptor id t := by
  unfold readDescriptor withRepository
  dsimp only

/-! ## A row of artifacts that are settled -/

/-- **Artifacts that are in the cache or are not to be had leave everything as it is.** -/
theorem bringAll_of_settled {names : List String}
    (h : ∀ name ∈ names, f.isCached id name w = true ∨
      f.repository.Withholds w.repository (f.request id name)) :
    ∃ outcomes u, f.bringAll id names w = (.ok outcomes, u) ∧ u.tree = w.tree ∧
      List.Forall₂ (fun name outcome => f.isCached id name w = true → outcome = .cached)
        names outcomes := by
  induction names generalizing w with
  | nil => exact ⟨[], w, rfl, rfl, .nil⟩
  | cons name rest ih =>
      have hrest := fun n hn => h n (List.mem_cons_of_mem name hn)
      cases hcached : f.isCached id name w with
      | true =>
          obtain ⟨outcomes, u, hall, htree, houtcomes⟩ := ih hrest
          rw [bringAll_of_ok f id (bring_of_cached f id hcached), hall]
          exact ⟨_, u, rfl, htree, .cons (fun _ => rfl) houtcomes⟩
      | false =>
          -- It is asked for in vain, and then the others find what they would have found.
          have hwithheld := (h name List.mem_cons_self).resolve_left (by simp [hcached])
          obtain ⟨v, hbring, htree, hrepository⟩ := bring_of_not_found f id hcached (hwithheld [])
          have hsame : ∀ n, f.isCached id n v = f.isCached id n w := fun n => by
            rw [isCached, htree, isCached]
          obtain ⟨outcomes, u, hall, htree', houtcomes⟩ := ih (w := v) fun n hn => by
            rw [hsame, hrepository]
            exact (hrest n hn).imp_right fun hw => hw.next _
          rw [bringAll_of_ok f id hbring, hall]
          refine ⟨_, u, rfl, htree'.trans htree, .cons (fun hc => ?_) ?_⟩
          · cases hcached.symm.trans hc
          · simpa only [hsame] using houtcomes

/-- **A fetch of settled artifacts succeeds with what is in the cache.** -/
theorem fetch_of_settled {paths : List String}
    (hdescriptor : f.isCached id Layout.descriptorName w = true)
    (hread : f.readDescriptor id w.tree = .ok paths)
    (h : ∀ name ∈ Layout.artifacts paths, f.isCached id name w = true ∨
      f.repository.Withholds w.repository (f.request id name)) :
    ∃ report : Report, (f.fetch id w).1 = .ok (some report) ∧ report.descriptor = .cached ∧
      report.resources.map (·.path) = paths ∧
      (∀ entry ∈ report.resources,
        EntryOf (fun name outcome => f.isCached id name w = true → outcome = .cached) entry) ∧
      (f.fetch id w).2.tree = w.tree := by
  obtain ⟨outcomes, u, hall, htree, houtcomes⟩ := bringAll_of_settled h
  have houtline := outline_of_read f id (bring_of_cached f id hdescriptor) rfl hread
  rw [hall] at houtline
  obtain ⟨hresult, hsame⟩ := fetch_eq_outline f id w
  rw [houtline] at hresult hsame
  obtain ⟨hpaths, hentries⟩ := entries_of_forall₂ houtcomes
  exact ⟨_, hresult, rfl, hpaths, hentries, hsame.tree.trans htree⟩

/-! ## What outcomes say of the cache -/

/-- What the outcome of an artifact says: that it is in the cache of the second world, or that on
the way there from the first the repository did not have it. -/
structure Says (f : Fetcher σ) (id : ModuleId) (w u : World σ) (name : String)
    (outcome : Outcome) : Prop where
  available : outcome.isCached = true → f.isCached id name u = true
  skipped : outcome.isCached = false → ∃ m, f.Runs id w m ∧
    ∀ stream, f.answer id name m ≠ .found stream

/-- What the outcomes of a row say is so. -/
theorem says_of_bringAll (h : f.Calm w) {names : List String}
    (hnames : ∀ name ∈ names, Layout.isContained name = true) {outcomes : List Outcome}
    {u : World σ} (hall : f.bringAll id names w = (.ok outcomes, u)) :
    List.Forall₂ (f.Says id w u) names outcomes := by
  induction names generalizing w outcomes with
  | nil =>
      cases hall
      exact .nil
  | cons name rest ih =>
      have hname := hnames name List.mem_cons_self
      have hrest := fun n hn => hnames n (List.mem_cons_of_mem name hn)
      obtain ⟨outcome, others, v, hbring, hothers, rfl⟩ := bringAll_cons_eq_ok hall
      have hruns := runs_bring f id hname w
      rw [hbring] at hruns
      have hcalm := (h.evolves (evolves_of_runs hruns)).1
      have hruns' := runs_bringAll f id hrest v
      rw [hothers] at hruns'
      -- What is available stays in the cache while the artifacts behind it are brought.
      refine .cons ⟨fun havailable => ?_, fun hskipped => ⟨w, .refl, fun stream hfound => ?_⟩⟩
        ((ih hcalm hrest hothers).imp fun _ _ ho =>
          ⟨ho.available, fun hs => (ho.skipped hs).imp fun _ hm => ⟨hruns.trans hm.1, hm.2⟩⟩)
      · exact isCached_of_evolves hcalm (evolves_of_runs hruns')
          (h.isCached_of_bring hname hbring havailable)
      · rcases bring_eq_ok hbring with ⟨-, rfl, -⟩ | ⟨-, rfl⟩
        · cases hskipped
        · rw [hfound] at hskipped
          cases hskipped

/-- **What the report of a fetch says is so.** The descriptor is in the cache, where it declares
the resources of the report. -/
theorem says_of_fetch (h : f.Calm w) (ht : w.tree.Rooted) {report : Report}
    (hfetch : (f.fetch id w).1 = .ok (some report)) :
    f.Ready id (f.fetch id w).2 ∧
    f.isCached id Layout.descriptorName (f.fetch id w).2 = true ∧
    f.readDescriptor id (f.fetch id w).2.tree = .ok (report.resources.map (·.path)) ∧
    ∀ entry ∈ report.resources, EntryOf (f.Says id w (f.fetch id w).2) entry := by
  obtain ⟨u, hcourse, hsame⟩ := course_fetch f id w
  rw [hfetch] at hcourse
  cases hcourse with
  | @complete outcome source v paths outcomes _ hbring hsource hread hall =>
  have hcontained := Layout.isContained_of_mem_artifacts paths
  obtain ⟨hcached, hready⟩ := ready_of_descriptor h ht hbring hsource
  have hruns := runs_bring f id Layout.isContained_descriptorName w
  have hruns' := runs_bringAll f id hcontained v
  rw [hbring] at hruns
  rw [hall] at hruns'
  have hthere : ∀ name, f.isCached id name u = true → f.isCached id name (f.fetch id w).2 = true :=
    fun name hu => by rwa [isCached, hsame.tree]
  have hdescriptor := hthere _ (hready.isCached_of_runs hruns' hcached)
  have hsaid : List.Forall₂ (f.Says id w (f.fetch id w).2) (Layout.artifacts paths) outcomes :=
    (says_of_bringAll hready.calm hcontained hall).imp fun name _ ho =>
      ⟨fun ha => hthere name (ho.available ha),
        fun hs => (ho.skipped hs).imp fun _ hm => ⟨hruns.trans hm.1, hm.2⟩⟩
  obtain ⟨hpaths, hentries⟩ := entries_of_forall₂ hsaid
  have hends := runs_fetch f id w
  refine ⟨ready_of_isCached (h.evolves (evolves_of_runs hends)).1 (h.rooted_of_runs ht hends)
    Layout.isContained_descriptorName hdescriptor, hdescriptor, ?_, hentries⟩
  rw [hsame.tree, hready.readDescriptor_of_runs hruns' hcached, hread]
  exact congrArg Except.ok hpaths.symm

/-! ## The second fetch -/

/-- Between the two worlds nothing was requested that the report calls available. -/
def RequestsNothingOf (g : Fetcher τ) (id : ModuleId) (report : Report) (v v' : World τ) : Prop :=
  ∃ new, v'.requests = v.requests ++ new ∧ g.request id Layout.descriptorName ∉ new ∧
    ∀ entry ∈ report.resources,
      (entry.resource.isCached = true → g.request id entry.path ∉ new) ∧
      (entry.index.isCached = true → g.request id (Layout.indexOf entry.path) ∉ new)

/-- The second entry is one for the same resource: what was available is cached, and what was
rejected is rejected. -/
structure Repeats (first again : ResourceReport) : Prop where
  path : again.path = first.path
  resource : first.resource.isCached = true → again.resource = .cached
  index : first.index.isCached = true → again.index = .cached
  rejectedResource : again.resource = .rejected ↔ first.resource = .rejected
  rejectedIndex : again.index = .rejected ↔ first.index = .rejected

theorem forall₂_of_paths {R : ResourceReport → ResourceReport → Prop} :
    ∀ {l l' : List ResourceReport}, l.map (·.path) = l'.map (·.path) →
      (∀ e ∈ l, ∀ e' ∈ l', e'.path = e.path → R e e') → List.Forall₂ R l l'
  | [], [], _, _ => .nil
  | [], _ :: _, hpaths, _ => nomatch hpaths
  | _ :: _, [], hpaths, _ => nomatch hpaths
  | e :: l, e' :: l', hpaths, h => by
      obtain ⟨hpath, hpaths⟩ := List.cons.inj hpaths
      exact .cons (h e List.mem_cons_self e' List.mem_cons_self hpath.symm)
        (forall₂_of_paths hpaths fun a ha b hb =>
          h a (List.mem_cons_of_mem _ ha) b (List.mem_cons_of_mem _ hb))

theorem repeats_of_path {P Q : String → Outcome → Prop} {first again : ResourceReport}
    (hfirst : EntryOf P first) (hagain : EntryOf Q again) (hjudged : Judged first)
    (hjudged' : Judged again) (hpath : again.path = first.path)
    (h : ∀ name o o', P name o → Q name o' → o.isCached = true → o' = .cached) :
    Repeats first again := by
  have hcached : (first.resource.isCached = true → again.resource = .cached) ∧
      (first.index.isCached = true → again.index = .cached) := by
    cases hfirst with
    | rejected => exact ⟨nofun, nofun⟩
    | brought hcontained hresource hindex =>
        cases hagain with
        | rejected hout =>
            cases hpath
            cases hcontained.symm.trans hout
        | brought _ hresource' hindex' =>
            cases hpath
            exact ⟨h _ _ _ hresource hresource', h _ _ _ hindex hindex'⟩
  refine ⟨hpath, hcached.1, hcached.2, ?_, ?_⟩
  · rw [hjudged.resource, hjudged'.resource, hpath]
  · rw [hjudged.index, hjudged'.index, hpath]

/-- What the first repository did not have the second one withholds. -/
theorem withholds_of_runs {r : Repository τ} {s : τ} {m : World σ} {name : String}
    (hrepository : r.IsUnreachable s ∨
      ∃ answers, f.repository.Gives w.repository answers ∧ r.Gives s answers)
    (hruns : f.Runs id w m) (hnot : ∀ stream, f.answer id name m ≠ .found stream) :
    r.Withholds s (f.request id name) := by
  rcases hrepository with hunreachable | ⟨answers, hgives, hgives'⟩
  · exact hunreachable.withholds _
  · have hanswer : f.answer id name m = answers (f.request id name) :=
      answer_of_gives (gives_of_runs hgives hruns) name
    exact hgives'.withholds fun stream hfound => hnot stream (hanswer.trans hfound)

/-- **A fetch that succeeded can be repeated, offline too.** In a tree without links, and with
readers that leave the tree alone, let a fetch end with a report. Whatever the repository of a
second fetch is, it gets no request for the descriptor or for anything that the report calls
available. If it cannot be reached, or both repositories give the same fixed answers, the second
fetch finds the descriptor in the cache, reports the same resources in the same order, finds what
was available and rejects what was rejected, and leaves the tree as it is. The parser is any that
reads the stream alone. -/
theorem fetch_again (f : Fetcher σ) (r : Repository τ) (id : ModuleId) (w : World σ)
    (v : World τ) (report : Report) (hlinks : w.tree.LinkFree) (ht : w.tree.Rooted)
    (hreaders : f.repository.LeavesFiles w.repository)
    (hfetch : (f.fetch id w).1 = .ok (some report)) (htree : v.tree = (f.fetch id w).2.tree)
    (hreaders' : r.LeavesFiles v.repository) :
    let g := f.withRepository r
    g.RequestsNothingOf id report v (g.fetch id v).2 ∧
    (r.IsUnreachable v.repository ∨
        (∃ answers, f.repository.Gives w.repository answers ∧ r.Gives v.repository answers) →
      ∃ again : Report, (g.fetch id v).1 = .ok (some again) ∧ again.descriptor = .cached ∧
        List.Forall₂ Repeats report.resources again.resources ∧
        (g.fetch id v).2.tree = v.tree) := by
  intro g
  have hcalm : f.Calm w := ⟨hlinks, hreaders⟩
  obtain ⟨hready, hdescriptor, hread, hentries⟩ := says_of_fetch hcalm ht hfetch
  have hthere : ∀ name, f.isCached id name (f.fetch id w).2 = true →
      g.isCached id name v = true := by
    intro name hcached
    rw [isCached, htree]
    exact hcached
  have hlinks' : v.tree.LinkFree := by
    rw [htree]
    exact hready.calm.linkFree
  have hcalm' : g.Calm v := ⟨hlinks', hreaders'⟩
  refine ⟨?_, fun hrepository => ?_⟩
  · obtain ⟨new, hnew, hnot⟩ := hcalm'.requests_of_runs (runs_fetch g id v)
    refine ⟨new, hnew, hnot _ (hthere _ hdescriptor), fun entry hmem => ?_⟩
    obtain ⟨hresource, hindex⟩ := (hentries entry hmem).of_available
    exact ⟨fun h => hnot _ (hthere _ ((hresource h).available h)),
      fun h => hnot _ (hthere _ ((hindex h).available h))⟩
  have hsettled : ∀ name ∈ Layout.artifacts (report.resources.map (·.path)),
      g.isCached id name v = true ∨ r.Withholds v.repository (g.request id name) := by
    intro name hname
    obtain ⟨outcome, hsaid⟩ := exists_outcome_of_mem_artifacts hentries hname
    cases havailable : outcome.isCached with
    | true => exact .inl (hthere name (hsaid.available havailable))
    | false =>
        obtain ⟨m, hruns, hnot⟩ := hsaid.skipped havailable
        have hwithheld : r.Withholds v.repository (f.request id name) :=
          withholds_of_runs hrepository hruns hnot
        exact .inr hwithheld
  have hread' : g.readDescriptor id v.tree = .ok (report.resources.map (·.path)) := by
    rw [htree, readDescriptor_withRepository, hread]
  obtain ⟨again, hagain, hcached, hpaths, hentries', htree'⟩ :=
    fetch_of_settled (hthere _ hdescriptor) hread' hsettled
  refine ⟨again, hagain, hcached, forall₂_of_paths hpaths.symm ?_, htree'⟩
  intro entry hmem entry' hmem' hpath
  exact repeats_of_path (hentries entry hmem) (hentries' entry' hmem')
    (judged_of_fetch hfetch entry hmem) (judged_of_fetch hagain entry' hmem') hpath
    fun name o o' hsaid hcached ho => hcached (hthere name (hsaid.available ho))

/-- What a fetch of the sample module reports, if it finds everything but the indexes. -/
def pairReport : Report :=
  ⟨pairModule, .fetched, [⟨"x", .fetched, .notFound⟩, ⟨"y", .fetched, .notFound⟩]⟩

/-- Once it is fetched a module is there offline. -/
theorem fetch_again_offline :
    let w : World MemoryRepository := ⟨.empty, pairResources (.ofBytes [1]) (.ofBytes [2]), [], []⟩
    let v : World MemoryRepository :=
      ⟨(pair.fetch pairModule w).2.tree, { offline := some "down" }, [], []⟩
    w.tree.LinkFree ∧ w.tree.Rooted ∧ pair.repository.LeavesFiles w.repository ∧
    (pair.fetch pairModule w).1 = .ok (some pairReport) ∧
    pair.repository.LeavesFiles v.repository ∧
    ∃ again : Report, (pair.fetch pairModule v).1 = .ok (some again) ∧
      again.descriptor = .cached ∧ List.Forall₂ Repeats pairReport.resources again.resources ∧
      (pair.fetch pairModule v).2.tree = v.tree := by
  intro w v
  have hreaders : pair.repository.LeavesFiles w.repository := leavesFiles_pairResources rfl rfl
  have hreaders' : pair.repository.LeavesFiles v.repository :=
    MemoryRepository.leavesFiles (by decide)
  have hfetch : (pair.fetch pairModule w).1 = .ok (some pairReport) := by decide +kernel
  have hunreachable : pair.repository.IsUnreachable v.repository := by
    intro requests request
    rw [show pair.repository = MemoryRepository.repository from rfl, MemoryRepository.stateAfter]
    exact ⟨"down", rfl⟩
  have hagain := fetch_again pair pair.repository pairModule w v pairReport linkFree_empty
    rooted_empty hreaders hfetch rfl hreaders'
  rw [show pair.withRepository pair.repository = pair from rfl] at hagain
  exact ⟨linkFree_empty, rooted_empty, hreaders, hfetch, hreaders', hagain.2 (.inl hunreachable)⟩

/-- **A reader that touches the tree spoils this.** The reader of the second resource removes the
first, and the second fetch asks for it once more, although the report called it available. -/
theorem requested_again_of_releasing_reader :
    let y := releasing "x" [.data [2]]
    let w : World MemoryRepository := ⟨.empty, pairResources (.ofBytes [1]) y, [], []⟩
    let v : World MemoryRepository := ⟨(pair.fetch pairModule w).2.tree, w.repository, [], []⟩
    w.tree.LinkFree ∧ w.tree.Rooted ∧ (pair.fetch pairModule w).1 = .ok (some pairReport) ∧
    ¬ pair.RequestsNothingOf pairModule pairReport v (pair.fetch pairModule v).2 := by
  intro y w v
  refine ⟨linkFree_empty, rooted_empty, by decide +kernel, ?_⟩
  rintro ⟨new, hnew, -, hnot⟩
  have hrequested : pair.request pairModule "x" ∈ (pair.fetch pairModule v).2.requests := by
    decide +kernel
  rw [hnew] at hrequested
  exact (hnot _ List.mem_cons_self).1 rfl hrequested

end Fetcher
end ModuleDepot
