import Mathlib.Logic.Relation
import ModuleDepot.Fetch.Fetcher
import ModuleDepot.Proofs.Layout
import ModuleDepot.Proofs.Store.Effect
import ModuleDepot.Repository.Memory

/-! # The steps of a fetch

All that a fetch does to the world is made of two kinds of steps: it logs something, or it
obtains an artifact that is not in the cache, which means to ask for it and to store what was
found. `runs_fetch` says so for the whole fetch, however it ends, so what one step keeps a
fetch keeps.

The artifacts are the descriptor, contained resources and their indexes, hence contained
all of them.
-/

namespace ModuleDepot

namespace Repository

variable {σ : Type} (r : Repository σ)

/-- The state after requests, one after the other. -/
def stateAfter (s : σ) (requests : List Request) : σ :=
  requests.foldl (fun s request => (r.fetch s request).2.1) s

/-- Whatever is asked for from a state on, the readers of what is found do not touch the
files. -/
def LeavesFiles (s : σ) : Prop :=
  ∀ requests request stream,
    (r.fetch (r.stateAfter s requests) request).1 = .found stream → stream.releases = none

variable {r}

theorem LeavesFiles.now {s : σ} (h : r.LeavesFiles s) {request : Request} {stream : ByteStream}
    (hfound : (r.fetch s request).1 = .found stream) : stream.releases = none :=
  h [] request stream hfound

theorem LeavesFiles.next {s : σ} (h : r.LeavesFiles s) (request : Request) :
    r.LeavesFiles (r.fetch s request).2.1 :=
  fun requests => h (request :: requests)

end Repository

theorem MemoryRepository.stateAfter (m : MemoryRepository) (requests : List Request) :
    repository.stateAfter m requests = m := by
  induction requests with
  | nil => rfl
  | cons _ rest ih => exact ih

/-- What a repository in memory finds is one of its resources. -/
theorem MemoryRepository.mem_of_answer {m : MemoryRepository} {request : Request}
    {stream : ByteStream} (h : m.answer request = .found stream) :
    (request.path, stream) ∈ m.resources := by
  unfold answer at h
  split at h
  · cases h
  split at h
  next stream' hlookup =>
    cases h
    obtain ⟨before, behind, hsplit, -⟩ := List.lookup_eq_some_iff.mp hlookup
    simp [hsplit]
  next => cases h

/-- A repository in memory whose streams hold on to no file leaves the files alone. -/
theorem MemoryRepository.leavesFiles {m : MemoryRepository}
    (h : ∀ entry ∈ m.resources, entry.2.releases = none) :
    MemoryRepository.repository.LeavesFiles m := by
  intro requests request stream hfound
  rw [stateAfter] at hfound
  exact h (request.path, stream) (mem_of_answer hfound)

namespace Fetcher

variable {σ : Type} {f : Fetcher σ} {id : ModuleId}

/-- Whether an artifact of a module is in the cache. -/
def isCached (f : Fetcher σ) (id : ModuleId) (name : String) (w : World σ) : Bool :=
  f.store.has w.tree (Layout.file id name)

/-- The answer to a request for an artifact. -/
def answer (f : Fetcher σ) (id : ModuleId) (name : String) (w : World σ) : Answer :=
  (w.ask f.repository (f.request id name)).1

/-- The world after an artifact was asked for, and stored if it was found. -/
def obtain (f : Fetcher σ) (id : ModuleId) (name : String) (w : World σ) : World σ :=
  match w.ask f.repository (f.request id name) with
  | (.found stream, w) => (f.keep id stream (Layout.file id name) w).2
  | (_, w) => w

/-- A step of a fetch. -/
inductive Step (f : Fetcher σ) (id : ModuleId) (w : World σ) : World σ → Prop
  | log (e : Event) : Step f id w (w.log e)
  | obtain (name : String) : Layout.isContained name = true → f.isCached id name w = false →
      Step f id w (f.obtain id name w)

/-- Any number of steps. -/
abbrev Runs (f : Fetcher σ) (id : ModuleId) : World σ → World σ → Prop :=
  Relation.ReflTransGen (f.Step id)

/-! ## What is obtained -/

@[simp] theorem tree_log (w : World σ) (e : Event) : (w.log e).tree = w.tree := rfl

theorem tree_ask (w : World σ) (r : Repository σ) (request : Request) :
    (w.ask r request).2.tree = w.tree := rfl

theorem world_keep (f : Fetcher σ) (id : ModuleId) (stream : ByteStream) (name : Path)
    (w : World σ) :
    (f.keep id stream name w).2 =
      { w with
        tree := (f.store.write w.tree stream name).tree
        events := w.events ++ (f.store.write w.tree stream name).events } := by
  unfold keep
  extract_lets written w'
  split <;> rfl

theorem tree_keep (stream : ByteStream) (name : Path) (w : World σ) :
    (f.keep id stream name w).2.tree = (f.store.write w.tree stream name).tree := by
  rw [world_keep]

theorem requests_keep (stream : ByteStream) (name : Path) (w : World σ) :
    (f.keep id stream name w).2.requests = w.requests := by
  rw [world_keep]

theorem obtain_of_found {name : String} {w : World σ} {stream : ByteStream}
    (h : f.answer id name w = .found stream) :
    f.obtain id name w =
      (f.keep id stream (Layout.file id name) (w.ask f.repository (f.request id name)).2).2 := by
  unfold answer at h
  unfold obtain
  split
  next stream' w' hask =>
    rw [hask] at h ⊢
    rw [Answer.found.inj h]
  next answer w' hne hask =>
    rw [hask] at h
    exact absurd h (hne stream)

/-- The tree after an artifact was found. -/
theorem tree_obtain_of_found {name : String} {w : World σ} {stream : ByteStream}
    (h : f.answer id name w = .found stream) :
    (f.obtain id name w).tree =
      (f.store.write w.tree stream (Layout.file id name)).tree := by
  rw [obtain_of_found h, tree_keep, tree_ask]

/-- An answer without content leaves the tree. -/
theorem tree_obtain_of_not_found {name : String} {w : World σ}
    (h : ∀ stream, f.answer id name w ≠ .found stream) :
    (f.obtain id name w).tree = w.tree := by
  unfold answer at h
  unfold obtain
  split
  next stream w' hask => exact absurd (congrArg Prod.fst hask) (h stream)
  next answer w' _ hask =>
    have := congrArg (fun r => r.2.tree) hask
    exact this.symm

/-- Exactly one request is made. -/
theorem requests_obtain (f : Fetcher σ) (id : ModuleId) (name : String) (w : World σ) :
    (f.obtain id name w).requests = w.requests ++ [f.request id name] := by
  unfold obtain
  split
  next stream w' hask =>
    rw [requests_keep]
    exact congrArg (fun r => r.2.requests) hask.symm
  next answer w' _ hask => exact congrArg (fun r => r.2.requests) hask.symm

theorem repository_obtain (f : Fetcher σ) (id : ModuleId) (name : String) (w : World σ) :
    (f.obtain id name w).repository =
      (f.repository.fetch w.repository (f.request id name)).2.1 := by
  unfold obtain
  split
  next stream w' hask =>
    rw [world_keep]
    exact congrArg (fun r => r.2.repository) hask.symm
  next answer w' _ hask => exact congrArg (fun r => r.2.repository) hask.symm

/-- **What a step does to the tree**: nothing, or it stores an artifact that was missing. -/
theorem Step.tree_cases {w w' : World σ} (hstep : f.Step id w w') :
    w'.tree = w.tree ∨ ∃ name stream, Layout.isContained name = true ∧
      f.isCached id name w = false ∧ f.answer id name w = .found stream ∧
      w' = f.obtain id name w ∧
      w'.tree = (f.store.write w.tree stream (Layout.file id name)).tree := by
  cases hstep with
  | log e => exact .inl rfl
  | obtain name hname hmissing =>
      by_cases hfound : ∃ stream, f.answer id name w = .found stream
      · obtain ⟨stream, hfound⟩ := hfound
        exact .inr ⟨name, stream, hname, hmissing, hfound, rfl, tree_obtain_of_found hfound⟩
      · exact .inl (tree_obtain_of_not_found (not_exists.mp hfound))

theorem Step.leavesFiles {w w' : World σ} (hstep : f.Step id w w')
    (h : f.repository.LeavesFiles w.repository) : f.repository.LeavesFiles w'.repository := by
  cases hstep with
  | log e => exact h
  | obtain name _ _ =>
      rw [repository_obtain]
      exact h.next _

theorem leavesFiles_of_runs {w w' : World σ} (hruns : f.Runs id w w')
    (h : f.repository.LeavesFiles w.repository) : f.repository.LeavesFiles w'.repository := by
  induction hruns with
  | refl => exact h
  | tail _ hstep ih => exact hstep.leavesFiles ih

/-! ## A fetch is made of steps -/

variable (f id)

theorem runs_log (w : World σ) (e : Event) : f.Runs id w (w.log e) :=
  .single (.log e)

theorem runs_bring {name : String} (hname : Layout.isContained name = true) (w : World σ) :
    f.Runs id w (f.bring id name w).2 := by
  unfold bring
  extract_lets place
  split
  · exact .refl
  next hhas =>
    have hstep : f.Step id w (f.obtain id name w) :=
      .obtain name hname ((Bool.not_eq_true _).mp hhas)
    unfold obtain at hstep
    split
    next stream w' hask =>
      rw [hask] at hstep
      dsimp only at hstep
      split
      next w'' hkeep => exact .single (by rwa [hkeep] at hstep)
      next e w'' hkeep => exact .single (by rwa [hkeep] at hstep)
    next w' hask =>
      rw [hask] at hstep
      exact (Relation.ReflTransGen.single hstep).tail (.log _)
    next reason w' hask =>
      rw [hask] at hstep
      exact (Relation.ReflTransGen.single hstep).tail (.log _)

theorem runs_bringResource (resource : String) (w : World σ) :
    f.Runs id w (f.bringResource id resource w).2 := by
  unfold bringResource
  split
  · exact runs_log f id w _
  next hcontained =>
    have hcontained : Layout.isContained resource = true := by simpa using hcontained
    have hresource := runs_bring f id hcontained w
    split
    next hbring => rwa [hbring] at hresource
    next w' hbring =>
      rw [hbring] at hresource
      have hindex := runs_bring f id (Layout.isContained_indexOf hcontained) w'
      split
      next hbring' =>
        rw [hbring'] at hindex
        exact hresource.trans hindex
      next hbring' =>
        rw [hbring'] at hindex
        exact hresource.trans hindex

theorem bringResources_nil (w : World σ) : f.bringResources id [] w = (.ok [], w) := rfl

theorem bringResources_cons (resource : String) (rest : List String) (w : World σ) :
    f.bringResources id (resource :: rest) w =
      match f.bringResource id resource w with
      | (.error e, w) => (.error e, w)
      | (.ok report, w) =>
        match f.bringResources id rest w with
        | (.error e, w) => (.error e, w)
        | (.ok reports, w) => (.ok (report :: reports), w) := by
  rfl

theorem runs_bringResources (resources : List String) (w : World σ) :
    f.Runs id w (f.bringResources id resources w).2 := by
  induction resources generalizing w with
  | nil =>
      rw [bringResources_nil]
  | cons resource rest ih =>
      have hresource := runs_bringResource f id resource w
      rw [bringResources_cons]
      split
      next hbring => rwa [hbring] at hresource
      next w' hbring =>
        rw [hbring] at hresource
        have hrest := hresource.trans (ih w')
        split
        next hbring' => rwa [hbring'] at hrest
        next hbring' => rwa [hbring'] at hrest

/-- A descriptor that is not in the cache is obtained first. -/
theorem runs_bringDescriptor_of_missing {w : World σ}
    (h : f.isCached id Layout.descriptorName w = false) :
    f.Runs id (f.obtain id Layout.descriptorName w) (f.bringDescriptor id w).2 := by
  have hhas : ¬ f.store.has w.tree (Layout.file id Layout.descriptorName) = true :=
    (Bool.not_eq_true _).mpr h
  unfold bringDescriptor obtain
  extract_lets place
  rw [if_neg hhas]
  generalize w.ask f.repository (f.request id Layout.descriptorName) = asked
  obtain ⟨answer, w'⟩ := asked
  cases answer with
  | found stream =>
      dsimp only
      generalize f.keep id stream place w' = kept
      obtain ⟨result, w''⟩ := kept
      cases result <;> exact .refl
  | notFound => exact runs_log f id w' _
  | unavailable reason => exact runs_log f id w' _

theorem runs_bringDescriptor (w : World σ) : f.Runs id w (f.bringDescriptor id w).2 := by
  cases hcached : f.isCached id Layout.descriptorName w with
  | true =>
      rw [isCached] at hcached
      unfold bringDescriptor
      rw [if_pos hcached]
      exact runs_log f id w _
  | false =>
      exact .head (.obtain _ Layout.isContained_descriptorName hcached)
        (runs_bringDescriptor_of_missing f id hcached)

theorem runs_fetch_of_bringDescriptor (w : World σ) :
    f.Runs id (f.bringDescriptor id w).2 (f.fetch id w).2 := by
  unfold fetch
  generalize f.bringDescriptor id w = brought
  obtain ⟨result, w'⟩ := brought
  cases result with
  | error e => exact .refl
  | ok source? =>
    cases source? with
    | none => exact .refl
    | some source =>
      dsimp only
      split
      · exact .refl
      next paths _ =>
        have hresources := runs_bringResources f id paths w'
        split
        next hbring => rwa [hbring] at hresources
        next hbring =>
          rw [hbring] at hresources
          exact hresources.tail (.log _)

/-- **A fetch is made of steps**, whatever its answer is. -/
theorem runs_fetch (w : World σ) : f.Runs id w (f.fetch id w).2 :=
  (runs_bringDescriptor f id w).trans (runs_fetch_of_bringDescriptor f id w)

end Fetcher
end ModuleDepot
