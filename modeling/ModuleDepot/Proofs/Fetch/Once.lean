import ModuleDepot.Proofs.Fetch.Steps

/-! # Artifacts are requested once

In a tree without links, and with readers that do not touch the files, an artifact that was
stored stays in the cache, whatever modules are fetched afterwards (`isCached_of_evolves`). An
artifact in the cache is not requested (`not_requested_of_runs`).

With links neither need hold: an artifact that is stored may take the place of a link that
the path of another one leads through.
-/

namespace ModuleDepot.Fetcher

open FileTree

variable {σ : Type} {f : Fetcher σ} {id : ModuleId} {w w' w'' : World σ} {name : String}

/-- Steps of fetches of any modules. -/
abbrev Evolves (f : Fetcher σ) : World σ → World σ → Prop :=
  Relation.ReflTransGen fun w w' => ∃ id, f.Step id w w'

theorem evolves_of_runs (h : f.Runs id w w') : f.Evolves w w' := by
  induction h with
  | refl => exact .refl
  | tail _ hstep ih => exact ih.tail ⟨id, hstep⟩

/-- The tree has no links and the readers to come do not touch it. -/
structure Calm (f : Fetcher σ) (w : World σ) : Prop where
  linkFree : w.tree.LinkFree
  leavesFiles : f.repository.LeavesFiles w.repository

/-- A step leaves a calm world calm and its entries what they are. -/
theorem Calm.step (h : f.Calm w) (hstep : f.Step id w w') :
    f.Calm w' ∧ KeepsKinds w.tree w'.tree := by
  have hleaves := hstep.leavesFiles h.leavesFiles
  rcases hstep.tree_cases with htree | ⟨name, stream, -, -, hfound, -, htree⟩
  · exact ⟨⟨htree ▸ h.linkFree, hleaves⟩, htree ▸ .refl w.tree⟩
  · refine ⟨⟨htree ▸ Store.linkFree_write h.linkFree, hleaves⟩, ?_⟩
    rw [htree]
    exact Store.keepsKinds_write (h.leavesFiles.now hfound) h.linkFree

theorem Calm.evolves (h : f.Calm w) (hevolves : f.Evolves w w') :
    f.Calm w' ∧ KeepsKinds w.tree w'.tree := by
  induction hevolves with
  | refl => exact ⟨h, .refl _⟩
  | tail _ hstep ih =>
      obtain ⟨id, hstep⟩ := hstep
      obtain ⟨hcalm, hkeeps⟩ := ih.1.step hstep
      exact ⟨hcalm, ih.2.trans hkeeps⟩

/-- **What is in the cache stays there.** -/
theorem isCached_of_evolves (h : f.Calm w) (hevolves : f.Evolves w w')
    (hcached : f.isCached id name w = true) : f.isCached id name w' = true :=
  (h.evolves hevolves).2.isFile hcached

/-- **What is in the cache is not requested.** -/
theorem not_requested_of_runs (h : f.Calm w) (hruns : f.Runs id w w')
    (hcached : f.isCached id name w = true) :
    ∃ new, w'.requests = w.requests ++ new ∧ f.request id name ∉ new := by
  induction hruns with
  | refl => exact ⟨[], by simp⟩
  | @tail m v hruns hstep ih =>
      obtain ⟨new, hrequests, hnew⟩ := ih
      have hcachedm := isCached_of_evolves h (evolves_of_runs hruns) hcached
      cases hstep with
      | log e => exact ⟨new, hrequests, hnew⟩
      | obtain other _ hmissing =>
          -- What is requested is missing, so it is not the artifact in the cache.
          refine ⟨new ++ [f.request id other], ?_, ?_⟩
          · rw [requests_obtain, hrequests, List.append_assoc]
          · rw [List.mem_append, List.mem_singleton, not_or]
            refine ⟨hnew, fun heq => ?_⟩
            have hname : name = other := congrArg Request.resource heq
            rw [← hname, hcachedm] at hmissing
            cases hmissing

/-! ## Downloads -/

/-- Between the two worlds an artifact was downloaded and stored. -/
structure PersistsAt (f : Fetcher σ) (id : ModuleId) (name : String) (w : World σ) : Prop where
  contained : Layout.isContained name = true
  missing : f.isCached id name w = false
  stored : ∃ stream path, f.answer id name w = .found stream ∧
    (f.store.write w.tree stream (Layout.file id name)).result = .ok path

/-- In the course of a run an artifact was downloaded and stored. -/
def Persists (f : Fetcher σ) (id : ModuleId) (name : String) (w w' : World σ) : Prop :=
  ∃ m, f.Runs id w m ∧ f.PersistsAt id name m ∧ f.Runs id (f.obtain id name m) w'

theorem Persists.extend {v v' : World σ} (h : f.Persists id name w w') (hbefore : f.Runs id v w)
    (hafter : f.Runs id w' v') : f.Persists id name v v' := by
  obtain ⟨m, hm, hat, hrest⟩ := h
  exact ⟨m, hbefore.trans hm, hat, hrest.trans hafter⟩

/-- **What was stored is in the cache.** -/
theorem Persists.isCached (hcalm : f.Calm w) (h : f.Persists id name w w') :
    f.isCached id name w' = true := by
  obtain ⟨m, hbefore, hat, hafter⟩ := h
  obtain ⟨stream, path, hfound, hok⟩ := hat.stored
  have hm := (hcalm.evolves (evolves_of_runs hbefore)).1
  have hstep := (hm.step (.obtain name hat.contained hat.missing)).1
  refine isCached_of_evolves hstep (evolves_of_runs hafter) ?_
  rw [Fetcher.isCached, tree_obtain_of_found hfound]
  exact Store.has_write (hm.leavesFiles.now hfound) hm.linkFree hok

theorem exists_path_of_keep {stream : ByteStream} {path : Path} {w' : World σ}
    (h : f.keep id stream path w = (.ok (), w')) :
    ∃ path', (f.store.write w.tree stream path).result = .ok path' := by
  unfold keep at h
  extract_lets written v at h
  cases hresult : written.result with
  | ok path' => exact ⟨path', rfl⟩
  | error e =>
      rw [hresult] at h
      cases e <;> cases h

/-- What is brought and said to be fetched was downloaded and stored. -/
theorem persistsAt_of_bring (hname : Layout.isContained name = true)
    (h : f.bring id name w = (.ok .fetched, w')) :
    f.PersistsAt id name w ∧ f.obtain id name w = w' := by
  unfold bring at h
  extract_lets place at h
  split at h
  · cases h
  next hhas =>
  have hmissing : f.isCached id name w = false := (Bool.not_eq_true _).mp hhas
  split at h
  next stream v hask =>
    split at h
    next v' hkeep =>
      cases h
      have hfound : f.answer id name w = .found stream := congrArg Prod.fst hask
      have hobtain : f.obtain id name w = w' := by
        rw [obtain_of_found hfound, hask, hkeep]
      have htree : v.tree = w.tree := congrArg (fun r => r.2.tree) hask.symm
      obtain ⟨path, hpath⟩ := exists_path_of_keep hkeep
      rw [htree] at hpath
      exact ⟨⟨hname, hmissing, stream, path, hfound, hpath⟩, hobtain⟩
    next => cases h
  · cases h
  · cases h

theorem persists_of_bring (hname : Layout.isContained name = true)
    (h : f.bring id name w = (.ok .fetched, w')) : f.Persists id name w w' := by
  obtain ⟨hat, hobtain⟩ := persistsAt_of_bring hname h
  exact ⟨w, .refl, hat, hobtain ▸ .refl⟩

theorem persists_of_bringResource {resource : String} {entry : ResourceReport}
    (h : f.bringResource id resource w = (.ok entry, w')) (hfetched : entry.resource = .fetched) :
    f.Persists id entry.path w w' := by
  unfold bringResource at h
  split at h
  · cases h
    cases hfetched
  next hcontained =>
  have hcontained : Layout.isContained resource = true := by simpa using hcontained
  split at h
  · cases h
  next outcome v hbring =>
  split at h
  · cases h
  next outcome' v' hindex =>
  cases h
  cases hfetched
  have hruns : f.Runs id v w' := by
    have := runs_bring f id (Layout.isContained_indexOf hcontained) v
    rwa [hindex] at this
  exact (persists_of_bring hcontained hbring).extend .refl hruns

theorem persists_of_bringResources {resources : List String} {entries : List ResourceReport}
    {entry : ResourceReport} (h : f.bringResources id resources w = (.ok entries, w'))
    (hmem : entry ∈ entries) (hfetched : entry.resource = .fetched) :
    f.Persists id entry.path w w' := by
  induction resources generalizing w entries with
  | nil =>
      cases h
      cases hmem
  | cons resource rest ih =>
      rw [bringResources_cons] at h
      split at h
      · cases h
      next first v hfirst =>
      split at h
      · cases h
      next others v' hothers =>
      cases h
      have hruns : f.Runs id w v := by
        have := runs_bringResource f id resource w
        rwa [hfirst] at this
      have hrest : f.Runs id v w' := by
        have := runs_bringResources f id rest v
        rwa [hothers] at this
      rcases List.mem_cons.mp hmem with rfl | hmem
      · exact (persists_of_bringResource hfirst hfetched).extend .refl hrest
      · exact (ih hothers hmem).extend hruns .refl

/-- **A resource that a report calls fetched was downloaded and stored.** -/
theorem persists_of_fetch {report : Report} {entry : ResourceReport}
    (h : f.fetch id w = (.ok (some report), w')) (hmem : entry ∈ report.resources)
    (hfetched : entry.resource = .fetched) : f.Persists id entry.path w w' := by
  unfold fetch at h
  have hdescriptor := runs_bringDescriptor f id w
  split at h
  · cases h
  · cases h
  next source v hbring =>
  rw [hbring] at hdescriptor
  split at h
  · cases h
  split at h
  · cases h
  next entries v' hbring' =>
  cases h
  exact (persists_of_bringResources hbring' hmem hfetched).extend hdescriptor (runs_log f id _ _)

end ModuleDepot.Fetcher
