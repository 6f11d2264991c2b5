import ModuleDepot.Proofs.Fetch.Rejection

/-! # The course of a fetch

A fetch goes through a row of artifacts: the descriptor, and then each contained resource with
its index behind it. What happens to one of them depends on the tree and, if the artifact is
missing, on the answer to its request; `Store.settle` is that function, and `bring` follows it.

`bringAll` takes a whole row, and `outline` is a fetch in these terms: it leaves out the log and
the rejected resources, which have no part in anything else. A fetch comes to the same as its
outline (`fetch_eq_outline`).
-/

namespace ModuleDepot

variable {σ : Type}

namespace Repository

/-- From a state on, a request gets the same answer whatever was asked before. -/
def Gives (r : Repository σ) (s : σ) (answers : Request → Answer) : Prop :=
  ∀ requests request, (r.fetch (r.stateAfter s requests) request).1 = answers request

theorem Gives.next {r : Repository σ} {s : σ} {answers : Request → Answer}
    (h : r.Gives s answers) (request : Request) : r.Gives (r.fetch s request).2.1 answers :=
  fun requests => h (request :: requests)

/-- A repository in memory gives fixed answers. -/
theorem gives_memory (m : MemoryRepository) : MemoryRepository.repository.Gives m m.answer := by
  intro requests request
  rw [MemoryRepository.stateAfter]
  rfl

end Repository

/-- The outcome of a request whose answer could be stored. -/
def Outcome.ofAnswer : Answer → Outcome
  | .found _ => .fetched
  | .notFound => .notFound
  | .unavailable reason => .unavailable reason

/-- Where a descriptor with this outcome came from, if it is in the cache. -/
def Outcome.source? : Outcome → Option DescriptorSource
  | .cached => some .cached
  | .fetched => some .fetched
  | _ => none

/-- The error of a fetch that could not store an artifact. -/
def LoadError.ofStore (id : ModuleId) : StoreError → LoadError
  | .brokenSource path cause => .interrupted id path cause
  | e => .notStored id e

/-- What becomes of an artifact and of the tree, given the answer to the request that is made if
the artifact is missing. -/
def Store.settle (store : Store) (id : ModuleId) (name : String) (answer : Answer)
    (t : FileTree) : Except LoadError Outcome × FileTree :=
  if store.has t (Layout.file id name) then (.ok .cached, t)
  else
    match answer with
    | .found stream =>
      let written := store.write t stream (Layout.file id name)
      ((written.result.mapError (LoadError.ofStore id)).map fun _ => .fetched, written.tree)
    | .notFound => (.ok .notFound, t)
    | .unavailable reason => (.ok (.unavailable reason), t)

namespace Store

variable {store : Store} {id : ModuleId} {name : String} {answer : Answer} {t : FileTree}

theorem settle_of_has (h : store.has t (Layout.file id name) = true) :
    store.settle id name answer t = (.ok .cached, t) := by
  simp only [settle, h, if_true]

theorem settle_of_found {stream : ByteStream} (h : store.has t (Layout.file id name) = false) :
    store.settle id name (.found stream) t =
      (((store.write t stream (Layout.file id name)).result.mapError (LoadError.ofStore id)).map
        fun _ => .fetched, (store.write t stream (Layout.file id name)).tree) := by
  simp only [settle, h]
  rfl

/-- An answer without content is the outcome, if the artifact is missing. -/
theorem settle_of_not_found (h : store.has t (Layout.file id name) = false)
    (hanswer : ∀ stream, answer ≠ .found stream) :
    store.settle id name answer t = (.ok (.ofAnswer answer), t) := by
  cases answer with
  | found stream => exact absurd rfl (hanswer stream)
  | notFound => simp [settle, h, Outcome.ofAnswer]
  | unavailable reason => simp [settle, h, Outcome.ofAnswer]

end Store

namespace Layout

/-- The artifacts that belong to declared resources, in the order of a fetch. -/
def artifacts (paths : List String) : List String :=
  (paths.filter isContained).flatMap fun path => [path, indexOf path]

theorem artifacts_of_contained {path : String} (h : isContained path = true)
    (paths : List String) :
    artifacts (path :: paths) = path :: indexOf path :: artifacts paths := by
  simp [artifacts, h]

theorem artifacts_of_rejected {path : String} (h : isContained path = false)
    (paths : List String) : artifacts (path :: paths) = artifacts paths := by
  simp [artifacts, h]

theorem isContained_of_mem_artifacts (paths : List String) :
    ∀ name ∈ artifacts paths, isContained name = true := by
  intro name h
  obtain ⟨path, hpath, hname⟩ := List.mem_flatMap.mp h
  have hcontained := (List.mem_filter.mp hpath).2
  rcases List.mem_pair.mp hname with rfl | rfl
  · exact hcontained
  · exact isContained_indexOf hcontained

end Layout

namespace Fetcher

variable (f : Fetcher σ) (id : ModuleId) {w v : World σ}

/-! ## One artifact -/

theorem bring_of_cached {name : String} (h : f.isCached id name w = true) :
    f.bring id name w = (.ok .cached, w) := by
  rw [isCached] at h
  rw [bring, if_pos h]

/-- A missing artifact is obtained. -/
theorem sameButLog_bring {name : String} (h : f.isCached id name w = false) :
    (f.bring id name w).2.SameButLog (f.obtain id name w) := by
  rw [isCached] at h
  unfold bring obtain
  extract_lets place
  rw [if_neg (by simp [place, h])]
  generalize w.ask f.repository (f.request id name) = asked
  obtain ⟨answer, v⟩ := asked
  cases answer with
  | found stream =>
      dsimp only
      generalize f.keep id stream place v = kept
      obtain ⟨result, u⟩ := kept
      cases result <;> exact .refl u
  | notFound => exact World.SameButLog.log_left (.refl v) _
  | unavailable reason => exact World.SameButLog.log_left (.refl v) _

theorem result_keep (stream : ByteStream) (name : Path) (w : World σ) :
    (f.keep id stream name w).1 =
      ((f.store.write w.tree stream name).result.mapError (LoadError.ofStore id)).map
        fun _ => () := by
  unfold keep
  extract_lets written w'
  cases hresult : written.result with
  | ok => rfl
  | error e => cases e <;> rfl

/-- **What becomes of an artifact.** -/
theorem result_bring (name : String) (w : World σ) :
    (f.bring id name w).1 = (f.store.settle id name (f.answer id name w) w.tree).1 := by
  unfold bring Store.settle answer
  extract_lets place
  split
  · rfl
  have htree := tree_ask w f.repository (f.request id name)
  generalize w.ask f.repository (f.request id name) = asked at htree ⊢
  obtain ⟨answer, v⟩ := asked
  cases answer with
  | found stream =>
      have hkeep := f.result_keep id stream place v
      dsimp only at htree ⊢
      rw [htree] at hkeep
      generalize f.keep id stream place v = kept at hkeep ⊢
      obtain ⟨result, u⟩ := kept
      dsimp only at hkeep
      cases hresult : (f.store.write w.tree stream place).result with
      | ok path =>
          rw [hresult] at hkeep
          subst hkeep
          rfl
      | error e =>
          rw [hresult] at hkeep
          subst hkeep
          rfl
  | notFound => rfl
  | unavailable reason => rfl

/-- **The tree after an artifact was brought.** -/
theorem tree_bring (name : String) (w : World σ) :
    (f.bring id name w).2.tree = (f.store.settle id name (f.answer id name w) w.tree).2 := by
  cases hcached : f.isCached id name w with
  | true => rw [bring_of_cached f id hcached, Store.settle_of_has hcached]
  | false =>
      rw [(sameButLog_bring f id hcached).tree]
      by_cases hfound : ∃ stream, f.answer id name w = .found stream
      · obtain ⟨stream, hfound⟩ := hfound
        rw [tree_obtain_of_found hfound, hfound, Store.settle_of_found hcached]
      · have hanswer := not_exists.mp hfound
        rw [tree_obtain_of_not_found hanswer, Store.settle_of_not_found hcached hanswer]

/-- **An artifact is requested if and only if it is missing.** -/
theorem requests_bring (name : String) (w : World σ) :
    (f.bring id name w).2.requests =
      w.requests ++ if f.isCached id name w then [] else [f.request id name] := by
  cases hcached : f.isCached id name w with
  | true => simp [bring_of_cached f id hcached]
  | false => simp [(sameButLog_bring f id hcached).requests, requests_obtain]

theorem repository_bring_of_missing {name : String} (h : f.isCached id name w = false) :
    (f.bring id name w).2.repository =
      (f.repository.fetch w.repository (f.request id name)).2.1 := by
  rw [(sameButLog_bring f id h).repository, repository_obtain]

/-- An artifact that was brought was in the cache, or the answer tells what became of it. -/
theorem bring_eq_ok {f : Fetcher σ} {id : ModuleId} {name : String} {outcome : Outcome}
    (h : f.bring id name w = (.ok outcome, v)) :
    (f.isCached id name w = true ∧ outcome = .cached ∧ v = w) ∨
      (f.isCached id name w = false ∧ outcome = .ofAnswer (f.answer id name w)) := by
  cases hcached : f.isCached id name w with
  | true =>
      rw [bring_of_cached f id hcached] at h
      cases h
      exact .inl ⟨rfl, rfl, rfl⟩
  | false =>
      refine .inr ⟨rfl, ?_⟩
      have hresult := (congrArg Prod.fst h).symm.trans (result_bring f id name w)
      by_cases hfound : ∃ stream, f.answer id name w = .found stream
      · obtain ⟨stream, hfound⟩ := hfound
        rw [hfound, Store.settle_of_found hcached] at hresult
        rw [hfound]
        cases hwrite : (f.store.write w.tree stream (Layout.file id name)).result with
        | ok path =>
            rw [hwrite] at hresult
            exact Except.ok.inj hresult
        | error e =>
            rw [hwrite] at hresult
            cases hresult
      · rw [Store.settle_of_not_found hcached (not_exists.mp hfound)] at hresult
        exact Except.ok.inj hresult

/-- An artifact that is missing and not to be had leaves the tree. -/
theorem bring_of_not_found {name : String} (h : f.isCached id name w = false)
    (hanswer : ∀ stream, f.answer id name w ≠ .found stream) :
    ∃ v, f.bring id name w = (.ok (.ofAnswer (f.answer id name w)), v) ∧ v.tree = w.tree ∧
      v.repository = (f.repository.fetch w.repository (f.request id name)).2.1 := by
  have hsettle : f.store.settle id name (f.answer id name w) w.tree =
      (.ok (.ofAnswer (f.answer id name w)), w.tree) := Store.settle_of_not_found h hanswer
  refine ⟨(f.bring id name w).2, Prod.ext ?_ rfl, ?_, repository_bring_of_missing f id h⟩
  · rw [result_bring, hsettle]
  · rw [tree_bring, hsettle]

/-- A descriptor is brought like any other artifact. -/
theorem bringDescriptor_eq_bring (w : World σ) :
    (f.bringDescriptor id w).1 =
        (f.bring id Layout.descriptorName w).1.map Outcome.source? ∧
      (f.bringDescriptor id w).2.SameButLog (f.bring id Layout.descriptorName w).2 := by
  unfold bringDescriptor bring
  extract_lets place
  split
  · exact ⟨rfl, World.SameButLog.log_left (.refl w) _⟩
  generalize w.ask f.repository (f.request id Layout.descriptorName) = asked
  obtain ⟨answer, v⟩ := asked
  cases answer with
  | found stream =>
      dsimp only
      generalize f.keep id stream place v = kept
      obtain ⟨result, u⟩ := kept
      cases result <;> exact ⟨rfl, .refl u⟩
  | notFound => exact ⟨rfl, World.SameButLog.log (.refl v) _ _⟩
  | unavailable reason => exact ⟨rfl, World.SameButLog.log (.refl v) _ _⟩

theorem answer_of_gives {f : Fetcher σ} {id : ModuleId} {answers : Request → Answer}
    (h : f.repository.Gives w.repository answers) (name : String) :
    f.answer id name w = answers (f.request id name) :=
  h [] (f.request id name)

theorem gives_of_runs {f : Fetcher σ} {id : ModuleId} {answers : Request → Answer}
    (h : f.repository.Gives w.repository answers) (hruns : f.Runs id w v) :
    f.repository.Gives v.repository answers := by
  induction hruns with
  | refl => exact h
  | tail _ hstep ih =>
      cases hstep with
      | log e => exact ih
      | obtain name _ _ =>
          rw [repository_obtain]
          exact ih.next _

/-! ## A row of artifacts -/

/-- Brings artifacts into the cache, in order, up to the first error. -/
def bringAll (f : Fetcher σ) (id : ModuleId) :
    List String → World σ → Except LoadError (List Outcome) × World σ
  | [], w => (.ok [], w)
  | name :: rest, w =>
    match f.bring id name w with
    | (.error e, w) => (.error e, w)
    | (.ok outcome, w) =>
      ((bringAll f id rest w).1.map (outcome :: ·), (bringAll f id rest w).2)

theorem bringAll_cons (name : String) (rest : List String) (w : World σ) :
    f.bringAll id (name :: rest) w =
      match f.bring id name w with
      | (.error e, w) => (.error e, w)
      | (.ok outcome, w) =>
        ((f.bringAll id rest w).1.map (outcome :: ·), (f.bringAll id rest w).2) := by
  rfl

theorem bringAll_of_ok {name : String} {outcome : Outcome} {rest : List String}
    (h : f.bring id name w = (.ok outcome, v)) :
    f.bringAll id (name :: rest) w =
      ((f.bringAll id rest v).1.map (outcome :: ·), (f.bringAll id rest v).2) := by
  rw [bringAll_cons, h]

theorem bringAll_of_error {name : String} {e : LoadError} (rest : List String)
    (h : f.bring id name w = (.error e, v)) :
    f.bringAll id (name :: rest) w = (.error e, v) := by
  rw [bringAll_cons, h]

/-- A row succeeds if its first artifact does, and then the others. -/
theorem bringAll_cons_eq_ok {f : Fetcher σ} {id : ModuleId} {name : String} {rest : List String}
    {outcomes : List Outcome} (h : f.bringAll id (name :: rest) w = (.ok outcomes, v)) :
    ∃ outcome others u, f.bring id name w = (.ok outcome, u) ∧
      f.bringAll id rest u = (.ok others, v) ∧ outcomes = outcome :: others := by
  rcases hbring : f.bring id name w with ⟨e | outcome, u⟩
  · rw [bringAll_of_error f id rest hbring] at h
    cases h
  rw [bringAll_of_ok f id hbring] at h
  rcases hothers : f.bringAll id rest u with ⟨e | others, u'⟩ <;> rw [hothers] at h <;> cases h
  exact ⟨outcome, others, u, rfl, hothers, rfl⟩

/-- A row fails at its first artifact or behind it. -/
theorem bringAll_cons_eq_error {f : Fetcher σ} {id : ModuleId} {name : String}
    {rest : List String} {e : LoadError}
    (h : f.bringAll id (name :: rest) w = (.error e, v)) :
    f.bring id name w = (.error e, v) ∨
      ∃ outcome u, f.bring id name w = (.ok outcome, u) ∧
        f.bringAll id rest u = (.error e, v) := by
  rcases hbring : f.bring id name w with ⟨e' | outcome, u⟩
  · rw [bringAll_of_error f id rest hbring] at h
    cases h
    exact .inl rfl
  rw [bringAll_of_ok f id hbring] at h
  rcases hothers : f.bringAll id rest u with ⟨e' | others, u'⟩ <;> rw [hothers] at h <;> cases h
  exact .inr ⟨outcome, u, rfl, hothers⟩

theorem runs_bringAll {names : List String}
    (hnames : ∀ name ∈ names, Layout.isContained name = true) (w : World σ) :
    f.Runs id w (f.bringAll id names w).2 := by
  induction names generalizing w with
  | nil => exact .refl
  | cons name rest ih =>
      have hname := runs_bring f id (hnames name List.mem_cons_self) w
      rcases hbring : f.bring id name w with ⟨e | outcome, v⟩
      · rw [hbring] at hname
        rwa [bringAll_of_error f id rest hbring]
      · rw [hbring] at hname
        rw [bringAll_of_ok f id hbring]
        exact hname.trans (ih (fun n hn => hnames n (List.mem_cons_of_mem _ hn)) v)

/-- The entries of a report for declared resources, given the outcomes of their artifacts. -/
def entries : List String → List Outcome → List ResourceReport
  | [], _ => []
  | path :: paths, outcomes =>
    if Layout.isContained path then
      match outcomes with
      | resource :: index :: rest => ⟨path, resource, index⟩ :: entries paths rest
      | _ => []
    else ⟨path, .rejected, .rejected⟩ :: entries paths outcomes

theorem entries_of_contained {path : String} (h : Layout.isContained path = true)
    (paths : List String) (resource index : Outcome) (outcomes : List Outcome) :
    entries (path :: paths) (resource :: index :: outcomes) =
      ⟨path, resource, index⟩ :: entries paths outcomes :=
  if_pos h

theorem entries_of_rejected {path : String} (h : Layout.isContained path = false)
    (paths : List String) (outcomes : List Outcome) :
    entries (path :: paths) outcomes = ⟨path, .rejected, .rejected⟩ :: entries paths outcomes :=
  if_neg (by simp [h])

/-- Resources are brought as a row of artifacts. -/
theorem bringResources_eq_bringAll (h : w.SameButLog v) (paths : List String) :
    (f.bringResources id paths w).1 =
        (f.bringAll id (Layout.artifacts paths) v).1.map (entries paths) ∧
      (f.bringResources id paths w).2.SameButLog
        (f.bringAll id (Layout.artifacts paths) v).2 := by
  -- A rejected resource makes an entry in the log of one side only, so there are two worlds.
  induction paths generalizing w v with
  | nil => exact ⟨rfl, h⟩
  | cons path rest ih =>
      rw [bringResources_cons, bringResource]
      by_cases hcontained : Layout.isContained path = true
      · rw [if_neg (by simp [hcontained]), Layout.artifacts_of_contained hcontained]
        have hbring := sameOutcome_bring f id h path
        rcases hbrought : f.bring id path v with ⟨e | resource, v'⟩
        · rw [hbrought] at hbring
          rw [bringAll_of_error f id _ hbrought]
          generalize f.bring id path w = brought at hbring ⊢
          cases hbring with | intro _ hsame => exact ⟨rfl, hsame⟩
        rw [hbrought] at hbring
        rw [bringAll_of_ok f id hbrought]
        generalize f.bring id path w = brought at hbring ⊢
        cases hbring with | @intro _ w' _ hsame =>
        have hbring := sameOutcome_bring f id hsame (Layout.indexOf path)
        dsimp only
        rcases hbrought' : f.bring id (Layout.indexOf path) v' with ⟨e | index, v''⟩
        · rw [hbrought'] at hbring
          rw [bringAll_of_error f id _ hbrought']
          generalize f.bring id (Layout.indexOf path) w' = brought' at hbring ⊢
          cases hbring with | intro _ hsame => exact ⟨rfl, hsame⟩
        rw [hbrought'] at hbring
        rw [bringAll_of_ok f id hbrought']
        generalize f.bring id (Layout.indexOf path) w' = brought' at hbring ⊢
        cases hbring with | @intro _ w'' _ hsame =>
        obtain ⟨hresult, hworld⟩ := ih hsame
        dsimp only
        generalize f.bringResources id rest w'' = others at hresult hworld ⊢
        generalize f.bringAll id (Layout.artifacts rest) v'' = others' at hresult hworld ⊢
        obtain ⟨result, u⟩ := others
        obtain ⟨result', u'⟩ := others'
        obtain rfl : result = result'.map (entries rest) := hresult
        cases result' with
        | error e => exact ⟨rfl, hworld⟩
        | ok outcomes =>
            refine ⟨?_, hworld⟩
            simp only [Except.map, entries_of_contained hcontained]
      · rw [Bool.not_eq_true] at hcontained
        rw [if_pos (by simp [hcontained]), Layout.artifacts_of_rejected hcontained]
        obtain ⟨hresult, hworld⟩ := ih (h.log_left (rejectedEvent id path))
        dsimp only
        generalize f.bringResources id rest (w.log (rejectedEvent id path)) = others
          at hresult hworld ⊢
        generalize f.bringAll id (Layout.artifacts rest) v = others' at hresult hworld ⊢
        obtain ⟨result, u⟩ := others
        obtain ⟨result', u'⟩ := others'
        obtain rfl : result = result'.map (entries rest) := hresult
        cases result' with
        | error e => exact ⟨rfl, hworld⟩
        | ok outcomes =>
            refine ⟨?_, hworld⟩
            simp only [Except.map, entries_of_rejected hcontained]

/-! ## The whole fetch -/

/-- A fetch without its own entries in the log and without the rejected resources. -/
def outline (w : World σ) : Except LoadError (Option Report) × World σ :=
  match f.bring id Layout.descriptorName w with
  | (.error e, w) => (.error e, w)
  | (.ok outcome, w) =>
    match outcome.source? with
    | none => (.ok none, w)
    | some source =>
      match f.readDescriptor id w.tree with
      | .error e => (.error e, w)
      | .ok paths =>
        match f.bringAll id (Layout.artifacts paths) w with
        | (.error e, w) => (.error e, w)
        | (.ok outcomes, w) => (.ok (some ⟨id, source, entries paths outcomes⟩), w)

/-- **A fetch comes to the same as its outline.** -/
theorem fetch_eq_outline (w : World σ) :
    (f.fetch id w).1 = (f.outline id w).1 ∧
      (f.fetch id w).2.SameButLog (f.outline id w).2 := by
  obtain ⟨hresult, hsame⟩ := bringDescriptor_eq_bring f id w
  unfold fetch outline
  generalize f.bringDescriptor id w = brought at hresult hsame ⊢
  generalize f.bring id Layout.descriptorName w = brought' at hresult hsame ⊢
  obtain ⟨result, v⟩ := brought
  obtain ⟨result', v'⟩ := brought'
  obtain rfl : result = result'.map Outcome.source? := hresult
  cases result' with
  | error e => exact ⟨rfl, hsame⟩
  | ok outcome =>
    dsimp only [Except.map]
    cases outcome.source? with
    | none => exact ⟨rfl, hsame⟩
    | some source =>
      dsimp only
      rw [hsame.tree]
      cases f.readDescriptor id v'.tree with
      | error e => exact ⟨rfl, hsame⟩
      | ok paths =>
        obtain ⟨hresult, hsame⟩ := bringResources_eq_bringAll f id hsame paths
        dsimp only
        generalize f.bringResources id paths v = brought at hresult hsame ⊢
        generalize f.bringAll id (Layout.artifacts paths) v' = brought' at hresult hsame ⊢
        obtain ⟨result, u⟩ := brought
        obtain ⟨result', u'⟩ := brought'
        obtain rfl : result = result'.map (entries paths) := hresult
        cases result' with
        | error e => exact ⟨rfl, hsame⟩
        | ok outcomes => exact ⟨rfl, hsame.log_left _⟩

/-- The ways a fetch can go, with its result and the world it ends in. -/
inductive Course (w : World σ) : Except LoadError (Option Report) → World σ → Prop
  | failed {e v} : f.bring id Layout.descriptorName w = (.error e, v) → Course w (.error e) v
  | absent {outcome v} : f.bring id Layout.descriptorName w = (.ok outcome, v) →
      outcome.source? = none → Course w (.ok none) v
  | unreadable {outcome source v e} : f.bring id Layout.descriptorName w = (.ok outcome, v) →
      outcome.source? = some source → f.readDescriptor id v.tree = .error e →
      Course w (.error e) v
  | brokenOff {outcome source v paths e u} :
      f.bring id Layout.descriptorName w = (.ok outcome, v) →
      outcome.source? = some source → f.readDescriptor id v.tree = .ok paths →
      f.bringAll id (Layout.artifacts paths) v = (.error e, u) → Course w (.error e) u
  | complete {outcome source v paths outcomes u} :
      f.bring id Layout.descriptorName w = (.ok outcome, v) →
      outcome.source? = some source → f.readDescriptor id v.tree = .ok paths →
      f.bringAll id (Layout.artifacts paths) v = (.ok outcomes, u) →
      Course w (.ok (some ⟨id, source, entries paths outcomes⟩)) u

/-- Behind the descriptor an outline goes on with its artifacts. -/
theorem outline_of_read {outcome : Outcome} {source : DescriptorSource} {paths : List String}
    (hbring : f.bring id Layout.descriptorName w = (.ok outcome, v))
    (hsource : outcome.source? = some source) (hread : f.readDescriptor id v.tree = .ok paths) :
    f.outline id w =
      ((f.bringAll id (Layout.artifacts paths) v).1.map
        fun outcomes => some ⟨id, source, entries paths outcomes⟩,
        (f.bringAll id (Layout.artifacts paths) v).2) := by
  unfold outline
  rw [hbring]
  dsimp only
  rw [hsource]
  dsimp only
  rw [hread]
  dsimp only
  rcases f.bringAll id (Layout.artifacts paths) v with ⟨e | outcomes, u⟩ <;> rfl

theorem course_outline (w : World σ) :
    f.Course id w (f.outline id w).1 (f.outline id w).2 := by
  unfold outline
  split
  next hbring => exact .failed hbring
  next hbring =>
  split
  next hsource => exact .absent hbring hsource
  next hsource =>
  split
  next hread => exact .unreadable hbring hsource hread
  next hread =>
  split
  next hall => exact .brokenOff hbring hsource hread hall
  next hall => exact .complete hbring hsource hread hall

/-- **How a fetch goes.** -/
theorem course_fetch (w : World σ) :
    ∃ u, f.Course id w (f.fetch id w).1 u ∧ (f.fetch id w).2.SameButLog u := by
  obtain ⟨hresult, hsame⟩ := fetch_eq_outline f id w
  rw [hresult]
  exact ⟨_, course_outline f id w, hsame⟩

/-- Without a descriptor nothing changes further. -/
theorem tree_fetch_of_not_source
    (h : ∀ outcome, (f.bring id Layout.descriptorName w).1 = .ok outcome →
      outcome.source? = none) :
    (f.fetch id w).2.tree = (f.bring id Layout.descriptorName w).2.tree := by
  refine (fetch_eq_outline f id w).2.tree.trans ?_
  unfold outline
  generalize f.bring id Layout.descriptorName w = brought at h ⊢
  obtain ⟨result, v⟩ := brought
  cases result with
  | error e => rfl
  | ok outcome =>
      dsimp only
      rw [h outcome rfl]

/-! ## The entries of a report -/

/-- An entry for a rejected resource, or one whose two outcomes have a property. -/
inductive EntryOf (P : String → Outcome → Prop) : ResourceReport → Prop
  | rejected {path} : Layout.isContained path = false → EntryOf P ⟨path, .rejected, .rejected⟩
  | brought {path resource index} : Layout.isContained path = true → P path resource →
      P (Layout.indexOf path) index → EntryOf P ⟨path, resource, index⟩

/-- What is available was brought. -/
theorem EntryOf.of_available {P : String → Outcome → Prop} {entry : ResourceReport}
    (h : EntryOf P entry) :
    (entry.resource.isCached = true → P entry.path entry.resource) ∧
      (entry.index.isCached = true → P (Layout.indexOf entry.path) entry.index) := by
  cases h with
  | rejected => exact ⟨nofun, nofun⟩
  | brought _ hresource hindex => exact ⟨fun _ => hresource, fun _ => hindex⟩

/-- **What holds of the outcomes of the artifacts holds of the entries**, which are there for all
declared resources in their order. -/
theorem entries_of_forall₂ {P : String → Outcome → Prop} {paths : List String}
    {outcomes : List Outcome} (h : List.Forall₂ P (Layout.artifacts paths) outcomes) :
    (entries paths outcomes).map (·.path) = paths ∧
      ∀ entry ∈ entries paths outcomes, EntryOf P entry := by
  induction paths generalizing outcomes with
  | nil => exact ⟨rfl, fun _ hmem => nomatch hmem⟩
  | cons path rest ih =>
      cases hcontained : Layout.isContained path with
      | false =>
          rw [Layout.artifacts_of_rejected hcontained] at h
          rw [entries_of_rejected hcontained]
          obtain ⟨hpaths, hentries⟩ := ih h
          refine ⟨congrArg (path :: ·) hpaths, fun entry hmem => ?_⟩
          rcases List.mem_cons.mp hmem with rfl | hmem
          · exact .rejected hcontained
          · exact hentries entry hmem
      | true =>
          rw [Layout.artifacts_of_contained hcontained] at h
          cases h with | @cons _ resource _ _ hresource h =>
          cases h with | @cons _ index _ outcomes hindex h =>
          rw [entries_of_contained hcontained]
          obtain ⟨hpaths, hentries⟩ := ih h
          refine ⟨congrArg (path :: ·) hpaths, fun entry hmem => ?_⟩
          rcases List.mem_cons.mp hmem with rfl | hmem
          · exact .brought hcontained hresource hindex
          · exact hentries entry hmem

/-- Each artifact of the declared resources has its outcome in one of the entries. -/
theorem exists_outcome_of_mem_artifacts {P : String → Outcome → Prop}
    {entries : List ResourceReport} (h : ∀ entry ∈ entries, EntryOf P entry) {name : String}
    (hname : name ∈ Layout.artifacts (entries.map (·.path))) : ∃ outcome, P name outcome := by
  obtain ⟨path, hpath, hname⟩ := List.mem_flatMap.mp hname
  obtain ⟨hpath, hcontained⟩ := List.mem_filter.mp hpath
  obtain ⟨entry, hentry, rfl⟩ := List.mem_map.mp hpath
  cases h entry hentry with
  | rejected hout => cases hcontained.symm.trans hout
  | brought _ hresource hindex =>
      rcases List.mem_pair.mp hname with rfl | rfl
      · exact ⟨_, hresource⟩
      · exact ⟨_, hindex⟩

end Fetcher
end ModuleDepot
