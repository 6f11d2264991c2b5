import ModuleDepot.Proofs.Fetch.Steps

/-! # Rejected resources

A resource whose path leads out of the module directory is rejected, and so is its index, and
nothing else is (`judged_of_fetch`). All that a fetch does on its account is one entry in the log,
whatever the files and the repository hold (`bringResource_of_rejected`).

So a fetch treats a rejected resource as if the descriptor had not declared it: with a parser that
leaves the uncontained resources out it does the same to the files and the repository, makes the
same requests, writes the same log but for those entries and gives the same answer but for the
rejected resources (`fetch_filtered`).
-/

namespace ModuleDepot

variable {σ : Type}

/-- A way to compare two logs that does not depend on what both go on with. -/
structure LogRelation where
  Holds : List Event → List Event → Prop
  append : ∀ {a b : List Event} (events : List Event),
    Holds a b → Holds (a ++ events) (b ++ events)

/-- Any two logs. -/
def LogRelation.any : LogRelation := ⟨fun _ _ => True, fun _ h => h⟩

/-- The worlds differ in their logs at most, and the logs are related. -/
structure World.SameUpTo (logs : LogRelation) (w v : World σ) : Prop where
  tree : w.tree = v.tree
  repository : w.repository = v.repository
  requests : w.requests = v.requests
  events : logs.Holds w.events v.events

/-- The worlds differ in their logs at most. -/
abbrev World.SameButLog (w v : World σ) : Prop :=
  w.SameUpTo .any v

namespace World.SameButLog

variable {w v : World σ}

theorem refl (w : World σ) : SameButLog w w := ⟨rfl, rfl, rfl, trivial⟩

theorem log (h : SameButLog w v) (e e' : Event) : SameButLog (w.log e) (v.log e') :=
  ⟨h.tree, h.repository, h.requests, trivial⟩

theorem log_left (h : SameButLog w v) (e : Event) : SameButLog (w.log e) v :=
  ⟨h.tree, h.repository, h.requests, trivial⟩

end World.SameButLog

/-- The results are the same, and so are the worlds but for the logs. -/
inductive SameOutcome (logs : LogRelation) {α : Type} : α × World σ → α × World σ → Prop
  | intro (result : α) {w v : World σ} :
      w.SameUpTo logs v → SameOutcome logs (result, w) (result, v)

namespace World.SameUpTo

variable {logs : LogRelation} {w v : World σ}

theorem log (h : w.SameUpTo logs v) (e : Event) : (w.log e).SameUpTo logs (v.log e) :=
  ⟨h.tree, h.repository, h.requests, logs.append [e] h.events⟩

/-- The answer to a request and what it does depend on the repository alone. -/
theorem ask (h : w.SameUpTo logs v) (r : Repository σ) (request : Request) :
    SameOutcome logs (w.ask r request) (v.ask r request) := by
  unfold World.ask
  rw [h.repository, h.requests]
  exact .intro _ ⟨h.tree, rfl, rfl, logs.append _ h.events⟩

end World.SameUpTo

/-- A report without the entries that were rejected. -/
def Report.withoutRejected (r : Report) : Report :=
  { r with resources := r.resources.filter (·.resource != .rejected) }

namespace Fetcher

variable {f : Fetcher σ} {id : ModuleId} {w v : World σ}

/-- A fetcher with another parser. -/
def withParser (f : Fetcher σ) (parser : DescriptorParser) : Fetcher σ :=
  { f with parser := parser }

/-- The parser without the resources that are not contained. -/
def filtered (parser : DescriptorParser) : DescriptorParser :=
  fun stream => (parser stream).map (·.filter Layout.isContained)

/-! ## Only `fetch` itself reads the parser -/

theorem keep_withParser (parser : DescriptorParser) : (f.withParser parser).keep = f.keep := by
  unfold keep withParser
  dsimp only

theorem bring_withParser (parser : DescriptorParser) : (f.withParser parser).bring = f.bring := by
  unfold bring
  rw [keep_withParser]
  unfold withParser request
  dsimp only

theorem bringDescriptor_withParser (parser : DescriptorParser) :
    (f.withParser parser).bringDescriptor = f.bringDescriptor := by
  unfold bringDescriptor
  rw [keep_withParser]
  unfold withParser request
  dsimp only

theorem bringResources_withParser (parser : DescriptorParser) (resources : List String)
    (w : World σ) :
    (f.withParser parser).bringResources id resources w = f.bringResources id resources w := by
  have hresource : (f.withParser parser).bringResource = f.bringResource := by
    unfold bringResource
    rw [bring_withParser]
  induction resources generalizing w with
  | nil => rw [bringResources_nil, bringResources_nil]
  | cons resource rest ih => simp only [bringResources_cons, hresource, ih]

/-- The filtered parser reads what the parser reads, without the uncontained resources. -/
theorem readDescriptor_filtered (f : Fetcher σ) (id : ModuleId) (t : FileTree) :
    (f.withParser (filtered f.parser)).readDescriptor id t =
      (f.readDescriptor id t).map (·.filter Layout.isContained) := by
  unfold readDescriptor withParser filtered
  extract_lets path
  generalize t.openFile path = opened
  cases opened with
  | error e => rfl
  | ok stream =>
      dsimp only
      cases f.parser stream <;> rfl

/-! ## The log is never read -/

variable (f id) {logs : LogRelation}

theorem sameOutcome_keep (h : w.SameUpTo logs v) (stream : ByteStream) (name : Path) :
    SameOutcome logs (f.keep id stream name w) (f.keep id stream name v) := by
  unfold keep
  rw [h.tree]
  extract_lets written w' v'
  have hsame : w'.SameUpTo logs v' :=
    ⟨rfl, h.repository, h.requests, logs.append written.events h.events⟩
  cases written.result with
  | ok => exact .intro _ hsame
  | error e => cases e <;> exact .intro _ hsame

theorem sameOutcome_bring (h : w.SameUpTo logs v) (name : String) :
    SameOutcome logs (f.bring id name w) (f.bring id name v) := by
  unfold bring
  extract_lets place
  rw [h.tree]
  split
  · exact .intro _ h
  have hask := h.ask f.repository (f.request id name)
  generalize w.ask f.repository (f.request id name) = asked at hask ⊢
  generalize v.ask f.repository (f.request id name) = asked' at hask ⊢
  cases hask with | @intro answer w' v' hasked =>
  cases answer with
  | found stream =>
      have hkeep := sameOutcome_keep f id hasked stream place
      dsimp only
      generalize f.keep id stream place w' = kept at hkeep ⊢
      generalize f.keep id stream place v' = kept' at hkeep ⊢
      cases hkeep with | intro result hkept =>
      cases result <;> exact .intro _ hkept
  | notFound => exact .intro _ (hasked.log _)
  | unavailable reason => exact .intro _ (hasked.log _)

theorem sameOutcome_bringResource (h : w.SameUpTo logs v) (resource : String) :
    SameOutcome logs (f.bringResource id resource w) (f.bringResource id resource v) := by
  unfold bringResource
  split
  · exact .intro _ (h.log _)
  have hbring := sameOutcome_bring f id h resource
  generalize f.bring id resource w = brought at hbring ⊢
  generalize f.bring id resource v = brought' at hbring ⊢
  cases hbring with | @intro result w' v' hbrought =>
  cases result with
  | error e => exact .intro _ hbrought
  | ok outcome =>
      have hindex := sameOutcome_bring f id hbrought (Layout.indexOf resource)
      dsimp only
      generalize f.bring id (Layout.indexOf resource) w' = brought at hindex ⊢
      generalize f.bring id (Layout.indexOf resource) v' = brought' at hindex ⊢
      cases hindex with | intro result hindexed =>
      cases result <;> exact .intro _ hindexed

/-! ## What is rejected -/

/-- **A rejected resource costs an entry in the log and nothing else**, whatever the files and
the repository hold. -/
theorem bringResource_of_rejected {path : String} (h : Layout.isContained path = false)
    (w : World σ) :
    f.bringResource id path w =
      (.ok ⟨path, .rejected, .rejected⟩, w.log (rejectedEvent id path)) := by
  rw [bringResource, if_pos (by simp [h])]

variable {f id}

/-- An artifact that is brought is not rejected. -/
theorem ne_rejected_of_bring {name : String} {outcome : Outcome}
    (h : (f.bring id name w).1 = .ok outcome) : outcome ≠ .rejected := by
  unfold bring at h
  extract_lets place at h
  split at h
  · cases h
    exact nofun
  split at h
  next => 
    split at h
    · cases h
      exact nofun
    · cases h
  · cases h
    exact nofun
  · cases h
    exact nofun

/-- The outcomes of a declared resource tell whether it is contained. -/
structure Judged (entry : ResourceReport) : Prop where
  resource : entry.resource = .rejected ↔ Layout.isContained entry.path = false
  index : entry.index = .rejected ↔ Layout.isContained entry.path = false

theorem judged_of_bringResource {resource : String} {entry : ResourceReport}
    (h : (f.bringResource id resource w).1 = .ok entry) :
    entry.path = resource ∧ Judged entry := by
  unfold bringResource at h
  split at h
  next hout =>
    cases h
    have hout : Layout.isContained resource = false := by simpa using hout
    exact ⟨rfl, by simp [hout], by simp [hout]⟩
  next hcontained =>
    have hcontained : Layout.isContained resource = true := by simpa using hcontained
    split at h
    · cases h
    next outcome w' hbring =>
      split at h
      · cases h
      next outcome' w'' hbring' =>
        cases h
        have hresource := ne_rejected_of_bring (congrArg Prod.fst hbring)
        have hindex := ne_rejected_of_bring (congrArg Prod.fst hbring')
        exact ⟨rfl, by simp [hcontained, hresource], by simp [hcontained, hindex]⟩

theorem judged_of_bringResources {resources : List String} {entries : List ResourceReport}
    (h : (f.bringResources id resources w).1 = .ok entries) : ∀ entry ∈ entries, Judged entry := by
  induction resources generalizing w entries with
  | nil =>
      cases h
      exact fun _ hmem => nomatch hmem
  | cons resource rest ih =>
      rw [bringResources_cons] at h
      split at h
      · cases h
      next first w' hbring =>
        split at h
        · cases h
        next others w'' hrest =>
          cases h
          intro entry hmem
          rcases List.mem_cons.mp hmem with rfl | hmem
          · exact (judged_of_bringResource (congrArg Prod.fst hbring)).2
          · exact ih (congrArg Prod.fst hrest) entry hmem

/-- **What is rejected leads out of the module directory, and the other way round.** -/
theorem judged_of_fetch {report : Report} (h : (f.fetch id w).1 = .ok (some report)) :
    ∀ entry ∈ report.resources, Judged entry := by
  unfold fetch at h
  split at h
  · cases h
  · cases h
  split at h
  · cases h
  split at h
  · cases h
  next hbring =>
    cases h
    exact judged_of_bringResources (congrArg Prod.fst hbring)

/-! ## Fetching without the rejected resources -/

variable (f id)

/-- The entries that were not rejected. -/
def accepted (entries : List ResourceReport) : List ResourceReport :=
  entries.filter (·.resource != .rejected)

/-- The first log has entries for rejected resources which the second one lacks. A report that
is completed counts those resources as missing. -/
inductive Omits (id : ModuleId) : List Event → List Event → Prop
  | start (events : List Event) : Omits id events events
  | both {a b : List Event} (events : List Event) : Omits id a b →
      Omits id (a ++ events) (b ++ events)
  | rejected {a b : List Event} (path : String) : Layout.isContained path = false →
      Omits id a b → Omits id (a ++ [rejectedEvent id path]) b
  | completed {a b : List Event} (report : Report) : Omits id a b →
      Omits id (a ++ [completedEvent report]) (b ++ [completedEvent report.withoutRejected])

/-- Logs that differ in the entries for rejected resources. -/
def rejections (id : ModuleId) : LogRelation := ⟨Omits id, .both⟩

/-- Leaving out the uncontained resources changes nothing but the entries for them. -/
theorem bringResources_filter (h : w.SameUpTo (rejections id) v) (resources : List String) :
    (f.bringResources id (resources.filter Layout.isContained) v).1 =
        (f.bringResources id resources w).1.map accepted ∧
      (f.bringResources id resources w).2.SameUpTo (rejections id)
        (f.bringResources id (resources.filter Layout.isContained) v).2 := by
  induction resources generalizing w v with
  | nil => exact ⟨rfl, h⟩
  | cons resource rest ih =>
      rw [bringResources_cons]
      by_cases hcontained : Layout.isContained resource = true
      · -- Both bring the resource, from worlds that differ in their logs at most.
        rw [List.filter_cons_of_pos hcontained, bringResources_cons]
        have hentry : ∀ entry, (f.bringResource id resource w).1 = .ok entry →
            (entry.resource != .rejected) = true := by
          intro entry hbring
          obtain ⟨hpath, hjudged⟩ := judged_of_bringResource hbring
          simp [hjudged.resource, hpath, hcontained]
        have hbring := sameOutcome_bringResource f id h resource
        generalize f.bringResource id resource w = brought at hbring hentry ⊢
        generalize f.bringResource id resource v = brought' at hbring ⊢
        cases hbring with | @intro result w' v' hbrought =>
        cases result with
        | error e => exact ⟨rfl, hbrought⟩
        | ok entry =>
            obtain ⟨hresult, hrest⟩ := ih hbrought
            dsimp only
            generalize f.bringResources id rest w' = others at hresult hrest ⊢
            generalize f.bringResources id (rest.filter Layout.isContained) v' = others'
              at hresult hrest ⊢
            obtain ⟨result, w''⟩ := others
            obtain ⟨result', v''⟩ := others'
            obtain rfl : result' = result.map accepted := hresult
            cases result with
            | error e => exact ⟨rfl, hrest⟩
            | ok entries =>
                refine ⟨congrArg Except.ok ?_, hrest⟩
                rw [accepted, accepted, List.filter_cons, if_pos (hentry entry rfl)]
      · -- One of them goes on at once, the other one after an entry in the log.
        have hrejected : Layout.isContained resource = false := (Bool.not_eq_true _).mp hcontained
        have hlogged : (w.log (rejectedEvent id resource)).SameUpTo (rejections id) v :=
          ⟨h.tree, h.repository, h.requests, .rejected resource hrejected h.events⟩
        rw [List.filter_cons_of_neg hcontained, bringResource_of_rejected f id hrejected]
        obtain ⟨hresult, hrest⟩ := ih hlogged
        dsimp only
        generalize f.bringResources id rest (w.log (rejectedEvent id resource)) = others
          at hresult hrest ⊢
        obtain ⟨result, w''⟩ := others
        rw [hresult]
        cases result with
        | error e => exact ⟨rfl, hrest⟩
        | ok entries => exact ⟨rfl, hrest⟩

/-- **A rejected resource might as well not have been declared.** -/
theorem fetch_filtered (w : World σ) :
    ((f.withParser (filtered f.parser)).fetch id w).1 =
        (f.fetch id w).1.map (·.map Report.withoutRejected) ∧
      (f.fetch id w).2.SameUpTo (rejections id)
        ((f.withParser (filtered f.parser)).fetch id w).2 := by
  have hrefl : ∀ u : World σ, u.SameUpTo (rejections id) u := fun u =>
    ⟨rfl, rfl, rfl, .start u.events⟩
  unfold fetch
  rw [bringDescriptor_withParser]
  generalize f.bringDescriptor id w = brought
  obtain ⟨result, w'⟩ := brought
  cases result with
  | error e => exact ⟨rfl, hrefl _⟩
  | ok source? =>
    cases source? with
    | none => exact ⟨rfl, hrefl _⟩
    | some source =>
      dsimp only
      rw [readDescriptor_filtered]
      generalize f.readDescriptor id w'.tree = read
      cases read with
      | error e => exact ⟨rfl, hrefl _⟩
      | ok paths =>
        have hfilter := bringResources_filter f id (hrefl w') paths
        simp only [Except.map, bringResources_withParser]
        generalize f.bringResources id paths w' = others at hfilter ⊢
        generalize f.bringResources id (paths.filter Layout.isContained) w' = others'
          at hfilter ⊢
        obtain ⟨result, w''⟩ := others
        obtain ⟨result', v''⟩ := others'
        obtain ⟨rfl, hsame⟩ := hfilter
        cases result with
        | error e => exact ⟨rfl, hsame⟩
        | ok entries =>
            exact ⟨rfl, hsame.tree, hsame.repository, hsame.requests,
              .completed ⟨id, source, entries⟩ hsame.events⟩

end Fetcher
end ModuleDepot
