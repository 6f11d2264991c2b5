import ModuleDepot.Proofs.Fetch.Upkeep

/-! # The order of requests

A fetch gives each artifact its turn: the descriptor, then every contained resource and its index,
in the order of the descriptor, up to the first error. An artifact is requested at its turn if it
is missing then, and nothing else is requested (`fetch_in_order`).

Skips and failures do not move anything in the report, which lists what the descriptor declares.
And if no two artifacts lie at the same place, what happens to one does not show in the outcome of
another: whether an artifact is in the cache at its turn was decided before the fetch
(`isCached_at_turn`).

Readers that touch the tree can change the outcome of an artifact that has yet to have its turn
(`outcome_changed_by_releasing_reader`).
-/

namespace ModuleDepot

/-- An artifact whose turn it is, and the world at that time. -/
structure Turn (σ : Type) where
  name : String
  world : World σ

namespace Fetcher

open FileTree

variable {σ : Type} {f : Fetcher σ} {id : ModuleId} {w v u : World σ} {name : String}

/-- The turns of a row of artifacts, up to the first error. -/
def turns (f : Fetcher σ) (id : ModuleId) : List String → World σ → List (Turn σ)
  | [], _ => []
  | name :: rest, w =>
    ⟨name, w⟩ ::
      match f.bring id name w with
      | (.error _, _) => []
      | (.ok _, w) => turns f id rest w

/-- The turns of a fetch. -/
def fetchTurns (f : Fetcher σ) (id : ModuleId) (w : World σ) : List (Turn σ) :=
  ⟨Layout.descriptorName, w⟩ ::
    match f.bring id Layout.descriptorName w with
    | (.error _, _) => []
    | (.ok outcome, w) =>
      match outcome.source?, f.readDescriptor id w.tree with
      | some _, .ok paths => f.turns id (Layout.artifacts paths) w
      | _, _ => []

/-- The requests for the artifacts that are missing at their turns. -/
def requested (f : Fetcher σ) (id : ModuleId) (turns : List (Turn σ)) : List Request :=
  (turns.filter fun turn => !f.isCached id turn.name turn.world).map
    fun turn => f.request id turn.name

theorem turns_cons (name : String) (rest : List String) (w : World σ) :
    f.turns id (name :: rest) w =
      ⟨name, w⟩ ::
        match f.bring id name w with
        | (.error _, _) => []
        | (.ok _, w) => f.turns id rest w := by
  rfl

theorem turns_of_ok {outcome : Outcome} {rest : List String}
    (h : f.bring id name w = (.ok outcome, v)) :
    f.turns id (name :: rest) w = ⟨name, w⟩ :: f.turns id rest v := by
  rw [turns_cons, h]

theorem turns_of_error {e : LoadError} (rest : List String)
    (h : f.bring id name w = (.error e, v)) : f.turns id (name :: rest) w = [⟨name, w⟩] := by
  rw [turns_cons, h]

theorem requested_cons (turn : Turn σ) (rest : List (Turn σ)) :
    f.requested id (turn :: rest) =
      (if f.isCached id turn.name turn.world then [] else [f.request id turn.name]) ++
        f.requested id rest := by
  cases hcached : f.isCached id turn.name turn.world <;> simp [requested, hcached]

/-! ## A row of artifacts -/

/-- **What is requested for a row.** -/
theorem requests_bringAll (f : Fetcher σ) (id : ModuleId) (names : List String) (w : World σ) :
    (f.bringAll id names w).2.requests = w.requests ++ f.requested id (f.turns id names w) := by
  induction names generalizing w with
  | nil => exact (List.append_nil _).symm
  | cons name rest ih =>
      have hrequests := requests_bring f id name w
      rcases hbring : f.bring id name w with ⟨e | outcome, v⟩
      · rw [hbring] at hrequests
        rw [bringAll_of_error f id rest hbring, turns_of_error rest hbring, requested_cons]
        simpa [requested] using hrequests
      · rw [hbring] at hrequests
        rw [bringAll_of_ok f id hbring, turns_of_ok hbring, requested_cons, ih, hrequests,
          List.append_assoc]

/-- The turns come in the order of the row. -/
theorem names_turns (names : List String) (w : World σ) :
    (f.turns id names w).map (·.name) <+: names := by
  induction names generalizing w with
  | nil => exact List.nil_prefix
  | cons name rest ih =>
      rcases hbring : f.bring id name w with ⟨e | outcome, v⟩
      · rw [turns_of_error rest hbring]
        exact (List.prefix_cons_inj name).mpr List.nil_prefix
      · rw [turns_of_ok hbring]
        exact (List.prefix_cons_inj name).mpr (ih v)

/-- If there is no error, every artifact has its turn and its outcome. -/
theorem turns_of_bringAll {names : List String} {outcomes : List Outcome}
    (h : f.bringAll id names w = (.ok outcomes, u)) :
    (f.turns id names w).map (·.name) = names ∧
      List.Forall₂ (fun name outcome => ∃ turn ∈ f.turns id names w, turn.name = name ∧
        (f.bring id name turn.world).1 = .ok outcome) names outcomes := by
  induction names generalizing w outcomes with
  | nil =>
      cases h
      exact ⟨rfl, .nil⟩
  | cons name rest ih =>
      obtain ⟨outcome, others, v, hbring, hothers, rfl⟩ := bringAll_cons_eq_ok h
      obtain ⟨hnames, houtcomes⟩ := ih hothers
      rw [turns_of_ok hbring]
      refine ⟨congrArg (name :: ·) hnames, .cons ⟨⟨name, w⟩, List.mem_cons_self, rfl, ?_⟩ ?_⟩
      · rw [hbring]
      · exact houtcomes.imp fun _ _ ⟨turn, hmem, hturn⟩ =>
          ⟨turn, List.mem_cons_of_mem _ hmem, hturn⟩

/-- If there is an error, it comes at the last turn. -/
theorem last_turn_of_bringAll {names : List String} {e : LoadError}
    (h : f.bringAll id names w = (.error e, u)) :
    ∃ before last, f.turns id names w = before ++ [last] ∧
      (f.bring id last.name last.world).1 = .error e := by
  induction names generalizing w with
  | nil => cases h
  | cons name rest ih =>
      rcases bringAll_cons_eq_error h with hbring | ⟨outcome, v, hbring, hothers⟩
      · exact ⟨[], ⟨name, w⟩, turns_of_error rest hbring, by rw [hbring]⟩
      · obtain ⟨before, last, hturns, hlast⟩ := ih hothers
        exact ⟨⟨name, w⟩ :: before, last, by rw [turns_of_ok hbring, hturns]; rfl, hlast⟩

/-- **Artifacts at different places do not get into each other's way**: one is in the cache at its
turn if and only if it was there at the start. -/
theorem isCached_at_turn (hready : f.Ready id w) {names : List String}
    (hnames : ∀ name ∈ names, Layout.isContained name = true)
    (hdistinct : (names.map Layout.normalNames).Nodup) :
    ∀ turn ∈ f.turns id names w,
      f.isCached id turn.name turn.world = f.isCached id turn.name w := by
  induction names generalizing w with
  | nil => exact fun _ hmem => nomatch hmem
  | cons name rest ih =>
      have hname := hnames name List.mem_cons_self
      have hrest := fun n hn => hnames n (List.mem_cons_of_mem name hn)
      obtain ⟨hfirst, hdistinct⟩ := List.nodup_cons.mp hdistinct
      rcases hbring : f.bring id name w with ⟨e | outcome, v⟩
      · rw [turns_of_error rest hbring]
        intro turn hmem
        rw [List.mem_singleton.mp hmem]
      · rw [turns_of_ok hbring]
        have hruns := runs_bring f id hname w
        rw [hbring] at hruns
        intro turn hmem
        rcases List.mem_cons.mp hmem with rfl | hmem
        · rfl
        · -- Its place is another one, so it is as present behind the first artifact as before it.
          have hturn : turn.name ∈ rest :=
            (names_turns rest v).subset (List.mem_map_of_mem hmem)
          have hother := hready.isCached_bring_of_ne hname (hrest _ hturn)
            fun heq => hfirst (heq ▸ List.mem_map_of_mem hturn)
          rw [hbring] at hother
          exact (ih (hready.of_runs hruns) hrest hdistinct turn hmem).trans hother

/-! ## The whole fetch -/

/-- The world in which the descriptor is read. -/
def afterDescriptor (f : Fetcher σ) (id : ModuleId) (w : World σ) : World σ :=
  (f.bring id Layout.descriptorName w).2

theorem fetchTurns_of_error {e : LoadError}
    (hbring : f.bring id Layout.descriptorName w = (.error e, v)) :
    f.fetchTurns id w = [⟨Layout.descriptorName, w⟩] := by
  unfold fetchTurns
  rw [hbring]

theorem fetchTurns_of_absent {outcome : Outcome}
    (hbring : f.bring id Layout.descriptorName w = (.ok outcome, v))
    (hsource : outcome.source? = none) :
    f.fetchTurns id w = [⟨Layout.descriptorName, w⟩] := by
  unfold fetchTurns
  rw [hbring]
  dsimp only
  rw [hsource]

theorem fetchTurns_of_unreadable {outcome : Outcome} {e : LoadError}
    (hbring : f.bring id Layout.descriptorName w = (.ok outcome, v))
    (hread : f.readDescriptor id v.tree = .error e) :
    f.fetchTurns id w = [⟨Layout.descriptorName, w⟩] := by
  unfold fetchTurns
  rw [hbring]
  dsimp only
  rw [hread]
  cases outcome.source? <;> rfl

theorem fetchTurns_of_read {outcome : Outcome} {source : DescriptorSource} {paths : List String}
    (hbring : f.bring id Layout.descriptorName w = (.ok outcome, v))
    (hsource : outcome.source? = some source) (hread : f.readDescriptor id v.tree = .ok paths) :
    f.fetchTurns id w =
      ⟨Layout.descriptorName, w⟩ :: f.turns id (Layout.artifacts paths) v := by
  unfold fetchTurns
  rw [hbring]
  dsimp only
  rw [hsource, hread]

/-- What is requested if nothing but the descriptor has its turn. -/
theorem requests_of_alone {result : Except LoadError Outcome}
    (hbring : f.bring id Layout.descriptorName w = (result, v))
    (halone : f.fetchTurns id w = [⟨Layout.descriptorName, w⟩]) :
    v.requests = w.requests ++ f.requested id (f.fetchTurns id w) := by
  have hrequests := requests_bring f id Layout.descriptorName w
  have hnone : f.requested id ([] : List (Turn σ)) = [] := rfl
  rw [hbring] at hrequests
  rw [halone, requested_cons, hnone, List.append_nil, hrequests]

/-- What is requested behind the descriptor is what is requested for the row. -/
theorem requests_of_read {outcome : Outcome} {source : DescriptorSource} {paths : List String}
    (hbring : f.bring id Layout.descriptorName w = (.ok outcome, v))
    (hsource : outcome.source? = some source) (hread : f.readDescriptor id v.tree = .ok paths) :
    (f.bringAll id (Layout.artifacts paths) v).2.requests =
      w.requests ++ f.requested id (f.fetchTurns id w) := by
  have hrequests := requests_bring f id Layout.descriptorName w
  rw [hbring] at hrequests
  rw [fetchTurns_of_read hbring hsource hread, requested_cons, ← List.append_assoc, ← hrequests,
    requests_bringAll]

/-- **What a fetch requests.** -/
theorem requests_fetch (w : World σ) :
    (f.fetch id w).2.requests = w.requests ++ f.requested id (f.fetchTurns id w) := by
  obtain ⟨u, hcourse, hsame⟩ := course_fetch f id w
  rw [hsame.requests]
  generalize (f.fetch id w).1 = result at hcourse
  cases hcourse with
  | failed hbring => exact requests_of_alone hbring (fetchTurns_of_error hbring)
  | absent hbring hsource => exact requests_of_alone hbring (fetchTurns_of_absent hbring hsource)
  | unreadable hbring _ hread =>
      exact requests_of_alone hbring (fetchTurns_of_unreadable hbring hread)
  | brokenOff hbring hsource hread hall =>
      have hrow := requests_of_read hbring hsource hread
      rwa [hall] at hrow
  | complete hbring hsource hread hall =>
      have hrow := requests_of_read hbring hsource hread
      rwa [hall] at hrow

/-- **The turns come in the order of the descriptor.** -/
theorem names_fetchTurns (w : World σ) :
    (f.fetchTurns id w).map (·.name) = [Layout.descriptorName] ∨
      ∃ paths, f.readDescriptor id (f.afterDescriptor id w).tree = .ok paths ∧
        (f.fetchTurns id w).map (·.name) <+: Layout.descriptorName :: Layout.artifacts paths := by
  have hread : ∀ {outcome source v paths},
      f.bring id Layout.descriptorName w = (.ok outcome, v) →
      outcome.source? = some source → f.readDescriptor id v.tree = .ok paths →
      f.readDescriptor id (f.afterDescriptor id w).tree = .ok paths ∧
        (f.fetchTurns id w).map (·.name) <+: Layout.descriptorName :: Layout.artifacts paths := by
    intro outcome source v paths hbring hsource hread
    rw [afterDescriptor, hbring, fetchTurns_of_read hbring hsource hread]
    exact ⟨hread, (List.prefix_cons_inj _).mpr (names_turns _ v)⟩
  obtain ⟨u, hcourse, -⟩ := course_fetch f id w
  generalize (f.fetch id w).1 = result at hcourse
  cases hcourse with
  | failed hbring => exact .inl (by rw [fetchTurns_of_error hbring]; rfl)
  | absent hbring hsource => exact .inl (by rw [fetchTurns_of_absent hbring hsource]; rfl)
  | unreadable hbring _ hread => exact .inl (by rw [fetchTurns_of_unreadable hbring hread]; rfl)
  | brokenOff hbring hsource hread' => exact .inr ⟨_, hread hbring hsource hread'⟩
  | complete hbring hsource hread' => exact .inr ⟨_, hread hbring hsource hread'⟩

/-- **An error ends the turns**: it comes from the last artifact, or the descriptor cannot be
read. -/
theorem last_turn_of_fetch {e : LoadError} (h : (f.fetch id w).1 = .error e) :
    (∃ before last, f.fetchTurns id w = before ++ [last] ∧
      (f.bring id last.name last.world).1 = .error e) ∨
    (f.fetchTurns id w).map (·.name) = [Layout.descriptorName] ∧
      f.readDescriptor id (f.afterDescriptor id w).tree = .error e := by
  obtain ⟨u, hcourse, -⟩ := course_fetch f id w
  rw [h] at hcourse
  cases hcourse with
  | failed hbring =>
      exact .inl ⟨[], _, fetchTurns_of_error hbring, by rw [hbring]⟩
  | unreadable hbring _ hread =>
      exact .inr ⟨by rw [fetchTurns_of_unreadable hbring hread]; rfl,
        by rw [afterDescriptor, hbring]; exact hread⟩
  | brokenOff hbring hsource hread hall =>
      obtain ⟨before, last, hturns, hlast⟩ := last_turn_of_bringAll hall
      exact .inl ⟨_ :: before, last,
        by rw [fetchTurns_of_read hbring hsource hread, hturns]; rfl, hlast⟩

theorem turns_of_none (h : (f.fetch id w).1 = .ok none) :
    (f.fetchTurns id w).map (·.name) = [Layout.descriptorName] := by
  obtain ⟨u, hcourse, -⟩ := course_fetch f id w
  rw [h] at hcourse
  cases hcourse with | absent hbring hsource =>
  rw [fetchTurns_of_absent hbring hsource]
  rfl

/-- **A report lists what the descriptor declares**, and all of it has had its turn. -/
theorem turns_of_report {report : Report} (h : (f.fetch id w).1 = .ok (some report)) :
    f.readDescriptor id (f.afterDescriptor id w).tree = .ok (report.resources.map (·.path)) ∧
    (f.fetchTurns id w).map (·.name) =
      Layout.descriptorName :: Layout.artifacts (report.resources.map (·.path)) := by
  obtain ⟨u, hcourse, -⟩ := course_fetch f id w
  rw [h] at hcourse
  cases hcourse with
  | @complete outcome source v paths outcomes _ hbring hsource hread hall =>
  obtain ⟨hturns, houtcomes⟩ := turns_of_bringAll hall
  rw [(entries_of_forall₂ houtcomes).1, afterDescriptor, hbring,
    fetchTurns_of_read hbring hsource hread]
  exact ⟨hread, congrArg _ hturns⟩

/-- The resources that the parser finds in the bytes of the descriptor on disk. -/
def Declares (f : Fetcher σ) (id : ModuleId) (t : FileTree) (paths : List String) : Prop :=
  ∃ content, t.openFile (f.artifactPath id Layout.descriptorName) = .ok (.ofBytes content) ∧
    f.parser (.ofBytes content) = .ok paths

theorem parser_of_readDescriptor {t : FileTree} {content : List UInt8} {paths : List String}
    (hopen : t.openFile (f.artifactPath id Layout.descriptorName) = .ok (.ofBytes content))
    (hread : f.readDescriptor id t = .ok paths) : f.parser (.ofBytes content) = .ok paths := by
  unfold readDescriptor at hread
  extract_lets path at hread
  rw [show t.openFile path = .ok (.ofBytes content) from hopen] at hread
  dsimp only at hread
  split at hread
  · cases hread
  next hparser =>
    cases hread
    exact hparser

/-- An outcome that the cache before the fetch decides, or else the answer that the repository
gave when it was the turn of the artifact. -/
def OwnOutcome (f : Fetcher σ) (id : ModuleId) (w : World σ) (name : String) (outcome : Outcome) :
    Prop :=
  if f.isCached id name w then outcome = .cached
  else ∃ turn ∈ f.fetchTurns id w, turn.name = name ∧
    outcome = .ofAnswer (f.answer id name turn.world)

/-- If no two artifacts lie at the same place, each has an outcome of its own. -/
theorem ownOutcome_of_read (hready : f.Ready id w) {outcome : Outcome}
    {source : DescriptorSource} {paths : List String} {outcomes : List Outcome}
    (hbring : f.bring id Layout.descriptorName w = (.ok outcome, v))
    (hsource : outcome.source? = some source) (hread : f.readDescriptor id v.tree = .ok paths)
    (hall : f.bringAll id (Layout.artifacts paths) v = (.ok outcomes, u))
    (hdistinct : ((Layout.descriptorName :: Layout.artifacts paths).map
      Layout.normalNames).Nodup) :
    List.Forall₂ (f.OwnOutcome id w) (Layout.artifacts paths) outcomes := by
  have hnames := Layout.isContained_of_mem_artifacts paths
  obtain ⟨hdescriptor, hdistinct⟩ := List.nodup_cons.mp hdistinct
  have hready' := (ready_of_descriptor hready.calm hready.rooted hbring hsource).2
  -- Neither the descriptor nor the artifacts before it have brought an artifact into the cache.
  have hbefore : ∀ turn ∈ f.turns id (Layout.artifacts paths) v,
      f.isCached id turn.name turn.world = f.isCached id turn.name w := by
    intro turn hmem
    have hturn : turn.name ∈ Layout.artifacts paths :=
      (names_turns _ v).subset (List.mem_map_of_mem hmem)
    have hother := hready.isCached_bring_of_ne Layout.isContained_descriptorName
      (hnames _ hturn) fun heq => hdescriptor (heq ▸ List.mem_map_of_mem hturn)
    rw [hbring] at hother
    exact (isCached_at_turn hready' hnames hdistinct turn hmem).trans hother
  refine (turns_of_bringAll hall).2.imp fun name own hturn => ?_
  obtain ⟨turn, hmem, rfl, hresult⟩ := hturn
  have hbring' : f.bring id turn.name turn.world =
      (.ok own, (f.bring id turn.name turn.world).2) := Prod.ext hresult rfl
  unfold OwnOutcome
  rw [← hbefore turn hmem]
  rcases bring_eq_ok hbring' with ⟨hcached, hown, -⟩ | ⟨hmissing, hown⟩
  · rwa [if_pos hcached]
  · rw [if_neg (by simp [hmissing]), fetchTurns_of_read hbring hsource hread]
    exact ⟨turn, List.mem_cons_of_mem _ hmem, rfl, hown⟩

/-- The resources of a report are those that the descriptor on disk declares. -/
theorem declares_of_fetch (h : f.Calm w) (ht : w.tree.Rooted) {report : Report}
    (hfetch : (f.fetch id w).1 = .ok (some report)) :
    f.Declares id (f.fetch id w).2.tree (report.resources.map (·.path)) := by
  obtain ⟨u, hcourse, hsame⟩ := course_fetch f id w
  rw [hfetch] at hcourse
  cases hcourse with
  | @complete outcome source v paths outcomes _ hbring hsource hread hall =>
  obtain ⟨hcached, hready⟩ := ready_of_descriptor h ht hbring hsource
  have hruns := runs_bringAll f id (Layout.isContained_of_mem_artifacts paths) v
  rw [hall] at hruns
  obtain ⟨content, hopen, hopen'⟩ := hready.openFile_of_runs hruns hcached
  rw [(entries_of_forall₂ (turns_of_bringAll hall).2).1, hsame.tree]
  exact ⟨content, hopen', parser_of_readDescriptor hopen hread⟩

/-- If no two artifacts lie at the same place, the entries of a report have outcomes of their
own. -/
theorem ownOutcomes_of_fetch (hready : f.Ready id w) {report : Report}
    (h : (f.fetch id w).1 = .ok (some report))
    (hdistinct : ((Layout.descriptorName :: Layout.artifacts (report.resources.map (·.path))).map
      Layout.normalNames).Nodup) :
    ∀ entry ∈ report.resources, EntryOf (f.OwnOutcome id w) entry := by
  obtain ⟨u, hcourse, -⟩ := course_fetch f id w
  rw [h] at hcourse
  cases hcourse with
  | complete hbring hsource hread hall =>
  rw [(entries_of_forall₂ (turns_of_bringAll hall).2).1] at hdistinct
  exact (entries_of_forall₂
    (ownOutcome_of_read hready hbring hsource hread hall hdistinct)).2

/-- **A fetch goes through the artifacts in the order of the descriptor, and each has an outcome
of its own.** The descriptor has its turn first, then each contained resource and its index. What
is missing at its turn is requested, and nothing else. An error ends the turns, and it comes from
the last one or from reading the descriptor. The report lists the resources that the parser finds
in the descriptor, all of them and in their order. The parser is any that reads the stream alone.

In a tree without links, and with readers that leave the tree alone, these are the bytes that are
on disk. If, moreover, no two artifacts of a plain module lie at the same place, then a resource
or index is rejected if the resource is not contained, it is cached if it was there before the
fetch, and otherwise it is what the repository answered to its own request. -/
theorem fetch_in_order (f : Fetcher σ) (id : ModuleId) (w : World σ) (hid : id.IsPlain)
    (hroot : ".." ∉ f.store.root.names) (hlinks : w.tree.LinkFree) (ht : w.tree.Rooted) :
    let turns := f.fetchTurns id w
    let read := f.readDescriptor id (f.afterDescriptor id w).tree
    (f.fetch id w).2.requests = w.requests ++ f.requested id turns ∧
    (turns.map (·.name) = [Layout.descriptorName] ∨ ∃ paths, read = .ok paths ∧
      turns.map (·.name) <+: Layout.descriptorName :: Layout.artifacts paths) ∧
    (∀ e, (f.fetch id w).1 = .error e →
      (∃ before last, turns = before ++ [last] ∧
        (f.bring id last.name last.world).1 = .error e) ∨
      turns.map (·.name) = [Layout.descriptorName] ∧ read = .error e) ∧
    ((f.fetch id w).1 = .ok none → turns.map (·.name) = [Layout.descriptorName]) ∧
    ∀ report, (f.fetch id w).1 = .ok (some report) →
      let paths := report.resources.map (·.path)
      read = .ok paths ∧
      turns.map (·.name) = Layout.descriptorName :: Layout.artifacts paths ∧
      (f.repository.LeavesFiles w.repository →
        f.Declares id (f.fetch id w).2.tree paths ∧
        (((Layout.descriptorName :: Layout.artifacts paths).map Layout.normalNames).Nodup →
          ∀ entry ∈ report.resources, EntryOf (f.OwnOutcome id w) entry)) := by
  refine ⟨requests_fetch w, names_fetchTurns w, fun e => last_turn_of_fetch, turns_of_none,
    fun report hreport => ?_⟩
  obtain ⟨hread, hturns⟩ := turns_of_report hreport
  refine ⟨hread, hturns, fun hreaders => ?_⟩
  have hcalm : f.Calm w := ⟨hlinks, hreaders⟩
  exact ⟨declares_of_fetch hcalm ht hreport,
    ownOutcomes_of_fetch (ready_of_isPlain hid hroot hcalm ht) hreport⟩

/-- Each artifact of the sample module has an outcome of its own. -/
theorem fetch_in_order_of_pair :
    let w : World MemoryRepository := ⟨.empty, pairResources (.ofBytes [1]) (.ofBytes [2]), [], []⟩
    pairModule.IsPlain ∧ ".." ∉ pair.store.root.names ∧ w.tree.LinkFree ∧ w.tree.Rooted ∧
    pair.repository.LeavesFiles w.repository ∧
    ∃ report, (pair.fetch pairModule w).1 = .ok (some report) ∧
      report.resources.map (·.path) = ["x", "y"] ∧
      ∀ entry ∈ report.resources, EntryOf (pair.OwnOutcome pairModule w) entry := by
  intro w
  have hid : pairModule.IsPlain := by decide
  have hroot : ".." ∉ pair.store.root.names := by decide
  have hreaders : pair.repository.LeavesFiles w.repository := leavesFiles_pairResources rfl rfl
  have hreport : (pair.fetch pairModule w).1 = .ok (some ⟨pairModule, .fetched,
      [⟨"x", .fetched, .notFound⟩, ⟨"y", .fetched, .notFound⟩]⟩) := by decide +kernel
  obtain ⟨-, -, -, -, horder⟩ :=
    fetch_in_order pair pairModule w hid hroot linkFree_empty rooted_empty
  obtain ⟨-, -, houtcomes⟩ := horder _ hreport
  exact ⟨hid, hroot, linkFree_empty, rooted_empty, hreaders, _, hreport, rfl,
    (houtcomes hreaders).2 (by decide +kernel)⟩

/-- A cache that has one resource of the module and nothing else. -/
def cacheOfX : FileTree :=
  (((FileTree.empty.insert ["c"] .directory).insert ["c", "m"] .directory).insert
    ["c", "m", "main"] .directory).insert ["c", "m", "main", "x"] (.file [1])

theorem linkFree_cacheOfX : cacheOfX.LinkFree :=
  (((linkFree_empty.insert (by decide) Entry.directory_ne_link).insert (by decide)
    Entry.directory_ne_link).insert (by decide) Entry.directory_ne_link).insert (by decide)
      (Entry.file_ne_link _)

theorem rooted_cacheOfX : cacheOfX.Rooted := by
  have hc : Rooted (FileTree.empty.insert ([] ++ ["c"]) .directory) :=
    rooted_empty.insert (by decide) (.inl rfl)
  have hm : Rooted (insert _ (["c"] ++ ["m"]) .directory) :=
    hc.insert (by decide +kernel) (.inl rfl)
  have hmain : Rooted (insert _ (["c", "m"] ++ ["main"]) .directory) :=
    hm.insert (by decide +kernel) (.inl rfl)
  have hx : Rooted (insert _ (["c", "m", "main"] ++ ["x"]) (.file [1])) :=
    hmain.insert (by decide +kernel) (.inr (by decide +kernel))
  exact hx

/-- **A reader that touches the tree spoils this.** The reader of `y` removes `x`, which was in the
cache before the fetch and whose turn comes later. -/
theorem outcome_changed_by_releasing_reader :
    let f := pair.withParser fun _ => .ok ["y", "x"]
    let y := releasing "x" [.data [2]]
    let w : World MemoryRepository := ⟨cacheOfX, pairResources (.ofBytes [1]) y, [], []⟩
    let paths := ["y", "x"]
    pairModule.IsPlain ∧ ".." ∉ f.store.root.names ∧ w.tree.LinkFree ∧ w.tree.Rooted ∧
    ((Layout.descriptorName :: Layout.artifacts paths).map Layout.normalNames).Nodup ∧
    ∃ report, (f.fetch pairModule w).1 = .ok (some report) ∧
      report.resources.map (·.path) = paths ∧
      ¬ ∀ entry ∈ report.resources, EntryOf (f.OwnOutcome pairModule w) entry := by
  intro f y w paths
  have hcached : f.isCached pairModule "x" w = true := by decide +kernel
  refine ⟨by decide, by decide, linkFree_cacheOfX, rooted_cacheOfX, by decide +kernel,
    ⟨pairModule, .fetched, [⟨"y", .fetched, .notFound⟩, ⟨"x", .fetched, .notFound⟩]⟩,
    by decide +kernel, rfl, fun hentries => ?_⟩
  have hentry := hentries ⟨"x", .fetched, .notFound⟩ (by simp)
  cases hentry with | brought _ hresource _ =>
  rw [OwnOutcome, if_pos hcached] at hresource
  cases hresource

end Fetcher
end ModuleDepot
