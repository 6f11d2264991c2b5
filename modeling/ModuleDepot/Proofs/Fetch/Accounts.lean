import Mathlib.Data.Set.Card
import ModuleDepot.Proofs.Fetch.Order
import ModuleDepot.Proofs.Fetch.Repeat

/-! # The accounts of a fetch

What a report counts is what happened (`fetch_accounts`): the downloads are the requests that were
answered with content, whatever the tree and the readers are. `Accounts` says so between two worlds,
and accounts add up (`Accounts.trans`).

Where the readers leave the tree alone, just as many places hold a file that held none before
(`newFiles_of_fetch`), and what the report calls available is there. Duplicates, aliases and indexes
that are declared as resources as well are neither counted twice nor lost, because each of them has
its turn in the tree that the others left.

A reader that removes a file which the fetch has already counted spoils the second part
(`complete_without_resource_of_releasing_reader`).
-/

namespace ModuleDepot

variable {σ : Type}

namespace Repository

/-- The answers to requests, one after the other. -/
def answers (r : Repository σ) (s : σ) : List Request → List Answer
  | [] => []
  | request :: rest => (r.fetch s request).1 :: r.answers (r.fetch s request).2.1 rest

theorem answers_append (r : Repository σ) (s : σ) (first second : List Request) :
    r.answers s (first ++ second) =
      r.answers s first ++ r.answers (r.stateAfter s first) second := by
  induction first generalizing s with
  | nil => rfl
  | cons request rest ih => exact congrArg ((r.fetch s request).1 :: ·) (ih _)

theorem stateAfter_append (r : Repository σ) (s : σ) (first second : List Request) :
    r.stateAfter s (first ++ second) = r.stateAfter (r.stateAfter s first) second :=
  List.foldl_append

end Repository

namespace FileTree

variable {t s u : FileTree}

/-- The places that hold a file in the second tree and held none in the first. -/
def newFiles (t u : FileTree) : Set Location :=
  {loc | (∃ content, u.lookup loc = some (.file content)) ∧
    ∀ content, t.lookup loc ≠ some (.file content)}

/-- Files are files later on. -/
def KeepsFiles (t u : FileTree) : Prop :=
  ∀ {loc content}, t.lookup loc = some (.file content) →
    ∃ content', u.lookup loc = some (.file content')

theorem newFiles_self (t : FileTree) : newFiles t t = ∅ :=
  Set.eq_empty_iff_forall_notMem.mpr fun _ ⟨⟨content, hfile⟩, hno⟩ => hno content hfile

/-- **New files add up.** -/
theorem encard_newFiles (h : KeepsFiles t s) (h' : KeepsFiles s u) :
    (newFiles t u).encard = (newFiles t s).encard + (newFiles s u).encard := by
  have hunion : newFiles t u = newFiles t s ∪ newFiles s u := by
    ext loc
    constructor
    · rintro ⟨hfile, hno⟩
      by_cases hs : ∃ content, s.lookup loc = some (.file content)
      · exact .inl ⟨hs, hno⟩
      · exact .inr ⟨hfile, not_exists.mp hs⟩
    · rintro (⟨⟨content, hfile⟩, hno⟩ | ⟨hfile, hno⟩)
      · exact ⟨h' hfile, hno⟩
      · refine ⟨hfile, fun content hold => ?_⟩
        obtain ⟨content', hs⟩ := h hold
        exact hno content' hs
  have hdisjoint : Disjoint (newFiles t s) (newFiles s u) :=
    Set.disjoint_left.mpr fun _ ⟨⟨content, hfile⟩, _⟩ ⟨_, hno⟩ => hno content hfile
  rw [hunion, Set.encard_union_eq hdisjoint]

end FileTree

open FileTree

/-- **A write that succeeds makes exactly one file**, if the artifact was missing. -/
theorem Store.exists_newFiles_write {store : Store} {t : FileTree} {stream : ByteStream}
    {name path : Path} (hreleases : stream.releases = none) (ht : Rooted t)
    (hdots : ".." ∉ (store.path name).names) (hmissing : store.has t name = false)
    (hok : (store.write t stream name).result = .ok path) :
    ∃ loc, newFiles t (store.write t stream name).tree = {loc} := by
  have hgrows := (makes_prepared store t name).grows
  rcases write_cases store t stream name with ⟨e, herror, -⟩ | ⟨content, s, hstores, -, htree⟩
  · cases hok.symm.trans herror
  refine ⟨s.location, Set.ext fun loc => ?_⟩
  rw [htree, release_of_none hreleases, Set.mem_singleton_iff]
  constructor
  · rintro ⟨⟨content', hfile⟩, hno⟩
    rw [lookup_insert _ s.location_ne_nil] at hfile
    split at hfile
    next heq => exact heq.symm
    next => exact absurd (hgrows.lookup_file_iff.mp hfile) (hno content')
  · rintro rfl
    exact ⟨⟨content, by rw [lookup_insert _ s.location_ne_nil, if_pos rfl]⟩,
      hstores.ne_file ht hdots hmissing⟩

/-! ## Figures of a report -/

/-- Whether an artifact with this outcome was requested. -/
def Outcome.isRequested : Outcome → Bool
  | .fetched | .notFound | .unavailable _ => true
  | .cached | .rejected => false

/-- The outcomes of the resources and of their indexes. -/
def outcomesOf (entries : List ResourceReport) : List Outcome :=
  entries.flatMap fun entry => [entry.resource, entry.index]

theorem outcomesOf_cons (entry : ResourceReport) (rest : List ResourceReport) :
    outcomesOf (entry :: rest) = entry.resource :: entry.index :: outcomesOf rest := rfl

theorem Report.downloads_eq (report : Report) :
    report.downloads = (if report.descriptor = .fetched then 1 else 0) +
      (outcomesOf report.resources).countP (· = .fetched) := by
  have hresources : ∀ entries : List ResourceReport,
      (entries.map (·.downloads)).foldr (· + ·) 0 = (outcomesOf entries).countP (· = .fetched) := by
    intro entries
    induction entries with
    | nil => rfl
    | cons entry rest ih =>
        rw [List.map_cons, List.foldr_cons, ih, outcomesOf_cons, List.countP_cons, List.countP_cons]
        simp only [ResourceReport.downloads, ResourceReport.countDownload, decide_eq_true_eq]
        omega
  rw [Report.downloads, hresources]

namespace Fetcher

variable {f : Fetcher σ} {id : ModuleId} {w v u : World σ} {name : String}

/-- The outcomes in a report are those of the artifacts, besides the rejections. -/
theorem countP_outcomesOf_entries {P : Outcome → Bool} (hP : P .rejected = false)
    {paths : List String} {outcomes : List Outcome}
    (h : outcomes.length = (Layout.artifacts paths).length) :
    (outcomesOf (entries paths outcomes)).countP P = outcomes.countP P := by
  induction paths generalizing outcomes with
  | nil =>
      obtain rfl : outcomes = [] := List.eq_nil_of_length_eq_zero h
      rfl
  | cons path rest ih =>
      cases hcontained : Layout.isContained path with
      | false =>
          rw [Layout.artifacts_of_rejected hcontained] at h
          rw [entries_of_rejected hcontained, outcomesOf_cons, List.countP_cons, List.countP_cons,
            ih h]
          simp [hP]
      | true =>
          rw [Layout.artifacts_of_contained hcontained] at h
          match outcomes, h with
          | resource :: index :: others, h =>
              have hlength : others.length = (Layout.artifacts rest).length := by simpa using h
              have hothers := ih hlength
              rw [entries_of_contained hcontained, outcomesOf_cons, List.countP_cons,
                List.countP_cons, hothers, List.countP_cons, List.countP_cons]

/-! ## Accounts between two worlds -/

/-- What was requested between two worlds, and how many of these requests were answered with
content. -/
structure Accounts (f : Fetcher σ) (w w' : World σ) (new : List Request) (found : Nat) :
    Prop where
  requests : w'.requests = w.requests ++ new
  repository : w'.repository = f.repository.stateAfter w.repository new
  answers : (f.repository.answers w.repository new).countP Answer.isFound = found

theorem Accounts.refl (w : World σ) : f.Accounts w w [] 0 :=
  ⟨(List.append_nil _).symm, rfl, rfl⟩

/-- **Accounts add up.** -/
theorem Accounts.trans {new new' : List Request} {found found' : Nat}
    (h : f.Accounts w v new found) (h' : f.Accounts v u new' found') :
    f.Accounts w u (new ++ new') (found + found') where
  requests := by rw [h'.requests, h.requests, List.append_assoc]
  repository := by rw [h'.repository, h.repository, Repository.stateAfter_append]
  answers := by
    rw [Repository.answers_append, List.countP_append, h.answers, ← h.repository, h'.answers]

theorem Accounts.of_sameButLog {new : List Request} {found : Nat} (h : f.Accounts w v new found)
    (hsame : u.SameButLog v) : f.Accounts w u new found :=
  ⟨hsame.requests.trans h.requests, hsame.repository.trans h.repository, h.answers⟩

/-- **The accounts of one artifact**: its outcome tells whether it was requested, and whether there
was content. -/
theorem accounts_of_bring {outcome : Outcome} (hbring : f.bring id name w = (.ok outcome, v)) :
    ∃ new, f.Accounts w v new (if outcome = .fetched then 1 else 0) ∧
      new.length = if outcome.isRequested then 1 else 0 := by
  rcases bring_eq_ok hbring with ⟨-, rfl, rfl⟩ | ⟨hmissing, houtcome⟩
  · exact ⟨[], .refl _, rfl⟩
  have hrequests := requests_bring f id name w
  have hrepository := repository_bring_of_missing f id hmissing
  rw [hbring] at hrequests hrepository
  simp only [hmissing, Bool.false_eq_true, if_false] at hrequests
  refine ⟨[f.request id name], ⟨hrequests, hrepository, ?_⟩, ?_⟩
  · rw [houtcome, Repository.answers, Repository.answers]
    change [f.answer id name w].countP _ = _
    cases f.answer id name w <;> rfl
  · rw [houtcome]
    cases f.answer id name w <;> rfl

/-- **The accounts of a row.** -/
theorem accounts_of_bringAll {names : List String} {outcomes : List Outcome}
    (hall : f.bringAll id names w = (.ok outcomes, u)) :
    ∃ new, f.Accounts w u new (outcomes.countP (· = .fetched)) ∧
      new.length = outcomes.countP Outcome.isRequested := by
  induction names generalizing w outcomes with
  | nil =>
      cases hall
      exact ⟨[], .refl _, rfl⟩
  | cons name rest ih =>
      obtain ⟨outcome, others, v, hbring, hothers, rfl⟩ := bringAll_cons_eq_ok hall
      obtain ⟨new, haccounts, hlength⟩ := accounts_of_bring hbring
      obtain ⟨new', haccounts', hlength'⟩ := ih hothers
      refine ⟨new ++ new', ?_, ?_⟩
      · rw [List.countP_cons, Nat.add_comm]
        simpa only [decide_eq_true_eq] using haccounts.trans haccounts'
      · rw [List.length_append, hlength, hlength', List.countP_cons, Nat.add_comm]

/-- The descriptor was requested, and content was found for it, if that is its source. -/
theorem figures_of_source? {outcome : Outcome} {source : DescriptorSource}
    (h : outcome.source? = some source) :
    (if outcome = .fetched then 1 else 0) = (if source = .fetched then 1 else 0) ∧
      (if outcome.isRequested then 1 else 0) = if source = .fetched then 1 else 0 := by
  cases outcome <;> cases h <;> exact ⟨rfl, rfl⟩

/-- The accounts of a whole fetch. -/
theorem accounts_of_fetch {report : Report} (h : (f.fetch id w).1 = .ok (some report)) :
    ∃ new, f.Accounts w (f.fetch id w).2 new report.downloads ∧
      new.length = (if report.descriptor = .fetched then 1 else 0) +
        (outcomesOf report.resources).countP Outcome.isRequested := by
  obtain ⟨end', hcourse, hsame⟩ := course_fetch f id w
  rw [h] at hcourse
  cases hcourse with
  | @complete outcome source v paths outcomes _ hbring hsource hread hall =>
  obtain ⟨new, haccounts, hlength⟩ := accounts_of_bring hbring
  obtain ⟨new', haccounts', hlength'⟩ := accounts_of_bringAll hall
  have houtcomes := (turns_of_bringAll hall).2.length_eq.symm
  obtain ⟨hfound, hrequested⟩ := figures_of_source? hsource
  refine ⟨new ++ new', ?_, ?_⟩
  · rw [Report.downloads_eq, countP_outcomesOf_entries rfl houtcomes, ← hfound]
    exact (haccounts.trans haccounts').of_sameButLog hsame
  · rw [List.length_append, hlength, hlength', countP_outcomesOf_entries rfl houtcomes, hrequested]

/-! ## New files -/

theorem Ready.keepsFiles (h : f.Ready id w) (hruns : f.Runs id w v) :
    KeepsFiles w.tree v.tree :=
  fun hfile => ⟨_, h.lookup_of_runs hruns hfile⟩

/-- An artifact that was fetched is one file more. -/
theorem newFiles_of_bring (hid : id.IsPlain) (hroot : ".." ∉ f.store.root.names)
    (hready : f.Ready id w) (hname : Layout.isContained name = true) {outcome : Outcome}
    (hbring : f.bring id name w = (.ok outcome, v)) :
    (newFiles w.tree v.tree).encard = (if outcome = .fetched then 1 else 0 : Nat) := by
  rcases bring_eq_ok hbring with ⟨-, rfl, rfl⟩ | ⟨hmissing, houtcome⟩
  · rw [newFiles_self, Set.encard_empty]
    rfl
  have htree := tree_bring f id name w
  have hresult := result_bring f id name w
  rw [hbring] at htree hresult
  by_cases hfound : ∃ stream, f.answer id name w = .found stream
  · obtain ⟨stream, hfound⟩ := hfound
    rw [hfound, Store.settle_of_found hmissing] at htree hresult
    cases hwrite : (f.store.write w.tree stream (Layout.file id name)).result with
    | error e =>
        rw [hwrite] at hresult
        cases hresult
    | ok path =>
        obtain ⟨loc, hnew⟩ := Store.exists_newFiles_write
          (hready.calm.leavesFiles.now hfound) hready.rooted
          (not_mem_names_artifact hroot hid hname) hmissing hwrite
        rw [htree, hnew, Set.encard_singleton, houtcome, hfound]
        rfl
  · have hanswer := not_exists.mp hfound
    rw [Store.settle_of_not_found hmissing hanswer] at htree
    have hfetched : outcome ≠ .fetched := by
      rw [houtcome]
      cases hans : f.answer id name w with
      | found stream => exact absurd hans (hanswer stream)
      | notFound => exact nofun
      | unavailable reason => exact nofun
    rw [htree, newFiles_self, Set.encard_empty, if_neg hfetched]
    rfl

/-- A row makes as many files as it has fetched artifacts. -/
theorem newFiles_of_bringAll (hid : id.IsPlain) (hroot : ".." ∉ f.store.root.names)
    (hready : f.Ready id w) {names : List String}
    (hnames : ∀ name ∈ names, Layout.isContained name = true) {outcomes : List Outcome}
    (hall : f.bringAll id names w = (.ok outcomes, u)) :
    (newFiles w.tree u.tree).encard = outcomes.countP (· = .fetched) := by
  induction names generalizing w outcomes with
  | nil =>
      cases hall
      rw [newFiles_self, Set.encard_empty]
      rfl
  | cons name rest ih =>
      obtain ⟨hname, hrest⟩ := List.forall_mem_cons.mp hnames
      obtain ⟨outcome, others, v, hbring, hothers, rfl⟩ := bringAll_cons_eq_ok hall
      have hruns := runs_bring f id hname w
      have hruns' := runs_bringAll f id hrest v
      rw [hbring] at hruns
      rw [hothers] at hruns'
      have hready' := hready.of_runs hruns
      rw [encard_newFiles (hready.keepsFiles hruns) (hready'.keepsFiles hruns'),
        newFiles_of_bring hid hroot hready hname hbring, ih hready' hrest hothers,
        List.countP_cons, Nat.add_comm (others.countP _), Nat.cast_add]
      simp only [decide_eq_true_eq]

/-- **A fetch makes as many files as its report counts downloads.** -/
theorem newFiles_of_fetch (hid : id.IsPlain) (hroot : ".." ∉ f.store.root.names)
    (hready : f.Ready id w) {report : Report} (h : (f.fetch id w).1 = .ok (some report)) :
    (newFiles w.tree (f.fetch id w).2.tree).encard = report.downloads := by
  obtain ⟨end', hcourse, hsame⟩ := course_fetch f id w
  rw [h] at hcourse
  cases hcourse with
  | @complete outcome source v paths outcomes _ hbring hsource hread hall =>
  have hcontained := Layout.isContained_of_mem_artifacts paths
  have hruns := runs_bring f id Layout.isContained_descriptorName w
  have hruns' := runs_bringAll f id hcontained v
  rw [hbring] at hruns
  rw [hall] at hruns'
  have hready' := hready.of_runs hruns
  have houtcomes := (turns_of_bringAll hall).2.length_eq.symm
  rw [hsame.tree, encard_newFiles (hready.keepsFiles hruns) (hready'.keepsFiles hruns'),
    newFiles_of_bring hid hroot hready Layout.isContained_descriptorName hbring,
    newFiles_of_bringAll hid hroot hready' hcontained hall, Report.downloads_eq,
    countP_outcomesOf_entries rfl houtcomes, (figures_of_source? hsource).1, Nat.cast_add]

/-- **A report accounts for its fetch.** Let a fetch end with a report, in any tree, with any
readers and with any parser that reads the stream alone. Of its requests as many were answered with
content as the report counts downloads. The descriptor was requested if it was fetched, and a
resource or index if it was fetched, not found or unavailable.

In a tree without links, and with readers that leave the tree alone, what is available is in the
cache, and so is everything that the descriptor declares if the report is complete. Of a plain
module below a root that does not climb, as many places as there were downloads hold a file that
held none. -/
theorem fetch_accounts (f : Fetcher σ) (id : ModuleId) (w : World σ) (report : Report)
    (h : (f.fetch id w).1 = .ok (some report)) :
    let w' := (f.fetch id w).2
    (∃ new, w'.requests = w.requests ++ new ∧
      (f.repository.answers w.repository new).countP Answer.isFound = report.downloads ∧
      new.length = (if report.descriptor = .fetched then 1 else 0) +
        (outcomesOf report.resources).countP Outcome.isRequested) ∧
    (w.tree.LinkFree → w.tree.Rooted → f.repository.LeavesFiles w.repository →
      (∀ entry ∈ report.resources,
        (entry.resource.isCached = true → f.isCached id entry.path w' = true) ∧
        (entry.index.isCached = true → f.isCached id (Layout.indexOf entry.path) w' = true)) ∧
      f.Declares id w'.tree (report.resources.map (·.path)) ∧
      (report.isComplete = true →
        ∀ entry ∈ report.resources, f.isCached id entry.path w' = true) ∧
      (id.IsPlain → ".." ∉ f.store.root.names →
        (newFiles w.tree w'.tree).encard = report.downloads)) := by
  intro w'
  obtain ⟨new, haccounts, hlength⟩ := accounts_of_fetch h
  refine ⟨⟨new, haccounts.requests, haccounts.answers, hlength⟩, fun hlinks ht hreaders => ?_⟩
  have hcalm : f.Calm w := ⟨hlinks, hreaders⟩
  obtain ⟨-, -, -, hentries⟩ := says_of_fetch hcalm ht h
  have havailable : ∀ entry ∈ report.resources,
      (entry.resource.isCached = true → f.isCached id entry.path w' = true) ∧
      (entry.index.isCached = true →
        f.isCached id (Layout.indexOf entry.path) w' = true) := by
    intro entry hmem
    obtain ⟨hresource, hindex⟩ := (hentries entry hmem).of_available
    exact ⟨fun hc => (hresource hc).available hc, fun hc => (hindex hc).available hc⟩
  refine ⟨havailable, declares_of_fetch hcalm ht h, fun hcomplete entry hmem => ?_,
    fun hid hroot => newFiles_of_fetch hid hroot (ready_of_isPlain hid hroot hcalm ht) h⟩
  refine (havailable entry hmem).1 ?_
  rw [Report.isComplete, List.isEmpty_iff, Report.missing, List.filter_eq_nil_iff] at hcomplete
  simpa [Outcome.isSkipped] using hcomplete entry hmem

/-- A resource that is declared twice under two names counts once, as do its new file and the answer
that had its content. -/
theorem fetch_accounts_of_alias :
    let f := pair.withParser fun _ => .ok ["x", "./x", "../y", "y"]
    let w : World MemoryRepository := ⟨.empty, pairResources (.ofBytes [1]) (.ofBytes [2]), [], []⟩
    pairModule.IsPlain ∧ ".." ∉ f.store.root.names ∧ w.tree.LinkFree ∧ w.tree.Rooted ∧
    f.repository.LeavesFiles w.repository ∧
    ∃ report, (f.fetch pairModule w).1 = .ok (some report) ∧ report.downloads = 3 ∧
      (newFiles w.tree (f.fetch pairModule w).2.tree).encard = 3 := by
  intro f w
  have hid : pairModule.IsPlain := by decide
  have hroot : ".." ∉ f.store.root.names := by decide
  have hreaders : f.repository.LeavesFiles w.repository := leavesFiles_pairResources rfl rfl
  have hreport : (f.fetch pairModule w).1 = .ok (some ⟨pairModule, .fetched,
      [⟨"x", .fetched, .notFound⟩, ⟨"./x", .cached, .notFound⟩, ⟨"../y", .rejected, .rejected⟩,
        ⟨"y", .fetched, .notFound⟩]⟩) := by decide +kernel
  obtain ⟨-, hthere⟩ := fetch_accounts f pairModule w _ hreport
  obtain ⟨-, -, -, hfiles⟩ := hthere linkFree_empty rooted_empty hreaders
  exact ⟨hid, hroot, linkFree_empty, rooted_empty, hreaders, _, hreport, rfl, hfiles hid hroot⟩

/-- **A reader that touches the tree spoils this.** The reader of the second resource removes the
first, and the report is complete without it. -/
theorem complete_without_resource_of_releasing_reader :
    let y := releasing "x" [.data [2]]
    let w : World MemoryRepository := ⟨.empty, pairResources (.ofBytes [1]) y, [], []⟩
    pairModule.IsPlain ∧ ".." ∉ pair.store.root.names ∧ w.tree.LinkFree ∧ w.tree.Rooted ∧
    (pair.fetch pairModule w).1 = .ok (some pairReport) ∧ pairReport.isComplete = true ∧
    ⟨"x", .fetched, .notFound⟩ ∈ pairReport.resources ∧
    pair.isCached pairModule "x" (pair.fetch pairModule w).2 = false :=
  ⟨by decide, by decide, linkFree_empty, rooted_empty, by decide +kernel, by decide, by decide,
    by decide +kernel⟩

end Fetcher
end ModuleDepot
