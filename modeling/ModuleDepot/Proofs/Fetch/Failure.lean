import ModuleDepot.Proofs.Fetch.Order
import ModuleDepot.Proofs.Store.Fault

/-! # Why a fetch fails

A fetch fails where an artifact cannot be stored or where the descriptor cannot be read, and
nothing is requested behind that (`failsAt_of_fetch`). The error tells what went wrong there
(`fetch_error_names_cause`): a stream broke, an artifact could not be put in its place, the
descriptor could not be opened, or the parser rejected it.

Disk and streams can be at fault at once and for several artifacts. What decides is the first of
them in the order of the steps, since each artifact is requested only if all before it are settled,
its directory is made before its stream is read, and its stream is read before it is moved.
-/

namespace ModuleDepot

open FileTree
open ModuleDepot.Path (undotted)

/-! ## One artifact -/

/-- An artifact fails if it is missing, a stream was found for it, and the stream cannot be
written. -/
theorem Store.settle_eq_error_iff {store : Store} {id : ModuleId} {name : String}
    {answer : Answer} {t : FileTree}
    (htext : (store.directoryOf (Layout.file id name)).text ≠ "") {e : LoadError} :
    (store.settle id name answer t).1 = .error e ↔
      store.has t (Layout.file id name) = false ∧ ∃ stream cause, answer = .found stream ∧
        Fault store t stream (Layout.file id name) cause ∧ e = .ofStore id cause := by
  cases hhas : store.has t (Layout.file id name) with
  | true => simp [settle_of_has hhas]
  | false =>
    by_cases hfound : ∃ stream, answer = .found stream
    · obtain ⟨stream, rfl⟩ := hfound
      rw [settle_of_found hhas]
      cases hresult : (store.write t stream (Layout.file id name)).result with
      | ok path =>
          refine ⟨nofun, ?_⟩
          rintro ⟨-, _, cause, hanswer, hfault, -⟩
          cases hanswer
          cases hresult.symm.trans ((write_eq_error_iff htext).mpr hfault)
      | error cause =>
          constructor
          · intro h
            cases h
            exact ⟨rfl, stream, cause, rfl, (write_eq_error_iff htext).mp hresult, rfl⟩
          · rintro ⟨-, _, cause', hanswer, hfault, rfl⟩
            cases hanswer
            cases hresult.symm.trans ((write_eq_error_iff htext).mpr hfault)
            rfl
    · rw [settle_of_not_found hhas (not_exists.mp hfound)]
      refine ⟨nofun, ?_⟩
      rintro ⟨-, stream, -, hanswer, -⟩
      exact absurd ⟨stream, hanswer⟩ hfound

namespace Fetcher

variable {σ : Type} {f : Fetcher σ} {id : ModuleId} {w : World σ} {e : LoadError}

theorem text_directoryOf_artifact (hroot : f.store.root.text ≠ "") (id : ModuleId) {name : String}
    (hname : Layout.isContained name = true) :
    (f.store.directoryOf (Layout.file id name)).text ≠ "" := by
  have hpath := Layout.isContainedPath hname
  have hnames : (Layout.file id name).names = (Layout.directory id).names ++ Path.names ⟨name⟩ :=
    Path.names_join hpath.relative
  refine Store.text_directoryOf_ne_empty hroot ?_
  rw [hnames, Path.undotted_append]
  exact List.append_ne_nil_of_right_ne_nil _ hpath.counts

/-- **Why an artifact fails.** -/
theorem bring_eq_error_iff (hroot : f.store.root.text ≠ "") {name : String}
    (hname : Layout.isContained name = true) :
    (f.bring id name w).1 = .error e ↔
      f.isCached id name w = false ∧ ∃ stream cause, f.answer id name w = .found stream ∧
        Store.Fault f.store w.tree stream (Layout.file id name) cause ∧ e = .ofStore id cause := by
  rw [result_bring]
  exact Store.settle_eq_error_iff (text_directoryOf_artifact hroot id hname)

/-! ## Where a fetch fails -/

/-- The artifact that a fetch requests last, and the world at its turn. -/
def lastRequested? (f : Fetcher σ) (id : ModuleId) (w : World σ) : Option (Turn σ) :=
  ((f.fetchTurns id w).filter fun turn => !f.isCached id turn.name turn.world).getLast?

/-- Nothing is requested but the descriptor, and that only if it is missing. -/
def RequestsDescriptorOnly (f : Fetcher σ) (id : ModuleId) (w : World σ) : Prop :=
  (f.fetch id w).2.requests = w.requests ++
    if f.isCached id Layout.descriptorName w then [] else [f.request id Layout.descriptorName]

/-- The descriptor was in the cache, or a stream was found for it and stored, and nothing else was
requested. -/
structure StopsAtDescriptor (f : Fetcher σ) (id : ModuleId) (w : World σ) : Prop where
  source : f.isCached id Layout.descriptorName w = true ∨ f.PersistsAt id Layout.descriptorName w
  only : f.RequestsDescriptorOnly id w

/-- Where a fetch fails: at an artifact, which is the last one that is requested, or in reading the
descriptor. -/
inductive FailsAt (f : Fetcher σ) (id : ModuleId) (w : World σ) (e : LoadError) : Prop
  | artifact (before : List (Turn σ)) (last : Turn σ) :
      f.fetchTurns id w = before ++ [last] → (f.bring id last.name last.world).1 = .error e →
      (f.fetch id w).2.requests =
        w.requests ++ (f.requested id before ++ [f.request id last.name]) → FailsAt f id w e
  | descriptor : f.fetchTurns id w = [⟨Layout.descriptorName, w⟩] → f.StopsAtDescriptor id w →
      f.readDescriptor id (f.fetch id w).2.tree = .error e → FailsAt f id w e

/-- Only a missing artifact fails. -/
theorem isCached_of_bring_error {name : String} (h : (f.bring id name w).1 = .error e) :
    f.isCached id name w = false := by
  cases hcached : f.isCached id name w with
  | true =>
      rw [bring_of_cached f id hcached] at h
      cases h
  | false => rfl

/-- A fetch goes on behind a descriptor that was in the cache or is stored. -/
theorem isCached_or_persistsAt_of_bring {outcome : Outcome} {source : DescriptorSource}
    {v : World σ} (hbring : f.bring id Layout.descriptorName w = (.ok outcome, v))
    (hsource : outcome.source? = some source) :
    f.isCached id Layout.descriptorName w = true ∨ f.PersistsAt id Layout.descriptorName w := by
  rcases bring_eq_ok hbring with ⟨hcached, -, -⟩ | ⟨-, rfl⟩
  · exact .inl hcached
  cases hanswer : f.answer id Layout.descriptorName w with
  | found stream =>
      rw [hanswer] at hbring
      exact .inr (persistsAt_of_bring Layout.isContained_descriptorName hbring).1
  | notFound | unavailable =>
      rw [hanswer] at hsource
      cases hsource

/-- A descriptor that fails was not in the cache and is not stored. -/
theorem StopsAtDescriptor.not_failed (h : f.StopsAtDescriptor id w) :
    (f.bring id Layout.descriptorName w).1 ≠ .error e := by
  intro hfailed
  have hmissing := isCached_of_bring_error hfailed
  rcases h.source with hcached | hstored
  · cases hmissing.symm.trans hcached
  · obtain ⟨stream, path, hfound, hok⟩ := hstored.stored
    rw [result_bring, hfound, Store.settle_of_found hmissing, hok] at hfailed
    cases hfailed

theorem requested_append (a b : List (Turn σ)) :
    f.requested id (a ++ b) = f.requested id a ++ f.requested id b := by
  rw [requested, List.filter_append, List.map_append]
  rfl

theorem isContained_of_mem_fetchTurns {turn : Turn σ} (h : turn ∈ f.fetchTurns id w) :
    Layout.isContained turn.name = true := by
  have hmem : turn.name ∈ (f.fetchTurns id w).map (·.name) := List.mem_map_of_mem h
  rcases names_fetchTurns w with halone | ⟨paths, -, hbegins⟩
  · rw [halone] at hmem
    rw [List.mem_singleton.mp hmem]
    exact Layout.isContained_descriptorName
  · rcases List.mem_cons.mp (hbegins.subset hmem) with heq | hmem
    · rw [heq]
      exact Layout.isContained_descriptorName
    · exact Layout.isContained_of_mem_artifacts paths _ hmem

/-- **Nothing is requested behind a failure.** -/
theorem failsAt_of_fetch (h : (f.fetch id w).1 = .error e) : f.FailsAt id w e := by
  have hrequests : (f.fetch id w).2.requests = w.requests ++ f.requested id (f.fetchTurns id w) :=
    requests_fetch w
  have hartifact : ∀ before last, f.fetchTurns id w = before ++ [last] →
      (f.bring id last.name last.world).1 = .error e → f.FailsAt id w e := by
    intro before last hturns hlast
    have hrequested : f.requested id [last] = [f.request id last.name] := by
      rw [requested_cons, isCached_of_bring_error hlast]
      rfl
    refine .artifact before last hturns hlast ?_
    rw [hrequests, hturns, requested_append, hrequested]
  obtain ⟨u, hcourse, hsame⟩ := course_fetch f id w
  rw [h] at hcourse
  cases hcourse with
  | failed hbring => exact hartifact [] _ (fetchTurns_of_error hbring) (by rw [hbring])
  | unreadable hbring hsource hread =>
      have hturns := fetchTurns_of_unreadable hbring hread
      rw [hturns, requested_cons] at hrequests
      refine .descriptor hturns ⟨isCached_or_persistsAt_of_bring hbring hsource, ?_⟩
        (by rw [hsame.tree, hread])
      rw [RequestsDescriptorOnly, hrequests]
      exact congrArg (w.requests ++ ·) (List.append_nil _)
  | brokenOff hbring hsource hread hall =>
      obtain ⟨before, last, hturns, hlast⟩ := last_turn_of_bringAll hall
      exact hartifact (_ :: before) last
        (by rw [fetchTurns_of_read hbring hsource hread, hturns]; rfl) hlast

/-- If nothing else is requested, the artifact that fails is the descriptor. -/
theorem eq_descriptor_of_requests {before : List (Turn σ)} {last : Turn σ}
    (hturns : f.fetchTurns id w = before ++ [last])
    (hrequests : (f.fetch id w).2.requests =
      w.requests ++ (f.requested id before ++ [f.request id last.name]))
    (honly : f.RequestsDescriptorOnly id w) : last = ⟨Layout.descriptorName, w⟩ := by
  obtain ⟨rest, hrest⟩ : ∃ rest, f.fetchTurns id w = ⟨Layout.descriptorName, w⟩ :: rest :=
    ⟨_, rfl⟩
  rw [hrest] at hturns
  cases before with
  | nil => exact (List.cons.inj hturns).1.symm
  | cons first before =>
      obtain ⟨rfl, -⟩ := List.cons.inj hturns
      rw [honly, requested_cons, List.append_assoc] at hrequests
      have hnothing := List.append_cancel_left hrequests
      rw [List.self_eq_append_right] at hnothing
      exact absurd hnothing (List.append_ne_nil_of_right_ne_nil _ (List.cons_ne_nil _ _))

/-! ## What the error says -/

/-- Whether the directory for an artifact can be made at its turn. -/
def directoryMade (f : Fetcher σ) (id : ModuleId) (turn : Turn σ) : Except IoError Unit :=
  (turn.world.tree.makeDirectories (f.store.directoryOf (Layout.file id turn.name))).2

/-- A stream was found for the artifact that is requested last, its directory could be made, and
then the stream broke. -/
def BreaksOff (f : Fetcher σ) (id : ModuleId) (w : World σ) (path : Path) (cause : IoError) :
    Prop :=
  ∃ turn stream, f.lastRequested? id w = some turn ∧
    f.answer id turn.name turn.world = .found stream ∧ f.directoryMade id turn = .ok () ∧
    stream.contents.2 = some cause ∧ path = f.artifactPath id turn.name

/-- A stream was found for the artifact that is requested last, and its directory could not be
made, without a look at the stream, or its whole content arrived and could not be moved into
place. -/
def CannotPlace (f : Fetcher σ) (id : ModuleId) (w : World σ) (cause : StoreError) : Prop :=
  ∃ turn stream, f.lastRequested? id w = some turn ∧
    f.answer id turn.name turn.world = .found stream ∧
    let t := turn.world.tree
    let place := Layout.file id turn.name
    let directory := f.store.directoryOf place
    ((∃ reason, f.directoryMade id turn = .error reason ∧
        cause = .createDirectory directory reason ∧
        ∀ other : ByteStream, other.releases = stream.releases →
          f.store.write t other place = f.store.write t stream place) ∨
      ∃ content gathered temporary reason, f.directoryMade id turn = .ok () ∧
        stream.contents = (content, none) ∧
        (f.store.prepared t place).makeTemporary directory = .ok (gathered, temporary) ∧
        (gathered.insert temporary (.file content)).moveFile temporary (f.store.path place) =
          .error reason ∧
        cause = .notWritten (f.store.path place) reason)

/-- The parser rejects what is read in the descriptor that is on disk after the fetch. -/
def Rejects (f : Fetcher σ) (id : ModuleId) (w : World σ) (error : DescriptorError) : Prop :=
  ∃ stream, (f.fetch id w).2.tree.openFile (f.artifactPath id Layout.descriptorName) =
    .ok stream ∧ f.parser stream = .error error

theorem readDescriptor_eq_error {t : FileTree} (h : f.readDescriptor id t = .error e) :
    (∃ cause, t.openFile (f.artifactPath id Layout.descriptorName) = .error cause ∧
      e = .unreadable id (f.artifactPath id Layout.descriptorName) cause) ∨
    ∃ stream error, t.openFile (f.artifactPath id Layout.descriptorName) = .ok stream ∧
      f.parser stream = .error error ∧ e = .invalid id error := by
  unfold readDescriptor at h
  extract_lets path at h
  split at h
  next cause hopen =>
    cases h
    exact .inl ⟨cause, hopen, rfl⟩
  next stream hopen =>
    split at h
    next error hparse =>
      cases h
      exact .inr ⟨stream, error, hopen, hparse, rfl⟩
    next => cases h

theorem lastRequested?_of_artifact {before : List (Turn σ)} {last : Turn σ}
    (hturns : f.fetchTurns id w = before ++ [last])
    (hlast : f.isCached id last.name last.world = false) :
    f.lastRequested? id w = some last := by
  rw [lastRequested?, hturns, List.filter_append, List.filter_cons_of_pos (by simp [hlast]),
    List.filter_nil, List.getLast?_concat]

/-- What a fetch went wrong with, given its error. -/
inductive Cause (f : Fetcher σ) (id : ModuleId) (w : World σ) : LoadError → Prop
  | interrupted {path cause} : ¬ f.StopsAtDescriptor id w → f.BreaksOff id w path cause →
      Cause f id w (.interrupted id path cause)
  | notStored {cause} : ¬ f.StopsAtDescriptor id w → f.CannotPlace id w cause →
      Cause f id w (.notStored id cause)
  | invalid {error} : f.StopsAtDescriptor id w → f.Rejects id w error →
      Cause f id w (.invalid id error)
  | unreadable {cause} : f.StopsAtDescriptor id w →
      (f.fetch id w).2.tree.openFile (f.artifactPath id Layout.descriptorName) = .error cause →
      Cause f id w (.unreadable id (f.artifactPath id Layout.descriptorName) cause)

/-- What an artifact fails with, given what went wrong when its stream was written. -/
theorem cause_of_fault {turn : Turn σ} {stream : ByteStream} {cause : StoreError}
    (hgoeson : ¬ f.StopsAtDescriptor id w) (hlast : f.lastRequested? id w = some turn)
    (hfound : f.answer id turn.name turn.world = .found stream)
    (hfault : Store.Fault f.store turn.world.tree stream (Layout.file id turn.name) cause) :
    f.Cause id w (.ofStore id cause) := by
  cases hfault with
  | @directory reason hmade =>
      exact .notStored hgoeson ⟨turn, stream, hlast, hfound, .inl ⟨reason, hmade, rfl,
        fun _ hreleases => Store.write_of_unread hmade hreleases⟩⟩
  | @source reason hmade hbroken =>
      exact .interrupted hgoeson ⟨turn, stream, hlast, hfound, hmade, hbroken, rfl⟩
  | @place content gathered temporary reason hmade hcontents hgather hmove =>
      exact .notStored hgoeson ⟨turn, stream, hlast, hfound, .inr ⟨content, gathered, temporary,
        reason, hmade, hcontents, hgather, hmove, rfl⟩⟩

theorem mem_fetchTurns_of_last {before : List (Turn σ)} {last : Turn σ}
    (hturns : f.fetchTurns id w = before ++ [last]) : last ∈ f.fetchTurns id w := by
  rw [hturns]
  exact List.mem_append_right _ List.mem_cons_self

/-- **A fetch that fails has a cause.** -/
theorem cause_of_fetch (hroot : f.store.root.text ≠ "") (h : f.FailsAt id w e) :
    f.Cause id w e := by
  cases h with
  | artifact before last hturns hlast hrequests =>
      obtain ⟨hmissing, stream, cause, hfound, hfault, rfl⟩ := (bring_eq_error_iff hroot
        (isContained_of_mem_fetchTurns (mem_fetchTurns_of_last hturns))).mp hlast
      have hgoeson : ¬ f.StopsAtDescriptor id w := by
        intro hstops
        rw [eq_descriptor_of_requests hturns hrequests hstops.only] at hlast
        exact hstops.not_failed hlast
      exact cause_of_fault hgoeson (lastRequested?_of_artifact hturns hmissing) hfound hfault
  | descriptor _ hstops hread =>
      rcases readDescriptor_eq_error hread with
        ⟨cause, hopen, rfl⟩ | ⟨stream, error, hopen, hparse, rfl⟩
      · exact .unreadable hstops hopen
      · exact .invalid hstops ⟨stream, hopen, hparse⟩

/-- An artifact whose stream broke has failed with that. -/
theorem bring_of_breaksOff (hroot : f.store.root.text ≠ "") {path : Path} {cause : IoError}
    (h : f.BreaksOff id w path cause) :
    ∃ turn, f.lastRequested? id w = some turn ∧
      (f.bring id turn.name turn.world).1 = .error (.interrupted id path cause) := by
  obtain ⟨turn, stream, hlast, hfound, hmade, hbroken, rfl⟩ := h
  have hmem := List.mem_of_getLast? hlast
  obtain ⟨hturn, hmissing⟩ := List.mem_filter.mp hmem
  refine ⟨turn, hlast, (bring_eq_error_iff hroot (isContained_of_mem_fetchTurns hturn)).mpr
    ⟨by simpa using hmissing, stream, _, hfound, .source hmade hbroken, rfl⟩⟩

/-- **A fetch in which the last stream broke has failed with that.** -/
theorem eq_interrupted_of_breaksOff (hroot : f.store.root.text ≠ "") (h : f.FailsAt id w e)
    {path : Path} {cause : IoError} (hbreaks : f.BreaksOff id w path cause) :
    e = .interrupted id path cause := by
  obtain ⟨turn, hturn, hbring⟩ := bring_of_breaksOff hroot hbreaks
  cases h with
  | artifact before last hturns hlast _ =>
      have hlast' := lastRequested?_of_artifact hturns (isCached_of_bring_error hlast)
      obtain rfl : last = turn := Option.some.inj (hlast'.symm.trans hturn)
      exact Except.error.inj (hlast.symm.trans hbring)
  | descriptor halone hstops _ =>
      -- The last artifact would be the descriptor, which was stored.
      have hmem := List.mem_of_mem_filter (List.mem_of_getLast? hturn)
      rw [halone, List.mem_singleton] at hmem
      rw [hmem] at hbring
      exact absurd hbring hstops.not_failed

/-- **A fetch whose descriptor was rejected has failed with that.** -/
theorem eq_invalid_of_rejects {error : DescriptorError} (h : f.Cause id w e)
    (hstops : f.StopsAtDescriptor id w) (hrejects : f.Rejects id w error) :
    e = .invalid id error := by
  obtain ⟨stream, hopen, hparse⟩ := hrejects
  cases h with
  | interrupted hgoeson => exact absurd hstops hgoeson
  | notStored hgoeson => exact absurd hstops hgoeson
  | unreadable _ hopen' =>
      have hboth := hopen.symm.trans hopen'
      exact nomatch hboth
  | invalid _ hrejects' =>
      obtain ⟨stream', hopen', hparse'⟩ := hrejects'
      have hboth := hopen.symm.trans hopen'
      obtain rfl : stream = stream' := Except.ok.inj hboth
      rw [Except.error.inj (hparse.symm.trans hparse')]

/-! ## What is on disk -/

/-- What a path names once a stream has let go of its file it named before. -/
theorem isFile_of_isFile_release {t : FileTree} {stream : ByteStream} {p : Path}
    (h : (Store.release t stream).isFile p = true) : t.isFile p = true := by
  rcases Store.release_cases t stream with heq | ⟨_, s, _, -, -, -, -, heq⟩
  · rwa [heq] at h
  · rw [heq] at h
    have hkeeps : KeepsKinds (t.erase s.location) t := by
      refine ⟨rfl, fun {loc e} he => ⟨e, ?_, .refl e⟩⟩
      rw [lookup_erase t s.location_ne_nil] at he
      split at he
      · cases he
      · exact he
    exact hkeeps.isFile h

/-- **A descriptor that failed is not on disk**, in a tree without links and if the way to it does
not go up. -/
theorem isCached_of_failed (hlinks : w.tree.LinkFree) (ht : w.tree.Rooted)
    (hdown : LeadsDown w.tree (f.artifactPath id Layout.descriptorName))
    (h : (f.bring id Layout.descriptorName w).1 = .error e) :
    f.isCached id Layout.descriptorName (f.bring id Layout.descriptorName w).2 = false := by
  have hmissing := isCached_of_bring_error h
  rw [result_bring] at h
  rw [isCached, tree_bring]
  by_cases hfound : ∃ stream, f.answer id Layout.descriptorName w = .found stream
  · obtain ⟨stream, hfound⟩ := hfound
    rw [hfound, Store.settle_of_found hmissing] at h ⊢
    dsimp only at h ⊢
    rcases Store.write_cases f.store w.tree stream (Layout.file id Layout.descriptorName) with
      ⟨_, -, htree⟩ | ⟨_, _, -, hok, -⟩
    · rw [htree, ← Bool.not_eq_true]
      intro hfile
      have hprepared := (Store.has_prepared hlinks ht hdown).symm.trans
        (isFile_of_isFile_release hfile)
      cases hmissing.symm.trans hprepared
    · rw [hok] at h
      cases h
  · rw [Store.settle_of_not_found hmissing (not_exists.mp hfound)] at h
    cases h

/-- **That a fetch stops at the descriptor can be seen on disk.** -/
theorem stopsAtDescriptor_of_isCached (h : f.FailsAt id w e) (hlinks : w.tree.LinkFree)
    (ht : w.tree.Rooted) (hdown : LeadsDown w.tree (f.artifactPath id Layout.descriptorName))
    (hcached : f.isCached id Layout.descriptorName (f.fetch id w).2 = true)
    (honly : f.RequestsDescriptorOnly id w) : f.StopsAtDescriptor id w := by
  cases h with
  | artifact before last hturns hlast hrequests =>
      rw [eq_descriptor_of_requests hturns hrequests honly] at hlast
      have hfailed : (f.bring id Layout.descriptorName w).1 = .error e := hlast
      have hmissing := isCached_of_failed hlinks ht hdown hfailed
      have htree := tree_fetch_of_not_source f id (w := w) (by simp [hfailed])
      generalize f.fetch id w = fetched at hcached htree
      rw [isCached, htree] at hcached
      cases hmissing.symm.trans hcached
  | descriptor _ hstops _ => exact hstops

/-- **The error of a fetch names its cause.** It names the module, and it is never that the module
is absent. Nothing is requested behind the artifact that failed, or behind the descriptor if that is
what could not be read.

* The fetch is interrupted if and only if a stream was found for the artifact requested last, its
  directory could be made, and the stream broke. The error has the path of the artifact in the cache
  and the cause of the break.
* An artifact is not stored only if its directory could not be made, and then its stream was not
  read, or if its whole content arrived and could not be moved into place.
* The descriptor is invalid if and only if the fetch stops at it, with no other request, and the
  parser rejects what is on disk.
* It is unreadable only if the fetch stops at it and it cannot be opened.

That the fetch stops at the descriptor can be seen on disk, in a tree without links and if the way
to the descriptor does not go up: the descriptor is there as a file, and nothing else was requested.
For otherwise a directory that is made for an artifact can uncover a descriptor that was not to be
reached before. -/
theorem fetch_error_names_cause (f : Fetcher σ) (id : ModuleId) (w : World σ)
    (hroot : f.store.root.text ≠ "") {e : LoadError} (h : (f.fetch id w).1 = .error e) :
    let descriptor := f.artifactPath id Layout.descriptorName
    let v := (f.fetch id w).2
    (e.identifier = id ∧ e.isNotFound = false) ∧ f.FailsAt id w e ∧
    (∀ path cause, e = .interrupted id path cause ↔ f.BreaksOff id w path cause) ∧
    (∀ cause, e = .notStored id cause → f.CannotPlace id w cause) ∧
    (∀ error, e = .invalid id error ↔ f.StopsAtDescriptor id w ∧ f.Rejects id w error) ∧
    (∀ path cause, e = .unreadable id path cause →
      f.StopsAtDescriptor id w ∧ path = descriptor ∧ v.tree.openFile path = .error cause) ∧
    (w.tree.LinkFree → w.tree.Rooted → LeadsDown w.tree descriptor →
      f.isCached id Layout.descriptorName v = true → f.RequestsDescriptorOnly id w →
      f.StopsAtDescriptor id w) := by
  intro descriptor v
  have hfails := failsAt_of_fetch h
  have hcause := cause_of_fetch hroot hfails
  refine ⟨?_, hfails, fun path cause => ⟨?_, eq_interrupted_of_breaksOff hroot hfails⟩, ?_,
    fun error => ⟨?_, fun hrejected => eq_invalid_of_rejects hcause hrejected.1 hrejected.2⟩, ?_,
    stopsAtDescriptor_of_isCached hfails⟩
  · cases hcause <;> exact ⟨rfl, rfl⟩
  · intro he
    cases hcause with
    | interrupted _ hbreaks =>
        obtain ⟨-, rfl, rfl⟩ := LoadError.interrupted.inj he
        exact hbreaks
    | _ => cases he
  · intro cause he
    cases hcause with
    | notStored _ hplace =>
        obtain ⟨-, rfl⟩ := LoadError.notStored.inj he
        exact hplace
    | _ => cases he
  · intro he
    cases hcause with
    | invalid hstops hrejects =>
        obtain ⟨-, rfl⟩ := LoadError.invalid.inj he
        exact ⟨hstops, hrejects⟩
    | _ => cases he
  · intro path cause he
    cases hcause with
    | unreadable hstops hopen =>
        obtain ⟨-, rfl, rfl⟩ := LoadError.unreadable.inj he
        exact ⟨hstops, rfl, hopen⟩
    | _ => cases he

/-- A stream that breaks at once, for a descriptor whose directory a file is in the way of: the
directory is the cause, not the stream. -/
theorem fetch_error_names_cause_of_blocked_directory :
    let broken : ByteStream := ⟨[.broken (.general .connectionReset none)], none⟩
    let w : World MemoryRepository := ⟨FileTree.empty.insert ["c"] (.file [1]),
      { resources := [("1/m/main/module.xml", broken)] }, [], []⟩
    let cause : StoreError := .createDirectory ⟨"/c/m/main"⟩ .notDirectory
    pair.store.root.text ≠ "" ∧ (pair.fetch pairModule w).1 = .error (.notStored pairModule cause) ∧
    pair.CannotPlace pairModule w cause ∧
    ∀ path reason, ¬ pair.BreaksOff pairModule w path reason := by
  intro broken w cause
  have hroot : pair.store.root.text ≠ "" := by decide
  have hfetch : (pair.fetch pairModule w).1 = .error (.notStored pairModule cause) := by
    decide +kernel
  obtain ⟨-, -, hbreaks, hplace, -⟩ := fetch_error_names_cause pair pairModule w hroot hfetch
  refine ⟨hroot, hfetch, hplace cause rfl, fun path reason hbroken => ?_⟩
  cases (hbreaks path reason).mpr hbroken

end Fetcher
end ModuleDepot
