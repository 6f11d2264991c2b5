import ModuleDepot.Proofs.Command.Precedence
import ModuleDepot.Proofs.Config.Validation
import ModuleDepot.Proofs.Layout.Symmetry
import ModuleDepot.Proofs.Repository.Decoding
import ModuleDepot.Proofs.Resolver.Agreement

/-! # The places that the command prints

The command puts the places of a module together by itself. The path of the descriptor that it
prints is the one at which a fetch stores it and the resolver looks for it. The place in the
repository is printed as it is, while the target of a request is encoded, so the name of the
descriptor behind the printed place is the target exactly if neither the version nor the module
holds a character that is encoded (`printed_places`). Otherwise the command names a resource that is
never requested (`prints_unencoded_place`).
-/

namespace ModuleDepot

/-! ## The place in the repository -/

namespace Layout

/-- A character that separates nothing is in the place of a module exactly if it is in the version,
the name or the slot. -/
theorem mem_place {ch : Char} (hslash : ch ≠ '/') (hdot : ch ≠ '.') (version : String)
    (id : ModuleId) :
    ch ∈ (place version id).toList ↔
      ch ∈ version.toList ∨ ch ∈ id.name.toList ∨ ch ∈ id.slot.toList := by
  have hname : ch ∈ id.name.toList ↔ ∃ segment ∈ id.segments, ch ∈ segment.toList :=
    mem_iff_exists_separated hdot id.name
  simp [place, hname, hslash]

end Layout

namespace HttpRepository

/-- The place of a module has no mark exactly if version, name and slot have none. -/
theorem hasNoMark_place {version : String} {id : ModuleId} :
    HasNoMark (Layout.place version id) ↔
      HasNoMark version ∧ HasNoMark id.name ∧ HasNoMark id.slot := by
  simp only [hasNoMark_iff]
  rw [Layout.mem_place (by decide) (by decide), Layout.mem_place (by decide) (by decide),
    Layout.mem_place (by decide) (by decide)]
  tauto

/-- **The place and a name behind it are the target** exactly if they hold no mark. -/
theorem printed_eq_target_iff {rootUrl : String} (hroot : slashTerminated rootUrl = rootUrl)
    (timeout : Duration) (retry : RetryPolicy) (request : Request) :
    rootUrl ++ request.place ++ request.resource = (create rootUrl timeout retry).target request ↔
      HasNoMark request.place ∧ HasNoMark request.resource := by
  rw [target_eq, hroot, String.append_assoc, String.append_right_inj, eq_comm,
    ← hasNoMark_append]
  exact encodePath_eq_self_iff

end HttpRepository

/-! ## The path of the descriptor -/

/-- A resolver looks for the descriptor of a module at a path: what it finds has that path, it finds
nothing exactly if nothing is there, and nothing else in a tree counts. -/
structure LocalResolver.LooksAt (r : LocalResolver) (id : ModuleId) (p : Path) : Prop where
  found : ∀ {t d}, r.find t id = .ok (some d) → d.location = some p
  missing : ∀ {t}, r.find t id = .ok none ↔ ∃ cause, t.openFile p = .error cause ∧
    cause.isNotFound = true
  only : ∀ {t u}, t.openFile p = u.openFile p → r.find t id = r.find u id

theorem LocalResolver.looksAt (r : LocalResolver) (id : ModuleId) :
    r.LooksAt id (r.descriptorPath id) := by
  refine ⟨fun h => (exists_stream_of_find h).1, fun {t} => ?_, fun {t u} h => ?_⟩
  · unfold find
    dsimp only
    cases t.openFile (r.descriptorPath id) with
    | error cause => cases cause.isNotFound <;> simp
    | ok stream =>
        dsimp only
        split <;> simp
  · unfold find
    dsimp only
    rw [h]

/-- What is stored has the path of its name. -/
theorem Store.eq_path_of_write {store : Store} {t : FileTree} {stream : ByteStream} {name p : Path}
    (h : (store.write t stream name).result = .ok p) : p = store.path name := by
  rcases write_cases store t stream name with ⟨_, herror, -⟩ | ⟨_, _, -, hok, -⟩
  · cases h.symm.trans herror
  · exact Except.ok.inj (h.symm.trans hok)

namespace Fetcher

variable {σ : Type} {f : Fetcher σ} {id : ModuleId} {w : World σ}

/-- Where a report has the descriptor from: there is a file at the path, or what the repository sent
is stored there. -/
inductive DescriptorAt (f : Fetcher σ) (id : ModuleId) (w : World σ) (p : Path) :
    DescriptorSource → Prop
  | cached : w.tree.isFile p = true → DescriptorAt f id w p .cached
  | fetched (stream : ByteStream) : w.tree.isFile p = false →
      f.answer id Layout.descriptorName w = .found stream →
      (f.store.write w.tree stream (Layout.file id Layout.descriptorName)).result = .ok p →
      DescriptorAt f id w p .fetched

/-- Fetches keep the descriptor of a module at a path. If there is no file, a fetch writes what the
repository sent before it does anything else, however it ends, and what is stored is stored there. A
report has the descriptor from there, and unless the tree has links or readers touch it, there is a
file afterwards. -/
structure KeepsAt (f : Fetcher σ) (id : ModuleId) (p : Path) : Prop where
  written : ∀ {w stream}, w.tree.isFile p = false →
    f.answer id Layout.descriptorName w = .found stream → ∃ m,
      m.tree = (f.store.write w.tree stream (Layout.file id Layout.descriptorName)).tree ∧
      f.Runs id m (f.fetch id w).2
  stored : ∀ {t stream q},
    (f.store.write t stream (Layout.file id Layout.descriptorName)).result = .ok q → q = p
  reported : ∀ {w report}, (f.fetch id w).1 = .ok (some report) →
    f.DescriptorAt id w p report.descriptor
  there : ∀ {w report}, f.Calm w → w.tree.Rooted → (f.fetch id w).1 = .ok (some report) →
    (f.fetch id w).2.tree.isFile p = true

/-- **A report has the descriptor from its path in the cache.** -/
theorem descriptorAt_of_fetch {report : Report} (h : (f.fetch id w).1 = .ok (some report)) :
    f.DescriptorAt id w (f.artifactPath id Layout.descriptorName) report.descriptor := by
  obtain ⟨u, hcourse, -⟩ := course_fetch f id w
  rw [h] at hcourse
  cases hcourse with
  | @complete outcome source v _ _ _ hbring hsource =>
      cases outcome with
      | cached =>
          cases hsource
          rcases bring_eq_ok hbring with ⟨hcached, -, -⟩ | ⟨-, houtcome⟩
          · exact .cached hcached
          · -- Whatever the answer is, a missing descriptor is not called cached.
            cases hanswer : f.answer id Layout.descriptorName w <;>
              rw [hanswer] at houtcome <;> cases houtcome
      | fetched =>
          cases hsource
          obtain ⟨hat, -⟩ := persistsAt_of_bring Layout.isContained_descriptorName hbring
          obtain ⟨stream, q, hfound, hok⟩ := hat.stored
          obtain rfl := Store.eq_path_of_write hok
          exact .fetched stream hat.missing hfound hok
      | notFound | unavailable | rejected => cases hsource

theorem keepsAt (f : Fetcher σ) (id : ModuleId) :
    f.KeepsAt id (f.artifactPath id Layout.descriptorName) where
  written {w stream} hmissing hfound := by
    have hcached : f.isCached id Layout.descriptorName w = false := hmissing
    have hruns := runs_bringDescriptor_of_missing f id hcached
    exact ⟨f.obtain id Layout.descriptorName w, tree_obtain_of_found hfound,
      hruns.trans (runs_fetch_of_bringDescriptor f id w)⟩
  stored := Store.eq_path_of_write
  reported := descriptorAt_of_fetch
  there hcalm ht h := (says_of_fetch hcalm ht h).2.1

end Fetcher

/-! ## What a configuration stands for -/

theorem Store.eq_mk_of_openAt {t : FileTree} {root : Path} {store : Store}
    (h : openAt t root = .ok store) : store = ⟨root⟩ := by
  unfold openAt at h
  split at h
  · cases h
  split at h
  · cases h
  · exact (Except.ok.inj h).symm

/-- The chain of a usable configuration: the resolver looks below the cache root, and the fetcher
keeps there what it gets from the repository below the root URL. -/
theorem Chain.eq_overCache_of_ofConfig {σ : Type} {t : FileTree} {c : Config}
    {client : Http.Client σ} {chain : Chain Unit Unit σ}
    (hroot : HttpRepository.slashTerminated c.rootUrl = c.rootUrl)
    (h : ofConfig t c client = .ok chain) :
    chain = overCache ⟨⟨c.cacheRoot⟩,
      (HttpRepository.create c.rootUrl c.timeout c.retry).toRepository client,
      Descriptor.documentParser, c.repositoryVersion⟩ systemResolver := by
  cases hvalid : c.validate with
  | error e =>
      unfold ofConfig at h
      rw [hvalid] at h
      cases h
  | ok c' =>
      obtain rfl : c = c' := by rw [Config.eq_of_validate hvalid, hroot]
      rw [Config.ofConfig_eq hvalid] at h
      cases hopen : Store.openAt t c.cacheRoot with
      | error e =>
          rw [hopen] at h
          cases h
      | ok store =>
          obtain rfl := Store.eq_mk_of_openAt hopen
          rw [hopen] at h
          exact (Except.ok.inj h).symm

namespace Command

theorem rootUrl_of_loadConfig {env : Environment} {o : Options} {t : FileTree} {c : Config}
    {event : Event} (h : loadConfig env o t = .ok (c, event)) :
    HttpRepository.slashTerminated c.rootUrl = c.rootUrl := by
  unfold loadConfig at h
  extract_lets file at h
  split at h
  next => cases h
  next hload =>
    cases h
    obtain ⟨given, hgiven⟩ := (Config.Returned.loaded hload).exists_validate
    obtain ⟨stem, hroot, -⟩ := Config.exists_of_validate hgiven
    rw [hroot, HttpRepository.slashTerminated_slash]

theorem pathsText_eq (c : Config) (id : ModuleId) :
    pathsText c id = lines [
      s!"Local:  {(c.cacheRoot.join (Layout.directory id).text).text}",
      s!"Remote: {c.rootUrl ++ Layout.place c.repositoryVersion id}",
      s!"Descriptor: {(c.cacheRoot.join (Layout.file id Layout.descriptorName).text).text}"] := by
  rw [Layout.file, Path.join_join _ _ (by decide)]
  rfl

/-- **The command prints where the descriptor is, and not always where it comes from.** Let the
command have a configuration, and let its argument name a module. It prints three lines. The path in
the last one is where the resolver looks for the descriptor, and where fetches keep it, in every
chain that the configuration describes.

What such a chain requests is the target of the place in the repository with the name of the
descriptor. The place is encoded there. So the printed place with the name behind it is the target
exactly if there is nothing to encode in the version, the name and the slot. -/
theorem printed_places {σ : Type} (client : Http.Client σ) {env : Environment} {o : Options}
    {w : World σ} {c : Config} {event : Event} {text : String} {id : ModuleId}
    (hload : loadConfig env o w.tree = .ok (c, event)) (hid : ModuleId.parse text = .ok id) :
    let resolver : LocalResolver := ⟨c.cacheRoot, Descriptor.documentParser⟩
    let repository := HttpRepository.create c.rootUrl c.timeout c.retry
    let place := Layout.place c.repositoryVersion id
    let directory := c.cacheRoot.join (Layout.directory id).text
    let remote := c.rootUrl ++ place
    let descriptor := resolver.descriptorPath id
    let target := repository.target ⟨place, Layout.descriptorName⟩
    perform client env o (.paths text) w = (.ok (lines [s!"Local:  {directory.text}",
      s!"Remote: {remote}", s!"Descriptor: {descriptor.text}"]), w.log event) ∧
    resolver.LooksAt id descriptor ∧
    (∀ t chain, Chain.ofConfig t c client = .ok chain →
      chain.primary = resolver.toResolver ∧ chain.fetcher.KeepsAt id descriptor ∧
      chain.fetcher.repository = repository.toRepository client ∧
      chain.fetcher.request id Layout.descriptorName = ⟨place, Layout.descriptorName⟩) ∧
    target = c.rootUrl ++ HttpRepository.encodePath place ++ Layout.descriptorName ∧
    (remote ++ Layout.descriptorName = target ↔ HttpRepository.HasNoMark c.repositoryVersion ∧
      HttpRepository.HasNoMark id.name ∧ HttpRepository.HasNoMark id.slot) := by
  intro resolver repository place directory remote descriptor target
  -- The configuration was validated, so the repository leaves the root as it is printed.
  have hroot := rootUrl_of_loadConfig hload
  have hname : HttpRepository.HasNoMark Layout.descriptorName :=
    HttpRepository.hasNoMark_iff.mpr (by decide)
  refine ⟨?_, resolver.looksAt id, fun t chain hchain => ?_, ?_, ?_⟩
  · have htext := pathsText_eq c id
    simp only [perform, withModule, readModule, hid, withConfig, hload, htext]
    rfl
  · obtain rfl := Chain.eq_overCache_of_ofConfig hroot hchain
    exact ⟨rfl, Fetcher.keepsAt _ id, rfl, rfl⟩
  · have htarget : target = HttpRepository.slashTerminated c.rootUrl ++
        HttpRepository.encodePath place ++ HttpRepository.encodePath Layout.descriptorName := rfl
    rw [htarget, hroot, HttpRepository.encodePath_eq_self_iff.mpr hname]
  · rw [← HttpRepository.hasNoMark_place]
    have hprinted := HttpRepository.printed_eq_target_iff hroot c.timeout c.retry
      ⟨place, Layout.descriptorName⟩
    exact hprinted.trans (and_iff_left hname)

/-- A client that never gets an answer. -/
def silentClient : Http.Client Unit :=
  ⟨fun _ s => (.timedOut, s), fun _ s => s⟩

/-- The places of a module with a slot of its own, below the root URL of the environment. -/
theorem printed_places_of_slot :
    let o : Options := ⟨[(.cacheRoot, "/c")], false⟩
    let c : Config := { Config.ofCacheRoot ⟨"/c"⟩ with rootUrl := "http://env/" }
    let id : ModuleId := ⟨"org.lib", "1.2"⟩
    let w : World Unit := ⟨.empty, (), [], []⟩
    loadConfig sampleEnvironment o w.tree = .ok (c, configEvent none c) ∧
    ModuleId.parse "org.lib:1.2" = .ok id ∧
    (perform silentClient sampleEnvironment o (.paths "org.lib:1.2") w).1 = .ok (lines
      ["Local:  /c/org/lib/1.2", "Remote: http://env/trunk/org/lib/1.2/",
        "Descriptor: /c/org/lib/1.2/module.xml"]) ∧
    (HttpRepository.create c.rootUrl c.timeout c.retry).target
      ⟨Layout.place c.repositoryVersion id, Layout.descriptorName⟩ =
        "http://env/trunk/org/lib/1.2/" ++ Layout.descriptorName ∧
    ∃ chain, Chain.ofConfig .empty c silentClient = .ok chain ∧
      chain.fetcher.KeepsAt id ⟨"/c/org/lib/1.2/module.xml"⟩ := by
  intro o c id w
  have hload : loadConfig sampleEnvironment o w.tree = .ok (c, configEvent none c) := by
    decide +kernel
  have hid : ModuleId.parse "org.lib:1.2" = .ok id := by decide
  obtain ⟨hprinted, -, hkeeps, -, hremote⟩ := printed_places silentClient hload hid
  have hmarks : HttpRepository.HasNoMark c.repositoryVersion ∧ HttpRepository.HasNoMark id.name ∧
      HttpRepository.HasNoMark id.slot := by
    simp only [HttpRepository.hasNoMark_iff]
    decide
  have hplace : c.rootUrl ++ Layout.place c.repositoryVersion id =
      "http://env/trunk/org/lib/1.2/" := by decide
  have hvalid : c.validate = .ok c := by decide +kernel
  have hopen : Store.openAt .empty c.cacheRoot = .ok ⟨c.cacheRoot⟩ := by decide +kernel
  have hchain : ∃ chain, Chain.ofConfig .empty c silentClient = .ok chain := by
    rw [Config.ofConfig_eq hvalid, hopen]
    exact ⟨_, rfl⟩
  obtain ⟨chain, hchain⟩ := hchain
  refine ⟨hload, hid, (congrArg Prod.fst hprinted).trans (by decide), ?_, chain, hchain, ?_⟩
  · rw [← hremote.mpr hmarks, hplace]
  · have hpath : LocalResolver.descriptorPath ⟨c.cacheRoot, Descriptor.documentParser⟩ id =
        ⟨"/c/org/lib/1.2/module.xml"⟩ := by decide
    exact hpath ▸ (hkeeps .empty chain hchain).2.1

/-- **The place in the repository is printed as it is**, also where it is requested in another
spelling. -/
theorem prints_unencoded_place :
    let o : Options := ⟨[(.rootUrl, "http://h/"), (.cacheRoot, "/c")], false⟩
    let c : Config := { Config.ofCacheRoot ⟨"/c"⟩ with rootUrl := "http://h/" }
    let id : ModuleId := ⟨"m#x", "main"⟩
    let w : World Unit := ⟨.empty, (), [], []⟩
    let target := (HttpRepository.create c.rootUrl c.timeout c.retry).target
      ⟨Layout.place c.repositoryVersion id, Layout.descriptorName⟩
    readArguments ["paths", "m#x", "--root-url", "http://h/", "--cache-root", "/c"] =
      .ok (o, .paths "m#x") ∧
    loadConfig sampleEnvironment o w.tree = .ok (c, configEvent none c) ∧
    ModuleId.parse "m#x" = .ok id ∧
    (perform silentClient sampleEnvironment o (.paths "m#x") w).1 = .ok (lines
      ["Local:  /c/m#x/main", "Remote: http://h/trunk/m#x/main/",
        "Descriptor: /c/m#x/main/module.xml"]) ∧
    target = "http://h/trunk/m%23x/main/module.xml" ∧
    "http://h/trunk/m#x/main/" ++ Layout.descriptorName ≠ target := by
  intro o c id w target
  exact ⟨by decide +kernel, by decide +kernel, by decide, by decide +kernel, by decide, by decide⟩

end Command
end ModuleDepot
