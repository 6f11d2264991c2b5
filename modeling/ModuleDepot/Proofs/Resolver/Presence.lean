import ModuleDepot.Proofs.FileTree.Obstacles
import ModuleDepot.Proofs.Resolver.Turns

/-! # What is found and what is stored

A store calls a descriptor present if its path names a file, and a resolver with the same root opens
that path. In a tree without links the two agree on most trees, but not on all
(`finds_none_exactly_if_missing`). Of a path that names no file the resolver says that there is no
such module only if a name along it is missing. If something that is no directory stands in the way,
or a name is too long, it gives an error; and if the path names a directory, it calls the descriptor
invalid, which it could not even read (`calls_directory_invalid`).

So a chain fetches a module exactly if a name along the path of its descriptor is missing.
-/

namespace ModuleDepot

open FileTree

/-! ## Content that could be read -/

/-- The error says that the content could not be read. -/
def DescriptorError.IsReadFailure (e : DescriptorError) : Prop :=
  ∃ cause, e = .unreadable cause

namespace Descriptor

variable {e : DescriptorError}

theorem not_isReadFailure_of_declaredPath {content : List UInt8}
    (h : declaredPath content = .error e) : ¬ e.IsReadFailure := by
  rintro ⟨cause, rfl⟩
  unfold declaredPath at h
  split at h
  · cases h
  · cases h
  split at h
  · cases h
  split at h <;> cases h

theorem Reading.not_isReadFailure_of_tag {r : Reading} {content : List UInt8}
    (h : r.tag content = .error e) : ¬ e.IsReadFailure := by
  unfold tag at h
  split at h
  · split at h
    next => cases h
    next he =>
      cases h
      exact not_isReadFailure_of_declaredPath he
  · cases h

theorem Reading.not_isReadFailure_of_step {r : Reading} {event : Markup.ElementEvent}
    (h : r.step event = .error e) : ¬ e.IsReadFailure := by
  cases event with
  | opened content =>
      rw [step] at h
      split at h
      · cases h
      · exact not_isReadFailure_of_tag h
  | single content => exact not_isReadFailure_of_tag h
  | closed name =>
      rw [step] at h
      split at h <;> cases h

theorem Reading.not_isReadFailure_of_steps {r : Reading} {events : List Markup.ElementEvent}
    (h : r.steps events = .error e) : ¬ e.IsReadFailure := by
  induction events generalizing r with
  | nil => cases h
  | cons event rest ih =>
      rw [steps] at h
      split at h
      next => exact ih h
      next he =>
        cases h
        exact not_isReadFailure_of_step he

/-- **Content that was read to its end is not called unreadable.** -/
theorem not_isReadFailure_of_parseDocument {bytes : List UInt8}
    (h : parseDocument bytes none = .error e) : ¬ e.IsReadFailure := by
  unfold parseDocument at h
  dsimp only at h
  split at h
  next he =>
    cases h
    exact Reading.not_isReadFailure_of_steps he
  rintro ⟨cause, rfl⟩
  cases hending : (Markup.read bytes).2 with
  | finished =>
      rw [hending] at h
      dsimp only at h
      split at h <;> cases h
  | unfinished error =>
      rw [hending] at h
      cases h
  | faulty error =>
      rw [hending] at h
      cases h

end Descriptor

/-! ## What stands in the place of a descriptor -/

namespace LocalResolver

variable {r : LocalResolver} {t : FileTree} {id : ModuleId}

/-- The path of a descriptor ends in the name that all descriptors have. -/
theorem endsInName_descriptorPath (r : LocalResolver) (id : ModuleId) :
    (r.descriptorPath id).EndsInName := by
  have hname : IsPlainName Layout.descriptorName := by decide
  have hrelative := Path.isAbsolute_of_isPlainName hname
  obtain ⟨hnames, -⟩ := Layout.names_path_file ⟨r.root⟩ id hrelative
  rw [Path.names_of_isPlainName hname] at hnames
  have htext : (Layout.file id Layout.descriptorName).text ≠ "" := by
    obtain ⟨between, -, htext⟩ := Path.exists_text_join (Layout.directory id) hrelative
    rw [Layout.file, htext]
    exact fun hempty => hname.ne_empty (String.append_eq_empty_iff.mp hempty).2
  have hsep : (r.descriptorPath id).endsInSeparator = false := by
    rw [descriptorPath, Path.endsInSeparator_join _ htext]
    exact Path.endsInSeparator_join _ (by decide)
  have hsteps : (r.descriptorPath id).steps = (r.descriptorPath id).names := by
    rw [Path.steps, hsep]
    rfl
  exact ⟨_, _, hsteps.trans hnames, hname.ne_dot, hname.ne_dots⟩

/-- The path of a descriptor is refused exactly if it names no entry. -/
theorem refuses_iff (hlinks : t.LinkFree) {cause : IoError} :
    t.Refuses (r.descriptorPath id) cause ↔ t.entryAt (r.descriptorPath id) = .error cause :=
  (entryAt_eq_error_iff hlinks (r.endsInName_descriptorPath id)).symm

/-- The answer for a descriptor that was opened. -/
def judge (r : LocalResolver) (id : ModuleId) (stream : ByteStream) : Lookup :=
  match r.parser stream with
  | .error e => .error (.invalid id e)
  | .ok resources => .ok (some ⟨id, some (r.descriptorPath id), resources⟩)

/-- Whether the descriptor of a module is in the store with the same root. -/
def isStored (r : LocalResolver) (t : FileTree) (id : ModuleId) : Bool :=
  Store.has ⟨r.root⟩ t (Layout.file id Layout.descriptorName)

/-- What stands in the place of a descriptor, with whether it is stored and with the answer of the
resolver. -/
inductive Presence (r : LocalResolver) (t : FileTree) (id : ModuleId) : Bool → Lookup → Prop
  | stored {content} : t.entryAt (r.descriptorPath id) = .ok (.file content) →
      Presence r t id true (r.judge id (.ofBytes content))
  | directory : t.entryAt (r.descriptorPath id) = .ok .directory →
      Presence r t id false (r.judge id (.failing .isDirectory))
  | missing : t.Refuses (r.descriptorPath id) .notFound → Presence r t id false (.ok none)
  | refused {cause} : t.Refuses (r.descriptorPath id) cause → cause ≠ .notFound →
      Presence r t id false (.error (.unreadable id (r.descriptorPath id) cause))

/-- **The answer of the resolver, and whether the descriptor is stored.** -/
theorem presence (hlinks : t.LinkFree) (r : LocalResolver) (id : ModuleId) :
    r.Presence t id (r.isStored t id) (r.find t id) := by
  -- The store and the resolver compute the same path, so one look at the entry tells both.
  have hstored : r.isStored t id = t.isFile (r.descriptorPath id) := rfl
  rw [hstored]
  unfold find isFile openFile
  dsimp only
  rcases hentry : t.entryAt (r.descriptorPath id) with cause | entry
  · have hrefuses := (entryAt_eq_error_iff hlinks (r.endsInName_descriptorPath id)).mp hentry
    dsimp only [bind, Except.bind]
    split
    next hnone =>
      obtain rfl := hrefuses.isNotFound_iff.mp hnone
      exact .missing hrefuses
    next hnone => exact .refused hrefuses (mt hrefuses.isNotFound_iff.mpr hnone)
  · cases entry with
    | file content => exact .stored hentry
    | directory => exact .directory hentry
    | link target =>
        obtain ⟨loc, hloc⟩ := exists_lookup_of_entryAt hentry
        exact absurd hloc (hlinks loc target)

theorem judge_ne_none (r : LocalResolver) (id : ModuleId) (stream : ByteStream) :
    r.judge id stream ≠ .ok none := by
  unfold judge
  split <;> nofun

theorem judge_directory (hparser : r.parser = Descriptor.documentParser) :
    r.judge id (.failing .isDirectory) = .error (.invalid id (.unreadable .isDirectory)) := by
  rw [judge, hparser, Descriptor.documentParser_failing rfl]

theorem not_isReadFailure_of_judge (hparser : r.parser = Descriptor.documentParser)
    {content : List UInt8} {e : DescriptorError}
    (h : r.judge id (.ofBytes content) = .error (.invalid id e)) : ¬ e.IsReadFailure := by
  rw [judge, hparser, Descriptor.documentParser, ByteStream.contents_ofBytes] at h
  split at h
  next he =>
    cases h
    exact Descriptor.not_isReadFailure_of_parseDocument he
  next => cases h

namespace Presence

variable {stored : Bool} {answer : Lookup}

/-- The resolver misses a descriptor exactly if a name along its path is missing. -/
theorem eq_none_iff (h : r.Presence t id stored answer) (hlinks : t.LinkFree) :
    answer = .ok none ↔ t.Refuses (r.descriptorPath id) .notFound := by
  rw [refuses_iff hlinks]
  cases h with
  | stored hentry | directory hentry => simp [hentry, judge_ne_none]
  | missing hmissing => simp [(refuses_iff hlinks).mp hmissing]
  | refused hrefused hne => simp [(refuses_iff hlinks).mp hrefused, hne]

/-- **The resolver and the store agree on what is missing** exactly if there is no directory in the
place of the descriptor and nothing but a missing name keeps the path from being followed. -/
theorem agrees_iff (h : r.Presence t id stored answer) (hlinks : t.LinkFree) :
    (answer = .ok none ↔ stored = false) ↔
      t.isDirectory (r.descriptorPath id) = false ∧
        ∀ cause, t.Refuses (r.descriptorPath id) cause → cause = .notFound := by
  rw [h.eq_none_iff hlinks, ← Bool.not_eq_true (t.isDirectory _), isDirectory_iff_entryAt]
  simp only [refuses_iff hlinks]
  cases h with
  | stored hentry | directory hentry => simp [hentry]
  | missing hmissing => simp [(refuses_iff hlinks).mp hmissing]
  | refused hrefused hne => simp [(refuses_iff hlinks).mp hrefused, hne]

/-- **What could not be read is called invalid** exactly if a directory is in the place of the
descriptor. -/
theorem invalid_iff (h : r.Presence t id stored answer) (hlinks : t.LinkFree)
    (hparser : r.parser = Descriptor.documentParser) :
    (∀ e, answer = .error (.invalid id e) → stored = true ∧ ¬ e.IsReadFailure) ↔
      t.isDirectory (r.descriptorPath id) = false := by
  rw [← Bool.not_eq_true, isDirectory_iff_entryAt]
  cases h with
  | @stored content hentry =>
      have hread : ∀ e, r.judge id (.ofBytes content) = .error (.invalid id e) →
          ¬ e.IsReadFailure := fun _ => not_isReadFailure_of_judge hparser
      simpa [hentry] using hread
  | directory hentry => simp [hentry, judge_directory hparser]
  | missing hmissing => simp [(refuses_iff hlinks).mp hmissing]
  | refused hrefused hne => simp [(refuses_iff hlinks).mp hrefused]

theorem answer_of_isDirectory (h : r.Presence t id stored answer) (hlinks : t.LinkFree)
    (hparser : r.parser = Descriptor.documentParser)
    (hdirectory : t.isDirectory (r.descriptorPath id) = true) :
    answer = .error (.invalid id (.unreadable .isDirectory)) := by
  rw [isDirectory_iff_entryAt] at hdirectory
  cases h with
  | stored hentry => cases hentry.symm.trans hdirectory
  | directory => exact judge_directory hparser
  | missing hrefused | refused hrefused =>
      cases ((refuses_iff hlinks).mp hrefused).symm.trans hdirectory

/-- What is found is stored. -/
theorem stored_of_found (h : r.Presence t id stored answer)
    (hparser : r.parser = Descriptor.documentParser) {d : Descriptor}
    (hd : answer = .ok (some d)) : stored = true := by
  cases h with
  | stored => rfl
  | directory => cases (judge_directory hparser).symm.trans hd
  | missing | refused => cases hd

end Presence

/-! ## What a chain fetches -/

/-- The resolver does not miss with an error. -/
theorem isMiss_find_iff : (r.find t id).IsMiss ↔ r.find t id = .ok none := by
  refine ⟨fun h => h.resolve_right ?_, .inl⟩
  rintro ⟨id', hid⟩
  unfold find at hid
  dsimp only at hid
  split at hid
  · split at hid <;> cases hid
  · split at hid <;> cases hid

section Chain

variable {τ σ : Type} (r : LocalResolver) (system : Resolver τ) (f : Fetcher σ)

/-- The chain that asks the resolver first. -/
def chain : Chain Unit τ σ :=
  ⟨r.toResolver, system, f⟩

theorem firstAnswer_chain (s : ChainState Unit τ σ) :
    (r.chain system f).firstAnswer id s = (r.find s.world.tree id, ()) := rfl

/-- A chain fetches what its resolver misses, and nothing else. -/
theorem find_chain (hid : id.isSystem = false) (s : ChainState Unit τ σ) :
    (r.find s.world.tree id = .ok none →
      ((r.chain system f).find id s).2.world = ((r.chain system f).fallback id s.world).2) ∧
    (r.find s.world.tree id ≠ .ok none →
      (r.chain system f).find id s = (r.find s.world.tree id, s)) := by
  obtain ⟨asked, asked', -, hturn⟩ := (r.chain system f).exists_turn id s
  have hmiss : ((r.chain system f).firstAnswer id s).1.IsMiss ↔
      r.find s.world.tree id = .ok none := by
    rw [firstAnswer_chain, isMiss_find_iff]
  refine ⟨fun hnone => (hturn.of_isMiss hid (hmiss.mpr hnone)).1, fun hanswered => ?_⟩
  rw [(r.chain system f).find_of_answered hid (mt hmiss.mp hanswered), firstAnswer_chain]

/-- **What is found and what is stored.** In a tree without links there are four cases. The path of
the descriptor names a file: that is stored, and the answer is what the parser makes of its whole
content. It names a directory: that is not stored, and the answer is what the parser makes of a
stream that cannot be read. A name along the path is missing: nothing is stored and nothing found.
Or the path is refused for another reason, because something along it is no directory or a name is
too long: nothing is stored, and the answer is an error that says so.

So nothing is found exactly if a name is missing, and exactly then a chain fetches the module. The
store agrees exactly if it is neither the second nor the fourth case. With descriptor documents the
answer in the second case is that the descriptor is invalid; otherwise what is found or called
invalid is stored, and could be read. -/
theorem finds_none_exactly_if_missing (id : ModuleId) (s : ChainState Unit τ σ)
    (hlinks : s.world.tree.LinkFree) :
    let t := s.world.tree
    let path := r.descriptorPath id
    let stored := r.isStored t id
    let answer := r.find t id
    let c := r.chain system f
    r.Presence t id stored answer ∧
    (answer = .ok none ↔ t.Refuses path .notFound) ∧
    ((answer = .ok none ↔ stored = false) ↔
      t.isDirectory path = false ∧ ∀ cause, t.Refuses path cause → cause = .notFound) ∧
    (id.isSystem = false →
      (t.Refuses path .notFound → (c.find id s).2.world = (c.fallback id s.world).2) ∧
      (¬ t.Refuses path .notFound → c.find id s = (answer, s))) ∧
    (r.parser = Descriptor.documentParser →
      (t.isDirectory path = true → answer = .error (.invalid id (.unreadable .isDirectory))) ∧
      (∀ d, answer = .ok (some d) → stored = true) ∧
      ((∀ e, answer = .error (.invalid id e) → stored = true ∧ ¬ e.IsReadFailure) ↔
        t.isDirectory path = false)) := by
  intro t path stored answer c
  have hpresence := presence hlinks r id
  refine ⟨hpresence, hpresence.eq_none_iff hlinks, hpresence.agrees_iff hlinks, fun hid => ?_,
    fun hparser => ⟨hpresence.answer_of_isDirectory hlinks hparser, fun d hd =>
      hpresence.stored_of_found hparser hd, hpresence.invalid_iff hlinks hparser⟩⟩
  rw [← hpresence.eq_none_iff hlinks]
  exact r.find_chain system f hid s

end Chain

/-- Looks into the cache of the sample module, for descriptor documents. -/
def overSample : LocalResolver :=
  ⟨⟨"/c"⟩, Descriptor.documentParser⟩

/-- Below a root that is missing nothing is stored, nothing is found, and so it is fetched. -/
theorem finds_none_exactly_if_missing_of_empty :
    let c := overSample.chain systemResolver Fetcher.pair
    let s := Chain.untouched .empty (Fetcher.pairResources (.ofBytes [1]) (.ofBytes [2]))
    s.world.tree.LinkFree ∧ Fetcher.pairModule.isSystem = false ∧
    s.world.tree.Refuses (overSample.descriptorPath Fetcher.pairModule) .notFound ∧
    overSample.find s.world.tree Fetcher.pairModule = .ok none ∧
    overSample.isStored s.world.tree Fetcher.pairModule = false ∧
    (c.find Fetcher.pairModule s).2.world = (c.fallback Fetcher.pairModule s.world).2 := by
  dsimp only
  generalize hs : Chain.untouched .empty _ = s
  have htree : s.world.tree = .empty := hs ▸ rfl
  have hid : Fetcher.pairModule.isSystem = false := by decide
  have hlinks : s.world.tree.LinkFree := htree ▸ linkFree_empty
  have hmissing :
      s.world.tree.Refuses (overSample.descriptorPath Fetcher.pairModule) .notFound := by
    have hsteps : (overSample.descriptorPath Fetcher.pairModule).steps =
        [] ++ "c" :: ["m", "main", "module.xml"] := by decide
    rw [htree]
    exact .stopped (by decide) hsteps .done
      (.missing (by decide) ⟨by decide, by decide, by decide⟩ (by decide))
  have hstored : overSample.isStored s.world.tree Fetcher.pairModule = false := by
    rw [htree]
    decide +kernel
  obtain ⟨-, hnone, -, hfetched, -⟩ := finds_none_exactly_if_missing overSample systemResolver
    Fetcher.pair Fetcher.pairModule s hlinks
  exact ⟨hlinks, hid, hmissing, hnone.mpr hmissing, hstored, (hfetched hid).1 hmissing⟩

/-- **A directory in the place of a descriptor is called an invalid descriptor**, and a module below
a file cannot be read, although neither is stored. -/
theorem calls_directory_invalid :
    let r := overSample
    let id := Fetcher.pairModule
    let blocked := (FileTree.empty.insert ["c"] .directory).insert ["c", "m"] (.file [])
    let taken := (FileTree.empty.makeDirectories ⟨"/c/m/main/module.xml"⟩).1
    (taken.LinkFree ∧ r.isStored taken id = false ∧
      r.find taken id = .error (.invalid id (.unreadable .isDirectory))) ∧
    (blocked.LinkFree ∧ r.isStored blocked id = false ∧
      r.find blocked id = .error (.unreadable id ⟨"/c/m/main/module.xml"⟩ .notDirectory)) := by
  intro r id blocked taken
  have htaken : taken.LinkFree :=
    (makes_makeDirectories FileTree.empty ⟨"/c/m/main/module.xml"⟩).grows.linkFree linkFree_empty
  have hblocked : blocked.LinkFree :=
    (linkFree_empty.insert (by simp) Entry.directory_ne_link).insert (by simp)
      (Entry.file_ne_link [])
  exact ⟨⟨htaken, by decide +kernel, by decide +kernel⟩,
    hblocked, by decide +kernel, by decide +kernel⟩

end LocalResolver
end ModuleDepot
