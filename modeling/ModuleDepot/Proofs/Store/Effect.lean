import ModuleDepot.Proofs.FileTree.Paved
import ModuleDepot.Proofs.Store.Write

/-! # What a write changes

A write changes the tree where directories were missing, at the location of the artifact,
and where the stream lets go of a file (`write_changes`). A stream that holds on to nothing
leaves only the first two.

With links in the tree the location of the artifact may be where the path does not lead. A
file that stands there is none the less not replaced, as long as `has` was asked first
(`Stores.ne_file`): if a file stands at the end of a path without a step up, then the path
led there before the write, or the directory of the artifact is new and holds no file.

In a tree without links it is known where all this happens, by the names of the path alone
(`write_places`). Conversely the first location that is missing on the way of the path is not
missing afterwards, whatever else goes wrong (`lookup_write_of_paved`).
-/

namespace ModuleDepot.Store

open FileTree
open ModuleDepot.Path (undotted Below)

variable {store : Store} {t : FileTree} {stream : ByteStream} {name : Path}

/-- A reader that does not touch the tree. -/
theorem release_of_none (h : stream.releases = none) (t : FileTree) : release t stream = t := by
  rw [release, h]

/-! ## The paths of an artifact -/

theorem parent?_eq_directoryOf (h : undotted (store.path name).names ≠ []) :
    (store.path name).parent? = some (store.directoryOf name) := by
  obtain ⟨q, hq⟩ := Path.exists_parent? h
  rw [directoryOf, hq, Option.getD_some]

theorem below_directoryOf (h : undotted (store.path name).names ≠ []) :
    Below (store.path name) (store.directoryOf name) :=
  Path.below_of_parent? (parent?_eq_directoryOf h)

/-- The directories made for an artifact have first names of its path. -/
theorem prefix_of_mem_directories (h : undotted (store.path name).names ≠ []) {q : Path}
    (hq : q ∈ store.directoryOf name :: (store.directoryOf name).parents) :
    q.isAbsolute = (store.path name).isAbsolute ∧
      undotted q.names <+: (undotted (store.path name).names).dropLast := by
  have hbelow := below_directoryOf h
  rcases List.mem_cons.mp hq with rfl | hq
  · exact ⟨hbelow.isAbsolute, hbelow.names ▸ List.prefix_rfl⟩
  · obtain ⟨habs, hnames⟩ := Path.prefix_of_mem_parents hq
    exact ⟨habs.trans hbelow.isAbsolute, hbelow.names ▸ hnames⟩

/-- Nor do they go up, if the path does not. -/
theorem not_mem_of_mem_directories (h : undotted (store.path name).names ≠ [])
    (hdots : ".." ∉ (store.path name).names) {q : Path}
    (hq : q ∈ store.directoryOf name :: (store.directoryOf name).parents) : ".." ∉ q.names := by
  have hdirectory : ".." ∉ (store.directoryOf name).names :=
    Path.not_mem_of_mem_parents hdots (List.mem_of_head? (parent?_eq_directoryOf h))
  rcases List.mem_cons.mp hq with rfl | hq
  · exact hdirectory
  · exact Path.not_mem_of_mem_parents hdirectory hq

/-! ## No file is replaced -/

/-- **A file is not replaced by an artifact that was not there.** -/
theorem Stores.ne_file {s : Slot} {content : List UInt8}
    (h : Stores store t stream name s content) (ht : Rooted t)
    (hdots : ".." ∉ (store.path name).names) (hnew : store.has t name = false) :
    ∀ old, t.lookup s.location ≠ some (.file old) := by
  intro old hold
  obtain ⟨init, hnames, hundotted⟩ := h.slot.undotted_names
  have hne : undotted (store.path name).names ≠ [] := by simp [hundotted]
  have hbelow := below_directoryOf hne
  have hmakes := makes_prepared store t name
  have hlead : Leads (store.prepared t name) maxLinks (t.start (store.path name)) init
      s.directory := by
    obtain ⟨init', hnames', hlead⟩ := h.slot.names
    obtain rfl : init' = init := by simpa [hnames'] using hnames
    rwa [hmakes.grows.start] at hlead
  have hchain : (store.directoryOf name :: (store.directoryOf name).parents).IsChain Below :=
    Path.isChain_parents _
  have hmade : t.makeChain (store.directoryOf name :: (store.directoryOf name).parents) =
      (store.prepared t name, .ok ()) :=
    Prod.ext rfl h.made
  rcases makeChain_new ht hchain (fun _ => not_mem_of_mem_directories hne hdots) hmade with hsame | ⟨q, hq, d, hd, hfresh⟩
  · -- The directory was there: the path led to the file before.
    rw [hsame] at hlead
    have hdir : t.isDirectoryAt s.directory := hsame ▸ h.slot.directory
    have hfile := hlead.snoc hdir h.slot.ordinary hold (Entry.file_ne_link old)
    have hsteps : (store.path name).steps = init ++ [s.name] := by
      rw [Path.steps, ← h.slot.asDirectory, h.asFile, hnames]
      rfl
    have hresolve : t.resolve (store.path name) = .ok s.location :=
      resolve_eq_ok_iff.mpr ⟨h.slot.check, hsteps ▸ hfile⟩
    have hhas : store.has t name = true := isFile_iff.mpr ⟨_, old, hresolve, hold⟩
    exact absurd hhas (by simp [hnew])
  · -- The directory is new, and nothing stands in it.
    obtain rfl : store.directoryOf name = q := Option.some.inj hq
    have hleadq := leads_of_resolve hd
    have hstart : (store.prepared t name).start (store.directoryOf name) =
        t.start (store.path name) := by
      rw [hmakes.grows.start]
      simp [FileTree.start, hbelow.isAbsolute]
    rw [hstart, hbelow.names, hundotted, List.dropLast_concat] at hleadq
    obtain rfl : s.directory = d := (hlead.thin (thins_undotted init)).unique hleadq
    cases hold.symm.trans (ht.lookup_below hfresh s.name)

/-! ## What changes -/

/-- **A write whose stream holds on to nothing** adds directories, and puts the whole content
at the location of the artifact. -/
theorem write_changes (store : Store) (t : FileTree) (name : Path)
    (hreleases : stream.releases = none) (loc : Location) :
    (store.write t stream name).tree.lookup loc = t.lookup loc ∨
    (t.lookup loc = none ∧ (store.write t stream name).tree.lookup loc = some .directory) ∨
    ∃ content s, Stores store t stream name s content ∧ s.location = loc ∧
      (store.write t stream name).tree.lookup loc = some (.file content) := by
  have hgrows := (makes_prepared store t name).grows
  rcases write_cases store t stream name with ⟨_, _, htree⟩ | ⟨content, s, hstores, _, htree⟩
  · rw [htree, release_of_none hreleases]
    exact (hgrows.lookup loc).imp id .inl
  · rw [htree, release_of_none hreleases, lookup_insert _ s.location_ne_nil]
    split
    next heq => exact .inr (.inr ⟨content, s, hstores, heq, rfl⟩)
    next => exact (hgrows.lookup loc).imp id .inl

/-- The stream lets go of the entry at the place of its path, or of nothing. -/
theorem release_cases (t : FileTree) (stream : ByteStream) :
    release t stream = t ∨ ∃ p s e, stream.releases = some p ∧ HasSlot t p s ∧
      t.lookup s.location = some e ∧ e ≠ .directory ∧ release t stream = t.erase s.location := by
  unfold release
  split
  · exact .inl rfl
  next p hp =>
    cases hremove : t.removeFile p with
    | error => exact .inl rfl
    | ok u =>
        obtain ⟨s, e, hs, hentry, hdirectory, rfl⟩ := removeFile_eq_ok hremove
        exact .inr ⟨p, s, e, hp, hs, hentry, hdirectory, rfl⟩

theorem workingDirectory_release (t : FileTree) (stream : ByteStream) :
    (release t stream).workingDirectory = t.workingDirectory := by
  rcases release_cases t stream with heq | ⟨_, _, _, _, _, _, _, heq⟩
  · rw [heq]
  · rw [heq, workingDirectory_erase]

theorem workingDirectory_write :
    (store.write t stream name).tree.workingDirectory = t.workingDirectory := by
  have hgrows := (makes_prepared store t name).grows
  rcases write_cases store t stream name with ⟨_, _, htree⟩ | ⟨content, s, _, _, htree⟩
  · rw [htree, workingDirectory_release, hgrows.workingDirectory]
  · rw [htree, workingDirectory_release, workingDirectory_insert, hgrows.workingDirectory]

theorem rooted_write (hreleases : stream.releases = none) (ht : Rooted t) :
    Rooted (store.write t stream name).tree := by
  have hprepared := (makes_prepared store t name).rooted ht
  rcases write_cases store t stream name with ⟨_, _, htree⟩ | ⟨content, s, hstores, _, htree⟩
  · rwa [htree, release_of_none hreleases]
  · rw [htree, release_of_none hreleases]
    exact hprepared.insert hstores.slot.directory (.inr hstores.notDirectory)

/-! ## Trees without links -/

theorem linkFree_release (h : LinkFree t) (stream : ByteStream) :
    LinkFree (release t stream) := by
  rcases release_cases t stream with heq | ⟨_, s, _, _, _, _, _, heq⟩
  · rwa [heq]
  · rw [heq]
    exact h.erase s.location_ne_nil

theorem linkFree_write (h : LinkFree t) : LinkFree (store.write t stream name).tree := by
  have hprepared := (makes_prepared store t name).grows.linkFree h
  rcases write_cases store t stream name with ⟨_, _, htree⟩ | ⟨content, s, _, _, htree⟩
  · rw [htree]
    exact linkFree_release hprepared stream
  · rw [htree]
    have hfilled :=
      hprepared.insert (e := .file content) s.location_ne_nil (Entry.file_ne_link content)
    exact linkFree_release hfilled stream

/-- Without links the stream lets go of a file at the place of its path, or of nothing. -/
theorem lookup_release (h : LinkFree t) (stream : ByteStream) (loc : Location) :
    (release t stream).lookup loc = t.lookup loc ∨
      ∃ released content, stream.releases = some released ∧ loc = t.place released ∧
        t.lookup loc = some (.file content) ∧ (release t stream).lookup loc = none := by
  rcases release_cases t stream with heq | ⟨p, s, e, hp, hs, hentry, hdirectory, heq⟩
  · exact .inl (by rw [heq])
  rw [heq, lookup_erase _ s.location_ne_nil]
  split
  next hloc =>
    subst hloc
    cases e with
    | file content => exact .inr ⟨p, content, hp, hs.location_eq h, hentry, rfl⟩
    | directory => exact absurd rfl hdirectory
    | link target => exact absurd hentry (h _ target)
  next => exact .inl rfl

/-- A file that is stored where no link is changes no other kind of entry. -/
theorem Stores.keepsKinds {s : Slot} {content : List UInt8} (h : LinkFree t)
    (hstores : Stores store t stream name s content) :
    KeepsKinds (store.prepared t name)
      ((store.prepared t name).insert s.location (.file content)) :=
  keepsKinds_insert_file s.location_ne_nil hstores.notDirectory
    ((makes_prepared store t name).grows.linkFree h _) content

/-- Without links, and with readers that do not touch the tree, entries stay what they are. -/
theorem keepsKinds_write (hreleases : stream.releases = none) (h : LinkFree t) :
    KeepsKinds t (store.write t stream name).tree := by
  have hprepared := (makes_prepared store t name).grows.keepsKinds
  rcases write_cases store t stream name with
    ⟨_, _, htree⟩ | ⟨content, s, hstores, _, htree⟩
  · rwa [htree, release_of_none hreleases]
  · rw [htree, release_of_none hreleases]
    exact hprepared.trans (hstores.keepsKinds h)

/-- Without links, and with readers that do not touch the tree, what was stored is there. -/
theorem has_write (hreleases : stream.releases = none) (h : LinkFree t) {path : Path}
    (hok : (store.write t stream name).result = .ok path) :
    store.has (store.write t stream name).tree name = true := by
  rcases write_cases store t stream name with
    ⟨e, herror, _⟩ | ⟨content, s, hstores, _, htree⟩
  · cases hok.symm.trans herror
  have hstored : (store.write t stream name).tree.lookup s.location = some (.file content) := by
    rw [htree, release_of_none hreleases, lookup_insert _ s.location_ne_nil, if_pos rfl]
  have hkeeps : KeepsKinds (store.prepared t name) (store.write t stream name).tree := by
    rw [htree, release_of_none hreleases]
    exact hstores.keepsKinds h
  exact isFile_iff.mpr
    ⟨_, content, hstores.slot.resolve_of_keepsKinds hstores.asFile hkeeps hstored, hstored⟩

/-- **Where a write changes a tree without links**: above the artifact, where directories
were missing, at the artifact, and at the file that the stream lets go of. -/
theorem write_places (h : LinkFree t) (hne : undotted (store.path name).names ≠ [])
    {loc : Location} (hchange : (store.write t stream name).tree.lookup loc ≠ t.lookup loc) :
    (t.lookup loc = none ∧ (store.write t stream name).tree.lookup loc = some .directory ∧
      ∃ above, above <+: (undotted (store.path name).names).dropLast ∧
        loc = descend (t.start (store.path name)) above) ∨
    loc = t.place (store.path name) ∨
    ∃ released content, stream.releases = some released ∧ loc = t.place released ∧
      t.lookup loc = some (.file content) ∧
      (store.write t stream name).tree.lookup loc = none := by
  have hmakes := makes_prepared store t name
  have hprepared := hmakes.grows.linkFree h
  have hnew : (store.prepared t name).lookup loc ≠ t.lookup loc →
      t.lookup loc = none ∧ (store.prepared t name).lookup loc = some .directory ∧
      ∃ above, above <+: (undotted (store.path name).names).dropLast ∧
        loc = descend (t.start (store.path name)) above := by
    intro hne'
    obtain ⟨q, hq, rfl⟩ := hmakes.mem_place h hne'
    obtain ⟨habs, hnames⟩ := prefix_of_mem_directories hne hq
    obtain ⟨hnone, hdir⟩ := (hmakes.grows.lookup _).resolve_left hne'
    refine ⟨hnone, hdir, _, hnames, ?_⟩
    rw [descend_undotted, FileTree.place]
    simp [FileTree.start, habs]
  rcases write_cases store t stream name with ⟨_, _, htree⟩ | ⟨content, s, hstores, _, htree⟩
  · rw [htree] at hchange ⊢
    rcases lookup_release hprepared stream loc with
      hsame | ⟨released, content, hp, hloc, hfile, hgone⟩
    · rw [hsame] at hchange ⊢
      exact .inl (hnew hchange)
    · rw [hmakes.grows.place] at hloc
      exact .inr (.inr ⟨released, content, hp, hloc, hmakes.grows.lookup_file_iff.mp hfile, hgone⟩)
  · rw [htree] at hchange ⊢
    by_cases hplace : s.location = loc
    · refine .inr (.inl ?_)
      rw [← hplace, hstores.slot.location_eq hprepared, hmakes.grows.place]
    -- What the stream lets go of does not depend on what was written, as there are no links.
    have hfilled :=
      hprepared.insert (e := .file content) s.location_ne_nil (Entry.file_ne_link content)
    have hlookup : ((store.prepared t name).insert s.location (.file content)).lookup loc =
        (store.prepared t name).lookup loc := by
      rw [lookup_insert _ s.location_ne_nil, if_neg hplace]
    rcases lookup_release hfilled stream loc with
      hsame | ⟨released, content', hp, hloc, hfile, hgone⟩
    · rw [hsame, hlookup] at hchange ⊢
      exact .inl (hnew hchange)
    · rw [hlookup] at hfile
      have hplace' : ((store.prepared t name).insert s.location (.file content)).place released =
          t.place released := by
        simp [FileTree.place, FileTree.start, workingDirectory_insert,
          hmakes.grows.workingDirectory]
      exact .inr (.inr ⟨released, content', hp, hloc.trans hplace',
        hmakes.grows.lookup_file_iff.mp hfile, hgone⟩)

/-- Content is gathered beside the place of the artifact. -/
theorem temporary_eq (h : LinkFree t) (hne : undotted (store.path name).names ≠ [])
    {t₁ : FileTree} {temporary : Location}
    (hmake : t.makeTemporary (store.directoryOf name) = .ok (t₁, temporary)) :
    temporary = descend (t.start (store.path name)) (undotted (store.path name).names).dropLast ++
      [t.freshName] := by
  have hbelow := below_directoryOf hne
  obtain ⟨loc, hloc, rfl, -⟩ := makeTemporary_eq_ok hmake
  have hplace : loc = t.place (store.directoryOf name) := by
    rcases hloc with ⟨hempty, rfl⟩ | hresolve
    · have hpath : store.directoryOf name = ⟨""⟩ := congrArg Path.mk hempty
      simp [hpath, FileTree.place, FileTree.start, Path.isAbsolute]
    · have hlead := (leads_of_resolve hresolve).eq_descend h
      rwa [descend_undotted] at hlead
  rw [hplace, FileTree.place, ← descend_undotted, hbelow.names]
  simp [FileTree.start, hbelow.isAbsolute]

/-! ## The first location that is missing -/

/-- **A write makes the first location that is missing** on the way of its path: a directory, or
the file if no directory is missing. -/
theorem lookup_write_of_paved {first rest : List String} {next : String} {content : List UInt8}
    (hpaved : Paved t [] first) (hnext : IsOrdinary next)
    (hnone : t.lookup (descend [] first ++ [next]) = none) (hpath : IsUsable (store.path name))
    (hfile : (store.path name).endsInSeparator = false)
    (hnames : undotted (store.path name).names = first ++ next :: rest)
    (hreleases : stream.releases = none) (hcontents : stream.contents = (content, none)) :
    (store.write t stream name).tree.lookup (descend [] first ++ [next]) ≠ none := by
  have hne : undotted (store.path name).names ≠ [] := by simp [hnames]
  have hmem : store.directoryOf name ∈ (store.path name).parents :=
    List.mem_of_head? (parent?_eq_directoryOf hne)
  have hdirectory := hpath.of_mem_parents hmem
  have hbelow := (below_directoryOf hne).names
  by_cases hrest : rest = []
  · -- The directory of the artifact is there, and the artifact is missing.
    subst hrest
    rw [hnames, List.dropLast_concat] at hbelow
    have hresolve := resolve_of_paved hpaved hdirectory hbelow
    have hdir : t.isDirectory (store.directoryOf name) = true :=
      isDirectory_iff.mpr ⟨_, hresolve, hpaved.directory first List.prefix_rfl⟩
    have hslot := hasSlot_of_paved hpaved hnext hpath hnames
    have hnot : t.isDirectoryAt (descend [] first ++ [next]) = false := by
      rw [← Bool.not_eq_true, isDirectoryAt_iff, hnone]
      exact (Option.some_ne_none _).symm
    rw [write_eq, makeDirectories_of_isDirectory hdir]
    dsimp only
    rw [release_of_none hreleases, fill_of_hasSlot hdir hslot hfile hnot hcontents,
      lookup_insert t (Slot.location_ne_nil _)]
    simp [Slot.location]
  · -- The way of the directory has the missing step, so a chain of directories makes it.
    have hway : first ++ [next] <+: undotted (store.directoryOf name).names := by
      rw [hbelow, hnames, List.dropLast_append_of_ne_nil (List.cons_ne_nil _ _),
        List.dropLast_cons_of_ne_nil hrest]
      exact ⟨rest.dropLast, by simp⟩
    have hparents : (store.directoryOf name).parents ≠ [] := by
      have hnames' : undotted (store.directoryOf name).names ≠ [] := fun hnil => by
        simp [hnil] at hway
      obtain ⟨q, hq⟩ := Path.exists_parent? hnames'
      exact List.ne_nil_of_mem (List.mem_of_head? hq)
    have hmade : (store.prepared t name).lookup (descend [] first ++ [next]) =
        some .directory := by
      refine makeChain_makes hpaved hnext hnone (Path.isChain_parents _) (fun q hq => ?_)
        (fun q hq => ?_) rfl hway
      · rw [List.getLast?_cons_of_ne_nil hparents] at hq
        exact Path.undotted_of_getLast?_parents hq
      · rcases List.mem_cons.mp hq with rfl | hq
        · exact hdirectory
        · exact hdirectory.of_mem_parents hq
    rcases write_cases store t stream name with ⟨_, _, htree⟩ | ⟨content', s, _, _, htree⟩
    · rw [htree, release_of_none hreleases, hmade]
      exact Option.some_ne_none _
    · rw [htree, release_of_none hreleases, lookup_insert _ s.location_ne_nil]
      split
      · exact Option.some_ne_none _
      · rw [hmade]
        exact Option.some_ne_none _

end ModuleDepot.Store
