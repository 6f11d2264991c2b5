import ModuleDepot.Proofs.FileTree.Files
import ModuleDepot.Proofs.Store.Effect

/-! # Writes of artifacts that are missing

In a rooted tree without links the store can tell from `has` what a write would replace: an
artifact that is missing replaces no file (`lookup_write_of_file`), and another artifact is there
after the write if and only if it was there before (`has_write_of_ne`).

A write that breaks off leaves directories behind. They do not show when the artifact is looked
for again (`has_prepared`), nor when it is written again (`write_prepared`).

Where a file stands in the way to an artifact, the artifact is missing and cannot be stored, and no
directory takes the place of the file (`Blocked`).
-/

namespace ModuleDepot.Store

open FileTree
open ModuleDepot.Path (undotted)

variable {store : Store} {t : FileTree} {stream : ByteStream} {name other : Path}

/-- The directories for an artifact do not make any artifact present. -/
theorem has_prepared (ht : LinkFree t) (hrooted : Rooted t)
    (hdown : LeadsDown t (store.path other)) :
    store.has (store.prepared t name) other = store.has t other :=
  (makes_prepared store t name).grows.isFile_eq ht hrooted hdown

/-- **A write is the same with the directories it needs already there.** -/
theorem write_prepared (hmade : (t.makeDirectories (store.directoryOf name)).2 = .ok ()) :
    store.write (store.prepared t name) stream name = store.write t stream name := by
  have hmake : t.makeDirectories (store.directoryOf name) = (store.prepared t name, .ok ()) :=
    Prod.ext rfl hmade
  rw [write_eq, write_eq, hmake, makeDirectories_again hmake]

/-- A write breaks off in its source only behind its directories. -/
theorem write_of_brokenSource {path : Path} {cause : IoError}
    (h : (store.write t stream name).result = .error (.brokenSource path cause)) :
    (t.makeDirectories (store.directoryOf name)).2 = .ok () ∧ stream.contents.2 = some cause := by
  rw [write_eq] at h
  rcases hmake : t.makeDirectories (store.directoryOf name) with ⟨t₁, e | ⟨⟩⟩
  · rw [hmake] at h
    cases h
  rw [hmake] at h
  refine ⟨rfl, ?_⟩
  dsimp only at h
  unfold fill at h
  split at h
  · cases h
  split at h
  next broken hcontents =>
    cases h
    rw [hcontents]
  next =>
    dsimp only at h
    split at h <;> cases h

/-- A stream that breaks is not stored. -/
theorem write_of_broken (hbroken : stream.contents.2 ≠ none) :
    ∃ e, (store.write t stream name).result = .error e := by
  rcases write_cases store t stream name with ⟨e, he, -⟩ | ⟨content, s, hstores, -, -⟩
  · exact ⟨e, he⟩
  · rw [hstores.contents] at hbroken
    exact absurd rfl hbroken

/-- **A missing artifact replaces no file.** -/
theorem lookup_write_of_file (hreleases : stream.releases = none) (ht : LinkFree t)
    (hrooted : Rooted t) (hdown : LeadsDown t (store.path name))
    (hmissing : store.has t name = false) {loc : Location} {content : List UInt8}
    (hfile : t.lookup loc = some (.file content)) :
    (store.write t stream name).tree.lookup loc = some (.file content) := by
  have hgrows := (makes_prepared store t name).grows
  have hprepared : (store.prepared t name).lookup loc = some (.file content) :=
    hgrows.lookup_file_iff.mpr hfile
  rcases write_cases store t stream name with ⟨_, -, htree⟩ | ⟨_, s, hstores, hok, htree⟩
  · rwa [htree, release_of_none hreleases]
  rw [htree, release_of_none hreleases, lookup_insert _ s.location_ne_nil]
  split
  next hloc =>
    -- The artifact would be at the place of the file, so it would have been found there.
    have hplace := hstores.slot.location_eq (hgrows.linkFree ht)
    rw [hgrows.place, hloc] at hplace
    have hhas : store.has t name = true :=
      isFile_of_isFile (linkFree_write ht) ht hrooted hdown
        ((keepsKinds_write hreleases ht).start _) (has_write hreleases ht hok) (hplace ▸ hfile)
    cases hmissing.symm.trans hhas
  next => exact hprepared

/-- **A write does not make another artifact present.** -/
theorem has_write_of_ne (hreleases : stream.releases = none) (ht : LinkFree t)
    (hrooted : Rooted t) (hne : undotted (store.path name).names ≠ [])
    (hdown : LeadsDown t (store.path other))
    (hplaces : t.place (store.path other) ≠ t.place (store.path name)) :
    store.has (store.write t stream name).tree other = store.has t other := by
  refine (keepsKinds_write hreleases ht).isFile_eq ht (linkFree_write ht) hrooted hdown
    fun content hfile => ?_
  by_contra hnew
  have hchange : (store.write t stream name).tree.lookup (t.place (store.path other)) ≠
      t.lookup (t.place (store.path other)) := fun heq => hnew (heq ▸ hfile)
  rcases write_places ht hne hchange with ⟨-, hdir, -⟩ | hplace | ⟨_, _, hreleased, -⟩
  · cases hdir.symm.trans hfile
  · exact hplaces hplace
  · cases hreleases.symm.trans hreleased

/-! ## Files in the way -/

/-- A file stands on the way to the place of the artifact. -/
structure Blocked (store : Store) (t : FileTree) (name : Path) (loc : Location) : Prop where
  way : ∃ first, first <+: (undotted (store.path name).names).dropLast ∧
    loc = descend (t.start (store.path name)) first
  file : ∃ content, t.lookup loc = some (.file content)

namespace Blocked

variable {loc : Location}

theorem isDirectoryAt (h : store.Blocked t name loc) : t.isDirectoryAt loc = false := by
  obtain ⟨content, hfile⟩ := h.file
  rw [← Bool.not_eq_true, isDirectoryAt_iff, hfile]
  exact nofun

theorem has (h : store.Blocked t name loc) (ht : LinkFree t)
    (hne : undotted (store.path name).names ≠ []) : store.has t name = false := by
  rw [← Bool.not_eq_true]
  intro hhas
  obtain ⟨first, ⟨rest, hrest⟩, rfl⟩ := h.way
  obtain ⟨d, _, hd, -⟩ := isFile_iff.mp hhas
  have hlead := (resolve_eq_ok_iff.mp hd).2.thin (thins_undotted _)
  rw [steps_of_isFile hhas, ← List.dropLast_append_getLast hne, ← hrest, List.append_assoc]
    at hlead
  have hdir := hlead.isDirectoryAt_descend ht fun hnil => by simp at hnil
  cases h.isDirectoryAt.symm.trans hdir

/-- **A write makes no directory of a file in its way.** -/
theorem write (h : store.Blocked t name loc) (ht : LinkFree t) (stream : ByteStream) :
    (∃ e, (store.write t stream name).result = .error e) ∧
      (store.write t stream name).tree.lookup loc ≠ some .directory := by
  obtain ⟨content, hfile⟩ := h.file
  have hgrows := (makes_prepared store t name).grows
  have hprepared : (store.prepared t name).lookup loc = some (.file content) :=
    hgrows.lookup_file_iff.mpr hfile
  rcases write_cases store t stream name with ⟨e, herror, htree⟩ | ⟨_, s, hstores, -, -⟩
  · refine ⟨⟨e, herror⟩, ?_⟩
    rw [htree]
    rcases lookup_release (hgrows.linkFree ht) stream loc with hsame | ⟨_, _, -, -, -, hgone⟩
    · rw [hsame, hprepared]
      exact nofun
    · rw [hgone]
      exact nofun
  · -- The way to the place of what was stored leads over directories only.
    obtain ⟨first, ⟨rest, hrest⟩, hloc⟩ := h.way
    obtain ⟨init, hnames, hundotted⟩ := hstores.slot.undotted_names
    obtain ⟨init', hnames', hlead⟩ := hstores.slot.names
    obtain rfl : init' = init := by simpa [hnames'] using hnames
    rw [hundotted, List.dropLast_concat] at hrest
    have hway := hlead.thin (thins_undotted _)
    rw [← hrest] at hway
    have hdir := hway.isDirectoryAt_descend (hgrows.linkFree ht) fun _ => hstores.slot.directory
    rw [hgrows.start, ← hloc, isDirectoryAt_iff, hprepared] at hdir
    cases hdir

end Blocked

end ModuleDepot.Store
