import ModuleDepot.Proofs.FileTree.Addition
import ModuleDepot.Proofs.Store.Effect

/-! # Entries elsewhere do not matter to a write

A write looks at the tree in two places: where the directory of the artifact is made, and where the
file lands that was gathered (`landing`). Neither sees what stands away from the path of the
artifact. So if a tree has further entries that keep clear of a location above the artifact, a write
ends with the same result, and the two trees differ in the same entries afterwards
(`FileTree.Adds.write`).

Nor does a write make the directory from which its path starts (`lookup_start_write`): without it
nothing can be made at all.
-/

namespace ModuleDepot

namespace FileTree

open ModuleDepot.Path (undotted Below)

variable {t u : FileTree} {p : Path} {loc : Location}

/-- The place of the last name of a path that goes down is not where the path starts. -/
theorem HasSlot.location_ne_start (ht : LinkFree t) {s : Slot} (hs : HasSlot t p s)
    (hdots : ".." ∉ p.names) : s.location ≠ t.start p := by
  obtain ⟨init, -, hundotted⟩ := hs.undotted_names
  rw [hs.location_eq ht, FileTree.place, descend_of_not_mem hdots, hundotted]
  simp

/-- The entry of the root, which no look-up sees. -/
theorem root_insert (hne : loc ≠ []) (e : Entry) :
    (t.insert loc e).entries[([] : Location)]? = t.entries[([] : Location)]? := by
  simp [insert, Std.ExtTreeMap.getElem?_insert, hne]

theorem Makes.root {ps : List Path} (h : Makes ps t u) :
    u.entries[([] : Location)]? = t.entries[([] : Location)]? := by
  induction h with
  | refl => rfl
  | step _ _ hmake ih =>
      obtain ⟨s, -, -, rfl⟩ := makeDirectory_eq_ok_iff.mp hmake
      rw [root_insert s.location_ne_nil, ih]

/-! ## The way to a path -/

/-- There is a way to a path below a directory. -/
theorem hasWay_of_isDirectory (ht : LinkFree t) {q : Path} (hbelow : Below p q)
    (hdots : ".." ∉ p.names) (hlast : p.names.getLast? ≠ some ".")
    (hdir : t.isDirectory q = true) : HasWay t p := by
  have hstart : t.start q = t.start p := by simp [FileTree.start, hbelow.isAbsolute]
  have hbefore : ".." ∉ p.names.dropLast := fun hmem => hdots (List.dropLast_subset _ hmem)
  -- The names of the directory are the names before the last one, without those that stay.
  have hnames : undotted q.names = undotted p.names.dropLast := by
    rw [hbelow.names, Path.dropLast_undotted hlast]
  obtain ⟨d, hd, hisdir⟩ := isDirectory_iff.mp hdir
  have hlead := leads_of_resolve hd
  rw [hstart, hnames] at hlead
  have hdown := (goDown_eq_ok_iff ht (mt Path.dots_mem_undotted.mp hbefore) maxLinks).mpr
    ⟨hlead, hisdir⟩
  rw [Path.undotted_undotted] at hdown
  exact ⟨d, (goDown_eq_ok_iff ht hbefore maxLinks).mp hdown⟩

end FileTree

namespace Store

open FileTree
open ModuleDepot.Path (undotted)

variable {store : Store} {t u : FileTree} {stream : ByteStream} {name : Path}

/-! ## What no write changes -/

/-- **A write does not make the directory from which its path starts.** -/
theorem lookup_start_write (ht : LinkFree t) (hdots : ".." ∉ (store.path name).names)
    (hne : undotted (store.path name).names ≠ []) (hreleases : stream.releases = none) :
    (store.write t stream name).tree.lookup (t.start (store.path name)) =
      t.lookup (t.start (store.path name)) := by
  have hmakes := makes_prepared store t name
  have hprepared : (store.prepared t name).lookup (t.start (store.path name)) =
      t.lookup (t.start (store.path name)) := by
    by_contra hchanged
    obtain ⟨q, hq, m, s, hm, hs, hloc⟩ := hmakes.exists_slot hchanged
    have hstart : m.start q = t.start (store.path name) := by
      rw [hm.grows.start, FileTree.start, FileTree.start, (prefix_of_mem_directories hne hq).1]
    exact hs.location_ne_start (hm.grows.linkFree ht) (not_mem_of_mem_directories hne hdots hq)
      (hloc.trans hstart.symm)
  rcases write_cases store t stream name with ⟨_, _, htree⟩ | ⟨content, s, hstores, _, htree⟩
  · rw [htree, release_of_none hreleases, hprepared]
  · have hloc : s.location ≠ t.start (store.path name) := by
      rw [← hmakes.grows.start]
      exact hstores.slot.location_ne_start (hmakes.grows.linkFree ht) hdots
    rw [htree, release_of_none hreleases, lookup_insert _ s.location_ne_nil, if_neg hloc, hprepared]

/-- A write does not put anything in the place of the root. -/
theorem root_write (hreleases : stream.releases = none) :
    (store.write t stream name).tree.entries[([] : Location)]? = t.entries[([] : Location)]? := by
  have hmakes := makes_prepared store t name
  rcases write_cases store t stream name with ⟨_, _, htree⟩ | ⟨content, s, _, _, htree⟩
  · rw [htree, release_of_none hreleases, hmakes.root]
  · rw [htree, release_of_none hreleases, root_insert s.location_ne_nil, hmakes.root]

/-! ## What a write looks at -/

/-- The path of an artifact leads down from `start` to a place below `home`, and through at least
one directory. -/
structure LeadsHome (store : Store) (start home : Location) (t : FileTree) (name : Path) :
    Prop where
  start : t.start (store.path name) = start
  noDots : ".." ∉ (store.path name).names
  last : (store.path name).names.getLast? ≠ some "."
  directory : (undotted (store.path name).names).dropLast ≠ []
  place : home <+: t.place (store.path name)

namespace LeadsHome

variable {start home : Location}

theorem names_ne_nil (h : LeadsHome store start home t name) :
    undotted (store.path name).names ≠ [] := by
  intro hnil
  exact h.directory (by rw [hnil]; rfl)

/-- What leads to the directory of the artifact. -/
theorem directoryOf (h : LeadsHome store start home t name) :
    t.start (store.directoryOf name) = start ∧ ".." ∉ (store.directoryOf name).names ∧
      (store.directoryOf name).names.getLast? ≠ some "." ∧
      undotted (store.directoryOf name).names ≠ [] ∧
      Along home (start ++ undotted (store.directoryOf name).names) := by
  have hbelow := below_directoryOf h.names_ne_nil
  have hmem : store.directoryOf name ∈ (store.path name).parents :=
    List.mem_of_head? (parent?_eq_directoryOf h.names_ne_nil)
  have hne : undotted (store.directoryOf name).names ≠ [] := hbelow.names ▸ h.directory
  refine ⟨?_, Path.not_mem_of_mem_parents h.noDots hmem, fun hdot => ?_, hne, ?_⟩
  · rw [← h.start, FileTree.start, FileTree.start, hbelow.isAbsolute]
  · have hdirectory := (Path.text_prefix_of_mem_parents hmem).2 hdot
    rw [hdirectory] at hne
    exact hne (by decide)
  · have hplace : t.place (store.path name) = start ++ undotted (store.path name).names := by
      rw [FileTree.place, descend_of_not_mem h.noDots, h.start]
    have hway : Along home (start ++ undotted (store.path name).names) :=
      .inr (hplace ▸ h.place)
    obtain ⟨init, last, hnames⟩ :=
      (List.eq_nil_or_concat' (undotted (store.path name).names)).resolve_left h.names_ne_nil
    rw [hbelow.names, hnames, List.dropLast_concat]
    rw [hnames, ← List.append_assoc] at hway
    exact hway.of_append

end LeadsHome

end Store

namespace FileTree.Adds

open ModuleDepot.Path (undotted)
open ModuleDepot.Store (LeadsHome)

variable {d : Location → Option Entry} {start home : Location} {t u : FileTree}

theorem hasWay (h : Adds d start home t u) {p : Path} (hway : HasWay t p) : HasWay u p := by
  obtain ⟨loc, hlead, hloc⟩ := hway
  exact ⟨loc, h.start_eq p ▸ hlead.mono h.keepsKinds, h.keepsKinds.isDirectoryAt hloc⟩

/-- A file lands at the same place below `home`. -/
theorem landing_eq (h : Adds d start home t u) (ht : LinkFree t) {p : Path} (hway : HasWay t p)
    (hplace : home <+: t.place p) : u.landing p = t.landing p := by
  unfold landing
  rw [hway.slot_eq h.keepsKinds]
  split
  · rfl
  rcases hslot : t.slot p with e | _ | s
  · rfl
  · rfl
  · have hs := (hasSlot_of_slot hslot).location_eq ht
    have hsame : u.isDirectoryAt s.location = t.isDirectoryAt s.location := by
      rw [isDirectoryAt, isDirectoryAt, h.lookup_of_inside (hs ▸ hplace)]
    simp only [hsame]

/-- The same becomes of content below `home`. -/
theorem deliver (h : Adds d start home t u) (ht : LinkFree t) {p : Path} (hway : HasWay t p)
    (hplace : home <+: t.place p) (contents : List UInt8 × Option IoError) :
    (Store.deliver u p contents).1 = (Store.deliver t p contents).1 ∧
      Adds d start home (Store.deliver t p contents).2 (Store.deliver u p contents).2 := by
  obtain ⟨content, _ | e⟩ := contents
  · unfold Store.deliver
    rw [h.landing_eq ht hway hplace]
    cases hland : t.landing p with
    | error e => exact ⟨rfl, h⟩
    | ok s =>
        have hs := (hasSlot_of_landing hland).location_eq ht
        exact ⟨rfl, h.insert_both s.location_ne_nil (h.eq_none_of_inside (hs ▸ hplace)) _⟩
  · exact ⟨rfl, h⟩

/-- **A write below `home` ends with the same result**, and the further entries stay the same. -/
theorem write (h : Adds d start home t u) (ht : LinkFree t) (hu : LinkFree u) (hrooted : Rooted t)
    (hrooted' : Rooted u) {store : Store} {name : Path} (hname : LeadsHome store start home t name)
    {stream : ByteStream} (hreleases : stream.releases = none) :
    (store.write u stream name).result = (store.write t stream name).result ∧
      Adds d start home (store.write t stream name).tree (store.write u stream name).tree := by
  obtain ⟨hstart, hdots, hlast, hne, hway⟩ := hname.directoryOf
  have htext : (store.directoryOf name).text ≠ "" := by
    intro hempty
    have hpath : store.directoryOf name = ⟨""⟩ := congrArg Path.mk hempty
    rw [hpath, Path.names_empty] at hne
    exact hne rfl
  obtain ⟨hresult, hadds⟩ :=
    h.makeDirectories ht hu hrooted hrooted' htext hstart hdots hlast hne hway
  have hgrows := (makes_makeDirectories t (store.directoryOf name)).grows
  rw [Store.write_eq, Store.write_eq]
  rcases hmade : t.makeDirectories (store.directoryOf name) with ⟨t', result⟩
  rcases hmade' : u.makeDirectories (store.directoryOf name) with ⟨u', result'⟩
  rw [hmade] at hresult hadds hgrows
  rw [hmade'] at hresult hadds
  obtain rfl : result' = result := hresult
  cases result' with
  | error e => exact ⟨rfl, by simpa only [Store.release_of_none hreleases] using hadds⟩
  | ok =>
      have hlinks := hgrows.linkFree ht
      have hdir := (isDirectory_of_makeChain hmade).resolve_left htext
      have hdir' := (isDirectory_of_makeChain hmade').resolve_left htext
      have hpath : HasWay t' (store.path name) :=
        hasWay_of_isDirectory hlinks (Store.below_directoryOf hname.names_ne_nil) hname.noDots
          hname.last hdir
      have hplace : home <+: t'.place (store.path name) := hgrows.place _ ▸ hname.place
      dsimp only
      rw [Store.release_of_none hreleases, Store.release_of_none hreleases,
        (Store.fill_eq_deliver hdir hpath stream).1, (Store.fill_eq_deliver hdir hpath stream).2,
        (Store.fill_eq_deliver hdir' (hadds.hasWay hpath) stream).1,
        (Store.fill_eq_deliver hdir' (hadds.hasWay hpath) stream).2]
      exact hadds.deliver hlinks hpath hplace stream.contents

end FileTree.Adds

end ModuleDepot
