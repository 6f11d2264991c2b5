import ModuleDepot.Proofs.FileTree.Laying

/-! # Trees with further entries elsewhere

`Adds d start home t u` says that `u` has the entries `d` besides those of `t`, and that they keep
clear of a location `home`: on the way from `start` to it there are further directories at most, and
nothing at it or below.

What is done along `home` then goes the same way in both trees, and the difference stays what it is.
Directories on the way that only `u` has are made in `t` (`Adds.lay`), and whether something is a
file, or can be put in its place, is seen below `home`, where the trees are the same.
-/

namespace ModuleDepot.FileTree

open ModuleDepot.Path (undotted)

variable {d : Location → Option Entry} {start home loc : Location} {t u : FileTree}

/-- The location is on the way to `home`, or at it, or below it. -/
def Along (home loc : Location) : Prop :=
  loc <+: home ∨ home <+: loc

theorem Along.of_append {below : Location} (h : Along home (loc ++ below)) : Along home loc := by
  rcases h with habove | hinside
  · exact .inl ((List.prefix_append loc below).trans habove)
  · exact List.prefix_or_prefix_of_prefix (List.prefix_append loc below) hinside

/-- The second tree has further entries, and they keep clear of `home`. -/
structure Adds (d : Location → Option Entry) (start home : Location) (t u : FileTree) : Prop where
  workingDirectory : u.workingDirectory = t.workingDirectory
  lookup : ∀ loc, u.lookup loc = (d loc).or (t.lookup loc)
  start : d start = none
  free : ∀ {loc e}, d loc = some e →
    t.lookup loc = none ∨ e = .directory ∧ t.lookup loc = some .directory
  apart : ∀ {loc e}, d loc = some e → Along home loc →
    e = .directory ∧ loc <+: home ∧ loc ≠ home

namespace Adds

theorem lookup_of_eq_none (h : Adds d start home t u) (hd : d loc = none) :
    u.lookup loc = t.lookup loc := by
  rw [h.lookup, hd, Option.none_or]

/-- Below `home` the trees are the same. -/
theorem eq_none_of_inside (h : Adds d start home t u) (hloc : home <+: loc) : d loc = none := by
  cases hd : d loc with
  | none => rfl
  | some e =>
      obtain ⟨-, habove, hne⟩ := h.apart hd (.inr hloc)
      exact absurd (habove.eq_of_length_le hloc.length_le) hne

theorem lookup_of_inside (h : Adds d start home t u) (hloc : home <+: loc) :
    u.lookup loc = t.lookup loc :=
  h.lookup_of_eq_none (h.eq_none_of_inside hloc)

theorem isDirectoryAt_start (h : Adds d start home t u) :
    u.isDirectoryAt start = t.isDirectoryAt start := by
  rw [isDirectoryAt, isDirectoryAt, h.lookup_of_eq_none h.start]

theorem start_eq (h : Adds d start home t u) (p : Path) : u.start p = t.start p := by
  simp [FileTree.start, h.workingDirectory]

theorem keepsKinds (h : Adds d start home t u) : KeepsKinds t u := by
  refine ⟨h.workingDirectory, fun {loc e} he => ⟨e, ?_, .refl e⟩⟩
  rw [h.lookup]
  cases hd : d loc with
  | none => exact he
  | some e' =>
      rcases h.free hd with hnone | ⟨rfl, hdir⟩
      · cases hnone.symm.trans he
      · exact hdir.symm.trans he

/-! ## Making entries -/

/-- The same entry is put in both trees. -/
theorem insert_both (h : Adds d start home t u) (hne : loc ≠ []) (hd : d loc = none)
    (e : Entry) : Adds d start home (t.insert loc e) (u.insert loc e) := by
  refine ⟨h.workingDirectory, fun l => ?_, h.start, fun {l e'} hl => ?_, h.apart⟩
  · rw [lookup_insert u hne, lookup_insert t hne, h.lookup]
    split
    next heq => rw [← heq, hd, Option.none_or]
    next => rfl
  · rw [lookup_insert t hne, if_neg]
    · exact h.free hl
    · rintro rfl
      cases hd.symm.trans hl

/-- A directory is made that only the second tree has. -/
theorem insert_left (h : Adds d start home t u) (hne : loc ≠ []) (hd : d loc = some .directory) :
    Adds d start home (t.insert loc .directory) u := by
  refine ⟨h.workingDirectory, fun l => ?_, h.start, fun {l e'} hl => ?_, h.apart⟩
  · rw [lookup_insert t hne, h.lookup]
    split
    next heq => rw [← heq, hd, Option.some_or, Option.some_or]
    next => rfl
  · rw [lookup_insert t hne]
    split
    next heq =>
      rw [← heq, hd] at hl
      exact .inr ⟨(Option.some.inj hl).symm, rfl⟩
    next => exact h.free hl

/-! ## Directories -/

theorem layOne (h : Adds d start home t u) {name : String} (hway : Along home (loc ++ [name]))
    (blocked : IoError) :
    (FileTree.layOne blocked u loc name).2 = (FileTree.layOne blocked t loc name).2 ∧
      Adds d start home (FileTree.layOne blocked t loc name).1
        (FileTree.layOne blocked u loc name).1 := by
  have hne : loc ++ [name] ≠ [] := by simp
  unfold FileTree.layOne
  by_cases hlong : name.utf8ByteSize > maxNameLength
  · simpa [hlong] using h
  rw [if_neg hlong, if_neg hlong]
  cases hd : d (loc ++ [name]) with
  | none =>
      rw [h.lookup_of_eq_none hd]
      rcases t.lookup (loc ++ [name]) with _ | (content | _ | target)
      · exact ⟨rfl, h.insert_both hne hd .directory⟩
      all_goals exact ⟨rfl, h⟩
  | some e =>
      -- Only a directory can be on the way, and whether the first tree has it makes no difference.
      obtain ⟨rfl, -, -⟩ := h.apart hd hway
      rw [h.lookup, hd, Option.some_or]
      rcases h.free hd with hnone | ⟨-, hdir⟩
      · rw [hnone]
        exact ⟨rfl, h.insert_left hne hd⟩
      · rw [hdir]
        exact ⟨rfl, h⟩

theorem layThrough (h : Adds d start home t u) {names : List String}
    (hway : Along home (loc ++ names)) :
    (FileTree.layThrough u loc names).2 = (FileTree.layThrough t loc names).2 ∧
      Adds d start home (FileTree.layThrough t loc names).1
        (FileTree.layThrough u loc names).1 := by
  induction names generalizing t u loc with
  | nil => exact ⟨rfl, h⟩
  | cons name rest ih =>
      rw [List.append_cons] at hway
      obtain ⟨hresult, hadds⟩ := h.layOne hway.of_append .notDirectory
      rw [FileTree.layThrough, FileTree.layThrough]
      generalize FileTree.layOne .notDirectory t loc name = laid at hresult hadds ⊢
      generalize FileTree.layOne .notDirectory u loc name = laid' at hresult hadds ⊢
      obtain ⟨t', result⟩ := laid
      obtain ⟨u', result'⟩ := laid'
      obtain rfl : result' = result := hresult
      cases result' with
      | error e => exact ⟨rfl, hadds⟩
      | ok => exact ih hadds hway

/-- **Directories along `home` are made in both trees or in neither.** -/
theorem lay (h : Adds d start home t u) {names : List String} (hway : Along home (loc ++ names)) :
    (FileTree.lay u loc names).2 = (FileTree.lay t loc names).2 ∧
      Adds d start home (FileTree.lay t loc names).1 (FileTree.lay u loc names).1 := by
  rcases List.eq_nil_or_concat' names with rfl | ⟨init, name, rfl⟩
  · exact ⟨rfl, h⟩
  rw [← List.append_assoc] at hway
  obtain ⟨hresult, hadds⟩ := h.layThrough hway.of_append
  rw [lay_concat, lay_concat]
  generalize FileTree.layThrough t loc init = laid at hresult hadds ⊢
  generalize FileTree.layThrough u loc init = laid' at hresult hadds ⊢
  obtain ⟨t', result⟩ := laid
  obtain ⟨u', result'⟩ := laid'
  obtain rfl : result' = result := hresult
  cases result' with
  | error e => exact ⟨rfl, hadds⟩
  | ok => exact hadds.layOne hway .alreadyExists

/-- **The directories of a path along `home` are made with the same result.** -/
theorem makeDirectories (h : Adds d start home t u) (ht : LinkFree t) (hu : LinkFree u)
    (hrooted : Rooted t) (hrooted' : Rooted u) {p : Path} (htext : p.text ≠ "")
    (hstart : t.start p = start) (hdots : ".." ∉ p.names) (hlast : p.names.getLast? ≠ some ".")
    (hne : undotted p.names ≠ []) (hway : Along home (start ++ undotted p.names)) :
    (u.makeDirectories p).2 = (t.makeDirectories p).2 ∧
      Adds d start home (t.makeDirectories p).1 (u.makeDirectories p).1 := by
  cases hcheck : checkPath p with
  | error e =>
      rw [makeDirectories_of_refused htext hcheck, makeDirectories_of_refused htext hcheck]
      exact ⟨rfl, h⟩
  | ok =>
      have hp : Descends p t start := ⟨hcheck, hstart, hdots, .inr hlast⟩
      have hp' : Descends p u start := ⟨hcheck, (h.start_eq p).trans hstart, hdots, .inr hlast⟩
      cases hdir : t.isDirectoryAt start with
      | true =>
          have hdir' : u.isDirectoryAt start = true := h.isDirectoryAt_start.trans hdir
          rw [makeDirectories_eq_lay ht hrooted hp hdir, makeDirectories_eq_lay hu hrooted' hp' hdir']
          exact h.lay hway
      | false =>
          have hdir' : u.isDirectoryAt start = false := h.isDirectoryAt_start.trans hdir
          rw [makeDirectories_of_no_start ht hp hne hdir,
            makeDirectories_of_no_start hu hp' hne hdir']
          exact ⟨rfl, h⟩

/-! ## Files -/

/-- **What a path below `home` names is a file in both trees or in neither.** -/
theorem isFile_eq (h : Adds d start home t u) (ht : LinkFree t) (hu : LinkFree u)
    (hrooted : Rooted t) {p : Path} (hdown : LeadsDown t p) (hplace : home <+: t.place p) :
    u.isFile p = t.isFile p :=
  h.keepsKinds.isFile_eq ht hu hrooted hdown fun _ hfile =>
    (h.lookup_of_inside hplace).symm.trans hfile

/-- A file below `home` is read as the same bytes. -/
theorem openFile_eq (h : Adds d start home t u) (ht : LinkFree t) {p : Path}
    (hplace : home <+: t.place p) (hfile : t.isFile p = true) : u.openFile p = t.openFile p := by
  obtain ⟨loc, content, hloc, hcontent⟩ := isFile_iff.mp hfile
  have hsame : u.lookup loc = t.lookup loc := by
    have hlead := (leads_of_resolve hloc).eq_descend ht
    rw [descend_undotted] at hlead
    exact h.lookup_of_inside (hlead ▸ hplace)
  simp [openFile, entryAt, hloc, h.keepsKinds.resolve hloc, hsame, hcontent, bind, Except.bind]

/-- **Two additions can be made in either order**, if each is the same with and without the other. -/
theorem lookup_comm {d' : Location → Option Entry} {home' : Location} {u' v v' : FileTree}
    (h : Adds d start home t u) (h' : Adds d' start home' t u')
    (hafter : Adds d start home u' v) (hafter' : Adds d' start home' u v') (loc : Location) :
    v.lookup loc = v'.lookup loc := by
  rw [hafter.lookup, hafter'.lookup, h.lookup, h'.lookup]
  cases hd : d loc with
  | none => rfl
  | some e =>
      cases hd' : d' loc with
      | none => rfl
      | some e' =>
          -- What both add was there before one of them, hence is a directory.
          have hthere : u'.lookup loc = some e' := by rw [h'.lookup, hd', Option.some_or]
          rcases hafter.free hd with hnone | ⟨rfl, hdir⟩
          · cases hnone.symm.trans hthere
          · exact hdir.symm.trans hthere

end Adds

/-! ## What changed -/

/-- The entries of the second tree where it is not as the first. -/
def changes (t u : FileTree) (loc : Location) : Option Entry :=
  if u.lookup loc = t.lookup loc then none else u.lookup loc

/-- **Changes that keep what was there are further entries.** -/
theorem adds_changes (hkeep : KeepsKinds t u) (ht : LinkFree t)
    (hfiles : ∀ {loc content}, t.lookup loc = some (.file content) →
      u.lookup loc = some (.file content))
    (hstart : u.lookup start = t.lookup start)
    (hapart : ∀ loc, u.lookup loc ≠ t.lookup loc → Along home loc →
      u.lookup loc = some .directory ∧ loc <+: home ∧ loc ≠ home) :
    Adds (changes t u) start home t u := by
  have hchanged : ∀ {loc e}, changes t u loc = some e →
      u.lookup loc ≠ t.lookup loc ∧ u.lookup loc = some e := by
    intro loc e hd
    rw [changes] at hd
    split at hd
    next => cases hd
    next hne => exact ⟨hne, hd⟩
  have hnew : ∀ {loc}, u.lookup loc ≠ t.lookup loc → t.lookup loc = none := by
    intro loc hne
    rcases hentry : t.lookup loc with _ | (content | _ | target)
    · rfl
    · exact absurd ((hfiles hentry).trans hentry.symm) hne
    · have hdir := isDirectoryAt_iff.mp (hkeep.isDirectoryAt (isDirectoryAt_iff.mpr hentry))
      exact absurd (hdir.trans hentry.symm) hne
    · exact absurd hentry (ht loc target)
  refine ⟨hkeep.workingDirectory, fun loc => ?_, if_pos hstart, fun hd => ?_, fun hd hway => ?_⟩
  · rw [changes]
    split
    next heq => rw [Option.none_or, heq]
    next hne => rw [hnew hne, Option.or_none]
  · exact .inl (hnew (hchanged hd).1)
  · obtain ⟨hne, he⟩ := hchanged hd
    obtain ⟨hdir, habove⟩ := hapart _ hne hway
    exact ⟨Option.some.inj (he.symm.trans hdir), habove⟩

end ModuleDepot.FileTree
