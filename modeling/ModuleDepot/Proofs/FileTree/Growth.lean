import ModuleDepot.FileTree.Change
import ModuleDepot.Proofs.FileTree.Leads

/-! # Trees that grow

What a later tree keeps of an earlier one. `KeepsKinds t u` says that every entry of `t` is
still there in `u` and of the same kind; walks of `t` are then walks of `u`. `Grows t u` is
the stronger fact that nothing but directories was added.

`Rooted` says what a tree of files always is and a map of locations need not be: every entry
stands in a directory.
-/

namespace ModuleDepot

/-- Both are files, both are directories, or both are the same link. -/
def Entry.SameKind : Entry → Entry → Prop
  | .file _, .file _ => True
  | .directory, .directory => True
  | .link a, .link b => a = b
  | _, _ => False

@[simp] theorem Entry.SameKind.refl (e : Entry) : e.SameKind e := by
  cases e <;> simp [SameKind]

theorem Entry.SameKind.trans {a b c : Entry} (hab : a.SameKind b) (hbc : b.SameKind c) :
    a.SameKind c := by
  cases a <;> cases b <;> cases c <;> simp_all [SameKind]

@[simp] theorem Entry.sameKind_directory {e : Entry} :
    Entry.directory.SameKind e ↔ e = .directory := by
  cases e <;> simp [SameKind]

@[simp] theorem Entry.sameKind_link {target : Path} {e : Entry} :
    (Entry.link target).SameKind e ↔ e = .link target := by
  cases e <;> simp [SameKind, eq_comm]

theorem Entry.SameKind.file {content : List UInt8} {e : Entry}
    (h : (Entry.file content).SameKind e) : ∃ content', e = .file content' := by
  cases e with
  | file content' => exact ⟨content', rfl⟩
  | directory => exact h.elim
  | link => exact h.elim

namespace FileTree

variable {t u v : FileTree}

/-! ## Entries that stay what they are -/

/-- Every entry of `t` is there in `u`, and of the same kind. -/
structure KeepsKinds (t u : FileTree) : Prop where
  workingDirectory : u.workingDirectory = t.workingDirectory
  lookup : ∀ {loc e}, t.lookup loc = some e → ∃ e', u.lookup loc = some e' ∧ e.SameKind e'

namespace KeepsKinds

theorem refl (t : FileTree) : KeepsKinds t t :=
  ⟨rfl, fun h => ⟨_, h, .refl _⟩⟩

theorem trans (h : KeepsKinds t u) (h' : KeepsKinds u v) : KeepsKinds t v := by
  refine ⟨h'.workingDirectory.trans h.workingDirectory, fun he => ?_⟩
  obtain ⟨e', he', hk⟩ := h.lookup he
  obtain ⟨e'', he'', hk'⟩ := h'.lookup he'
  exact ⟨e'', he'', hk.trans hk'⟩

theorem isDirectoryAt (h : KeepsKinds t u) {loc : Location} (hdir : t.isDirectoryAt loc) :
    u.isDirectoryAt loc := by
  obtain ⟨e', he', hk⟩ := h.lookup (isDirectoryAt_iff.mp hdir)
  rw [isDirectoryAt_iff, he', Entry.sameKind_directory.mp hk]

theorem start (h : KeepsKinds t u) (p : Path) : u.start p = t.start p := by
  simp [FileTree.start, h.workingDirectory]

end KeepsKinds

/-- A walk stays possible while entries stay what they are. -/
theorem Leads.mono {n : Nat} {loc d : Location} {steps : List String}
    (h : Leads t n loc steps d) (hkeep : KeepsKinds t u) : Leads u n loc steps d := by
  induction h with
  | done => exact .done
  | stay hdir _ ih => exact .stay (hkeep.isDirectoryAt hdir) ih
  | up hdir _ ih => exact .up (hkeep.isDirectoryAt hdir) ih
  | down hdir hname hentry hlink _ ih =>
      obtain ⟨e', he', hk⟩ := hkeep.lookup hentry
      refine .down (hkeep.isDirectoryAt hdir) hname he' (fun target heq => ?_) ih
      subst heq
      rename_i e _ _ _
      cases e with
      | link other => exact hlink other rfl
      | file => exact hk.elim
      | directory => exact hk.elim
  | follow hdir hname hentry _ ih =>
      obtain ⟨e', he', hk⟩ := hkeep.lookup hentry
      exact .follow (hkeep.isDirectoryAt hdir) hname (Entry.sameKind_link.mp hk ▸ he') ih

/-- A new entry leaves the others what they are. -/
theorem keepsKinds_insert {loc : Location} (hne : loc ≠ []) (hnone : t.lookup loc = none)
    (e : Entry) : KeepsKinds t (t.insert loc e) := by
  refine ⟨rfl, fun {l e'} he => ⟨e', ?_, .refl e'⟩⟩
  rw [lookup_insert t hne, if_neg, he]
  rintro rfl
  cases hnone.symm.trans he

/-- A file in place of a file or of nothing is in no way. -/
theorem keepsKinds_insert_file {loc : Location} (hne : loc ≠ [])
    (hdir : t.isDirectoryAt loc = false)
    (hlink : ∀ target, t.lookup loc ≠ some (.link target)) (content : List UInt8) :
    KeepsKinds t (t.insert loc (.file content)) := by
  refine ⟨rfl, fun {l e} he => ?_⟩
  rw [lookup_insert t hne]
  split
  next heq =>
    subst heq
    refine ⟨.file content, rfl, ?_⟩
    cases e with
    | file => trivial
    | link target => exact absurd he (hlink target)
    | directory => exact absurd (isDirectoryAt_iff.mpr he) (by simp [hdir])
  next => exact ⟨e, he, .refl e⟩

/-! ## What paths name -/

/-- The paths that a walk can follow. -/
theorem checkPath_eq_ok_iff {p : Path} :
    checkPath p = .ok () ↔
      p.hasNul = false ∧ p.text ≠ "" ∧ p.text.utf8ByteSize ≤ maxPathLength := by
  unfold checkPath
  split
  next hnul => simp [hnul]
  next hnul =>
    split
    next hempty => simp [String.isEmpty_iff.mp hempty]
    next hempty =>
      rw [String.isEmpty_iff] at hempty
      split
      next hlong => simp [Nat.not_le.mpr hlong]
      next hlong => simpa [hnul, hempty] using Nat.le_of_not_lt hlong

theorem resolve_eq_ok_iff {p : Path} {d : Location} :
    t.resolve p = .ok d ↔ checkPath p = .ok () ∧ Leads t maxLinks (t.start p) p.steps d := by
  rw [← walk_eq_ok_iff, resolve]
  cases checkPath p <;> simp [bind, Except.bind]

theorem isFile_iff {p : Path} :
    t.isFile p = true ↔ ∃ d content, t.resolve p = .ok d ∧ t.lookup d = some (.file content) := by
  unfold isFile entryAt
  cases hd : t.resolve p with
  | error => simp [bind, Except.bind]
  | ok d =>
      cases he : t.lookup d with
      | none => simp [bind, Except.bind, he]
      | some e => cases e <;> simp [bind, Except.bind, he]

theorem isDirectory_iff {p : Path} :
    t.isDirectory p = true ↔ ∃ d, t.resolve p = .ok d ∧ t.isDirectoryAt d := by
  unfold isDirectory entryAt
  cases hd : t.resolve p with
  | error => simp [bind, Except.bind]
  | ok d =>
      cases he : t.lookup d with
      | none => simp [bind, Except.bind, he, isDirectoryAt]
      | some e => cases e <;> simp [bind, Except.bind, he, isDirectoryAt]

theorem KeepsKinds.resolve (h : KeepsKinds t u) {p : Path} {d : Location}
    (hd : t.resolve p = .ok d) : u.resolve p = .ok d := by
  rw [resolve_eq_ok_iff, h.start] at *
  exact ⟨hd.1, hd.2.mono h⟩

/-- What was a file stays one. -/
theorem KeepsKinds.isFile (h : KeepsKinds t u) {p : Path} (hp : t.isFile p) : u.isFile p := by
  obtain ⟨d, content, hd, he⟩ := isFile_iff.mp hp
  obtain ⟨e', he', hk⟩ := h.lookup he
  obtain ⟨content', rfl⟩ := hk.file
  exact isFile_iff.mpr ⟨d, content', h.resolve hd, he'⟩

/-! ## Further directories -/

/-- `u` is `t` with further directories. -/
structure Grows (t u : FileTree) : Prop where
  workingDirectory : u.workingDirectory = t.workingDirectory
  lookup : ∀ loc, u.lookup loc = t.lookup loc ∨
    (t.lookup loc = none ∧ u.lookup loc = some .directory)

namespace Grows

theorem refl (t : FileTree) : Grows t t :=
  ⟨rfl, fun _ => .inl rfl⟩

theorem trans (h : Grows t u) (h' : Grows u v) : Grows t v := by
  refine ⟨h'.workingDirectory.trans h.workingDirectory, fun loc => ?_⟩
  rcases h.lookup loc with heq | ⟨hnone, hdir⟩
  · exact heq ▸ h'.lookup loc
  · rcases h'.lookup loc with heq' | ⟨hnone', _⟩
    · exact .inr ⟨hnone, heq'.trans hdir⟩
    · cases hdir.symm.trans hnone'

theorem keepsKinds (h : Grows t u) : KeepsKinds t u := by
  refine ⟨h.workingDirectory, fun {loc e} he => ?_⟩
  rcases h.lookup loc with heq | ⟨hnone, _⟩
  · exact ⟨e, heq.trans he, .refl e⟩
  · cases hnone.symm.trans he

/-- An entry that is no directory was there before. -/
theorem lookup_of_ne (h : Grows t u) {loc : Location} {e : Entry} (he : u.lookup loc = some e)
    (hne : e ≠ .directory) : t.lookup loc = some e := by
  rcases h.lookup loc with heq | ⟨_, hdir⟩
  · exact heq ▸ he
  · cases he.symm.trans hdir
    exact absurd rfl hne

/-- **The files are the same**, with the same content. -/
theorem lookup_file_iff (h : Grows t u) {loc : Location} {content : List UInt8} :
    u.lookup loc = some (.file content) ↔ t.lookup loc = some (.file content) := by
  rcases h.lookup loc with heq | ⟨hnone, hdir⟩
  · rw [heq]
  · simp [hnone, hdir]

theorem start (h : Grows t u) (p : Path) : u.start p = t.start p :=
  h.keepsKinds.start p

end Grows

theorem grows_insert_directory {loc : Location} (hne : loc ≠ []) (h : t.lookup loc = none) :
    Grows t (t.insert loc .directory) := by
  refine ⟨rfl, fun l => ?_⟩
  rw [lookup_insert t hne]
  split
  next heq => exact .inr ⟨heq ▸ h, rfl⟩
  next => exact .inl rfl

/-! ## Entries stand in directories -/

/-- Every entry stands in a directory. -/
def Rooted (t : FileTree) : Prop :=
  ∀ loc name, (t.lookup (loc ++ [name])).isSome → t.isDirectoryAt loc

theorem rooted_empty : Rooted empty := by
  intro loc name h
  simp [empty, FileTree.lookup] at h

/-- Nothing stands below a location where nothing stands. -/
theorem Rooted.lookup_below (h : Rooted t) {loc : Location} (hnone : t.lookup loc = none)
    (name : String) : t.lookup (loc ++ [name]) = none := by
  cases he : t.lookup (loc ++ [name]) with
  | none => rfl
  | some e =>
      have hdir := isDirectoryAt_iff.mp (h loc name (by simp [he]))
      cases hnone.symm.trans hdir

/-- An entry can be put into a directory, but only a directory can take the place of one. -/
theorem Rooted.insert (h : Rooted t) {loc : Location} {name : String} {e : Entry}
    (hdir : t.isDirectoryAt loc) (he : e = .directory ∨ t.isDirectoryAt (loc ++ [name]) = false) :
    Rooted (t.insert (loc ++ [name]) e) := by
  have hne : loc ++ [name] ≠ [] := by simp
  intro l n hsome
  rw [lookup_insert t hne] at hsome
  rw [isDirectoryAt_iff, lookup_insert t hne]
  have hparent : t.isDirectoryAt l := by
    split at hsome
    next heq =>
      obtain ⟨rfl, -⟩ := List.append_inj' heq rfl
      exact hdir
    next => exact h l n hsome
  split
  next heq =>
    rcases he with rfl | hno
    · rfl
    · rw [heq, hparent] at hno
      cases hno
  next => exact isDirectoryAt_iff.mp hparent

/-! ## The place of the last name of a path -/

/-- The last name of the path has a place in the tree: the names before it lead to the
directory of the place, and it is a name that can stand there. -/
structure HasSlot (t : FileTree) (p : Path) (s : Slot) : Prop where
  check : checkPath p = .ok ()
  names : ∃ init, p.names = init ++ [s.name] ∧ Leads t maxLinks (t.start p) init s.directory
  directory : t.isDirectoryAt s.directory
  ordinary : IsOrdinary s.name
  asDirectory : s.asDirectory = p.endsInSeparator

theorem hasSlot_of_slot {p : Path} {s : Slot} (h : t.slot p = .ok (some s)) : HasSlot t p s := by
  unfold slot at h
  cases hcheck : checkPath p with
  | error => simp [hcheck, bind, Except.bind] at h
  | ok _ =>
    simp only [hcheck, bind, Except.bind] at h
    split at h
    · cases h
    next name hlast =>
    split at h
    · cases h
    next directory hwalk =>
    split at h
    · cases h
    next hdir =>
    split at h
    · cases h
    next hdots =>
    split at h
    · cases h
    next hlong =>
    cases h
    have hdots : ¬(name == ".") = true ∧ ¬(name == "..") = true := by
      simpa only [Bool.or_eq_true, not_or] using hdots
    obtain ⟨init, hnames⟩ := List.getLast?_eq_some_iff.mp hlast
    rw [hnames, List.dropLast_concat] at hwalk
    exact ⟨hcheck, ⟨init, hnames, walk_eq_ok_iff.mp hwalk⟩, by simpa using hdir,
      .of_not hdots.1 hdots.2 hlong, rfl⟩

/-- The last name of a path with a place counts. -/
theorem HasSlot.undotted_names {p : Path} {s : Slot} (hs : HasSlot t p s) :
    ∃ init, p.names = init ++ [s.name] ∧
      Path.undotted p.names = Path.undotted init ++ [s.name] := by
  obtain ⟨init, hnames, _⟩ := hs.names
  refine ⟨init, hnames, ?_⟩
  rw [hnames, Path.undotted_append, Path.undotted_cons hs.ordinary.ne_dot, Path.undotted_nil]

/-- The steps of a path to a file are its names. -/
theorem HasSlot.steps {p : Path} {s : Slot} (h : HasSlot t p s) (hfile : s.asDirectory = false) :
    ∃ init, p.names = init ++ [s.name] ∧ p.steps = init ++ [s.name] ∧
      Leads t maxLinks (t.start p) init s.directory := by
  obtain ⟨init, hnames, hlead⟩ := h.names
  refine ⟨init, hnames, ?_, hlead⟩
  rw [Path.steps, ← h.asDirectory, hfile, hnames]
  rfl

/-- A path leads to the file at its place, as long as the other entries stay what they are. -/
theorem HasSlot.resolve_of_keepsKinds {p : Path} {s : Slot} (h : HasSlot t p s)
    (hfile : s.asDirectory = false) (hkeeps : KeepsKinds t u) {content : List UInt8}
    (hstored : u.lookup s.location = some (.file content)) : u.resolve p = .ok s.location := by
  obtain ⟨init, -, hsteps, hlead⟩ := h.steps hfile
  have hwalk := (hlead.mono hkeeps).snoc (hkeeps.isDirectoryAt h.directory) h.ordinary hstored
    (Entry.file_ne_link content)
  rw [← hkeeps.start, ← hsteps] at hwalk
  exact resolve_eq_ok_iff.mpr ⟨h.check, hwalk⟩

theorem HasSlot.slot {p : Path} {s : Slot} (h : HasSlot t p s) : t.slot p = .ok (some s) := by
  obtain ⟨init, hnames, hlead⟩ := h.names
  have hshort := Nat.not_lt.mpr h.ordinary.short
  have hwalk := hlead.walk
  simp [FileTree.slot, h.check, hnames, hwalk, h.directory, h.ordinary.ne_dot,
    h.ordinary.ne_dots, hshort, ← h.asDirectory, bind, Except.bind]

end FileTree
end ModuleDepot
