import ModuleDepot.Proofs.Fetch.Places

/-! # Which modules stay below the root of the cache

The directory of a module is put together from the identifier, whose parts may hold
separators and steps up. `ModuleId.IsConfined` says that the directory is relative and that
its names never lead above where they start. The fetches of such a module change a tree
without links below the root of the cache only, but for missing directories above it
(`staysBelowRoot_of_isConfined`).
-/

namespace ModuleDepot

open FileTree
open ModuleDepot.Path (undotted)

/-! ## Steps that stay below their start -/

/-- Whether the steps lead above their start at some time, when they have gone so many steps
down already. -/
def climbs : Nat → List String → Bool
  | _, [] => false
  | depth, step :: rest =>
    if step = "." then climbs depth rest
    else if step = ".." then depth == 0 || climbs (depth - 1) rest
    else climbs (depth + 1) rest

@[simp] theorem climbs_nil (depth : Nat) : climbs depth [] = false := rfl

@[simp] theorem climbs_dot (depth : Nat) (rest : List String) :
    climbs depth ("." :: rest) = climbs depth rest := rfl

@[simp] theorem climbs_dots (depth : Nat) (rest : List String) :
    climbs depth (".." :: rest) = (depth == 0 || climbs (depth - 1) rest) := rfl

theorem climbs_name {name : String} (hdot : name ≠ ".") (hdots : name ≠ "..") (depth : Nat)
    (rest : List String) : climbs depth (name :: rest) = climbs (depth + 1) rest := by
  rw [climbs, if_neg hdot, if_neg hdots]

theorem climbs_undotted (depth : Nat) (steps : List String) :
    climbs depth (undotted steps) = climbs depth steps := by
  induction steps generalizing depth with
  | nil => rfl
  | cons step rest ih =>
      by_cases hdot : step = "."
      · subst hdot
        exact ih depth
      · rw [Path.undotted_cons hdot, climbs, climbs, ih, ih, ih]

/-- First steps do not lead above if all steps do not, and steps without one up behind them
change nothing. -/
theorem climbs_append {depth : Nat} (steps behind : List String) :
    (climbs depth (steps ++ behind) = false → climbs depth steps = false) ∧
    (".." ∉ behind → climbs depth steps = false → climbs depth (steps ++ behind) = false) := by
  induction steps generalizing depth with
  | nil =>
      refine ⟨fun _ => rfl, fun hbehind _ => ?_⟩
      induction behind generalizing depth with
      | nil => rfl
      | cons name rest ih =>
          obtain ⟨hname, hrest⟩ := not_or.mp (mt List.mem_cons.mpr hbehind)
          by_cases hdot : name = "."
          · subst hdot
            exact ih hrest rfl
          · rw [List.nil_append, climbs_name hdot (Ne.symm hname)]
            exact ih hrest rfl
  | cons step rest ih =>
      rw [List.cons_append]
      by_cases hdot : step = "."
      · subst hdot
        exact ih
      by_cases hdots : step = ".."
      · subst hdots
        simp only [climbs_dots, Bool.or_eq_false_iff]
        exact ⟨fun ⟨hdepth, h⟩ => ⟨hdepth, ih.1 h⟩,
          fun hbehind ⟨hdepth, h⟩ => ⟨hdepth, ih.2 hbehind h⟩⟩
      · rw [climbs_name hdot hdots, climbs_name hdot hdots]
        exact ih

/-- Steps that do not lead above their start stay below it. -/
theorem prefix_descend (base below : Location) {steps : List String}
    (h : climbs below.length steps = false) : base <+: descend (base ++ below) steps := by
  induction steps generalizing below with
  | nil => exact List.prefix_append _ _
  | cons step rest ih =>
      rw [descend_cons]
      by_cases hdot : step = "."
      · subst hdot
        exact ih _ h
      by_cases hdots : step = ".."
      · subst hdots
        obtain ⟨hdepth, hrest⟩ := Bool.or_eq_false_iff.mp h
        rcases List.eq_nil_or_concat' below with rfl | ⟨init, name, rfl⟩
        · cases hdepth
        · -- The step up takes back a step that was made below the base.
          rw [descendOne_dots, ← List.append_assoc, List.dropLast_concat]
          rw [List.length_append, List.length_singleton, Nat.add_sub_cancel] at hrest
          exact ih _ hrest
      · rw [climbs_name hdot hdots] at h
        rw [descendOne_of_ne hdot hdots, List.append_assoc]
        exact ih _ (by rwa [List.length_append, List.length_singleton])

/-! ## Confined modules -/

namespace ModuleId

/-- The directory of the module is relative and does not lead above where it starts. -/
def IsConfined (id : ModuleId) : Prop :=
  (Layout.directory id).isAbsolute = false ∧ climbs 0 (Layout.directory id).names = false

instance (id : ModuleId) : Decidable id.IsConfined :=
  inferInstanceAs (Decidable (_ ∧ _))

/-- Whatever the files, the repository and the parser: if the root of the cache is absolute
and has no step up, and the tree has no links, then all that a fetch of the module changes
lies below the root. Directories may be made above the root, and a reader may let go of a file
of its own. -/
def StaysBelowRoot (id : ModuleId) : Prop :=
  ∀ (σ : Type) (f : Fetcher σ) (w : World σ), f.store.root.isAbsolute = true →
    ".." ∉ f.store.root.names → w.tree.Rooted → w.tree.LinkFree →
    let w' := (f.fetch id w).2
    let root := w.tree.place f.store.root
    ∀ loc, w'.tree.lookup loc ≠ w.tree.lookup loc →
      (loc <+: root ∧ w.tree.lookup loc = none ∧ w'.tree.lookup loc = some .directory) ∨
      root <+: loc ∨
      ∃ path, f.Releases id w w' path ∧ loc = w.tree.place path

end ModuleId

/-- What names the root of the cache and the directory of a module have. -/
theorem names_modulePath_of_relative {σ : Type} (f : Fetcher σ) {id : ModuleId}
    (h : (Layout.directory id).isAbsolute = false) :
    (f.modulePath id).names = f.store.root.names ++ (Layout.directory id).names :=
  Path.names_join h

theorem isAbsolute_artifactPath {σ : Type} (f : Fetcher σ) (id : ModuleId)
    (hroot : f.store.root.isAbsolute = true) {name : String}
    (hname : Layout.isContained name = true) : (f.artifactPath id name).isAbsolute = true := by
  have hpath := Layout.isContainedPath hname
  have habs : (f.artifactPath id name).isAbsolute = (f.modulePath id).isAbsolute :=
    (Layout.names_path_file f.store id hpath.relative).2
  refine habs.trans ?_
  cases hdirectory : (Layout.directory id).isAbsolute with
  | true =>
      have hjoin : f.modulePath id = Layout.directory id := Path.join_of_isAbsolute hdirectory
      rw [hjoin, hdirectory]
  | false => exact (Path.isAbsolute_join hdirectory).trans hroot

/-- **The fetches of a confined module stay below the root of the cache.** -/
theorem staysBelowRoot_of_isConfined {id : ModuleId} (hid : id.IsConfined) :
    id.StaysBelowRoot := by
  intro σ f w habs hroot _ hlinks w' root loc hne
  have hlocated : f.Located id w w' := Fetcher.located_of_runs hlinks (Fetcher.runs_fetch f id w)
  have hrootplace : root = undotted f.store.root.names := by
    show descend _ _ = _
    rw [start_of_isAbsolute habs, descend_of_not_mem hroot, List.nil_append]
  -- The names of an artifact behind those of the root do not lead above it.
  have hnames : ∀ {name : String}, Layout.isContained name = true → ∃ behind,
      undotted (f.artifactPath id name).names = undotted f.store.root.names ++ behind ∧
      climbs 0 behind = false := by
    intro name hname
    refine ⟨undotted ((Layout.directory id).names ++ Path.names ⟨name⟩), ?_, ?_⟩
    · rw [(Fetcher.undotted_names_artifactPath f id hname).1, names_modulePath_of_relative f hid.1,
        Path.undotted_append, Path.undotted_append, List.append_assoc]
    · rw [climbs_undotted]
      exact (climbs_append _ _).2 (Layout.isContainedPath hname).noDots hid.2
  have hbelow : ∀ {behind : List String}, climbs 0 behind = false →
      root <+: descend [] (undotted f.store.root.names ++ behind) := by
    intro behind hbehind
    have hdescend : descend [] (undotted f.store.root.names) = root := by
      rw [descend_undotted, descend_of_not_mem hroot, hrootplace, List.nil_append]
    have hbegins := prefix_descend root [] hbehind
    rwa [List.append_nil, ← hdescend, ← descend_append, hdescend] at hbegins
  cases hlocated.changed loc hne with
  | released path _ hreleases hloc _ _ => exact .inr (.inr ⟨path, hreleases, hloc⟩)
  | artifact name hname hloc =>
      obtain ⟨behind, hsplit, hbehind⟩ := hnames hname
      rw [FileTree.place, start_of_isAbsolute (isAbsolute_artifactPath f id habs hname),
        ← descend_undotted, hsplit] at hloc
      exact .inr (.inl (hloc ▸ hbelow hbehind))
  | above habove hnone hdir =>
      obtain ⟨name, first, hname, hfirst, hloc⟩ := habove
      obtain ⟨behind, hsplit, hbehind⟩ := hnames hname
      replace hfirst := hfirst.trans (List.dropLast_prefix _)
      rw [start_of_isAbsolute (isAbsolute_artifactPath f id habs hname)] at hloc
      rw [hsplit] at hfirst
      -- The directory lies above the root or at it, or is one of the steps behind it.
      rcases List.prefix_or_prefix_of_prefix hfirst (List.prefix_append _ _) with
        habove | ⟨rest, rfl⟩
      · refine .inl ⟨?_, hnone, hdir⟩
        have hdots : ".." ∉ undotted f.store.root.names := fun hmem =>
          hroot (Path.mem_of_mem_undotted hmem)
        rw [hloc, descend_first hdots habove, hrootplace]
        exact habove
      · obtain ⟨rest', rfl⟩ := (List.prefix_append_right_inj _).mp hfirst
        exact .inr (.inl (hloc ▸ hbelow ((climbs_append _ _).1 hbehind)))

end ModuleDepot
