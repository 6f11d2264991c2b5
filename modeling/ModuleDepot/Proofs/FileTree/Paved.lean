import ModuleDepot.Proofs.FileTree.Lexical

/-! # Trees with a paved way

`Paved t loc steps` says that all locations along the steps are directories. A walk along
them arrives (`Paved.leads`), and a walk that goes on to a name that is missing does not find
it (`Paved.walk_notFound`). `pave` makes the directories that are missing along the steps and
nothing else.
-/

namespace ModuleDepot.FileTree

open ModuleDepot.Path (undotted Below)

variable {t u : FileTree} {loc : Location} {steps : List String}

/-- Along the steps there are directories, and all names are short enough. -/
structure Paved (t : FileTree) (loc : Location) (steps : List String) : Prop where
  directory : ∀ first, first <+: steps → t.isDirectoryAt (descend loc first) = true
  short : ∀ name ∈ steps, name.utf8ByteSize ≤ maxNameLength

namespace Paved

theorem start (h : Paved t loc steps) : t.isDirectoryAt loc = true :=
  h.directory [] List.nil_prefix

theorem rest {step : String} (h : Paved t loc (step :: steps)) :
    Paved t (descendOne loc step) steps := by
  refine ⟨fun first hfirst => ?_, fun name hmem => h.short name (List.mem_cons_of_mem _ hmem)⟩
  exact h.directory (step :: first) ((List.prefix_cons_inj step).mpr hfirst)

theorem of_prefix {first : List String} (h : Paved t loc steps) (hfirst : first <+: steps) :
    Paved t loc first :=
  ⟨fun f hf => h.directory f (hf.trans hfirst), fun name hmem => h.short name (hfirst.subset hmem)⟩

/-- A paved way can be walked. -/
theorem leads (h : Paved t loc steps) (n : Nat) : Leads t n loc steps (descend loc steps) := by
  induction steps generalizing loc with
  | nil => exact .done
  | cons step rest ih =>
      have hrest := ih h.rest
      by_cases hdot : step = "."
      · subst hdot
        exact .stay h.start hrest
      by_cases hdots : step = ".."
      · subst hdots
        exact .up h.start hrest
      rw [descend_cons, descendOne_of_ne hdot hdots] at *
      have hdir := h.directory [step] (by simp)
      rw [descend_cons, descend_nil, descendOne_of_ne hdot hdots] at hdir
      exact .down h.start ⟨hdot, hdots, h.short step List.mem_cons_self⟩
        (isDirectoryAt_iff.mp hdir) Entry.directory_ne_link hrest

/-- Names that stay do not matter. -/
theorem of_undotted (h : Paved t loc (undotted steps)) : Paved t loc steps := by
  refine ⟨fun first hfirst => ?_, fun name hmem => ?_⟩
  · rw [← descend_undotted]
    exact h.directory _ (hfirst.filter _)
  · by_cases hdot : name = "."
    · subst hdot
      decide
    · exact h.short name (List.mem_filter.mpr ⟨hmem, by simpa using hdot⟩)

/-- Where the paved way ends a missing name is not found. -/
theorem walk_notFound (h : Paved t loc steps) {name : String} (hname : IsOrdinary name)
    (hnone : t.lookup (descend loc steps ++ [name]) = none) (rest : List String) (n : Nat) :
    t.walk n loc (steps ++ name :: rest) = .error .notFound := by
  induction steps generalizing loc with
  | nil =>
      have hshort := Nat.not_lt.mpr hname.short
      rw [descend_nil] at hnone
      cases n <;>
        simp [FileTree.walk, walkWith, h.start, hname.ne_dot, hname.ne_dots, hshort, hnone]
  | cons step steps ih =>
      have hrest := ih h.rest hnone
      by_cases hdot : step = "."
      · subst hdot
        cases n <;> simpa [FileTree.walk, walkWith, h.start] using hrest
      by_cases hdots : step = ".."
      · subst hdots
        cases n <;> simpa [FileTree.walk, walkWith, h.start] using hrest
      have hshort := Nat.not_lt.mpr (h.short step List.mem_cons_self)
      have hdir := h.directory [step] (by simp)
      rw [descend_cons, descend_nil, isDirectoryAt_iff, descendOne_of_ne hdot hdots] at hdir
      rw [descendOne_of_ne hdot hdots] at hrest
      cases n <;>
        simpa [FileTree.walk, walkWith, h.start, hdot, hdots, hshort, hdir] using hrest

end Paved

/-! ## Chains of directories behind a paved way -/

/-- A path from the root that no walk refuses and that does not end in a name that stays. -/
structure IsUsable (p : Path) : Prop where
  isAbsolute : p.isAbsolute = true
  check : checkPath p = .ok ()
  last : p.names.getLast? ≠ some "."

/-- The names before the last one of a usable path. -/
theorem IsUsable.exists_init {p : Path} (h : IsUsable p) (hne : undotted p.names ≠ []) :
    ∃ init last, p.names = init ++ [last] ∧ undotted p.names = undotted init ++ [last] := by
  rcases List.eq_nil_or_concat' p.names with hnil | ⟨init, last, hnames⟩
  · rw [hnil] at hne
    exact absurd rfl hne
  · have hlast : last ≠ "." := by
      rintro rfl
      exact h.last (by simp [hnames])
    refine ⟨init, last, hnames, ?_⟩
    rw [hnames, Path.undotted_append, Path.undotted_cons hlast, Path.undotted_nil]

variable {first : List String} {name : String}

theorem IsUsable.start {p : Path} (h : IsUsable p) (t : FileTree) : t.start p = [] :=
  start_of_isAbsolute h.isAbsolute t

/-- The paths above a usable path are usable. -/
theorem IsUsable.of_mem_parents {p q : Path} (h : IsUsable p) (hq : q ∈ p.parents) :
    IsUsable q := by
  have habs := (Path.prefix_of_mem_parents hq).1.trans h.isAbsolute
  refine ⟨habs, checkPath_of_mem_parents hq (Path.text_ne_empty_of_isAbsolute habs) h.check,
    fun hdot => ?_⟩
  obtain rfl := (Path.text_prefix_of_mem_parents hq).2 hdot
  cases habs

/-- A usable path behind a paved way ends in the directory at the end of the way. -/
theorem hasSlot_of_paved (hpaved : Paved t [] first) (hname : IsOrdinary name) {p : Path}
    (hp : IsUsable p) (hnames : undotted p.names = first ++ [name]) :
    HasSlot t p ⟨descend [] first, name, p.endsInSeparator⟩ := by
  obtain ⟨init, last, hinit, hundotted⟩ := hp.exists_init (by simp [hnames])
  rw [hnames] at hundotted
  obtain ⟨hfirst, hlast⟩ := List.append_inj' hundotted rfl
  cases hlast
  have hway : Paved t [] init := .of_undotted (hfirst ▸ hpaved)
  have hlead := hway.leads maxLinks
  rw [← descend_undotted, ← hfirst] at hlead
  exact ⟨hp.check, ⟨init, hinit, (hp.start t).symm ▸ hlead⟩,
    hpaved.directory first List.prefix_rfl, hname, rfl⟩

/-- A usable path along a paved way leads to the directory at its end. -/
theorem resolve_of_paved (hpaved : Paved t [] first) {p : Path} (hp : IsUsable p)
    (hnames : undotted p.names = first) : t.resolve p = .ok (descend [] first) := by
  have hway : Paved t [] p.names := .of_undotted (hnames.symm ▸ hpaved)
  have hlead := hway.leads maxLinks
  rw [← descend_undotted, hnames] at hlead
  exact resolve_of_leads hp.check ((hp.start t).symm ▸ hlead)
    (hpaved.directory first List.prefix_rfl)

/-- The missing directory behind a paved way can be made. -/
theorem makeDirectory_of_paved (hpaved : Paved t [] first) (hname : IsOrdinary name)
    (hnone : t.lookup (descend [] first ++ [name]) = none) {p : Path} (hp : IsUsable p)
    (hnames : undotted p.names = first ++ [name]) :
    t.makeDirectory p = .ok (t.insert (descend [] first ++ [name]) .directory) :=
  makeDirectory_eq_ok_iff.mpr ⟨_, hasSlot_of_paved hpaved hname hp hnames, hnone, rfl⟩

/-- A directory further behind cannot be made before it. -/
theorem makeDirectory_notFound (hpaved : Paved t [] first) (hname : IsOrdinary name)
    (hnone : t.lookup (descend [] first ++ [name]) = none) {p : Path} (hp : IsUsable p)
    {rest : List String} (hrest : rest ≠ []) (hnames : undotted p.names = first ++ name :: rest) :
    t.makeDirectory p = .error .notFound := by
  obtain ⟨init, last, hinit, hundotted⟩ := hp.exists_init (by simp [hnames])
  have hbefore : undotted init = first ++ name :: rest.dropLast := by
    have hdrop := congrArg List.dropLast (hundotted.symm.trans hnames)
    rw [List.dropLast_concat, List.dropLast_append_of_ne_nil (List.cons_ne_nil _ _),
      List.dropLast_cons_of_ne_nil hrest] at hdrop
    exact hdrop
  obtain ⟨before, behind, hsplit, hfirst, hbehind⟩ := List.filter_eq_append_iff.mp hbefore
  obtain ⟨dots, behind', rfl, hdots, -, -⟩ := List.filter_eq_cons_iff.mp hbehind
  have hundotted : undotted (before ++ dots) = first := by
    have hnodots : undotted dots = [] := List.filter_eq_nil_iff.mpr hdots
    rw [Path.undotted_append, hnodots, List.append_nil]
    exact hfirst
  have hway : Paved t [] (before ++ dots) := .of_undotted (hundotted.symm ▸ hpaved)
  have hdescend : descend [] (before ++ dots) = descend [] first := by
    rw [← descend_undotted, hundotted]
  have hwalk := hway.walk_notFound hname (hdescend ▸ hnone) behind' maxLinks
  rw [List.append_assoc, ← hsplit] at hwalk
  simp [makeDirectory, slot, hp.check, hinit, hp.start, hwalk, bind, Except.bind]

/-- **A chain makes the first directory that is missing**, whatever becomes of the others. -/
theorem makeChain_makes (hpaved : Paved t [] first) (hname : IsOrdinary name)
    (hnone : t.lookup (descend [] first ++ [name]) = none) {ps : List Path}
    (hchain : ps.IsChain Below) (hlast : ∀ q ∈ ps.getLast?, undotted q.names = [])
    (husable : ∀ q ∈ ps, IsUsable q) {p : Path} (hp : p ∈ ps.head?)
    (hfirst : first ++ [name] <+: undotted p.names) :
    (t.makeChain ps).1.lookup (descend [] first ++ [name]) = some .directory := by
  induction ps generalizing p with
  | nil => cases hp
  | cons q above ih =>
      obtain rfl : q = p := Option.some.inj hp
      have hq := husable q List.mem_cons_self
      have htext := (checkPath_eq_ok_iff.mp hq.check).2.1
      obtain ⟨rest, hrest⟩ := hfirst
      rw [List.append_assoc, List.singleton_append] at hrest
      rw [makeChain, if_neg (mt String.isEmpty_iff.mp htext)]
      by_cases hend : rest = []
      · -- The missing directory is the last one of the path.
        subst hend
        rw [makeDirectory_of_paved hpaved hname hnone hq hrest.symm]
        dsimp only
        rw [lookup_insert t (by simp), if_pos rfl]
      -- It lies above the path, so the paths above make it, and what follows keeps it.
      rw [makeDirectory_notFound hpaved hname hnone hq hend hrest.symm]
      cases above with
      | nil =>
          have hnil := hlast q rfl
          rw [← hrest] at hnil
          exact absurd hnil (by simp)
      | cons r above =>
          have hbelow := (List.isChain_cons_cons.mp hchain).1
          have habove : first ++ [name] <+: undotted r.names := by
            rw [hbelow.names, ← hrest, List.dropLast_append_of_ne_nil (List.cons_ne_nil _ _),
              List.dropLast_cons_of_ne_nil hend]
            exact ⟨rest.dropLast, by simp⟩
          have ih := ih (List.isChain_cons_cons.mp hchain).2
            (fun s hs => hlast s (by rwa [List.getLast?_cons_cons]))
            (fun s hs => husable s (List.mem_cons_of_mem _ hs)) rfl habove
          dsimp only
          split
          · contradiction
          split
          next t' e hmade => rwa [hmade] at ih
          next t' hmade =>
            rw [hmade] at ih
            split
            next made hmake =>
              exact isDirectoryAt_iff.mp ((grows_of_makeDirectory hmake).keepsKinds.isDirectoryAt
                (isDirectoryAt_iff.mpr ih))
            next => exact ih

/-! ## Paving a way -/

/-- All entries are directories. -/
def HasOnlyDirectories (t : FileTree) : Prop :=
  ∀ loc e, t.lookup loc = some e → e = .directory

theorem HasOnlyDirectories.linkFree (h : HasOnlyDirectories t) : LinkFree t :=
  fun loc _ he => nomatch h loc _ he

/-- Makes the directories that are missing along the steps. -/
def pave (t : FileTree) (loc : Location) : List String → FileTree
  | [] => t
  | step :: rest =>
    pave (if t.isDirectoryAt (descendOne loc step) then t
      else t.insert (descendOne loc step) .directory) (descendOne loc step) rest

/-- What holds of the tree before a way is paved and after it. -/
structure Pavable (t : FileTree) : Prop where
  rooted : Rooted t
  onlyDirectories : HasOnlyDirectories t

theorem pavable_empty : Pavable empty := by
  refine ⟨rooted_empty, fun loc e he => ?_⟩
  unfold FileTree.lookup at he
  split at he
  · exact (Option.some.inj he).symm
  · simp [empty] at he

/-- Going up from a directory leads to a directory. -/
theorem Rooted.isDirectoryAt_dropLast (h : Rooted t) (hdir : t.isDirectoryAt loc = true) :
    t.isDirectoryAt loc.dropLast = true := by
  rcases List.eq_nil_or_concat' loc with rfl | ⟨init, name, rfl⟩
  · exact isDirectoryAt_root t
  · rw [List.dropLast_concat]
    exact h init name (by rw [isDirectoryAt_iff.mp hdir]; rfl)

/-- One step of paving. -/
theorem Pavable.insert (h : Pavable t) (hdir : t.isDirectoryAt loc = true) (step : String) :
    let u := if t.isDirectoryAt (descendOne loc step) then t
      else t.insert (descendOne loc step) .directory
    Pavable u ∧ Grows t u ∧ u.isDirectoryAt (descendOne loc step) = true ∧
      ∀ l, u.lookup l ≠ t.lookup l → l = descendOne loc step := by
  intro u
  by_cases hthere : t.isDirectoryAt (descendOne loc step) = true
  · -- A step that stays or goes up is always of this kind.
    have hu : u = t := if_pos hthere
    rw [hu]
    exact ⟨h, .refl t, hthere, fun _ hne => absurd rfl hne⟩
  have hu : u = t.insert (descendOne loc step) .directory := if_neg hthere
  have hdot : step ≠ "." := by
    rintro rfl
    exact hthere hdir
  have hdots : step ≠ ".." := by
    rintro rfl
    exact hthere (h.rooted.isDirectoryAt_dropLast hdir)
  rw [descendOne_of_ne hdot hdots] at *
  have hne : loc ++ [step] ≠ [] := by simp
  have hnone : t.lookup (loc ++ [step]) = none := by
    cases he : t.lookup (loc ++ [step]) with
    | none => rfl
    | some e =>
        rw [h.onlyDirectories _ e he] at he
        exact absurd (isDirectoryAt_iff.mpr he) hthere
  rw [hu]
  refine ⟨⟨h.rooted.insert hdir (.inl rfl), fun l e he => ?_⟩,
    grows_insert_directory hne hnone, ?_, fun l hl => ?_⟩
  · rw [lookup_insert t hne] at he
    split at he
    · exact (Option.some.inj he).symm
    · exact h.onlyDirectories l e he
  · rw [isDirectoryAt_iff, lookup_insert t hne, if_pos rfl]
  · by_contra hother
    rw [lookup_insert t hne, if_neg (Ne.symm hother)] at hl
    exact hl rfl

/-- **What is paved.** -/
theorem pave_spec (h : Pavable t) (hdir : t.isDirectoryAt loc = true) (steps : List String) :
    Pavable (pave t loc steps) ∧ Grows t (pave t loc steps) ∧
      (∀ first, first <+: steps → (pave t loc steps).isDirectoryAt (descend loc first) = true) ∧
      ∀ l, (pave t loc steps).lookup l ≠ t.lookup l →
        ∃ first, first <+: steps ∧ l = descend loc first := by
  induction steps generalizing t loc with
  | nil =>
      refine ⟨h, .refl t, fun first hfirst => ?_, fun _ hne => absurd rfl hne⟩
      obtain rfl := List.prefix_nil.mp hfirst
      exact hdir
  | cons step rest ih =>
      rw [pave]
      obtain ⟨hstep, hgrows, hthere, honly⟩ := h.insert hdir step
      generalize (if t.isDirectoryAt (descendOne loc step) = true then t
        else t.insert (descendOne loc step) .directory) = u at *
      obtain ⟨hpaved, hgrows', hfirsts, hchanges⟩ := ih hstep hthere
      refine ⟨hpaved, hgrows.trans hgrows', fun first hfirst => ?_, fun l hne => ?_⟩
      · rcases List.prefix_cons_iff.mp hfirst with rfl | ⟨first', rfl, hfirst'⟩
        · exact (hgrows.trans hgrows').keepsKinds.isDirectoryAt hdir
        · exact hfirsts first' hfirst'
      · by_cases hsame : (pave u (descendOne loc step) rest).lookup l = u.lookup l
        · rw [hsame] at hne
          exact ⟨[step], by simp, honly l hne⟩
        · obtain ⟨first, hfirst, hl⟩ := hchanges l hsame
          exact ⟨step :: first, (List.prefix_cons_inj step).mpr hfirst, hl⟩

end ModuleDepot.FileTree
