import ModuleDepot.Proofs.FileTree.Directories

/-! # Trees without links

In a tree without links a walk goes where its steps say, whatever the tree holds: each name
goes down, `..` goes up. `descend` follows the steps without looking at a tree, and a walk
that arrives does so where `descend` ends (`Leads.eq_descend`).
-/

namespace ModuleDepot.FileTree

open ModuleDepot.Path (undotted)

variable {t u : FileTree}

/-- Nothing in the tree is a link. -/
def LinkFree (t : FileTree) : Prop :=
  ∀ loc target, t.lookup loc ≠ some (.link target)

theorem linkFree_empty : LinkFree empty := by
  intro loc target
  simp only [lookup, empty]
  split <;> simp

theorem LinkFree.insert (h : LinkFree t) {loc : Location} {e : Entry} (hne : loc ≠ [])
    (he : ∀ target, e ≠ .link target) : LinkFree (t.insert loc e) := by
  intro l target
  rw [lookup_insert t hne]
  split
  · exact fun heq => he target (Option.some.inj heq)
  · exact h l target

theorem LinkFree.erase (h : LinkFree t) {loc : Location} (hne : loc ≠ []) :
    LinkFree (t.erase loc) := by
  intro l target
  rw [lookup_erase t hne]
  split
  · exact nofun
  · exact h l target

theorem Grows.linkFree (hgrows : Grows t u) (h : LinkFree t) : LinkFree u :=
  fun loc target he => h loc target (hgrows.lookup_of_ne he nofun)

/-! ## Where the steps lead -/

/-- One step from a location, whatever the tree holds. -/
def descendOne (loc : Location) (step : String) : Location :=
  if step = "." then loc else if step = ".." then loc.dropLast else loc ++ [step]

/-- The location that the steps lead to, whatever the tree holds. -/
def descend (loc : Location) (steps : List String) : Location :=
  steps.foldl descendOne loc

@[simp] theorem descend_nil (loc : Location) : descend loc [] = loc := rfl

@[simp] theorem descend_cons (loc : Location) (step : String) (rest : List String) :
    descend loc (step :: rest) = descend (descendOne loc step) rest := rfl

@[simp] theorem descend_append (loc : Location) (a b : List String) :
    descend loc (a ++ b) = descend (descend loc a) b :=
  List.foldl_append

@[simp] theorem descendOne_dot (loc : Location) : descendOne loc "." = loc := rfl

@[simp] theorem descendOne_dots (loc : Location) : descendOne loc ".." = loc.dropLast := rfl

theorem descendOne_of_ne {name : String} (hdot : name ≠ ".") (hdots : name ≠ "..")
    (loc : Location) : descendOne loc name = loc ++ [name] := by
  rw [descendOne, if_neg hdot, if_neg hdots]

/-- Steps that stay do not change where the steps lead. -/
theorem descend_undotted (loc : Location) (steps : List String) :
    descend loc (undotted steps) = descend loc steps := by
  induction steps generalizing loc with
  | nil => rfl
  | cons step rest ih =>
      by_cases hdot : step = "."
      · subst hdot
        exact ih loc
      · rw [Path.undotted_cons hdot]
        exact ih _

/-- Without a step up, the steps lead down. -/
theorem descend_of_not_mem {steps : List String} (h : ".." ∉ steps) (loc : Location) :
    descend loc steps = loc ++ undotted steps := by
  induction steps generalizing loc with
  | nil => simp
  | cons step rest ih =>
      obtain ⟨hstep, hrest⟩ := not_or.mp (mt List.mem_cons.mpr h)
      by_cases hdot : step = "."
      · subst hdot
        exact ih hrest loc
      · rw [descend_cons, descendOne_of_ne hdot (Ne.symm hstep), ih hrest,
          Path.undotted_cons hdot, List.append_assoc, List.singleton_append]

/-- First names that count lead down, if there is no step up. -/
theorem descend_first {names first : List String} (h : ".." ∉ undotted names)
    (hfirst : first <+: undotted names) (loc : Location) : descend loc first = loc ++ first := by
  have hself : undotted first = first :=
    Path.undotted_eq_self fun hmem => Path.dot_not_mem_undotted names (hfirst.subset hmem)
  rw [descend_of_not_mem fun hmem => h (hfirst.subset hmem), hself]

/-- **Without links a walk arrives where its steps lead.** -/
theorem Leads.eq_descend (h : LinkFree t) {n : Nat} {loc d : Location} {steps : List String}
    (hlead : Leads t n loc steps d) : d = descend loc steps := by
  induction hlead with
  | done => rfl
  | stay _ _ ih => exact ih
  | up _ _ ih => exact ih
  | down _ hname _ _ _ ih =>
      rw [descend_cons, descendOne_of_ne hname.ne_dot hname.ne_dots]
      exact ih
  | follow _ _ hentry => exact absurd hentry (h _ _)

/-- Without links all first steps of a walk lead to directories, if it goes on behind them or ends
in a directory. -/
theorem Leads.isDirectoryAt_descend (h : LinkFree t) {n : Nat} {loc d : Location}
    {first rest : List String} (hlead : Leads t n loc (first ++ rest) d)
    (hend : rest = [] → t.isDirectoryAt d = true) : t.isDirectoryAt (descend loc first) = true := by
  obtain ⟨m, k, hfirst, hrest⟩ := hlead.split rfl
  rw [← hfirst.eq_descend h]
  cases rest with
  | nil =>
      cases hrest
      exact hend rfl
  | cons => exact hrest.isDirectoryAt_start

theorem start_of_isAbsolute {p : Path} (h : p.isAbsolute = true) (t : FileTree) :
    t.start p = [] := by
  rw [FileTree.start, if_pos h]

/-- The location of a path, if the tree has no links. -/
def place (t : FileTree) (p : Path) : Location :=
  descend (t.start p) p.names

theorem HasSlot.location_eq {p : Path} {s : Slot} (h : LinkFree t) (hs : HasSlot t p s) :
    s.location = t.place p := by
  obtain ⟨init, hnames, hlead⟩ := hs.names
  rw [place, hnames, descend_append, ← hlead.eq_descend h, descend_cons, descend_nil,
    descendOne_of_ne hs.ordinary.ne_dot hs.ordinary.ne_dots]
  rfl

theorem Grows.place (h : Grows t u) (p : Path) : u.place p = t.place p := by
  rw [FileTree.place, FileTree.place, h.start]

/-- Without links, new directories are at the places of the paths they were made for. -/
theorem Makes.mem_place (h : LinkFree t) {ps : List Path} (hmakes : Makes ps t u)
    {loc : Location} (hne : u.lookup loc ≠ t.lookup loc) : ∃ p ∈ ps, loc = t.place p := by
  obtain ⟨p, hp, m, s, hm, hs, rfl⟩ := hmakes.exists_slot hne
  exact ⟨p, hp, (hs.location_eq (hm.grows.linkFree h)).trans (hm.grows.place p)⟩

end ModuleDepot.FileTree
