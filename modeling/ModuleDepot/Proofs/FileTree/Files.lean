import ModuleDepot.Proofs.FileTree.Lexical

/-! # The ways to files

Every entry of a rooted tree stands below directories. So if a tree without links holds a file,
the steps that go down to the location of the file walk there: what keeps a walk from a location
is what is missing on the way, and nothing is (`Leads.of_rooted`). Whether a path names a file is
thus known from its location, as soon as it names one in any tree (`isFile_of_isFile`).

Steps up are another matter, since they pass through directories that are not above the file. They
are allowed in the first part of the path, which has to be known to be a way.
-/

namespace ModuleDepot.FileTree

open ModuleDepot.Path (undotted)

variable {t u : FileTree}

/-- What stands above an entry is a directory. -/
theorem Rooted.isDirectoryAt_above (h : Rooted t) {loc below : Location} (hne : below ≠ [])
    (hentry : (t.lookup (loc ++ below)).isSome) : t.isDirectoryAt loc := by
  induction below using List.reverseRecOn with
  | nil => exact absurd rfl hne
  | append_singleton init name ih =>
      rw [← List.append_assoc] at hentry
      have hdir := h (loc ++ init) name hentry
      by_cases hinit : init = []
      · rwa [hinit, List.append_nil] at hdir
      · exact ih hinit (by simp [isDirectoryAt_iff.mp hdir])

namespace Leads

variable {n : Nat} {loc m d : Location} {steps : List String}

/-- A walk goes on where another one ends. -/
theorem append {a b : List String} (h : Leads t n loc a m) (hrest : ∀ k, Leads t k m b d) :
    Leads t n loc (a ++ b) d := by
  induction h with
  | done => exact hrest _
  | stay hdir _ ih => exact .stay hdir (ih hrest)
  | up hdir _ ih => exact .up hdir (ih hrest)
  | down hdir hname hentry hlink _ ih => exact .down hdir hname hentry hlink (ih hrest)
  | @follow _ _ _ target rest _ hdir hname hentry _ ih =>
      exact .follow hdir hname hentry (List.append_assoc target.steps rest b ▸ ih hrest)

/-- Where a walk down goes on, every rooted tree that has an entry at its end has a directory. -/
theorem isDirectoryAt_of_rooted (hu : LinkFree u) (hrooted : Rooted t)
    (h : Leads u n loc steps d) (hdots : ".." ∉ steps) (hend : u.isDirectoryAt d = false)
    (hentry : (t.lookup d).isSome) (hdir : u.isDirectoryAt loc) : t.isDirectoryAt loc := by
  have hd := h.eq_descend hu
  rw [descend_of_not_mem hdots] at hd
  have hne : undotted steps ≠ [] := by
    intro hnil
    rw [hnil, List.append_nil] at hd
    rw [hd, hdir] at hend
    cases hend
  exact hrooted.isDirectoryAt_above hne (hd ▸ hentry)

/-- **A walk down that arrives at something else than a directory can be made in every rooted
tree that has an entry there.** -/
theorem of_rooted (hu : LinkFree u) (ht : LinkFree t) (hrooted : Rooted t)
    (h : Leads u n loc steps d) (hdots : ".." ∉ steps) (hend : u.isDirectoryAt d = false)
    (hentry : (t.lookup d).isSome) (k : Nat) : Leads t k loc steps d := by
  induction h with
  | done => exact .done
  | stay hdir hrest ih =>
      have hdots := mt (List.mem_cons_of_mem _) hdots
      have hloc := hrest.isDirectoryAt_of_rooted hu hrooted hdots hend hentry hdir
      exact .stay hloc (ih hdots hend hentry)
  | up => exact absurd List.mem_cons_self hdots
  | @down n loc name e rest d hdir hname he hlink hrest ih =>
      have hwalk : Leads u n loc (name :: rest) d := .down hdir hname he hlink hrest
      have hloc := hwalk.isDirectoryAt_of_rooted hu hrooted hdots hend hentry hdir
      have hdots := mt (List.mem_cons_of_mem _) hdots
      have hthere : (t.lookup (loc ++ [name])).isSome := by
        have hd := hrest.eq_descend hu
        rw [descend_of_not_mem hdots] at hd
        by_cases hlast : undotted rest = []
        · rwa [hd, hlast, List.append_nil] at hentry
        · have hdirectory := hrooted.isDirectoryAt_above hlast (hd ▸ hentry)
          simp [isDirectoryAt_iff.mp hdirectory]
      obtain ⟨e', he'⟩ := Option.isSome_iff_exists.mp hthere
      exact .down hloc hname he' (fun target heq => ht _ target (heq ▸ he'))
        (ih hdots hend hentry)
  | follow _ _ he => exact absurd he (hu _ _)

end Leads

/-- A path to a file has its names for steps. -/
theorem steps_of_isFile {p : Path} (h : t.isFile p = true) : p.steps = p.names := by
  obtain ⟨d, content, hd, hfile⟩ := isFile_iff.mp h
  have hlead := (resolve_eq_ok_iff.mp hd).2
  unfold Path.steps at hlead ⊢
  split
  next hsep =>
    -- The last step would have to stay in a directory.
    rw [if_pos hsep] at hlead
    obtain ⟨m, k, -, hlast⟩ := hlead.split rfl
    generalize hdot : "." = step at hlast
    cases hlast with
    | stay hdir hdone =>
        cases hdone
        cases (isDirectoryAt_iff.mp hdir).symm.trans hfile
    | up => exact absurd hdot (by decide)
    | down _ hname => exact absurd hdot.symm hname.ne_dot
    | follow _ hname => exact absurd hdot.symm hname.ne_dot
  next => rfl

/-- Without links a file that a path names is at its place. -/
theorem exists_content_of_isFile (ht : LinkFree t) {p : Path} (h : t.isFile p = true) :
    ∃ content, t.lookup (t.place p) = some (.file content) := by
  have hsteps := steps_of_isFile h
  obtain ⟨d, content, hd, hfile⟩ := isFile_iff.mp h
  have hlead := (resolve_eq_ok_iff.mp hd).2
  rw [hsteps] at hlead
  have hloc : d = t.place p := hlead.eq_descend ht
  exact ⟨content, hloc ▸ hfile⟩

/-- The first names of the path are a way in the tree, and the others do not go up. -/
def LeadsDown (t : FileTree) (p : Path) : Prop :=
  ∃ a b m, p.names = a ++ b ∧ Leads t maxLinks (t.start p) a m ∧ ".." ∉ b

theorem leadsDown_of_not_mem {p : Path} (h : ".." ∉ p.names) : LeadsDown t p :=
  ⟨[], p.names, _, rfl, .done, h⟩

theorem LeadsDown.mono {p : Path} (h : LeadsDown t p) (hkeep : KeepsKinds t u) :
    LeadsDown u p := by
  obtain ⟨a, b, m, hnames, hway, hdots⟩ := h
  exact ⟨a, b, m, hnames, hkeep.start p ▸ hway.mono hkeep, hdots⟩

/-- **A path that names a file in one tree names the file at its place in another one.** -/
theorem isFile_of_isFile (hu : LinkFree u) (ht : LinkFree t) (hrooted : Rooted t) {p : Path}
    (hdown : LeadsDown t p) (hstart : u.start p = t.start p) (hfile : u.isFile p = true)
    {content : List UInt8} (hplace : t.lookup (t.place p) = some (.file content)) :
    t.isFile p = true := by
  obtain ⟨a, b, m, hnames, hway, hdots⟩ := hdown
  have hsteps := steps_of_isFile hfile
  obtain ⟨d, content', hd, hentry⟩ := isFile_iff.mp hfile
  obtain ⟨hcheck, hlead⟩ := resolve_eq_ok_iff.mp hd
  rw [hsteps, hstart] at hlead
  have hloc : d = t.place p := hlead.eq_descend hu
  -- The walk in the other tree passes the end of the way that is known, and goes down from there.
  obtain ⟨m', k, hfirst, hrest⟩ := hlead.split hnames
  obtain rfl : m' = m := (hfirst.eq_descend hu).trans (hway.eq_descend ht).symm
  have hend : u.isDirectoryAt d = false := by
    rw [← Bool.not_eq_true, isDirectoryAt_iff, hentry]
    exact nofun
  have hwalk := hway.append (hrest.of_rooted hu ht hrooted hdots hend (by simp [hloc, hplace]))
  rw [← hnames, ← hsteps] at hwalk
  exact isFile_iff.mpr ⟨d, content, resolve_eq_ok_iff.mpr ⟨hcheck, hwalk⟩, hloc ▸ hplace⟩

/-- A path names a file in a later tree as in an earlier one, if the same stands at its place or
no file does. -/
theorem KeepsKinds.isFile_eq (h : KeepsKinds t u) (ht : LinkFree t) (hu : LinkFree u)
    (hrooted : Rooted t) {p : Path} (hdown : LeadsDown t p)
    (hplace : ∀ content, u.lookup (t.place p) = some (.file content) →
      t.lookup (t.place p) = some (.file content)) : u.isFile p = t.isFile p := by
  rw [Bool.eq_iff_iff]
  refine ⟨fun hfile => ?_, h.isFile⟩
  obtain ⟨content, hcontent⟩ := exists_content_of_isFile hu hfile
  have hsame : u.place p = t.place p := by rw [FileTree.place, h.start, FileTree.place]
  exact isFile_of_isFile hu ht hrooted hdown (h.start p) hfile (hplace content (hsame ▸ hcontent))

/-- Further directories add no file. -/
theorem Grows.isFile_eq (h : Grows t u) (ht : LinkFree t) (hrooted : Rooted t) {p : Path}
    (hdown : LeadsDown t p) : u.isFile p = t.isFile p :=
  h.keepsKinds.isFile_eq ht (h.linkFree ht) hrooted hdown
    fun _ => h.lookup_file_iff.mp

end ModuleDepot.FileTree
