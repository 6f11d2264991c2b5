import ModuleDepot.Proofs.FileTree.Lexical

/-! # What keeps a walk from arriving

In a tree without links a walk that does not arrive ends at one of its steps: it has come to
something that is no directory, or the next name is too long, or there is nothing of that name
(`Obstacle`). The first such step decides (`walk_eq_error_iff`).

So a path that names no entry is refused for a reason that can be told from the path and from the
entries along it (`entryAt_eq_error_iff`).
-/

namespace ModuleDepot

/-- The last step of the path goes down. -/
def Path.EndsInName (p : Path) : Prop :=
  ∃ init name, p.steps = init ++ [name] ∧ name ≠ "." ∧ name ≠ ".."

namespace FileTree

variable {t : FileTree} {n : Nat} {loc m : Location} {step : String} {steps : List String}
  {e : IoError}

/-- What keeps a walk from making a step. -/
inductive Obstacle (t : FileTree) (loc : Location) (step : String) : IoError → Prop
  | notDirectory : t.isDirectoryAt loc = false → Obstacle t loc step .notDirectory
  | tooLong : t.isDirectoryAt loc = true → maxNameLength < step.utf8ByteSize →
      Obstacle t loc step .nameTooLong
  | missing : t.isDirectoryAt loc = true → IsOrdinary step → t.lookup (loc ++ [step]) = none →
      Obstacle t loc step .notFound

/-- A walk ends at an obstacle. -/
theorem Obstacle.walk (h : Obstacle t loc step e) (n : Nat) (rest : List String) :
    t.walk n loc (step :: rest) = .error e := by
  cases h with
  | notDirectory hdir => cases n <;> simp [FileTree.walk, walkWith, hdir]
  | tooLong hdir hlong =>
      -- A dot or two would be followed, but they are not too long.
      have hdot : step ≠ "." := by
        rintro rfl
        exact absurd hlong (by decide)
      have hdots : step ≠ ".." := by
        rintro rfl
        exact absurd hlong (by decide)
      cases n <;> simp [FileTree.walk, walkWith, hdir, hdot, hdots, hlong]
  | missing hdir hname hnone =>
      have hshort := Nat.not_lt.mpr hname.short
      cases n <;>
        simp [FileTree.walk, walkWith, hdir, hname.ne_dot, hname.ne_dots, hshort, hnone]

/-- A step without an obstacle leads somewhere. -/
theorem exists_obstacle_or_leads (h : LinkFree t) (n : Nat) (loc : Location) (step : String) :
    (∃ e, Obstacle t loc step e) ∨ ∃ m, Leads t n loc [step] m := by
  cases hdir : t.isDirectoryAt loc with
  | false => exact .inl ⟨_, .notDirectory hdir⟩
  | true =>
  by_cases hdot : step = "."
  · subst hdot
    exact .inr ⟨loc, .stay hdir .done⟩
  by_cases hdots : step = ".."
  · subst hdots
    exact .inr ⟨loc.dropLast, .up hdir .done⟩
  rcases Nat.lt_or_ge maxNameLength step.utf8ByteSize with hlong | hshort
  · exact .inl ⟨_, .tooLong hdir hlong⟩
  cases hentry : t.lookup (loc ++ [step]) with
  | none => exact .inl ⟨_, .missing hdir ⟨hdot, hdots, hshort⟩ hentry⟩
  | some entry =>
      have hlink : ∀ target, entry ≠ .link target := fun target heq =>
        h _ target (heq ▸ hentry)
      exact .inr ⟨loc ++ [step], .down hdir ⟨hdot, hdots, hshort⟩ hentry hlink .done⟩

/-- A walk goes on from where its first steps lead. -/
theorem Leads.walk_append (h : LinkFree t) {a : List String} (hlead : Leads t n loc a m)
    (b : List String) : t.walk n loc (a ++ b) = t.walk n m b := by
  induction hlead with
  | done => rfl
  | @stay n _ _ _ hdir _ ih =>
      rw [← ih]
      cases n <;> simp [FileTree.walk, walkWith, hdir]
  | @up n _ _ _ hdir _ ih =>
      rw [← ih]
      cases n <;> simp [FileTree.walk, walkWith, hdir]
  | @down n _ _ entry _ _ hdir hname hentry hlink _ ih =>
      have hshort := Nat.not_lt.mpr hname.short
      rw [← ih]
      cases entry with
      | link target => exact absurd rfl (hlink target)
      | _ =>
          cases n <;>
            simp [FileTree.walk, walkWith, hdir, hname.ne_dot, hname.ne_dots, hshort, hentry]
  | follow _ _ hentry => exact absurd hentry (h _ _)

/-- **A walk that does not arrive ends at its first obstacle.** -/
theorem walk_eq_error_iff (h : LinkFree t) :
    t.walk n loc steps = .error e ↔
      ∃ a step b m, steps = a ++ step :: b ∧ Leads t n loc a m ∧ Obstacle t m step e := by
  constructor
  · intro herror
    induction steps generalizing loc with
    | nil =>
        rw [walk_nil] at herror
        cases herror
    | cons step rest ih =>
        rcases exists_obstacle_or_leads h n loc step with ⟨e', hobstacle⟩ | ⟨m, hstep⟩
        · obtain rfl : e' = e := Except.error.inj ((hobstacle.walk n rest).symm.trans herror)
          exact ⟨[], step, rest, loc, rfl, .done, hobstacle⟩
        · -- The first step can be made, so the walk ends at an obstacle behind it.
          rw [← List.singleton_append, hstep.walk_append h] at herror
          obtain ⟨a, step', b, m', rfl, hlead, hobstacle⟩ := ih herror
          refine ⟨step :: a, step', b, m', rfl, walk_eq_ok_iff.mp ?_, hobstacle⟩
          exact (hstep.walk_append h a).trans hlead.walk
  · rintro ⟨a, step, b, m, rfl, hlead, hobstacle⟩
    rw [hlead.walk_append h]
    exact hobstacle.walk n b

/-! ## Paths that are refused -/

/-- Why a path names nothing. -/
inductive Refuses (t : FileTree) (p : Path) : IoError → Prop
  | nul : p.hasNul = true → Refuses t p .nulInPath
  | empty : p.text = "" → Refuses t p .notFound
  | tooLong : p.hasNul = false → maxPathLength < p.text.utf8ByteSize → Refuses t p .nameTooLong
  | stopped {a step b m e} : checkPath p = .ok () → p.steps = a ++ step :: b →
      Leads t maxLinks (t.start p) a m → Obstacle t m step e → Refuses t p e

variable {p : Path}

theorem checkPath_eq_error_iff :
    checkPath p = .error e ↔
      p.hasNul = true ∧ e = .nulInPath ∨ p.text = "" ∧ e = .notFound ∨
        p.hasNul = false ∧ maxPathLength < p.text.utf8ByteSize ∧ e = .nameTooLong := by
  unfold checkPath
  split
  next hnul =>
    have hne : p.text ≠ "" := by
      intro hempty
      simp [Path.hasNul, hempty] at hnul
    simp [hnul, hne, eq_comm]
  next hnul =>
  rw [Bool.not_eq_true] at hnul
  split
  next hempty =>
    rw [String.isEmpty_iff] at hempty
    simp [hnul, hempty, eq_comm]
  next hempty =>
    rw [String.isEmpty_iff] at hempty
    split
    next hlong => simp [hnul, hempty, hlong, eq_comm]
    next hlong => simp [hnul, hempty, hlong]

/-- **A path that cannot be resolved is refused**, for the reason that is given. -/
theorem resolve_eq_error_iff (h : LinkFree t) : t.resolve p = .error e ↔ t.Refuses p e := by
  have hwalk : checkPath p = .ok () → t.resolve p = t.walk maxLinks (t.start p) p.steps := by
    intro hcheck
    rw [resolve, hcheck]
    rfl
  constructor
  · intro herror
    rcases hcheck : checkPath p with e' | ⟨⟩
    · rw [resolve, hcheck] at herror
      obtain rfl : e' = e := Except.error.inj herror
      rcases checkPath_eq_error_iff.mp hcheck with ⟨hnul, rfl⟩ | ⟨hempty, rfl⟩ | ⟨hnul, hlong, rfl⟩
      · exact .nul hnul
      · exact .empty hempty
      · exact .tooLong hnul hlong
    · rw [hwalk hcheck] at herror
      obtain ⟨a, step, b, m, hsteps, hlead, hobstacle⟩ := (walk_eq_error_iff h).mp herror
      exact .stopped hcheck hsteps hlead hobstacle
  · have hrefused : checkPath p = .error e → t.resolve p = .error e := by
      intro hcheck
      rw [resolve, hcheck]
      rfl
    intro hrefuses
    cases hrefuses with
    | nul hnul => exact hrefused (checkPath_eq_error_iff.mpr (.inl ⟨hnul, rfl⟩))
    | empty hempty => exact hrefused (checkPath_eq_error_iff.mpr (.inr (.inl ⟨hempty, rfl⟩)))
    | tooLong hnul hlong =>
        exact hrefused (checkPath_eq_error_iff.mpr (.inr (.inr ⟨hnul, hlong, rfl⟩)))
    | stopped hcheck hsteps hlead hobstacle =>
        rw [hwalk hcheck]
        exact (walk_eq_error_iff h).mpr ⟨_, _, _, _, hsteps, hlead, hobstacle⟩

/-- **A path that ends in a name names an entry or is refused.** -/
theorem entryAt_eq_error_iff (h : LinkFree t) (hp : p.EndsInName) :
    t.entryAt p = .error e ↔ t.Refuses p e := by
  rw [← resolve_eq_error_iff h, entryAt]
  rcases hresolve : t.resolve p with e' | d
  · simp [bind, Except.bind]
  · obtain ⟨init, name, hsteps, hdot, hdots⟩ := hp
    have hlead := (resolve_eq_ok_iff.mp hresolve).2
    rw [hsteps] at hlead
    obtain ⟨m, entry, -, -, -, hentry, rfl | ⟨target, rfl⟩⟩ := hlead.last hdot hdots
    · simp [bind, Except.bind, hentry]
    · exact absurd hentry (h _ target)

theorem isDirectory_iff_entryAt : t.isDirectory p = true ↔ t.entryAt p = .ok .directory := by
  unfold isDirectory
  rcases t.entryAt p with e | entry
  · simp
  · cases entry <;> simp

/-- Only one of the reasons says that something is absent. -/
theorem Refuses.isNotFound_iff (h : t.Refuses p e) : e.isNotFound = true ↔ e = .notFound := by
  cases h with
  | nul => decide
  | empty => decide
  | tooLong => decide
  | stopped _ _ _ hobstacle => cases hobstacle <;> decide

end FileTree
end ModuleDepot
