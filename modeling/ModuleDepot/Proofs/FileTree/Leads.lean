import ModuleDepot.FileTree.Walk
import ModuleDepot.Proofs.Path.Names

/-! # Where a walk leads

`Leads t n loc steps d` says that the steps lead from `loc` to `d` in the tree `t` over at
most `n` links. It has one rule for each kind of step, so facts about walks are inductions
on it. `walk_eq_ok_iff` ties it to the walk that runs.

A walk can be cut into parts (`Leads.split`), and it arrives at the same location without the
steps that stay where they are (`Leads.thin`).
-/

namespace ModuleDepot

theorem Entry.file_ne_link (content : List UInt8) (target : Path) :
    Entry.file content ≠ .link target := nofun

theorem Entry.directory_ne_link (target : Path) : Entry.directory ≠ .link target := nofun

namespace FileTree

open ModuleDepot.Path (undotted undotted_cons)

/-- A name that a step can go down to. -/
structure IsOrdinary (name : String) : Prop where
  ne_dot : name ≠ "."
  ne_dots : name ≠ ".."
  short : name.utf8ByteSize ≤ maxNameLength

/-- The steps lead from a location to `d`, over at most `n` links. -/
inductive Leads (t : FileTree) : (links : Nat) → Location → List String → Location → Prop
  | done {n loc} : Leads t n loc [] loc
  | stay {n loc rest d} : t.isDirectoryAt loc → Leads t n loc rest d →
      Leads t n loc ("." :: rest) d
  | up {n loc rest d} : t.isDirectoryAt loc → Leads t n loc.dropLast rest d →
      Leads t n loc (".." :: rest) d
  | down {n loc name e rest d} : t.isDirectoryAt loc → IsOrdinary name →
      t.lookup (loc ++ [name]) = some e → (∀ target, e ≠ .link target) →
      Leads t n (loc ++ [name]) rest d → Leads t n loc (name :: rest) d
  | follow {n loc name target rest d} : t.isDirectoryAt loc → IsOrdinary name →
      t.lookup (loc ++ [name]) = some (.link target) →
      Leads t n (if target.isAbsolute then [] else loc) (target.steps ++ rest) d →
      Leads t (n + 1) loc (name :: rest) d

theorem isDirectoryAt_iff {t : FileTree} {loc : Location} :
    t.isDirectoryAt loc = true ↔ t.lookup loc = some .directory := by
  simp [isDirectoryAt]

@[simp] theorem isDirectoryAt_root (t : FileTree) : t.isDirectoryAt [] = true := by
  simp [isDirectoryAt]

/-! ## The walk that runs -/

@[simp] theorem walk_nil (t : FileTree) (n : Nat) (loc : Location) :
    t.walk n loc [] = .ok loc := by
  cases n <;> rfl

theorem IsOrdinary.of_not {name : String} (hdot : ¬(name == ".") = true)
    (hdots : ¬(name == "..") = true) (hlong : ¬name.utf8ByteSize > maxNameLength) :
    IsOrdinary name :=
  ⟨by simpa using hdot, by simpa using hdots, Nat.le_of_not_lt hlong⟩

/-- A walk that hands links over to `follow` is a derivation, if what `follow` finds is one
over a link less. -/
theorem leads_of_walkWith {t : FileTree} {n : Nat} {d : Location}
    {follow : Location → List String → Except IoError Location}
    (hfollow : ∀ loc steps, follow loc steps = .ok d → ∃ m, n = m + 1 ∧ Leads t m loc steps d)
    {loc : Location} {steps : List String} (h : t.walkWith follow loc steps = .ok d) :
    Leads t n loc steps d := by
  induction steps generalizing loc with
  | nil =>
      rw [walkWith] at h
      cases h
      exact .done
  | cons step rest ih =>
      rw [walkWith] at h
      split at h
      · cases h
      next hdir =>
      replace hdir : t.isDirectoryAt loc = true := by simpa using hdir
      split at h
      next hdot =>
        cases eq_of_beq hdot
        exact .stay hdir (ih h)
      next hdot =>
      split at h
      next hdots =>
        cases eq_of_beq hdots
        exact .up hdir (ih h)
      next hdots =>
      split at h
      · cases h
      next hlong =>
      have hname := IsOrdinary.of_not hdot hdots hlong
      split at h
      · cases h
      next target hlink =>
        obtain ⟨m, rfl, hm⟩ := hfollow _ _ h
        exact .follow hdir hname hlink hm
      next e hlink hentry => exact .down hdir hname hentry hlink (ih h)

theorem leads_of_walk {t : FileTree} {d : Location} :
    ∀ {n : Nat} {loc : Location} {steps : List String},
      t.walk n loc steps = .ok d → Leads t n loc steps d
  | 0, _, _, h => leads_of_walkWith (fun _ _ hf => by cases hf) h
  | n + 1, _, _, h => leads_of_walkWith (fun _ _ hf => ⟨n, rfl, leads_of_walk hf⟩) h

theorem Leads.walk {t : FileTree} {n : Nat} {loc d : Location} {steps : List String}
    (h : Leads t n loc steps d) : t.walk n loc steps = .ok d := by
  induction h with
  | done => exact walk_nil ..
  | @stay n _ _ _ hdir _ ih =>
      cases n <;> simpa [FileTree.walk, walkWith, hdir] using ih
  | @up n _ _ _ hdir _ ih =>
      cases n <;> simpa [FileTree.walk, walkWith, hdir] using ih
  | @down n _ _ e _ _ hdir hname hentry hlink _ ih =>
      have hshort := Nat.not_lt.mpr hname.short
      cases e with
      | link target => exact absurd rfl (hlink target)
      | _ =>
          cases n <;>
            simpa [FileTree.walk, walkWith, hdir, hname.ne_dot, hname.ne_dots, hshort, hentry]
              using ih
  | follow hdir hname hentry _ ih =>
      have hshort := Nat.not_lt.mpr hname.short
      simpa [FileTree.walk, walkWith, hdir, hname.ne_dot, hname.ne_dots, hshort, hentry] using ih

/-- A walk arrives where its steps lead. -/
theorem walk_eq_ok_iff {t : FileTree} {n : Nat} {loc d : Location} {steps : List String} :
    t.walk n loc steps = .ok d ↔ Leads t n loc steps d :=
  ⟨leads_of_walk, Leads.walk⟩

namespace Leads

variable {t u : FileTree} {n : Nat} {loc d : Location}

/-- The same steps lead to one location only. -/
theorem unique {steps : List String} {d' : Location} (h : Leads t n loc steps d)
    (h' : Leads t n loc steps d') : d = d' :=
  Except.ok.inj (h.walk.symm.trans h'.walk)

/-! ## Parts of a walk -/

/-- A walk along `a ++ b` walks along `a` first and along `b` from there. -/
theorem split {a b steps : List String} (h : Leads t n loc steps d) (hsteps : steps = a ++ b) :
    ∃ m k, Leads t n loc a m ∧ Leads t k m b d := by
  induction h generalizing a with
  | @done n loc =>
      obtain ⟨rfl, rfl⟩ := List.nil_eq_append_iff.mp hsteps
      exact ⟨loc, n, .done, .done⟩
  | @stay n loc _ _ hdir hrest ih =>
      cases a with
      | nil =>
          cases hsteps
          exact ⟨loc, n, .done, .stay hdir hrest⟩
      | cons name a =>
          obtain ⟨rfl, rfl⟩ := List.cons.inj hsteps
          obtain ⟨m, k, hm, hk⟩ := ih rfl
          exact ⟨m, k, .stay hdir hm, hk⟩
  | @up n loc _ _ hdir hrest ih =>
      cases a with
      | nil =>
          cases hsteps
          exact ⟨loc, n, .done, .up hdir hrest⟩
      | cons name a =>
          obtain ⟨rfl, rfl⟩ := List.cons.inj hsteps
          obtain ⟨m, k, hm, hk⟩ := ih rfl
          exact ⟨m, k, .up hdir hm, hk⟩
  | @down n loc _ _ _ _ hdir hname hentry hlink hrest ih =>
      cases a with
      | nil =>
          cases hsteps
          exact ⟨loc, n, .done, .down hdir hname hentry hlink hrest⟩
      | cons name a =>
          obtain ⟨rfl, rfl⟩ := List.cons.inj hsteps
          obtain ⟨m, k, hm, hk⟩ := ih rfl
          exact ⟨m, k, .down hdir hname hentry hlink hm, hk⟩
  | @follow n loc _ target _ _ hdir hname hentry hrest ih =>
      cases a with
      | nil =>
          cases hsteps
          exact ⟨loc, n + 1, .done, .follow hdir hname hentry hrest⟩
      | cons name a =>
          obtain ⟨rfl, rfl⟩ := List.cons.inj hsteps
          -- The steps of the link come first, so the part in front grows by them.
          obtain ⟨m, k, hm, hk⟩ := ih (List.append_assoc target.steps a b).symm
          exact ⟨m, k, .follow hdir hname hentry hm, hk⟩

/-- The last step of a walk, if it goes down: it starts in a directory that has an entry of
that name, and ends there unless that is a link. -/
theorem last {init : List String} {name : String} (h : Leads t n loc (init ++ [name]) d)
    (hdot : name ≠ ".") (hdots : name ≠ "..") :
    ∃ m e, Leads t n loc init m ∧ t.isDirectoryAt m ∧ IsOrdinary name ∧
      t.lookup (m ++ [name]) = some e ∧ (d = m ++ [name] ∨ ∃ target, e = .link target) := by
  obtain ⟨m, k, hm, hk⟩ := h.split rfl
  cases hk with
  | stay => exact absurd rfl hdot
  | up => exact absurd rfl hdots
  | down hdir hname hentry _ hrest =>
      cases hrest
      exact ⟨m, _, hm, hdir, hname, hentry, .inl rfl⟩
  | follow hdir hname hentry _ =>
      exact ⟨m, _, hm, hdir, hname, hentry, .inr ⟨_, rfl⟩⟩

/-- A walk goes one step further down to an entry that is no link. -/
theorem snoc {init : List String} {name : String} {e : Entry} (h : Leads t n loc init d)
    (hdir : t.isDirectoryAt d) (hname : IsOrdinary name)
    (hentry : t.lookup (d ++ [name]) = some e) (hlink : ∀ target, e ≠ .link target) :
    Leads t n loc (init ++ [name]) (d ++ [name]) := by
  induction h with
  | done => exact .down hdir hname hentry hlink .done
  | stay hloc _ ih => exact .stay hloc (ih hdir hentry)
  | up hloc _ ih => exact .up hloc (ih hdir hentry)
  | down hloc hn he hl _ ih => exact .down hloc hn he hl (ih hdir hentry)
  | @follow _ _ _ target rest _ hloc hn he _ ih =>
      exact .follow hloc hn he (List.append_assoc target.steps rest [name] ▸ ih hdir hentry)

/-- A walk to a directory can stay there. -/
theorem stay_after {steps : List String} (h : Leads t n loc steps d) (hdir : t.isDirectoryAt d) :
    Leads t n loc (steps ++ ["."]) d := by
  induction h with
  | done => exact .stay hdir .done
  | stay hloc _ ih => exact .stay hloc (ih hdir)
  | up hloc _ ih => exact .up hloc (ih hdir)
  | down hloc hn he hl _ ih => exact .down hloc hn he hl (ih hdir)
  | @follow _ _ _ target rest _ hloc hn he _ ih =>
      exact .follow hloc hn he (List.append_assoc target.steps rest ["."] ▸ ih hdir)

/-- The start of a walk with steps is a directory. -/
theorem isDirectoryAt_start {step : String} {rest : List String}
    (h : Leads t n loc (step :: rest) d) : t.isDirectoryAt loc := by
  cases h with
  | stay hdir => exact hdir
  | up hdir => exact hdir
  | down hdir => exact hdir
  | follow hdir => exact hdir

end Leads

/-! ## Steps that stay -/

/-- The second list of steps lacks some of the steps of the first that stay. -/
inductive Thins : List String → List String → Prop
  | nil : Thins [] []
  | keep {name a b} : Thins a b → Thins (name :: a) (name :: b)
  | drop {name a b} : name = "." → Thins a b → Thins (name :: a) b

theorem Thins.append_left {a b : List String} (h : Thins a b) :
    ∀ c : List String, Thins (c ++ a) (c ++ b)
  | [] => h
  | _ :: c => .keep (append_left h c)

theorem thins_undotted : ∀ names : List String, Thins names (undotted names)
  | [] => .nil
  | name :: names => by
      by_cases hdot : name = "."
      · subst hdot
        exact .drop rfl (thins_undotted names)
      · have hkeep : undotted (name :: names) = name :: undotted names := by
          simp [undotted, hdot]
        exact hkeep ▸ .keep (thins_undotted names)

namespace Leads

variable {t : FileTree} {n : Nat} {loc d : Location}

/-- A walk arrives at the same location without some of the steps that stay. -/
theorem thin {a b : List String} (h : Leads t n loc a d) (hthin : Thins a b) :
    Leads t n loc b d := by
  induction h generalizing b with
  | done =>
      cases hthin
      exact .done
  | stay hdir _ ih =>
      cases hthin with
      | keep hrest => exact .stay hdir (ih hrest)
      | drop _ hrest => exact ih hrest
  | up hdir _ ih =>
      cases hthin with
      | keep hrest => exact .up hdir (ih hrest)
      | drop hdot => exact absurd hdot (by decide)
  | down hdir hname hentry hlink _ ih =>
      cases hthin with
      | keep hrest => exact .down hdir hname hentry hlink (ih hrest)
      | drop hdot => exact absurd hdot hname.ne_dot
  | @follow _ _ _ target _ _ hdir hname hentry _ ih =>
      cases hthin with
      | keep hrest => exact .follow hdir hname hentry (ih (hrest.append_left target.steps))
      | drop hdot => exact absurd hdot hname.ne_dot

end Leads

end FileTree
end ModuleDepot
