import ModuleDepot.Proofs.FileTree.Files

/-! # Directories from the top down

`makeDirectories` tries the last directory of a path first and goes up as long as one is missing. In
a tree without links, and if the path does not go up, this comes to the same as making the
directories from the top down (`makeDirectories_eq_lay`): each is made if it is missing, and the
first name that is too long or taken by something else ends it. So what is made, and the error, can
be told from the entries along the path alone.
-/

namespace ModuleDepot.FileTree

open ModuleDepot.Path (undotted Below)

variable {t u : FileTree} {loc : Location} {names : List String}

/-! ## Going down -/

/-- Goes down along names to a directory. -/
def goDown (t : FileTree) (loc : Location) : List String → Except IoError Location
  | [] => if t.isDirectoryAt loc then .ok loc else .error .notDirectory
  | name :: rest =>
    if !t.isDirectoryAt loc then .error .notDirectory
    else if name.utf8ByteSize > maxNameLength then .error .nameTooLong
    else
      match t.lookup (loc ++ [name]) with
      | none => .error .notFound
      | some _ => goDown t (loc ++ [name]) rest

/-- The location, if a directory is there. -/
def asDirectory (t : FileTree) (loc : Location) : Except IoError Location :=
  if t.isDirectoryAt loc then .ok loc else .error .notDirectory

theorem goDown_of_not_isDirectoryAt (h : t.isDirectoryAt loc = false) (names : List String) :
    t.goDown loc names = .error .notDirectory := by
  cases names <;> simp [goDown, h]

/-- **A walk without steps up goes down**, and arrives at a directory or does not. -/
theorem bind_walk_eq_goDown (h : LinkFree t) (hdots : ".." ∉ names) (n : Nat) (loc : Location) :
    (t.walk n loc names >>= t.asDirectory) = t.goDown loc (undotted names) := by
  induction names generalizing loc with
  | nil =>
      rw [walk_nil]
      rfl
  | cons name rest ih =>
      obtain ⟨hname, hrest⟩ := not_or.mp (mt List.mem_cons.mpr hdots)
      have hname := Ne.symm hname
      have ih := ih hrest
      by_cases hdir : t.isDirectoryAt loc = true
      · by_cases hdot : name = "."
        · subst hdot
          rw [Path.undotted_dot, ← ih]
          cases n <;> simp [FileTree.walk, walkWith, hdir]
        · rw [Path.undotted_cons hdot, goDown, ← ih]
          by_cases hlong : name.utf8ByteSize > maxNameLength
          · cases n <;> simp [FileTree.walk, walkWith, hdir, hdot, hname, hlong, bind, Except.bind]
          · rcases hentry : t.lookup (loc ++ [name]) with _ | (content | _ | target)
            · cases n <;>
                simp [FileTree.walk, walkWith, hdir, hdot, hname, hlong, hentry, bind, Except.bind]
            · cases n <;> simp [FileTree.walk, walkWith, hdir, hdot, hname, hlong, hentry]
            · cases n <;> simp [FileTree.walk, walkWith, hdir, hdot, hname, hlong, hentry]
            · exact absurd hentry (h _ target)
      · rw [Bool.not_eq_true] at hdir
        rw [goDown_of_not_isDirectoryAt hdir]
        cases n <;> simp [FileTree.walk, walkWith, hdir, bind, Except.bind]

/-- Where names lead down to a directory, a walk along them arrives, and nowhere else. -/
theorem goDown_eq_ok_iff (h : LinkFree t) (hdots : ".." ∉ names) (n : Nat) {d : Location} :
    t.goDown loc (undotted names) = .ok d ↔ Leads t n loc names d ∧ t.isDirectoryAt d = true := by
  rw [← bind_walk_eq_goDown h hdots n, ← walk_eq_ok_iff]
  constructor
  · intro hok
    obtain ⟨m, hm, hdir⟩ := ok_of_bind hok
    rw [asDirectory] at hdir
    split at hdir
    next hisdir =>
      cases hdir
      exact ⟨hm, hisdir⟩
    next => cases hdir
  · rintro ⟨hwalk, hdir⟩
    rw [hwalk]
    exact if_pos hdir

theorem goDown_append (t : FileTree) (loc : Location) (a b : List String) :
    t.goDown loc (a ++ b) = t.goDown loc a >>= fun d => t.goDown d b := by
  induction a generalizing loc with
  | nil =>
      rw [List.nil_append, goDown]
      by_cases hdir : t.isDirectoryAt loc = true
      · rw [if_pos hdir]
        rfl
      · rw [if_neg hdir, goDown_of_not_isDirectoryAt (by simpa using hdir)]
        rfl
  | cons name rest ih =>
      rw [List.cons_append, goDown, goDown]
      split
      · rfl
      split
      · rfl
      split
      · rfl
      · exact ih (loc ++ [name])

/-- Where names go down to, if they do. -/
theorem eq_of_goDown {d : Location} (h : t.goDown loc names = .ok d) : d = loc ++ names := by
  induction names generalizing loc with
  | nil =>
      rw [goDown] at h
      split at h
      · cases h
        exact (List.append_nil _).symm
      · cases h
  | cons name rest ih =>
      rw [goDown] at h
      split at h
      · cases h
      split at h
      · cases h
      split at h
      · cases h
      · rw [ih h, List.append_assoc]
        rfl

theorem isDirectoryAt_of_goDown {d : Location} (h : t.goDown loc names = .ok d) :
    t.isDirectoryAt d = true := by
  induction names generalizing loc with
  | nil =>
      rw [goDown] at h
      split at h
      next hdir =>
        cases h
        exact hdir
      next => cases h
  | cons name rest ih =>
      rw [goDown] at h
      split at h
      · cases h
      split at h
      · cases h
      split at h
      · cases h
      · exact ih h

/-! ## Making directories on the way down -/

/-- Makes the directory of a name, unless it is there. Something else in its place ends it with the
error `blocked`. -/
def layOne (blocked : IoError) (t : FileTree) (loc : Location) (name : String) :
    FileTree × Except IoError Unit :=
  if name.utf8ByteSize > maxNameLength then (t, .error .nameTooLong)
  else
    match t.lookup (loc ++ [name]) with
    | none => (t.insert (loc ++ [name]) .directory, .ok ())
    | some .directory => (t, .ok ())
    | some _ => (t, .error blocked)

/-- Makes the directories along names that have others behind them. -/
def layThrough (t : FileTree) (loc : Location) : List String → FileTree × Except IoError Unit
  | [] => (t, .ok ())
  | name :: rest =>
    match layOne .notDirectory t loc name with
    | (t, .error e) => (t, .error e)
    | (t, .ok ()) => layThrough t (loc ++ [name]) rest

/-- Makes the directories along names. -/
def lay (t : FileTree) (loc : Location) (names : List String) : FileTree × Except IoError Unit :=
  match layThrough t loc names.dropLast, names.getLast? with
  | (t, .error e), _ => (t, .error e)
  | (t, .ok ()), none => (t, .ok ())
  | (t, .ok ()), some name => layOne .alreadyExists t (loc ++ names.dropLast) name

theorem layOne_cases (blocked : IoError) (t : FileTree) (loc : Location) (name : String) :
    ((layOne blocked t loc name).1 = t ∧ ∃ e, (layOne blocked t loc name).2 = .error e) ∨
    ((layOne blocked t loc name).2 = .ok () ∧ name.utf8ByteSize ≤ maxNameLength ∧
      (layOne blocked t loc name).1.lookup (loc ++ [name]) = some .directory ∧
      ((layOne blocked t loc name).1 = t ∨ t.lookup (loc ++ [name]) = none ∧
        (layOne blocked t loc name).1 = t.insert (loc ++ [name]) .directory)) := by
  unfold layOne
  split
  · exact .inl ⟨rfl, _, rfl⟩
  next hshort =>
  split
  next hnone =>
    have hmade := lookup_insert t (by simp : loc ++ [name] ≠ []) .directory (loc ++ [name])
    rw [if_pos rfl] at hmade
    exact .inr ⟨rfl, Nat.le_of_not_lt hshort, hmade, .inr ⟨hnone, rfl⟩⟩
  next hdir => exact .inr ⟨rfl, Nat.le_of_not_lt hshort, hdir, .inl rfl⟩
  next => exact .inl ⟨rfl, _, rfl⟩

theorem grows_layOne (blocked : IoError) (t : FileTree) (loc : Location) (name : String) :
    Grows t (layOne blocked t loc name).1 := by
  rcases layOne_cases blocked t loc name with ⟨htree, -⟩ | ⟨-, -, -, htree | ⟨hnone, htree⟩⟩
  · rw [htree]
    exact .refl t
  · rw [htree]
    exact .refl t
  · rw [htree]
    exact grows_insert_directory (by simp) hnone

theorem grows_layThrough (t : FileTree) (loc : Location) (names : List String) :
    Grows t (layThrough t loc names).1 := by
  induction names generalizing t loc with
  | nil => exact .refl t
  | cons name rest ih =>
      have hgrows := grows_layOne .notDirectory t loc name
      rw [layThrough]
      rcases hone : layOne .notDirectory t loc name with ⟨u, e | ⟨⟩⟩
      · rw [hone] at hgrows
        exact hgrows
      · rw [hone] at hgrows
        exact hgrows.trans (ih u (loc ++ [name]))

/-- Names that lie behind each other are laid one part after the other. -/
theorem layThrough_append (t : FileTree) (loc : Location) (a b : List String) :
    layThrough t loc (a ++ b) =
      match layThrough t loc a with
      | (t, .error e) => (t, .error e)
      | (t, .ok ()) => layThrough t (loc ++ a) b := by
  induction a generalizing t loc with
  | nil => rw [List.nil_append, layThrough, List.append_nil]
  | cons name rest ih =>
      rw [List.cons_append, layThrough, layThrough]
      rcases layOne .notDirectory t loc name with ⟨u, e | ⟨⟩⟩
      · rfl
      · dsimp only
        rw [ih, List.append_assoc]
        rfl

/-! ## What can be gone down need not be made -/

theorem layThrough_of_goDown {d : Location} (h : t.goDown loc names = .ok d) :
    layThrough t loc names = (t, .ok ()) := by
  induction names generalizing loc with
  | nil => rfl
  | cons name rest ih =>
      rw [goDown] at h
      split at h
      · cases h
      split at h
      · cases h
      next hshort =>
      split at h
      · cases h
      next e he =>
      -- The way goes on from the entry or ends there, so that it is a directory.
      have hdir : t.lookup (loc ++ [name]) = some .directory := by
        rw [← isDirectoryAt_iff]
        by_contra hno
        rw [goDown_of_not_isDirectoryAt (by simpa using hno)] at h
        cases h
      have hone : layOne .notDirectory t loc name = (t, .ok ()) := by
        rw [layOne, if_neg hshort, hdir]
      rw [layThrough, hone]
      exact ih h

/-- What is in the way, other than a missing directory, ends the making as well. -/
theorem layThrough_of_goDown_error {e : IoError} (hloc : t.isDirectoryAt loc = true)
    (h : t.goDown loc names = .error e) (he : e ≠ .notFound) :
    layThrough t loc names = (t, .error e) := by
  induction names generalizing loc with
  | nil =>
      rw [goDown, if_pos hloc] at h
      cases h
  | cons name rest ih =>
      rw [goDown, if_neg (by simp [hloc])] at h
      rw [layThrough, layOne]
      split at h
      next hlong =>
        cases h
        rw [if_pos hlong]
      next hshort =>
      rw [if_neg hshort]
      cases hentry : t.lookup (loc ++ [name]) with
      | none =>
          rw [hentry] at h
          cases h
          exact absurd rfl he
      | some entry =>
          rw [hentry] at h
          dsimp only at h ⊢
          by_cases hdir : entry = .directory
          · subst hdir
            exact ih (isDirectoryAt_iff.mpr hentry) h
          · have hno : t.isDirectoryAt (loc ++ [name]) = false := by
              rw [← Bool.not_eq_true, isDirectoryAt_iff, hentry]
              exact fun heq => hdir (Option.some.inj heq)
            rw [goDown_of_not_isDirectoryAt hno] at h
            cases h
            cases entry with
            | directory => exact absurd rfl hdir
            | file content => rfl
            | link target => rfl

/-- What was made can be gone down. -/
theorem goDown_of_layThrough (hloc : t.isDirectoryAt loc = true)
    (h : layThrough t loc names = (u, .ok ())) : u.goDown loc names = .ok (loc ++ names) := by
  induction names generalizing t loc with
  | nil =>
      cases h
      rw [goDown, if_pos hloc, List.append_nil]
  | cons name rest ih =>
      have hgrows := grows_layThrough t loc (name :: rest)
      rw [h] at hgrows
      rw [layThrough] at h
      have hone := layOne_cases .notDirectory t loc name
      rcases hlaid : layOne .notDirectory t loc name with ⟨m, e | ⟨⟩⟩
      · rw [hlaid] at h
        cases h
      rw [hlaid] at h hone
      have hgrows' := grows_layThrough m (loc ++ [name]) rest
      rw [show layThrough m (loc ++ [name]) rest = (u, .ok ()) from h] at hgrows'
      rcases hone with ⟨-, e, he⟩ | ⟨-, hshort, hdir, -⟩
      · cases he
      have hrest := ih (isDirectoryAt_iff.mpr hdir) h
      have hthere := hgrows'.keepsKinds.isDirectoryAt (isDirectoryAt_iff.mpr hdir)
      rw [goDown, if_neg (by simp [hgrows.keepsKinds.isDirectoryAt hloc]),
        if_neg (Nat.not_lt.mpr hshort), isDirectoryAt_iff.mp hthere]
      dsimp only
      rw [hrest, List.append_assoc]
      rfl

/-- Nothing stands where the way to it is missing. -/
theorem lookup_of_goDown_notFound (ht : Rooted t) (h : t.goDown loc names = .error .notFound) :
    t.lookup (loc ++ names) = none := by
  induction names generalizing loc with
  | nil =>
      rw [goDown] at h
      split at h <;> cases h
  | cons name rest ih =>
      rw [goDown] at h
      split at h
      · cases h
      split at h
      · cases h
      rw [List.append_cons]
      split at h
      next hnone =>
        by_cases hrest : rest = []
        · rw [hrest, List.append_nil, hnone]
        · by_contra hsome
          have hdir := ht.isDirectoryAt_above hrest (Option.isSome_iff_ne_none.mpr hsome)
          rw [isDirectoryAt_iff, hnone] at hdir
          cases hdir
      next => exact ih h

/-! ## Paths that lead down -/

/-- A path that no walk refuses, and whose names lead down from the location. -/
structure Descends (p : Path) (t : FileTree) (loc : Location) : Prop where
  check : checkPath p = .ok ()
  start : t.start p = loc
  noDots : ".." ∉ p.names
  last : undotted p.names = [] ∨ p.names.getLast? ≠ some "."

theorem Descends.grow {p : Path} (h : Descends p t loc) (hgrows : Grows t u) :
    Descends p u loc :=
  ⟨h.check, (hgrows.start p).trans h.start, h.noDots, h.last⟩

/-- Makes the directory of a name, which must not be there. -/
def makeEntry (t : FileTree) (loc : Location) (name : String) : Except IoError FileTree :=
  if name.utf8ByteSize > maxNameLength then .error .nameTooLong
  else
    match t.lookup (loc ++ [name]) with
    | none => .ok (t.insert (loc ++ [name]) .directory)
    | some _ => .error .alreadyExists

section Descends

variable {p : Path} {init : List String} {name : String} (ht : LinkFree t)

include ht

theorem Descends.makeDirectory_eq (hp : Descends p t loc)
    (hnames : undotted p.names = init ++ [name]) :
    t.makeDirectory p = t.goDown loc init >>= fun d => t.makeEntry d name := by
  have hmem : name ∈ undotted p.names := by
    rw [hnames]
    exact List.mem_append_right _ List.mem_cons_self
  have hdot : name ≠ "." := by simpa using (List.mem_filter.mp hmem).2
  have hdots : name ≠ ".." := fun heq => hp.noDots (heq ▸ Path.mem_of_mem_undotted hmem)
  obtain ⟨before, last, hsplit⟩ := List.eq_nil_or_concat' p.names |>.resolve_left
    fun hnil => by simp [hnil] at hnames
  have hlast : last ≠ "." := by
    rintro rfl
    refine hp.last.elim (fun hnil => ?_) fun hne => hne (by simp [hsplit])
    rw [hnil] at hnames
    exact absurd hnames.symm (by simp)
  rw [hsplit, Path.undotted_append, Path.undotted_cons hlast, Path.undotted_nil] at hnames
  obtain ⟨rfl, hname⟩ := List.append_inj' hnames rfl
  obtain rfl : last = name := (List.cons.inj hname).1
  have hbefore : ".." ∉ before := fun hmem => hp.noDots (hsplit ▸ List.mem_append_left _ hmem)
  have hwalk := bind_walk_eq_goDown ht hbefore maxLinks loc
  rw [makeDirectory, slot, hp.check, hsplit, List.getLast?_concat, List.dropLast_concat, hp.start,
    ← hwalk]
  cases t.walk maxLinks loc before with
  | error e => rfl
  | ok d =>
      by_cases hdir : t.isDirectoryAt d = true
      · by_cases hlong : last.utf8ByteSize > maxNameLength
        · simp [bind, Except.bind, asDirectory, makeEntry, hdir, hdot, hdots, hlong]
        · simp [bind, Except.bind, asDirectory, makeEntry, hdir, hdot, hdots, hlong, Slot.location]
          cases t.lookup (d ++ [last]) <;> rfl
      · simp [bind, Except.bind, asDirectory, hdir]

theorem Descends.isDirectory_iff (hp : Descends p t loc) :
    t.isDirectory p = true ↔ ∃ d, t.goDown loc (undotted p.names) = .ok d := by
  rw [FileTree.isDirectory_iff]
  constructor
  · rintro ⟨d, hd, hdir⟩
    have hdots : ".." ∉ undotted p.names := mt Path.dots_mem_undotted.mp hp.noDots
    have hlead := leads_of_resolve hd
    rw [hp.start] at hlead
    have hdown := (goDown_eq_ok_iff ht hdots maxLinks).mpr ⟨hlead, hdir⟩
    rw [Path.undotted_undotted] at hdown
    exact ⟨d, hdown⟩
  · rintro ⟨d, hd⟩
    obtain ⟨hlead, hdir⟩ := (goDown_eq_ok_iff ht hp.noDots maxLinks).mp hd
    exact ⟨d, resolve_of_leads hp.check (hp.start.symm ▸ hlead) hdir, hdir⟩

/-- A path whose names all stay names the directory where it starts. -/
theorem Descends.makeDirectory_of_nil (hp : Descends p t loc) (hnil : undotted p.names = [])
    (hloc : t.isDirectoryAt loc = true) :
    t.makeDirectory p = .error .alreadyExists ∧ t.isDirectory p = true := by
  have hdir : t.isDirectory p = true := by
    rw [hp.isDirectory_iff ht, hnil]
    exact ⟨loc, if_pos hloc⟩
  exact ⟨makeDirectory_of_isDirectory hdir, hdir⟩

end Descends

/-! ## A chain of directories -/

theorem layOne_eq_of_ne_file (h : t.lookup (loc ++ [name]) = none ∨
    t.lookup (loc ++ [name]) = some .directory) (blocked blocked' : IoError) :
    layOne blocked t loc name = layOne blocked' t loc name := by
  rcases h with h | h <;> simp [layOne, h]

theorem lay_concat (t : FileTree) (loc : Location) (init : List String) (name : String) :
    lay t loc (init ++ [name]) =
      match layThrough t loc init with
      | (t, .error e) => (t, .error e)
      | (t, .ok ()) => layOne .alreadyExists t (loc ++ init) name := by
  rw [lay, List.dropLast_concat, List.getLast?_concat]
  rcases layThrough t loc init with ⟨u, e | ⟨⟩⟩ <;> rfl

/-- Where the way down is missing nothing is in the way of its last directory. -/
theorem lay_eq_layThrough (ht : Rooted t) (h : t.goDown loc names = .error .notFound) :
    lay t loc names = layThrough t loc names := by
  rcases List.eq_nil_or_concat' names with rfl | ⟨init, name, rfl⟩
  · rfl
  rw [lay_concat, layThrough_append]
  have hgrows := grows_layThrough t loc init
  generalize layThrough t loc init = laid at hgrows ⊢
  obtain ⟨u, e | ⟨⟩⟩ := laid
  · rfl
  dsimp only at hgrows ⊢
  have hnone := lookup_of_goDown_notFound ht h
  have hfree : u.lookup (loc ++ init ++ [name]) = none ∨
      u.lookup (loc ++ init ++ [name]) = some .directory := by
    rw [← List.append_assoc] at hnone
    rcases hgrows.lookup (loc ++ init ++ [name]) with heq | ⟨-, hdir⟩
    · exact .inl (heq.trans hnone)
    · exact .inr hdir
  rw [layThrough, layOne_eq_of_ne_file hfree .alreadyExists .notDirectory]
  rcases layOne .notDirectory u (loc ++ init) name with ⟨v, e | ⟨⟩⟩ <;> rfl

theorem makeEntry_ne_notFound {name : String} : t.makeEntry loc name ≠ .error .notFound := by
  unfold makeEntry
  split
  · exact nofun
  split <;> exact nofun

/-- A directory in a directory is made as on the way down, or it is there. -/
theorem layOne_of_makeEntry (t : FileTree) (loc : Location) (name : String) :
    layOne .alreadyExists t loc name =
      match t.makeEntry loc name with
      | .ok made => (made, .ok ())
      | .error e =>
        (t, if t.lookup (loc ++ [name]) = some .directory ∧ name.utf8ByteSize ≤ maxNameLength
          then .ok () else .error e) := by
  unfold layOne makeEntry
  by_cases hlong : name.utf8ByteSize > maxNameLength
  · simp [hlong]
  · rcases hentry : t.lookup (loc ++ [name]) with _ | (content | _ | target) <;>
      simp [hlong, Nat.le_of_not_lt hlong]

/-- A directory in a directory is there if it can be gone down to. -/
theorem goDown_single_iff (hloc : t.isDirectoryAt loc = true) (name : String) :
    (∃ d, t.goDown loc [name] = .ok d) ↔
      t.lookup (loc ++ [name]) = some .directory ∧ name.utf8ByteSize ≤ maxNameLength := by
  rw [isDirectoryAt_iff] at hloc
  by_cases hlong : name.utf8ByteSize > maxNameLength
  · simp [goDown, isDirectoryAt, hloc, hlong]
  · rcases hentry : t.lookup (loc ++ [name]) with _ | (content | _ | target) <;>
      simp [goDown, isDirectoryAt, hloc, hlong, hentry, Nat.le_of_not_lt hlong]

/-- **In the end the last directory is made, or it is there.** The directories above it are. -/
theorem finish_chain (ht : LinkFree t) {p : Path} {init : List String} {name : String}
    (hp : Descends p t loc) (hnames : undotted p.names = init ++ [name])
    (hinit : t.goDown loc init = .ok (loc ++ init)) :
    layOne .alreadyExists t (loc ++ init) name =
      match t.makeDirectory p with
      | .ok made => (made, .ok ())
      | .error e => (t, if t.isDirectory p then .ok () else .error e) := by
  have hdir : t.isDirectory p = true ↔ t.lookup (loc ++ init ++ [name]) = some .directory ∧
      name.utf8ByteSize ≤ maxNameLength := by
    rw [hp.isDirectory_iff ht, hnames, goDown_append, hinit]
    exact goDown_single_iff (isDirectoryAt_of_goDown hinit) name
  have hmake : t.makeDirectory p = t.makeEntry (loc ++ init) name := by
    rw [hp.makeDirectory_eq ht hnames, hinit]
    rfl
  rw [layOne_of_makeEntry, hmake]
  simp only [hdir]

/-- **A chain of directories comes to the same as making them from the top down.** -/
theorem makeChain_eq_lay (ht : LinkFree t) (hrooted : Rooted t) (hloc : t.isDirectoryAt loc = true)
    {ps : List Path} (hchain : ps.IsChain Below)
    (hlast : ∀ q ∈ ps.getLast?, undotted q.names = [])
    (hps : ∀ q ∈ ps, q.text = "" ∨ Descends q t loc) {p : Path} (hp : p ∈ ps.head?) :
    t.makeChain ps = lay t loc (undotted p.names) := by
  induction ps generalizing p with
  | nil => cases hp
  | cons q above ih =>
      obtain rfl : q = p := Option.some.inj hp
      have hnone : lay t loc [] = (t, .ok ()) := rfl
      by_cases hempty : q.text = ""
      · obtain rfl : q = ⟨""⟩ := congrArg Path.mk hempty
        rfl
      have hdescends := (hps q List.mem_cons_self).resolve_left hempty
      rw [makeChain, if_neg (by simpa using hempty)]
      rcases List.eq_nil_or_concat' (undotted q.names) with hnil | ⟨init, name, hnames⟩
      · obtain ⟨hmake, hdir⟩ := hdescends.makeDirectory_of_nil ht hnil hloc
        rw [hmake, hnil, hnone, hdir]
        rfl
      -- There are paths above this one, and the next has all names but the last.
      obtain ⟨r, rest, rfl⟩ : ∃ r rest, above = r :: rest := by
        refine List.exists_cons_of_ne_nil fun hnil => ?_
        rw [hlast q (by rw [hnil]; rfl)] at hnames
        exact absurd hnames.symm (by simp)
      have hbelow := (List.isChain_cons_cons.mp hchain).1
      have hinit : undotted r.names = init := by rw [hbelow.names, hnames, List.dropLast_concat]
      have ih := ih hchain.tail hlast (fun x hx => hps x (List.mem_cons_of_mem _ hx)) rfl
      rw [hinit] at ih
      rw [hnames, lay_concat]
      cases hdown : t.goDown loc init with
      | ok d =>
          obtain rfl := eq_of_goDown hdown
          rw [layThrough_of_goDown hdown]
          dsimp only
          rw [finish_chain ht hdescends hnames hdown]
          cases hmake : t.makeDirectory q with
          | ok made => rfl
          | error e =>
              have he : e ≠ .notFound := by
                rintro rfl
                rw [hdescends.makeDirectory_eq ht hnames, hdown] at hmake
                exact makeEntry_ne_notFound hmake
              dsimp only
              rw [if_pos (by simpa using he)]
      | error e =>
          have hmake : t.makeDirectory q = .error e := by
            rw [hdescends.makeDirectory_eq ht hnames, hdown]
            rfl
          have hdir : t.isDirectory q = false := by
            rw [← Bool.not_eq_true, hdescends.isDirectory_iff ht, hnames, goDown_append, hdown]
            rintro ⟨d, hd⟩
            cases hd
          rw [hmake, hdir]
          dsimp only
          by_cases he : e = .notFound
          · -- A directory above is missing: those are made first, and then this one.
            subst he
            rw [if_neg (by simp), ih, lay_eq_layThrough hrooted hdown]
            have hgrows := grows_layThrough t loc init
            rcases hlaid : layThrough t loc init with ⟨u, e | ⟨⟩⟩
            · rfl
            rw [hlaid] at hgrows
            exact (finish_chain (hgrows.linkFree ht) (hdescends.grow hgrows) hnames
              (goDown_of_layThrough hloc hlaid)).symm
          · rw [if_pos (by simpa using he), layThrough_of_goDown_error hloc hdown he]
            rfl

/-! ## A directory and those above it -/

section MakeDirectories

variable {p : Path}

/-- A path that a walk refuses is refused. -/
theorem makeDirectories_of_refused {e : IoError} (htext : p.text ≠ "")
    (h : checkPath p = .error e) : t.makeDirectories p = (t, .error e) := by
  have hmake : t.makeDirectory p = .error e := by
    rw [makeDirectory, slot, h]
    rfl
  have hdir : t.isDirectory p = false := by
    rw [← Bool.not_eq_true, isDirectory_iff]
    rintro ⟨d, hd, -⟩
    cases h.symm.trans (resolve_eq_ok_iff.mp hd).1
  have he : e ≠ .notFound := by
    rintro rfl
    rw [checkPath] at h
    split at h
    · cases h
    split at h
    next hempty => exact htext (String.isEmpty_iff.mp hempty)
    split at h <;> cases h
  rw [makeDirectories, makeChain, if_neg (mt String.isEmpty_iff.mp htext), hmake, hdir]
  dsimp only
  rw [if_pos (by simpa using he)]
  rfl

/-- Nothing is made if there is no directory to start from. -/
theorem makeDirectories_of_no_start (ht : LinkFree t) (hp : Descends p t loc)
    (hne : undotted p.names ≠ []) (hloc : t.isDirectoryAt loc = false) :
    t.makeDirectories p = (t, .error .notDirectory) := by
  have hdown := goDown_of_not_isDirectoryAt hloc
  have hmake : t.makeDirectory p = .error .notDirectory := by
    obtain ⟨init, name, hnames⟩ := (List.eq_nil_or_concat' (undotted p.names)).resolve_left hne
    rw [hp.makeDirectory_eq ht hnames, hdown]
    rfl
  have hdir : t.isDirectory p = false := by
    rw [← Bool.not_eq_true, hp.isDirectory_iff ht, hdown]
    rintro ⟨d, hd⟩
    cases hd
  have htext := (checkPath_eq_ok_iff.mp hp.check).2.1
  rw [makeDirectories, makeChain, if_neg (mt String.isEmpty_iff.mp htext), hmake, hdir]
  rfl

/-- The paths above one that leads down lead down, but for the empty path. -/
theorem Descends.of_mem_parents {q : Path} (hp : Descends p t loc) (hq : q ∈ p.parents) :
    q.text = "" ∨ Descends q t loc := by
  by_cases htext : q.text = ""
  · exact .inl htext
  have hstart : t.start q = t.start p := by
    simp [FileTree.start, (Path.prefix_of_mem_parents hq).1]
  refine .inr ⟨checkPath_of_mem_parents hq htext hp.check, hstart.trans hp.start,
    Path.not_mem_of_mem_parents hp.noDots hq, ?_⟩
  by_cases hdot : q.names.getLast? = some "."
  · obtain rfl := (Path.text_prefix_of_mem_parents hq).2 hdot
    exact .inl (by decide)
  · exact .inr hdot

/-- **A path that leads down has its directories made from the top down.** -/
theorem makeDirectories_eq_lay (ht : LinkFree t) (hrooted : Rooted t) (hp : Descends p t loc)
    (hloc : t.isDirectoryAt loc = true) :
    t.makeDirectories p = lay t loc (undotted p.names) := by
  have hlast : ∀ q ∈ (p :: p.parents).getLast?, undotted q.names = [] := by
    intro q hq
    by_cases hnil : undotted p.names = []
    · rcases List.mem_cons.mp (List.mem_of_getLast? hq) with rfl | hq
      · exact hnil
      · exact List.prefix_nil.mp (hnil ▸ (Path.prefix_of_mem_parents hq).2)
    · obtain ⟨above, habove⟩ := Path.exists_parent? hnil
      rw [List.getLast?_cons_of_ne_nil (List.ne_nil_of_mem (List.mem_of_head? habove))] at hq
      exact Path.undotted_of_getLast?_parents hq
  refine makeChain_eq_lay ht hrooted hloc (Path.isChain_parents p) hlast (fun q hq => ?_) rfl
  rcases List.mem_cons.mp hq with rfl | hq
  · exact .inr hp
  · exact hp.of_mem_parents hq

end MakeDirectories

end ModuleDepot.FileTree
