import ModuleDepot.Proofs.FileTree.Growth
import ModuleDepot.Proofs.Path.Parents

/-! # Making directories

`Makes ps t u` says that `u` comes from `t` by making directories at some of the paths `ps`.
It holds of every run of `makeChain`, failed or not (`makes_makeChain`), and is what is
known about the tree afterwards: it has further directories, each at the place of the last
name of one of the paths.

If nothing fails and something was made, then the path itself was: it leads to a directory
that is new (`makeChain_new`).
-/

namespace ModuleDepot.FileTree

open ModuleDepot.Path (undotted Below)

variable {t u v : FileTree}

/-- A walk that does not refuse a path does not refuse the paths above it. -/
theorem checkPath_of_mem_parents {p q : Path} (hq : q ∈ p.parents) (hne : q.text ≠ "")
    (h : checkPath p = .ok ()) : checkPath q = .ok () := by
  obtain ⟨behind, htext⟩ := (Path.text_prefix_of_mem_parents hq).1
  obtain ⟨hnul, -, hsize⟩ := checkPath_eq_ok_iff.mp h
  have hsplit : p.text = q.text ++ String.ofList behind :=
    String.toList_injective (by rw [← htext, String.toList_append, String.toList_ofList])
  refine checkPath_eq_ok_iff.mpr ⟨?_, hne, ?_⟩
  · simp only [Path.hasNul, List.contains_eq_mem, decide_eq_false_iff_not, ← htext,
      List.mem_append, not_or] at hnul ⊢
    exact hnul.1
  · rw [hsplit, String.utf8ByteSize_append] at hsize
    exact le_trans (Nat.le_add_right _ _) hsize

/-! ## One directory -/

theorem makeDirectory_eq_ok_iff {p : Path} :
    t.makeDirectory p = .ok u ↔
      ∃ s, HasSlot t p s ∧ t.lookup s.location = none ∧ u = t.insert s.location .directory := by
  constructor
  · intro h
    obtain ⟨slot?, hslot, h⟩ := ok_of_bind h
    cases slot? with
    | none => cases h
    | some s =>
        cases hnone : t.lookup s.location with
        | some => simp [hnone] at h
        | none =>
            simp only [hnone, Except.ok.injEq] at h
            exact ⟨s, hasSlot_of_slot hslot, hnone, h.symm⟩
  · rintro ⟨s, hs, hnone, rfl⟩
    simp [makeDirectory, hs.slot, hnone, bind, Except.bind]

theorem Slot.location_ne_nil (s : Slot) : s.location ≠ [] := by
  simp [Slot.location]

theorem grows_of_makeDirectory {p : Path} (h : t.makeDirectory p = .ok u) : Grows t u := by
  obtain ⟨s, _, hnone, rfl⟩ := makeDirectory_eq_ok_iff.mp h
  exact grows_insert_directory s.location_ne_nil hnone

theorem Rooted.makeDirectory {p : Path} (ht : Rooted t) (h : t.makeDirectory p = .ok u) :
    Rooted u := by
  obtain ⟨s, hs, _, rfl⟩ := makeDirectory_eq_ok_iff.mp h
  exact ht.insert hs.directory (.inl rfl)

/-! ## Many directories -/

/-- `u` is `t` after directories were made at some of the paths. -/
inductive Makes (ps : List Path) (t : FileTree) : FileTree → Prop
  | refl : Makes ps t t
  | step {u v p} : p ∈ ps → Makes ps t u → u.makeDirectory p = .ok v → Makes ps t v

namespace Makes

variable {ps : List Path}

theorem mono {ps' : List Path} (h : Makes ps t u) (hsub : ps ⊆ ps') : Makes ps' t u := by
  induction h with
  | refl => exact .refl
  | step hp _ hmake ih => exact .step (hsub hp) ih hmake

theorem grows (h : Makes ps t u) : Grows t u := by
  induction h with
  | refl => exact .refl t
  | step _ _ hmake ih => exact ih.trans (grows_of_makeDirectory hmake)

theorem rooted (h : Makes ps t u) (ht : Rooted t) : Rooted u := by
  induction h with
  | refl => exact ht
  | step _ _ hmake ih => exact ih.makeDirectory hmake

/-- A new directory is at the place of the last name of one of the paths, in a tree between
the two. -/
theorem exists_slot (h : Makes ps t u) {loc : Location} (hne : u.lookup loc ≠ t.lookup loc) :
    ∃ p ∈ ps, ∃ m s, Makes ps t m ∧ HasSlot m p s ∧ s.location = loc := by
  induction h with
  | refl => exact absurd rfl hne
  | @step m v p hp hmade hmake ih =>
      by_cases hm : m.lookup loc = t.lookup loc
      · obtain ⟨s, hs, hnone, rfl⟩ := makeDirectory_eq_ok_iff.mp hmake
        refine ⟨p, hp, m, s, hmade, hs, ?_⟩
        by_contra hloc
        rw [lookup_insert m s.location_ne_nil, if_neg hloc] at hne
        exact hne hm
      · exact ih hm

end Makes

theorem makes_makeChain (t : FileTree) (ps : List Path) : Makes ps t (t.makeChain ps).1 := by
  induction ps with
  | nil => exact .refl
  | cons p above ih =>
      have habove := ih.mono (List.subset_cons_self p above)
      rw [makeChain]
      split
      · exact .refl
      split
      next made hmake => exact .step List.mem_cons_self .refl hmake
      split
      · exact .refl
      split
      next t' e hchain => exact hchain ▸ habove
      next t' hchain =>
        rw [hchain] at habove
        split
        next made hmake => exact .step List.mem_cons_self habove hmake
        next => exact habove

theorem makes_makeDirectories (t : FileTree) (p : Path) :
    Makes (p :: p.parents) t (t.makeDirectories p).1 :=
  makes_makeChain ..

/-! ## The directory asked for -/

/-- The names of a path lead to what it names, if that is a directory. -/
theorem resolve_of_leads {p : Path} {d : Location} (hcheck : checkPath p = .ok ())
    (h : Leads t maxLinks (t.start p) p.names d) (hdir : t.isDirectoryAt d) :
    t.resolve p = .ok d := by
  refine resolve_eq_ok_iff.mpr ⟨hcheck, ?_⟩
  unfold Path.steps
  split
  · exact h.stay_after hdir
  · exact h

theorem leads_of_resolve {p : Path} {d : Location} (h : t.resolve p = .ok d) :
    Leads t maxLinks (t.start p) (undotted p.names) d := by
  have hlead := (resolve_eq_ok_iff.mp h).2.thin (thins_undotted _)
  unfold Path.steps at hlead
  split at hlead
  · simpa [undotted] using hlead
  · exact hlead

/-- A directory that was made is the one its path leads to. -/
theorem resolve_of_makeDirectory {p : Path} (h : t.makeDirectory p = .ok u) :
    ∃ d, u.resolve p = .ok d ∧ u.isDirectoryAt d ∧ t.lookup d = none := by
  obtain ⟨s, hs, hnone, rfl⟩ := makeDirectory_eq_ok_iff.mp h
  have hgrows := grows_of_makeDirectory h
  obtain ⟨init, hnames, hlead⟩ := hs.names
  have hmade : (t.insert s.location .directory).lookup s.location = some .directory := by
    rw [lookup_insert t s.location_ne_nil, if_pos rfl]
  have hdir := isDirectoryAt_iff.mpr hmade
  refine ⟨s.location, resolve_of_leads hs.check ?_ hdir, hdir, hnone⟩
  rw [hnames, hgrows.start]
  exact (hlead.mono hgrows.keepsKinds).snoc (hgrows.keepsKinds.isDirectoryAt hs.directory)
    hs.ordinary hmade Entry.directory_ne_link

/-- What is there is in the way. -/
theorem makeDirectory_of_isDirectory {p : Path} (h : t.isDirectory p = true) :
    t.makeDirectory p = .error .alreadyExists := by
  obtain ⟨d, hd, _⟩ := isDirectory_iff.mp h
  obtain ⟨hcheck, hlead⟩ := resolve_eq_ok_iff.mp hd
  rcases List.eq_nil_or_concat' p.names with hnil | ⟨init, name, hnames⟩
  · simp [makeDirectory, slot, hcheck, hnil, bind, Except.bind]
  have hsteps : ∃ behind, p.steps = init ++ (name :: behind) := by
    rw [Path.steps, hnames]
    split
    · exact ⟨["."], by simp⟩
    · exact ⟨[], rfl⟩
  obtain ⟨behind, hsteps⟩ := hsteps
  obtain ⟨m, k, hm, hlast⟩ := hlead.split hsteps
  have hwalk := hm.walk
  have hmdir := hlast.isDirectoryAt_start
  by_cases hdots : name = "." ∨ name = ".."
  · simp [makeDirectory, slot, hcheck, hnames, hwalk, hmdir, hdots, bind, Except.bind]
  obtain ⟨hdot, hdots⟩ := not_or.mp hdots
  obtain ⟨hname, e, he⟩ : IsOrdinary name ∧ ∃ e, t.lookup (m ++ [name]) = some e := by
    cases hlast with
    | stay => exact absurd rfl hdot
    | up => exact absurd rfl hdots
    | down _ hname he => exact ⟨hname, _, he⟩
    | follow _ hname he => exact ⟨hname, _, he⟩
  have hslot : HasSlot t p ⟨m, name, p.endsInSeparator⟩ :=
    ⟨hcheck, ⟨init, hnames, hm⟩, hmdir, hname, rfl⟩
  have hlocation : (⟨m, name, p.endsInSeparator⟩ : Slot).location = m ++ [name] := rfl
  simp [makeDirectory, hslot.slot, hlocation, he, bind, Except.bind]

theorem makeDirectories_of_isDirectory {p : Path} (h : t.isDirectory p = true) :
    t.makeDirectories p = (t, .ok ()) := by
  rw [makeDirectories, makeChain, makeDirectory_of_isDirectory h]
  dsimp only
  split
  · rfl
  · have hother : (IoError.alreadyExists != .notFound) = true := by decide
    rw [if_pos hother]

/-- A chain that does not fail ends with its first directory there. -/
theorem isDirectory_of_makeChain {p : Path} {above : List Path}
    (h : t.makeChain (p :: above) = (u, .ok ())) : p.text = "" ∨ u.isDirectory p = true := by
  have hmade : ∀ {v : FileTree}, v.makeDirectory p = .ok u → u.isDirectory p = true := by
    intro v hmake
    obtain ⟨d, hd, hdir, -⟩ := resolve_of_makeDirectory hmake
    exact isDirectory_iff.mpr ⟨d, hd, hdir⟩
  have hfound : ∀ {v : FileTree} {e : IoError},
      (v, if v.isDirectory p then .ok () else .error e) = (u, Except.ok ()) →
      u.isDirectory p = true := by
    intro v e heq
    obtain ⟨rfl, hok⟩ := Prod.mk.inj heq
    split at hok
    next hdir => exact hdir
    next => cases hok
  rw [makeChain] at h
  split at h
  next hempty => exact .inl (String.isEmpty_iff.mp hempty)
  right
  split at h
  next made hmake =>
    cases h
    exact hmade hmake
  split at h
  · exact hfound h
  split at h
  · cases h
  split at h
  next made hmake =>
    cases h
    exact hmade hmake
  next => exact hfound h

/-- **What was made need not be made again.** -/
theorem makeDirectories_again {p : Path} (h : t.makeDirectories p = (u, .ok ())) :
    u.makeDirectories p = (u, .ok ()) := by
  rcases isDirectory_of_makeChain h with hempty | hdir
  · rw [makeDirectories, makeChain, if_pos (String.isEmpty_iff.mpr hempty)]
  · exact makeDirectories_of_isDirectory hdir

/-- What leads to a directory below a new one is new. -/
theorem new_of_below {p q : Path} {d d' : Location} (ht : Rooted t) (hgrows : Grows t u)
    (hbelow : Below p q) (hdots : ".." ∉ p.names) (hp : u.resolve p = .ok d)
    (hdir : u.isDirectoryAt d) (hq : u.resolve q = .ok d') (hnew : t.lookup d' = none) :
    t.lookup d = none := by
  have hstart : u.start q = u.start p := by simp [FileTree.start, hbelow.isAbsolute]
  have hleadq := leads_of_resolve hq
  rw [hstart, hbelow.names] at hleadq
  have hleadp := leads_of_resolve hp
  -- The walk to `d` is the one to `d'` and one step down, if the path has a name that counts.
  rcases List.eq_nil_or_concat' (undotted p.names) with hnil | ⟨init, name, hnames⟩
  · rw [hnil] at hleadp hleadq
    rwa [hleadp.unique hleadq]
  · rw [hnames, List.dropLast_concat] at hleadq
    rw [hnames] at hleadp
    have hmem : name ∈ undotted p.names := by simp [hnames]
    have hdot : name ≠ "." := by simpa using (List.mem_filter.mp hmem).2
    have hne : name ≠ ".." := fun heq => hdots (heq ▸ Path.mem_of_mem_undotted hmem)
    obtain ⟨m, e, hlead, _, _, he, hd⟩ := hleadp.last hdot hne
    rw [hlead.unique hleadq] at he hd
    have hbelow := ht.lookup_below hnew name
    rcases hgrows.lookup (d' ++ [name]) with heq | ⟨_, hmade⟩
    · cases he.symm.trans (heq.trans hbelow)
    · rcases hd with rfl | ⟨target, rfl⟩
      · exact hbelow
      · cases he.symm.trans hmade

/-- **If a chain makes anything at all, its first path leads to a new directory.** -/
theorem makeChain_new (ht : Rooted t) {ps : List Path} (hchain : ps.IsChain Below)
    (hdots : ∀ p ∈ ps, ".." ∉ p.names) (hok : t.makeChain ps = (u, .ok ())) :
    u = t ∨ ∃ p ∈ ps.head?, ∃ d, u.resolve p = .ok d ∧ t.lookup d = none := by
  induction ps generalizing u with
  | nil =>
      cases hok
      exact .inl rfl
  | cons p above ih =>
      rw [makeChain] at hok
      split at hok
      · cases hok
        exact .inl rfl
      split at hok
      next made hmake =>
        cases hok
        obtain ⟨d, hd, -, hnone⟩ := resolve_of_makeDirectory hmake
        exact .inr ⟨p, rfl, d, hd, hnone⟩
      split at hok
      · exact .inl (Prod.mk.inj hok).1.symm
      have hmakes := makes_makeChain t above
      split at hok
      next => cases hok
      next t' habove =>
      rw [habove] at hmakes
      split at hok
      next made hmake =>
        cases hok
        obtain ⟨d, hd, -, hnone⟩ := resolve_of_makeDirectory hmake
        refine .inr ⟨p, rfl, d, hd, ?_⟩
        rcases hmakes.grows.lookup d with heq | ⟨hnew, _⟩
        · exact heq.symm.trans hnone
        · exact hnew
      next =>
        obtain ⟨rfl, hok⟩ := Prod.mk.inj hok
        split at hok
        next hdir =>
          -- The directory is there without having been made: it is what a path above it made, or
          -- nothing was made at all.
          have ih := ih hchain.tail (fun q hq => hdots q (List.mem_cons_of_mem _ hq)) habove
          rcases ih with rfl | ⟨q, hq, d', hd', hnew⟩
          · exact .inl rfl
          · obtain ⟨rest, rfl⟩ := List.head?_eq_some_iff.mp hq
            obtain ⟨d, hd, hisdir⟩ := isDirectory_iff.mp hdir
            have hbelow := (List.isChain_cons_cons.mp hchain).1
            exact .inr ⟨p, rfl, d, hd, new_of_below ht hmakes.grows hbelow
              (hdots p List.mem_cons_self) hd hisdir hd' hnew⟩
        next => cases hok

end ModuleDepot.FileTree
