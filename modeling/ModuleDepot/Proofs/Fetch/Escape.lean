import ModuleDepot.Proofs.Fetch.Once
import ModuleDepot.Proofs.Fetch.Root

/-! # Modules that leave the root of the cache

The fetches of modules that are not confined do not stay below the root of the cache
(`not_staysBelowRoot`), unless the operating system refuses their paths.

The way of the descriptor leads from the root of the tree to a place outside of the root of
the cache, for one of two roots at least (`exists_outside`). It has a first step to the outside
(`exists_first_outside`). In a tree that has the directories before this step, and nothing else,
the fetch makes what is missing behind it.
-/

namespace ModuleDepot

open FileTree
open ModuleDepot.Path (undotted)

/-! ## The first step to the outside -/

/-- The root of the tree, or a location at or below the entry `root` in it. -/
def IsWithin (root : String) (loc : Location) : Prop :=
  ∀ first ∈ loc.head?, first = root

theorem isWithin_nil (root : String) : IsWithin root [] := nofun

/-- Steps that lead outside have a first step that does so: it is a name, and starts in the
root of the tree. -/
theorem exists_first_outside {root : String} {steps : List String}
    (hout : ∃ first, first <+: steps ∧ ¬ IsWithin root (descend [] first)) :
    ∃ first next rest, steps = first ++ next :: rest ∧
      (∀ before, before <+: first → IsWithin root (descend [] before)) ∧
      descend [] first = [] ∧ next ≠ "." ∧ next ≠ ".." ∧ next ≠ root := by
  induction steps using List.reverseRecOn with
  | nil =>
      obtain ⟨first, hfirst, hout⟩ := hout
      rw [List.prefix_nil.mp hfirst] at hout
      exact absurd (isWithin_nil root) hout
  | append_singleton init next ih =>
      by_cases hinit : ∃ first, first <+: init ∧ ¬ IsWithin root (descend [] first)
      · obtain ⟨first, name, rest, hsplit, hrest⟩ := ih hinit
        exact ⟨first, name, rest ++ [next], by rw [hsplit, List.append_assoc]; rfl, hrest⟩
      have hwithin : ∀ before, before <+: init → IsWithin root (descend [] before) :=
        fun before hbefore => by_contra fun hno => hinit ⟨before, hbefore, hno⟩
      obtain ⟨first, hfirst, hout⟩ := hout
      rcases List.prefix_concat_iff.mp hfirst with rfl | hfirst
      · have hbefore := hwithin init List.prefix_rfl
        rw [descend_append, descend_cons, descend_nil] at hout
        refine ⟨init, next, [], rfl, hwithin, ?_⟩
        by_cases hdot : next = "."
        · subst hdot
          exact absurd hbefore hout
        by_cases hdots : next = ".."
        · subst hdots
          refine absurd (fun name hname => hbefore name ?_) hout
          have hbegins := List.singleton_prefix_iff_head?_eq_some.mpr hname
          exact List.singleton_prefix_iff_head?_eq_some.mp
            (hbegins.trans (List.dropLast_prefix _))
        rw [descendOne_of_ne hdot hdots] at hout
        cases hloc : descend [] init with
        | nil =>
            refine ⟨rfl, hdot, hdots, ?_⟩
            rintro rfl
            rw [hloc] at hout
            exact hout fun _ hname => (Option.some.inj hname).symm
        | cons name rest =>
            rw [hloc] at hout hbefore
            exact absurd hbefore hout
      · exact absurd (hwithin first hfirst) hout

/-- Steps that lead above their start end in the same location from there, whatever the start
is called. -/
theorem descend_of_climbs {steps : List String} (below : Location)
    (h : climbs below.length steps = true) (a b : String) :
    descend (a :: below) steps = descend (b :: below) steps := by
  induction steps generalizing below with
  | nil => cases h
  | cons step rest ih =>
      by_cases hdot : step = "."
      · subst hdot
        exact ih _ h
      by_cases hdots : step = ".."
      · subst hdots
        rcases List.eq_nil_or_concat' below with rfl | ⟨init, name, rfl⟩
        · -- This is the step above the start, which leaves its name behind.
          rfl
        · have hrest : climbs init.length rest = true := by simpa using h
          rw [descend_cons, descend_cons, descendOne_dots, descendOne_dots, ← List.cons_append,
            ← List.cons_append, List.dropLast_concat, List.dropLast_concat]
          exact ih _ hrest
      · rw [climbs_name hdot hdots] at h
        have hrest : climbs (below ++ [step]).length rest = true := by
          rwa [List.length_append, List.length_singleton]
        rw [descend_cons, descend_cons, descendOne_of_ne hdot hdots, descendOne_of_ne hdot hdots]
        exact ih _ hrest

/-! ## Paths that are not refused -/

/-- The operating system does not refuse the path of the descriptor below a root of one
letter: it has no NUL, and it and its names are short enough. -/
structure ModuleId.Fits (id : ModuleId) : Prop where
  noNul : (Layout.directory id).hasNul = false
  path : "/a".utf8ByteSize + (Layout.directory id).text.utf8ByteSize +
    Layout.descriptorName.utf8ByteSize + 2 ≤ maxPathLength
  names : ∀ name ∈ (Layout.directory id).names, name.utf8ByteSize ≤ maxNameLength

instance (id : ModuleId) : Decidable id.Fits :=
  decidable_of_iff ((Layout.directory id).hasNul = false ∧
    "/a".utf8ByteSize + (Layout.directory id).text.utf8ByteSize +
      Layout.descriptorName.utf8ByteSize + 2 ≤ maxPathLength ∧
    ∀ name ∈ (Layout.directory id).names, name.utf8ByteSize ≤ maxNameLength)
    ⟨fun ⟨a, b, c⟩ => ⟨a, b, c⟩, fun ⟨a, b, c⟩ => ⟨a, b, c⟩⟩

namespace Fetcher

/-- Fetches into a cache at the entry `root` of the root of the tree, from a repository that
finds everything. -/
def generous (root : String) : Fetcher Unit where
  store := ⟨⟨"/" ++ root⟩⟩
  repository := ⟨"", fun s _ => (.found (.ofBytes []), s, [])⟩
  parser := fun _ => .ok []
  version := ""

variable {root : String} {id : ModuleId}

/-- What is known of the two roots that are considered. -/
theorem generous_root (h : root = "a" ∨ root = "b") :
    Path.names ⟨"/" ++ root⟩ = [root] ∧ Path.isAbsolute ⟨"/" ++ root⟩ = true ∧
      Path.hasNul ⟨"/" ++ root⟩ = false ∧ ("/" ++ root).utf8ByteSize = "/a".utf8ByteSize ∧
      root.utf8ByteSize ≤ maxNameLength ∧ root ≠ "." ∧ root ≠ ".." := by
  rcases h with rfl | rfl <;> decide +kernel

/-- The path of the descriptor. -/
def descriptorPath (root : String) (id : ModuleId) : Path :=
  (generous root).artifactPath id Layout.descriptorName

theorem names_descriptorPath (hroot : root = "a" ∨ root = "b") (id : ModuleId) :
    (descriptorPath root id).names =
      (if (Layout.directory id).isAbsolute then [] else [root]) ++
        (Layout.directory id).names ++ [Layout.descriptorName] := by
  have hname : Path.names ⟨Layout.descriptorName⟩ = [Layout.descriptorName] := by decide +kernel
  have hfile := (Layout.names_path_file (generous root).store id
    (Layout.isContainedPath Layout.isContained_descriptorName).relative).1
  have hmodule : ((generous root).modulePath id).names =
      (if (Layout.directory id).isAbsolute then [] else [root]) ++
        (Layout.directory id).names := by
    split
    next habs => exact congrArg Path.names (Path.join_of_isAbsolute habs)
    next habs =>
      rw [names_modulePath_of_relative (generous root) ((Bool.not_eq_true _).mp habs)]
      exact congrArg (· ++ _) (generous_root hroot).1
  rw [hname] at hfile
  exact hfile.trans (congrArg (· ++ [Layout.descriptorName]) hmodule)

theorem short_of_mem_descriptorPath (hroot : root = "a" ∨ root = "b") (hfits : id.Fits)
    {name : String} (h : name ∈ (descriptorPath root id).names) :
    name.utf8ByteSize ≤ maxNameLength := by
  rw [names_descriptorPath hroot, List.mem_append, List.mem_append, List.mem_singleton] at h
  rcases h with (h | h) | rfl
  · split at h
    · cases h
    · rw [List.mem_singleton.mp h]
      exact (generous_root hroot).2.2.2.2.1
  · exact hfits.names name h
  · decide

theorem isUsable_descriptorPath (hroot : root = "a" ∨ root = "b") (hfits : id.Fits) :
    IsUsable (descriptorPath root id) := by
  obtain ⟨-, habs, hnul, hsize, -⟩ := generous_root hroot
  have habs : (descriptorPath root id).isAbsolute = true :=
    isAbsolute_artifactPath (generous root) id habs Layout.isContained_descriptorName
  refine ⟨habs, checkPath_eq_ok_iff.mpr ⟨?_, Path.text_ne_empty_of_isAbsolute habs, ?_⟩, ?_⟩
  · exact Path.hasNul_join hnul (Path.hasNul_join hfits.noNul (by decide))
  · have hfile := Path.utf8ByteSize_join (Layout.directory id) Layout.descriptorName
    have hpath := Path.utf8ByteSize_join ⟨"/" ++ root⟩
      ((Layout.directory id).join Layout.descriptorName).text
    have hfits := hfits.path
    rw [hsize] at hpath
    exact le_trans hpath (by omega)
  · rw [names_descriptorPath hroot, List.getLast?_concat]
    decide

theorem endsInSeparator_descriptorPath (root : String) (id : ModuleId) :
    (descriptorPath root id).endsInSeparator = false := by
  have hfile : ((Layout.directory id).join Layout.descriptorName).endsInSeparator = false :=
    Path.endsInSeparator_join _ (by decide)
  have hne : ((Layout.directory id).join Layout.descriptorName).text ≠ "" := by
    obtain ⟨between, -, htext⟩ := Path.exists_text_join (Layout.directory id)
      (Layout.isContainedPath Layout.isContained_descriptorName).relative
    rw [htext]
    exact fun hempty => absurd (String.append_eq_empty_iff.mp hempty).2 (by decide)
  exact (Path.endsInSeparator_join _ hne).trans hfile

/-- The way of the descriptor of a module that is not confined leads outside, for one of two
roots at least. -/
theorem exists_outside (h : ¬ id.IsConfined) : ∃ root, (root = "a" ∨ root = "b") ∧
    ¬ IsWithin root (descend [] (descriptorPath root id).names) := by
  -- Where it leads does not depend on the root, and is not the root of the tree.
  obtain ⟨loc, hloc⟩ : ∃ loc, ∀ root, root = "a" ∨ root = "b" →
      descend [] (descriptorPath root id).names = loc ++ [Layout.descriptorName] := by
    cases habs : (Layout.directory id).isAbsolute with
    | true =>
        refine ⟨descend [] (Layout.directory id).names, fun root hroot => ?_⟩
        rw [names_descriptorPath hroot, if_pos habs, descend_append]
        rfl
    | false =>
        have hclimbs : climbs 0 (Layout.directory id).names = true :=
          (Bool.not_eq_false _).mp fun hno => h ⟨habs, hno⟩
        refine ⟨descend ["a"] (Layout.directory id).names, fun root hroot => ?_⟩
        obtain ⟨-, -, -, -, -, hdot, hdots⟩ := generous_root hroot
        have hstart : descend [] [root] = [root] := descendOne_of_ne hdot hdots []
        rw [names_descriptorPath hroot, habs, if_neg Bool.false_ne_true, descend_append,
          descend_append, hstart, descend_of_climbs [] hclimbs root "a"]
        rfl
  obtain ⟨first, hfirst⟩ : ∃ first, first ∈ (loc ++ [Layout.descriptorName]).head? := by
    cases loc with
    | nil => exact ⟨_, rfl⟩
    | cons name rest => exact ⟨name, rfl⟩
  -- It cannot be at or below both roots.
  by_cases ha : first = "a"
  · refine ⟨"b", .inr rfl, fun hwithin => ?_⟩
    rw [hloc "b" (.inr rfl)] at hwithin
    exact absurd (ha.symm.trans (hwithin first hfirst)) (by decide)
  · refine ⟨"a", .inl rfl, fun hwithin => ?_⟩
    rw [hloc "a" (.inl rfl)] at hwithin
    exact ha (hwithin first hfirst)

/-- What obtaining the descriptor put at a location is there after the fetch. -/
theorem lookup_fetch_of_obtain {σ : Type} {f : Fetcher σ} {w : World σ} {loc : Location}
    (hcalm : f.Calm w) (hmissing : f.isCached id Layout.descriptorName w = false)
    (h : (f.obtain id Layout.descriptorName w).tree.lookup loc ≠ none) :
    (f.fetch id w).2.tree.lookup loc ≠ none := by
  have hstep := (hcalm.step (.obtain _ Layout.isContained_descriptorName hmissing)).1
  have hruns : f.Runs id (f.obtain id Layout.descriptorName w) (f.fetch id w).2 :=
    (runs_bringDescriptor_of_missing f id hmissing).trans (runs_fetch_of_bringDescriptor f id w)
  have hkeeps := (hstep.evolves (evolves_of_runs hruns)).2
  obtain ⟨e, he⟩ := Option.ne_none_iff_exists'.mp h
  obtain ⟨e', he', -⟩ := hkeeps.lookup he
  rw [he']
  exact nofun

theorem calm_generous {w : World Unit} (h : w.tree.HasOnlyDirectories) :
    (generous root).Calm w := by
  refine ⟨h.linkFree, fun _ _ stream hfound => ?_⟩
  have hstream : ByteStream.ofBytes [] = stream := Answer.found.inj hfound
  rw [← hstream]
  rfl

/-- The fetch makes the first location that is missing on the way of the descriptor. -/
theorem lookup_fetch_generous (hroot : root = "a" ∨ root = "b") (hfits : id.Fits)
    {w : World Unit} (hw : w.tree.HasOnlyDirectories) {first rest : List String} {next : String}
    (hpaved : Paved w.tree [] first) (hnext : IsOrdinary next)
    (hnone : w.tree.lookup (descend [] first ++ [next]) = none)
    (hnames : undotted (descriptorPath root id).names = first ++ next :: rest) :
    ((generous root).fetch id w).2.tree.lookup (descend [] first ++ [next]) ≠ none := by
  have hmissing : (generous root).isCached id Layout.descriptorName w = false := by
    refine (Bool.not_eq_true _).mp fun hcached => ?_
    rw [isCached, Store.has] at hcached
    obtain ⟨loc, content, -, hfile⟩ := isFile_iff.mp hcached
    cases hw _ _ hfile
  have hfound : (generous root).answer id Layout.descriptorName w = .found (.ofBytes []) := rfl
  refine lookup_fetch_of_obtain (calm_generous hw) hmissing ?_
  rw [tree_obtain_of_found hfound]
  exact Store.lookup_write_of_paved hpaved hnext hnone (isUsable_descriptorPath hroot hfits)
    (endsInSeparator_descriptorPath root id) hnames rfl (ByteStream.contents_ofBytes [])

end Fetcher

/-- **The fetches of a module that is not confined do not stay below the root of the cache.** -/
theorem not_staysBelowRoot {id : ModuleId} (hfits : id.Fits) (h : ¬ id.IsConfined) :
    ¬ id.StaysBelowRoot := by
  intro hstays
  obtain ⟨root, hroot, hout⟩ := Fetcher.exists_outside h
  obtain ⟨hname, habs, -, -, -, hdot, hdots⟩ := Fetcher.generous_root hroot
  rw [← descend_undotted] at hout
  obtain ⟨first, next, rest, hnames, hwithin, hfirst, hnextdot, hnextdots, hne⟩ :=
    exists_first_outside ⟨_, List.prefix_rfl, hout⟩
  have hshort : ∀ name ∈ first ++ next :: rest, name.utf8ByteSize ≤ maxNameLength :=
    fun name hmem => Fetcher.short_of_mem_descriptorPath hroot hfits
      (Path.mem_of_mem_undotted (hnames ▸ hmem))
  have hnext : IsOrdinary next := ⟨hnextdot, hnextdots, hshort next (by simp)⟩
  -- The tree has the directories before the step to the outside.
  obtain ⟨hpavable, -, hdirs, honly⟩ := pave_spec pavable_empty (isDirectoryAt_root empty) first
  generalize pave empty [] first = t at hpavable hdirs honly
  have hpaved : Paved t [] first :=
    ⟨hdirs, fun name hmem => hshort name (List.mem_append_left _ hmem)⟩
  have hnone : t.lookup [next] = none := by
    by_contra hsome
    obtain ⟨before, hbefore, hloc⟩ := honly [next] hsome
    exact hne (hwithin before hbefore next (by rw [← hloc]; rfl))
  have hmade := Fetcher.lookup_fetch_generous hroot hfits (w := ⟨t, (), [], []⟩)
    hpavable.onlyDirectories hpaved hnext (by rwa [hfirst]) hnames
  rw [hfirst, List.nil_append] at hmade
  have hplace : t.place ⟨"/" ++ root⟩ = [root] := by
    rw [FileTree.place, hname, start_of_isAbsolute habs]
    exact descendOne_of_ne hdot hdots []
  have hrootdots : ".." ∉ Path.names ⟨"/" ++ root⟩ := by
    rw [hname, List.mem_singleton]
    exact Ne.symm hdots
  have hchange := hstays Unit (Fetcher.generous root) ⟨t, (), [], []⟩ habs hrootdots
    hpavable.rooted hpavable.onlyDirectories.linkFree [next] (by rwa [hnone])
  have hcalm : (Fetcher.generous root).Calm ⟨t, (), [], []⟩ :=
    Fetcher.calm_generous hpavable.onlyDirectories
  rcases hchange with ⟨habove, -⟩ | hbelow | ⟨path, hreleases, -⟩
  · have habove : [next] <+: [root] := hplace ▸ habove
    exact hne (List.singleton_prefix_cons_iff.mp habove)
  · have hbelow : [root] <+: [next] := hplace ▸ hbelow
    exact hne (List.singleton_prefix_cons_iff.mp hbelow).symm
  · exact Fetcher.not_releases hcalm.leavesFiles hreleases

/-- **The fetches of a module stay below the root of the cache exactly if it is confined**, as
long as the operating system does not refuse its paths. -/
theorem ModuleId.staysBelowRoot_exactly_if_isConfined (id : ModuleId) :
    (id.IsConfined → id.StaysBelowRoot) ∧ (id.Fits → id.StaysBelowRoot → id.IsConfined) :=
  ⟨staysBelowRoot_of_isConfined,
    fun hfits hstays => by_contra fun h => not_staysBelowRoot hfits h hstays⟩

/-- Of two identifiers that are accepted one stays below the root, and one does not. -/
theorem ModuleId.staysBelowRoot_exactly_if_isConfined_of_parsed :
    parse "org.lib" = .ok ⟨"org.lib", "main"⟩ ∧ StaysBelowRoot ⟨"org.lib", "main"⟩ ∧
      parse "a:/etc" = .ok ⟨"a", "/etc"⟩ ∧ ¬ StaysBelowRoot ⟨"a", "/etc"⟩ := by
  refine ⟨by decide +kernel, ?_, by decide +kernel, fun hstays => ?_⟩
  · exact (staysBelowRoot_exactly_if_isConfined ⟨"org.lib", "main"⟩).1 (by decide +kernel)
  · have hconfined := (staysBelowRoot_exactly_if_isConfined ⟨"a", "/etc"⟩).2
      (by decide +kernel) hstays
    exact absurd hconfined (by decide +kernel)

end ModuleDepot
