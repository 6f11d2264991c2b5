import ModuleDepot.Layout
import ModuleDepot.Proofs.Path.Parents
import ModuleDepot.Store

/-! # Where artifacts lie

A file of a module has the names of the module directory and behind them its own
(`names_path_file`), whatever the identifier is. If the segments and the slot are plain
names, the names of the module directory are just these (`names_directory`).

A contained resource is relative, does not climb and ends in a name of a file
(`isContained_iff`, `isContainedPath`). The descriptor is contained, and so is the index
of a contained resource (`isContained_indexOf`). That is all that is ever stored of a module.
-/

namespace ModuleDepot

/-- A name that is a single step down. -/
structure IsPlainName (s : String) : Prop where
  ne_empty : s ≠ ""
  ne_dot : s ≠ "."
  ne_dots : s ≠ ".."
  noSeparator : '/' ∉ s.toList

theorem isPlainName_iff {s : String} :
    IsPlainName s ↔ s ≠ "" ∧ s ≠ "." ∧ s ≠ ".." ∧ '/' ∉ s.toList :=
  ⟨fun h => ⟨h.ne_empty, h.ne_dot, h.ne_dots, h.noSeparator⟩,
    fun h => ⟨h.1, h.2.1, h.2.2.1, h.2.2.2⟩⟩

instance (s : String) : Decidable (IsPlainName s) :=
  decidable_of_iff _ isPlainName_iff.symm

/-- The segments and the slot are plain names. -/
structure ModuleId.IsPlain (id : ModuleId) : Prop where
  segments : ∀ segment ∈ id.segments, IsPlainName segment
  slot : IsPlainName id.slot

instance (id : ModuleId) : Decidable id.IsPlain :=
  decidable_of_iff ((∀ segment ∈ id.segments, IsPlainName segment) ∧ IsPlainName id.slot)
    ⟨fun ⟨a, b⟩ => ⟨a, b⟩, fun ⟨a, b⟩ => ⟨a, b⟩⟩

namespace Path

/-! ## Plain names -/

theorem isAbsolute_of_isPlainName {s : String} (h : IsPlainName s) : isAbsolute ⟨s⟩ = false := by
  rw [isAbsolute, beq_eq_false_iff_ne]
  exact fun habs => h.noSeparator (List.mem_of_head? habs)

theorem names_of_isPlainName {s : String} (h : IsPlainName s) : names ⟨s⟩ = [s] :=
  names_of_not_mem h.noSeparator h.ne_empty

/-- Plain names joined to a path come behind its names. -/
theorem names_foldl_join {names : List String} (h : ∀ name ∈ names, IsPlainName name)
    (base : Path) :
    (names.foldl join base).names = base.names ++ names ∧
      (names.foldl join base).isAbsolute = base.isAbsolute := by
  induction names generalizing base with
  | nil => simp
  | cons name rest ih =>
      have hname := h name List.mem_cons_self
      have hrel := isAbsolute_of_isPlainName hname
      obtain ⟨hnames, habs⟩ := ih (fun n hn => h n (List.mem_cons_of_mem _ hn)) (base.join name)
      rw [List.foldl_cons, hnames, habs, names_join hrel, isAbsolute_join hrel,
        names_of_isPlainName hname]
      simp

/-- All components go down if and only if the path is relative and has no name `..`. -/
theorem all_components_iff (p : Path) :
    (p.components.all fun c =>
      match c with
      | .normal _ | .current => true
      | .root | .parent => false) = true ↔ p.isAbsolute = false ∧ ".." ∉ p.names := by
  have hnamed : ∀ names : List String,
      ((names.map componentOf).all fun c =>
        match c with
        | .normal _ | .current => true
        | .root | .parent => false) = true ↔ ".." ∉ names := by
    intro names
    induction names with
    | nil => simp
    | cons name rest ih =>
        rw [List.map_cons, List.all_cons, Bool.and_eq_true, ih, List.mem_cons, not_or]
        refine and_congr_left' ?_
        by_cases hdots : name = ".."
        · simp [hdots, componentOf]
        · simp [hdots, componentOf, Ne.symm hdots]
  rw [components_eq, List.all_append, Bool.and_eq_true, hnamed, dots_mem_undotted,
    isAbsolute_eq_head, sign]
  refine and_congr_left' ?_
  split
  next hroot => simp [hroot]
  next hroot =>
    rw [Bool.not_eq_true] at hroot
    split <;> simp [hroot]

end Path

namespace Layout

open ModuleDepot.Path (undotted)

/-! ## The module directory -/

theorem names_directory {id : ModuleId} (h : id.IsPlain) :
    (directory id).names = id.segments ++ [id.slot] ∧ (directory id).isAbsolute = false := by
  obtain ⟨hnames, habs⟩ := Path.names_foldl_join h.segments ⟨""⟩
  have hslot := Path.isAbsolute_of_isPlainName h.slot
  refine ⟨?_, (Path.isAbsolute_join hslot).trans habs⟩
  rw [directory, Path.names_join hslot, Path.names_of_isPlainName h.slot]
  exact congrArg (· ++ [id.slot]) hnames

theorem isPlainName_of_mem {id : ModuleId} (h : id.IsPlain) {name : String}
    (hmem : name ∈ id.segments ++ [id.slot]) : IsPlainName name := by
  rcases List.mem_append.mp hmem with hmem | hmem
  · exact h.segments name hmem
  · rw [List.mem_singleton.mp hmem]
    exact h.slot

/-- All names of a module directory count. -/
theorem undotted_names_directory {id : ModuleId} (h : id.IsPlain) :
    undotted (directory id).names = (directory id).names :=
  Path.undotted_eq_self fun hmem =>
    (isPlainName_of_mem h ((names_directory h).1 ▸ hmem)).ne_dot rfl

/-- The names of a module directory do not climb. -/
theorem not_mem_names_directory {id : ModuleId} (h : id.IsPlain) :
    ".." ∉ (directory id).names := fun hmem =>
  (isPlainName_of_mem h ((names_directory h).1 ▸ hmem)).ne_dots rfl

/-- The components of the directory of a plain module are its segments and its slot. -/
theorem components_directory {id : ModuleId} (h : id.IsPlain) :
    (directory id).components = (id.segments ++ [id.slot]).map .normal := by
  obtain ⟨hnames, hrel⟩ := names_directory h
  have hsign : (directory id).sign = [] := by
    rcases Path.headAndParts_of_relative hrel with ⟨-, hdot⟩ | ⟨hhead, -⟩
    · rw [hnames] at hdot
      exact absurd rfl (isPlainName_of_mem h (List.mem_of_head? hdot)).ne_dot
    · rw [Path.sign, hhead]
      rfl
  rw [Path.components_eq, hsign, undotted_names_directory h,
    Path.map_componentOf (not_mem_names_directory h), hnames, List.nil_append]

/-- **A file of a module lies below the module directory**, by its names. -/
theorem names_path_file (store : Store) (id : ModuleId) {name : String}
    (h : Path.isAbsolute ⟨name⟩ = false) :
    (store.path (file id name)).names = (store.path (directory id)).names ++ Path.names ⟨name⟩ ∧
      (store.path (file id name)).isAbsolute = (store.path (directory id)).isAbsolute := by
  have hfile : (file id name).isAbsolute = (directory id).isAbsolute := Path.isAbsolute_join h
  have hnames : (file id name).names = (directory id).names ++ Path.names ⟨name⟩ :=
    Path.names_join h
  cases habs : (directory id).isAbsolute with
  | true =>
      have hpath : store.path (directory id) = directory id := Path.join_of_isAbsolute habs
      have hpath' : store.path (file id name) = file id name :=
        Path.join_of_isAbsolute (hfile.trans habs)
      rw [hpath, hpath']
      exact ⟨hnames, hfile⟩
  | false =>
      have hpath : (store.path (directory id)).names = store.root.names ++ (directory id).names :=
        Path.names_join habs
      have hpath' : (store.path (file id name)).names = store.root.names ++ (file id name).names :=
        Path.names_join (hfile.trans habs)
      refine ⟨?_, ?_⟩
      · rw [hpath, hpath', hnames, List.append_assoc]
      · exact (Path.isAbsolute_join (hfile.trans habs)).trans (Path.isAbsolute_join habs).symm

/-! ## The place in a repository -/

section Place

variable {β : Type} {inside atEnd : String → List β}

/-- A text of names with slashes behind them is read name by name. -/
theorem read_join (h : ∀ a b, atEnd (a ++ "/" ++ b) = inside a ++ atEnd b) (names : List String)
    (rest : String) :
    atEnd (String.join (names.map (· ++ "/")) ++ rest) = names.flatMap inside ++ atEnd rest := by
  induction names with
  | nil => simp
  | cons name names ih =>
      rw [List.map_cons, String.join_cons, String.append_assoc, h, ih, List.flatMap_cons,
        List.append_assoc]

/-- **The place of a module is read as** the version, the segments and the slot, by every way of
reading that takes a text apart at its slashes. -/
theorem read_place (h : ∀ a b, atEnd (a ++ "/" ++ b) = inside a ++ atEnd b) (version : String)
    (id : ModuleId) (rest : String) :
    atEnd (place version id ++ rest) =
      inside version ++ (id.segments ++ [id.slot]).flatMap inside ++ atEnd rest := by
  have hplace : place version id ++ rest =
      version ++ "/" ++ (String.join (id.segments.map (· ++ "/")) ++ (id.slot ++ "/" ++ rest)) := by
    simp only [place, String.append_assoc]
  rw [hplace, h, read_join h, h]
  simp

end Place

/-! ## Contained resources -/

/-- A text without a separator, or what comes before and behind its last one. -/
theorem exists_last (s : String) :
    ∃ before last : String, (s = last ∧ before = "" ∨ s = before ++ "/" ++ last) ∧
      '/' ∉ last.toList := by
  by_cases hmem : '/' ∈ s.toList
  · obtain ⟨before, last, hsplit, hlast⟩ :=
      List.eq_append_cons_of_mem (List.mem_reverse.mpr hmem)
    refine ⟨String.ofList last.reverse, String.ofList before.reverse, .inr ?_, by simpa⟩
    apply String.toList_injective
    rw [← List.reverse_reverse s.toList, hsplit]
    simp
  · exact ⟨"", s, .inl ⟨rfl, rfl⟩, hmem⟩

theorem lastName_separator (a b : String) : lastName (a ++ "/" ++ b) = lastName b := by
  have hreverse : (a ++ "/" ++ b).toList.reverse =
      b.toList.reverse ++ '/' :: a.toList.reverse := by simp
  rw [lastName, hreverse, takeWhile_append_cons rfl, lastName]

theorem lastName_append_suffix (s : String) :
    lastName (s ++ indexSuffix) = lastName s ++ indexSuffix.toList := by
  have hsuffix : indexSuffix.toList.reverse = ['x', 'e', 'd', 'n', 'i', '.'] := by decide
  unfold lastName
  rw [String.toList_append, List.reverse_append, hsuffix]
  simp [indexSuffix]

/-- What it says of a resource that it is contained. -/
theorem isContained_iff {resource : String} :
    isContained resource = true ↔
      resource.toList.head? ≠ some '/' ∧ resource.toList.head? ≠ some '\\' ∧
      String.ofList (lastName resource) ≠ "" ∧ String.ofList (lastName resource) ≠ "." ∧
      String.ofList (lastName resource) ≠ ".." ∧
      Path.isAbsolute ⟨resource⟩ = false ∧ ".." ∉ Path.names ⟨resource⟩ := by
  rw [← Path.all_components_iff, isContained]
  simp only [Bool.and_eq_true, bne_iff_ne, ne_eq]
  constructor
  · rintro ⟨⟨⟨⟨⟨hslash, hbackslash⟩, hempty⟩, hdot⟩, hdots⟩, hall⟩
    exact ⟨hslash, hbackslash, hempty, hdot, hdots, hall⟩
  · rintro ⟨hslash, hbackslash, hempty, hdot, hdots, hall⟩
    exact ⟨⟨⟨⟨⟨hslash, hbackslash⟩, hempty⟩, hdot⟩, hdots⟩, hall⟩

/-- Without backslashes the last name is the last part. -/
theorem exists_lastName {s : String} (h : '\\' ∉ s.toList) :
    ∃ last, (separated '/' s).getLast? = some last ∧ lastName s = last.toList := by
  obtain ⟨before, last, hsplit, hslash⟩ := exists_last s
  have hself : '\\' ∉ last.toList → lastName last = last.toList := by
    intro hbackslash
    have htake : last.toList.reverse.takeWhile (fun c => !(c == '/' || c == '\\')) =
        last.toList.reverse := by
      refine List.takeWhile_eq_self_iff.mpr fun c hc => ?_
      have hmem := List.mem_reverse.mp hc
      have hne : c ≠ '/' := fun heq => hslash (heq ▸ hmem)
      have hne' : c ≠ '\\' := fun heq => hbackslash (heq ▸ hmem)
      simp [hne, hne']
    rw [lastName, htake, List.reverse_reverse]
  rcases hsplit with ⟨rfl, -⟩ | rfl
  · refine ⟨s, ?_, hself h⟩
    rw [Path.separated_eq_singleton hslash]
    rfl
  · refine ⟨last, ?_, ?_⟩
    · rw [Path.separated_append, Path.separated_eq_singleton hslash, List.getLast?_concat]
    · rw [lastName_separator]
      apply hself
      intro hmem
      exact h (by simp [hmem])

/-- **Without backslashes a resource is contained** exactly if it is relative, none of its parts leads
up, and the last one is a name. -/
theorem isContained_iff_parts {resource : String} (h : '\\' ∉ resource.toList) :
    isContained resource = true ↔
      resource.toList.head? ≠ some '/' ∧ ".." ∉ separated '/' resource ∧
      ∃ last, (separated '/' resource).getLast? = some last ∧ last ≠ "" ∧ last ≠ "." := by
  obtain ⟨last, hlast, hname⟩ := exists_lastName h
  have hnames : ".." ∉ Path.names ⟨resource⟩ ↔ ".." ∉ separated '/' resource := by
    simp [Path.names]
  rw [isContained_iff, hnames, hname, String.ofList_toList]
  constructor
  · rintro ⟨hslash, -, hempty, hdot, -, -, hdots⟩
    exact ⟨hslash, hdots, last, hlast, hempty, hdot⟩
  · rintro ⟨hslash, hdots, last', hlast', hempty, hdot⟩
    obtain rfl : last = last' := Option.some.inj (hlast.symm.trans hlast')
    refine ⟨hslash, ?_, hempty, hdot, ?_, ?_, hdots⟩
    · intro hhead
      exact h (List.mem_of_head? hhead)
    · rintro rfl
      exact hdots (List.mem_of_getLast? hlast)
    · simpa [Path.isAbsolute] using hslash

/-- A resource that ends in a name: the names before it, and the name. -/
structure EndsIn (resource : String) (init : List String) (last : String) : Prop where
  names : Path.names ⟨resource⟩ = init ++ [last]
  lastName : lastName resource = lastName last
  append : ∀ suffix, '/' ∉ suffix.toList →
    Path.names ⟨resource ++ suffix⟩ = init ++ [last ++ suffix]

theorem exists_endsIn {resource : String} (h : lastName resource ≠ []) :
    ∃ init last, EndsIn resource init last := by
  obtain ⟨before, last, hsplit, hsep⟩ := exists_last resource
  have hname : lastName resource = lastName last := by
    rcases hsplit with ⟨rfl, -⟩ | rfl
    · rfl
    · exact lastName_separator before last
  have hne : last ≠ "" := by
    rintro rfl
    exact h (hname.trans rfl)
  have happend : ∀ suffix, '/' ∉ suffix.toList →
      Path.names ⟨last ++ suffix⟩ = [last ++ suffix] := by
    intro suffix hsuffix
    refine Path.names_of_not_mem ?_ (fun hempty => hne ?_)
    · rw [String.toList_append, List.mem_append, not_or]
      exact ⟨hsep, hsuffix⟩
    · exact (String.append_eq_empty_iff.mp hempty).1
  have hlast := happend "" (by simp)
  rw [String.append_empty] at hlast
  rcases hsplit with ⟨rfl, -⟩ | rfl
  · exact ⟨[], resource, hlast, hname, happend⟩
  · refine ⟨Path.names ⟨before⟩, last, ?_, hname, fun suffix hsuffix => ?_⟩
    · rw [Path.names_separator, hlast]
    · rw [String.append_assoc, Path.names_separator, happend suffix hsuffix]

/-- What a contained resource is to the store: a relative path without a step up that ends
in a name. -/
structure IsContainedPath (resource : String) : Prop where
  relative : Path.isAbsolute ⟨resource⟩ = false
  noDots : ".." ∉ Path.names ⟨resource⟩
  counts : undotted (Path.names ⟨resource⟩) ≠ []

theorem isContainedPath {resource : String} (h : isContained resource = true) :
    IsContainedPath resource := by
  obtain ⟨-, -, hempty, hdot, -, hrel, hdots⟩ := isContained_iff.mp h
  obtain ⟨init, last, hends⟩ := exists_endsIn (mt String.ofList_eq_empty_iff.mpr hempty)
  refine ⟨hrel, hdots, ?_⟩
  have hlast : last ≠ "." := by
    rintro rfl
    exact hdot (by rw [hends.lastName]; rfl)
  rw [hends.names, Path.undotted_append, Path.undotted_cons hlast]
  simp

/-- A contained resource does not end in a name that stays. -/
theorem getLast?_names_of_isContained {resource : String} (h : isContained resource = true) :
    (Path.names ⟨resource⟩).getLast? ≠ some "." := by
  obtain ⟨-, -, hempty, hdot, -, -, -⟩ := isContained_iff.mp h
  obtain ⟨init, last, hends⟩ := exists_endsIn (mt String.ofList_eq_empty_iff.mpr hempty)
  rw [hends.names, List.getLast?_concat]
  intro hlast
  obtain rfl := Option.some.inj hlast
  exact hdot (by rw [hends.lastName]; rfl)

theorem isContained_descriptorName : isContained descriptorName = true := by decide

/-- **The index of a contained resource is contained.** -/
theorem isContained_indexOf {resource : String} (h : isContained resource = true) :
    isContained (indexOf resource) = true := by
  obtain ⟨hslash, hbackslash, hempty, -, -, hrel, hdots⟩ := isContained_iff.mp h
  have hname := mt String.ofList_eq_empty_iff.mpr hempty
  obtain ⟨init, last, hends⟩ := exists_endsIn hname
  have hnames := hends.append indexSuffix (by decide)
  have hne : resource.toList ≠ [] := by
    intro hnil
    exact hname (by rw [lastName, hnil]; rfl)
  have hhead : (indexOf resource).toList.head? = resource.toList.head? := by
    rw [indexOf, String.toList_append, List.head?_append_of_ne_nil _ hne]
  have hlength : ∀ s : String, s.length < 6 →
      String.ofList (lastName (indexOf resource)) ≠ s := by
    rintro s hs rfl
    rw [indexOf, lastName_append_suffix, String.length_ofList, List.length_append] at hs
    have hsuffix : indexSuffix.toList.length = 6 := by decide
    omega
  refine isContained_iff.mpr ⟨hhead ▸ hslash, hhead ▸ hbackslash, hlength _ (by decide),
    hlength _ (by decide), hlength _ (by decide), ?_, ?_⟩
  · rw [Path.isAbsolute, hhead]
    exact hrel
  · -- The suffix only makes the last name longer, so that it cannot be two dots.
    rw [indexOf, hnames, List.mem_append, List.mem_singleton, not_or]
    rw [hends.names, List.mem_append, not_or] at hdots
    refine ⟨hdots.1, fun heq => ?_⟩
    have hlen := congrArg String.length heq
    rw [String.length_append] at hlen
    have hsuffix : indexSuffix.length = 6 := by decide
    have htwo : "..".length = 2 := by decide
    omega

end Layout
end ModuleDepot
