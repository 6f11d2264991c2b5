import ModuleDepot.Config.Basic
import ModuleDepot.Proofs.Identifier
import ModuleDepot.Proofs.Layout

/-! # The two layouts of a module

A module has one directory in the cache and one place in a repository. Both are made of its segments
and its slot, and read as these again if they are plain names (`Mirrors`). For an identifier that
was read from a text this is so exactly if neither its name nor its slot holds a separator, and the
slot is no dots (`mirrors_exactly_if_isPlain`). Two such modules share neither the directory nor the
place.

An identifier with a separator is read as well, and lies where another one does
(`shares_layout_of_separator`).
-/

namespace ModuleDepot

/-! ## The segments of a name -/

theorem mem_iff_exists_separated {sep c : Char} (h : c ≠ sep) (s : String) :
    c ∈ s.toList ↔ ∃ part ∈ separated sep s, c ∈ part.toList := by
  rw [mem_iff_exists_splitOn h]
  simp [separated]

/-- The parts of a text tell what it is. -/
theorem separated_injective (sep : Char) : Function.Injective (separated sep) := by
  intro a b h
  have hparts : a.toList.splitOn sep = b.toList.splitOn sep :=
    List.map_injective_iff.mpr (fun _ _ => String.ofList_injective) h
  have hback : [sep].intercalate (a.toList.splitOn sep) = a.toList := List.intercalate_splitOn sep
  rw [hparts, List.intercalate_splitOn] at hback
  exact String.toList_injective hback.symm

namespace ModuleId

/-- The segments and the slot tell which module it is. -/
theorem eq_of_names {id other : ModuleId}
    (h : id.segments ++ [id.slot] = other.segments ++ [other.slot]) : id = other := by
  obtain ⟨hsegments, hslot⟩ := List.append_inj' h rfl
  cases id
  cases other
  rw [mk.injEq]
  exact ⟨separated_injective '.' hsegments, List.singleton_inj.mp hslot⟩

/-- What was read as an identifier has a slot, and no empty segment. -/
theorem ne_empty_of_parse {s : String} {id : ModuleId} (h : parse s = .ok id) :
    id.slot ≠ "" ∧ ∀ segment ∈ id.segments, segment ≠ "" := by
  obtain ⟨-, -, -, -, hsegments, hslot⟩ := parse_eq_ok_iff.mp h
  refine ⟨hslot, ?_⟩
  rintro segment hmem rfl
  exact hsegments hmem

/-- **An identifier that was read is plain** exactly if it holds no separator, and its slot is not
one of the names that a path does not keep. -/
theorem isPlain_iff_of_parse {s : String} {id : ModuleId} (h : parse s = .ok id) :
    id.IsPlain ↔ '/' ∉ id.name.toList ∧ '/' ∉ id.slot.toList ∧ id.slot ≠ "." ∧ id.slot ≠ ".." := by
  obtain ⟨hslot, hsegments⟩ := ne_empty_of_parse h
  have hname := mem_iff_exists_separated (by decide : '/' ≠ '.') id.name
  constructor
  · intro hid
    refine ⟨fun hmem => ?_, hid.slot.noSeparator, hid.slot.ne_dot, hid.slot.ne_dots⟩
    obtain ⟨segment, hsegment, hmem⟩ := hname.mp hmem
    exact (hid.segments segment hsegment).noSeparator hmem
  · rintro ⟨hnone, hnone', hdot, hdots⟩
    refine ⟨fun segment hsegment => ⟨hsegments segment hsegment, ?_, ?_, fun hmem =>
      hnone (hname.mpr ⟨segment, hsegment, hmem⟩)⟩, ⟨hslot, hdot, hdots, hnone'⟩⟩
    -- A segment holds no dot.
    · rintro rfl
      exact Path.not_mem_of_mem_separated hsegment (by decide)
    · rintro rfl
      exact Path.not_mem_of_mem_separated hsegment (by decide)

end ModuleId

/-- A component that is a name is a plain one. -/
theorem Path.isPlainName_of_mem_components {p : Path} {name : String}
    (h : .normal name ∈ p.components) : IsPlainName name := by
  rw [components_eq, List.mem_append] at h
  rcases h with h | h
  · rw [sign] at h
    split at h
    · simp at h
    · split at h <;> simp at h
  · obtain ⟨part, hpart, hcomponent⟩ := List.mem_map.mp h
    rw [componentOf] at hcomponent
    split at hcomponent
    next => cases hcomponent
    next hdots =>
      cases hcomponent
      obtain ⟨hmem, hdot⟩ := List.mem_filter.mp hpart
      obtain ⟨hmem, hempty⟩ := List.mem_filter.mp hmem
      exact ⟨by simpa using hempty, by simpa using hdot, by simpa using hdots,
        not_mem_of_mem_separated hmem⟩

namespace Layout

/-! ## Both layouts -/

/-- The directory and the place of a module are read as its segments and its slot: the directory is
relative and has no other components, the place has no other parts behind the version, but for the
empty one that a resource name takes the place of. -/
structure Mirrors (version : String) (id : ModuleId) : Prop where
  relative : (directory id).isAbsolute = false
  directory : (directory id).components = (id.segments ++ [id.slot]).map .normal
  place : separated '/' (place version id) = version :: (id.segments ++ [id.slot]) ++ [""]

/-- **The place of a module is taken apart** into what the version, the segments and the slot are.
-/
theorem separated_place {version : String} (hversion : '/' ∉ version.toList) (id : ModuleId) :
    separated '/' (place version id) =
      version :: (id.segments ++ [id.slot]).flatMap (separated '/') ++ [""] := by
  have hread := read_place Path.separated_append version id ""
  rw [String.append_empty, Path.separated_eq_singleton hversion,
    Path.separated_eq_singleton (by simp : '/' ∉ "".toList)] at hread
  rw [hread]
  simp

/-- The place is read as segments and slot exactly if these hold no separator. -/
theorem separated_place_iff {version : String} (hversion : '/' ∉ version.toList) {id : ModuleId} :
    separated '/' (place version id) = version :: (id.segments ++ [id.slot]) ++ [""] ↔
      ∀ name ∈ id.segments ++ [id.slot], '/' ∉ name.toList := by
  rw [separated_place hversion]
  generalize id.segments ++ [id.slot] = names
  rw [List.append_left_inj, List.cons_inj_right]
  constructor
  · intro h name hmem
    rw [← h] at hmem
    obtain ⟨_, -, hpart⟩ := List.mem_flatMap.mp hmem
    exact Path.not_mem_of_mem_separated hpart
  · intro h
    rw [List.flatMap_congr fun name hmem => Path.separated_eq_singleton (h name hmem)]
    simp

theorem mirrors_iff {version : String} (hversion : '/' ∉ version.toList) {id : ModuleId} :
    Mirrors version id ↔ id.IsPlain := by
  constructor
  · intro h
    have hplain : ∀ name ∈ id.segments ++ [id.slot], IsPlainName name := fun name hmem =>
      Path.isPlainName_of_mem_components (h.directory ▸ List.mem_map_of_mem hmem)
    exact ⟨fun segment hmem => hplain segment (List.mem_append_left _ hmem), hplain _ (by simp)⟩
  · intro h
    exact ⟨(names_directory h).2, components_directory h,
      (separated_place_iff hversion).mpr fun _ hmem => (isPlainName_of_mem h hmem).noSeparator⟩

/-- **The two layouts mirror each other** exactly for plain identifiers: those that were read from a
text without a separator, and whose slot is no dots. Two of these share neither layout. -/
theorem mirrors_exactly_if_isPlain {s version : String} {id : ModuleId}
    (h : ModuleId.parse s = .ok id) (hversion : Config.isVersion version = true) :
    (Mirrors version id ↔ id.IsPlain) ∧
      (id.IsPlain ↔
        '/' ∉ id.name.toList ∧ '/' ∉ id.slot.toList ∧ id.slot ≠ "." ∧ id.slot ≠ "..") ∧
      ∀ other : ModuleId, id.IsPlain → other.IsPlain → id ≠ other →
        (directory id).components ≠ (directory other).components ∧
          place version id ≠ place version other := by
  have hsep : '/' ∉ version.toList := by
    have := (Bool.and_eq_true_iff.mp hversion).2
    simpa using this
  refine ⟨mirrors_iff hsep, ModuleId.isPlain_iff_of_parse h, fun other hid hother hne => ?_⟩
  have hmirrors := (mirrors_iff hsep).mpr hid
  have hmirrors' := (mirrors_iff hsep).mpr hother
  constructor
  · intro hsame
    rw [hmirrors.directory, hmirrors'.directory] at hsame
    have hnames := List.map_injective_iff.mpr (fun _ _ => Component.normal.inj) hsame
    exact hne (ModuleId.eq_of_names hnames)
  · intro hsame
    have hparts := hmirrors.place
    rw [hsame, hmirrors'.place, List.append_left_inj, List.cons_inj_right] at hparts
    exact hne (ModuleId.eq_of_names hparts.symm)

theorem mirrors_exactly_if_isPlain_of_parsed :
    ModuleId.parse "org.lib" = .ok ⟨"org.lib", "main"⟩ ∧ Config.isVersion "trunk" = true ∧
      Mirrors "trunk" ⟨"org.lib", "main"⟩ ∧
      ModuleId.parse "m:/etc" = .ok ⟨"m", "/etc"⟩ ∧ ¬ Mirrors "trunk" ⟨"m", "/etc"⟩ := by
  have hlib : ModuleId.parse "org.lib" = .ok ⟨"org.lib", "main"⟩ := rfl
  have hetc : ModuleId.parse "m:/etc" = .ok ⟨"m", "/etc"⟩ := rfl
  have htrunk : Config.isVersion "trunk" = true := by decide
  refine ⟨hlib, htrunk, ?_, hetc, fun hmirrors => ?_⟩
  · exact (mirrors_exactly_if_isPlain hlib htrunk).1.mpr (by decide)
  · have hplain := (mirrors_exactly_if_isPlain hetc htrunk).1.mp hmirrors
    exact absurd hplain (by decide)

/-- **A separator in a name is read as it stands**, and the module lies where another one does. -/
theorem shares_layout_of_separator :
    ModuleId.parse "a/b:c" = .ok ⟨"a/b", "c"⟩ ∧ ModuleId.parse "a.b:c" = .ok ⟨"a.b", "c"⟩ ∧
      ¬ Mirrors "trunk" ⟨"a/b", "c"⟩ ∧
      (directory ⟨"a/b", "c"⟩).components = (directory ⟨"a.b", "c"⟩).components ∧
      place "trunk" ⟨"a/b", "c"⟩ = place "trunk" ⟨"a.b", "c"⟩ := by
  refine ⟨rfl, rfl, fun hmirrors => ?_, by decide, by decide⟩
  have hparts := hmirrors.place
  revert hparts
  decide

end Layout
end ModuleDepot
