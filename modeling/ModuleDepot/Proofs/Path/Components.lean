import ModuleDepot.Proofs.Path.Beside

/-! # The components of a path

The components of a path are its sign, if it has one, and the names behind it that count
(`components_eq`). A relative name that is joined to a path puts its own names behind the components
of the path (`components_join`), so that the name alone tells whether the joined path lies inside
(`isInside_join_iff`).
-/

namespace ModuleDepot.Path

/-! ## Joined paths -/

theorem sign_eq (p : Path) :
    p.sign = if p.isAbsolute then [.root]
      else if (separated '/' p.text).head? = some "." then [.current] else [] := by
  rw [sign, headAndParts]
  split
  next => simp
  next =>
    split
    next parts hparts => simp [hparts]
    next hdot =>
      have hhead : (separated '/' p.text).head? ≠ some "." := by
        intro hhead
        obtain ⟨parts, hparts⟩ := List.head?_eq_some_iff.mp hhead
        exact hdot parts hparts
      simp [hhead]

/-- The sign of a path stays when a relative name is joined to it. -/
theorem sign_join {base : Path} {name : String} (hbase : base.text ≠ "")
    (h : isAbsolute ⟨name⟩ = false) : (base.join name).sign = base.sign := by
  have hhead : (separated '/' (base.join name).text).head? = (separated '/' base.text).head? := by
    have hfirst : ∀ a b : String,
        (separated '/' (a ++ "/" ++ b)).head? = (separated '/' a).head? := fun a b => by
      rw [separated_append, List.head?_append_of_ne_nil _ (separated_ne_nil a)]
    rcases stem_cases base with rfl | ⟨a, hbase', hstem⟩
    · exact absurd rfl hbase
    rw [join_of_relative base h, hstem, hfirst]
    rcases hbase' with ⟨rfl, -⟩ | rfl
    · rfl
    · have := hfirst a ""
      rw [String.append_empty] at this
      exact this.symm
  rw [sign_eq, sign_eq, isAbsolute_join h, hhead]

/-- **The names of a relative name come behind the components of the path** it is joined to. -/
theorem components_join {base : Path} {name : String} (hbase : base.text ≠ "")
    (h : isAbsolute ⟨name⟩ = false) :
    (base.join name).components =
      base.components ++ (undotted (names ⟨name⟩)).map componentOf := by
  rw [components_eq, components_eq, sign_join hbase h, names_join h, undotted_append,
    List.map_append, List.append_assoc]

/-! ## Paths inside a directory -/

/-- The path lies strictly inside the directory: behind the components of the directory it has
names, and nothing else. -/
def IsInside (p directory : Path) : Prop :=
  ∃ names : List String, names ≠ [] ∧ p.components = directory.components ++ names.map .normal

/-- **What is joined to a directory lies inside** if it is relative, names something and does not
climb, or if it is absolute and happens to name a place inside. Nothing else does. -/
theorem isInside_join_iff {directory : Path} {name : String} (hdirectory : directory.text ≠ "") :
    (directory.join name).IsInside directory ↔
      Layout.IsContainedPath name ∨
        isAbsolute ⟨name⟩ = true ∧ IsInside ⟨name⟩ directory := by
  cases habs : isAbsolute ⟨name⟩ with
  | true =>
      rw [join_of_isAbsolute habs]
      constructor
      · exact fun h => .inr ⟨rfl, h⟩
      · rintro (h | h)
        · cases habs.symm.trans h.relative
        · exact h.2
  | false =>
      rw [IsInside, components_join hdirectory habs]
      constructor
      · -- Behind the same components, all components of the name are proper names.
        rintro ⟨names, hne, hnames⟩
        have hsame := List.append_cancel_left hnames
        refine .inl ⟨habs, fun hdots => ?_, fun hnil => ?_⟩
        · have hmem : Component.parent ∈ names.map Component.normal := by
            rw [← hsame]
            exact List.mem_map.mpr ⟨"..", dots_mem_undotted.mpr hdots, rfl⟩
          obtain ⟨_, -, hparent⟩ := List.mem_map.mp hmem
          cases hparent
        · rw [hnil] at hsame
          exact hne (List.map_eq_nil_iff.mp hsame.symm)
      · rintro (h | ⟨h, -⟩)
        · exact ⟨_, h.counts,
            by rw [map_componentOf (mt dots_mem_undotted.mp h.noDots)]⟩
        · cases h

end ModuleDepot.Path
