import ModuleDepot.Proofs.Path.Components

/-! # Contained resources below any directory

Whether a resource is contained is decided on its text alone. The text ends in a plain name
(`exists_lead_of_isContained`), and what is put in front of that name decides the path above it,
whatever the name is (`exists_beside`). So below every directory a contained resource lies inside,
and its index lies beside it, under the same name with the suffix behind it (`liesInside`).

The decision refuses nothing else: without backslashes, which it takes for separators as well, it
accepts every relative text that does not lead up and ends in a name (`isContained_exactly`).
-/

namespace ModuleDepot

/-- A longer name is plain if it is long enough not to be dots, and has no separator. -/
theorem IsPlainName.append {name suffix : String} (h : IsPlainName name)
    (hlength : 2 < suffix.length) (hsuffix : '/' ∉ suffix.toList) : IsPlainName (name ++ suffix) := by
  have hne : ∀ s : String, s.length ≤ 2 → name ++ suffix ≠ s := by
    rintro s hs rfl
    rw [String.length_append] at hs
    omega
  refine ⟨hne "" (by decide), hne "." (by decide), hne ".." (by decide), ?_⟩
  rw [String.toList_append, List.mem_append, not_or]
  exact ⟨h.noSeparator, hsuffix⟩

namespace Path

/-! ## In front of the last name -/

/-- What can stand in front of the last name of a path: nothing, or a text that ends in a separator.
-/
def IsLead (x : String) : Prop := x = "" ∨ ∃ a, x = a ++ "/"

theorem IsLead.append {x y : String} (hx : IsLead x) (hy : IsLead y) : IsLead (x ++ y) := by
  rcases hy with rfl | ⟨a, rfl⟩
  · rwa [String.append_empty]
  · exact .inr ⟨x ++ a, (String.append_assoc).symm⟩

theorem isLead_stem (d : Path) : IsLead d.stem := by
  rcases stem_cases d with rfl | ⟨a, -, hstem⟩
  · exact .inl rfl
  · exact .inr ⟨a, hstem⟩

/-- The parts before the last name are those of what stands in front of it. -/
theorem exists_headAndParts {x : String} (hx : IsLead x) :
    ∃ head parts, ∀ name, IsPlainName name →
      headAndParts ⟨x ++ name⟩ = (head, parts ++ [name]) := by
  rcases hx with rfl | ⟨a, rfl⟩
  · refine ⟨"", [], ?_⟩
    intro name hname
    rw [String.empty_append]
    exact headAndParts_of_isPlainName hname
  · by_cases ha : a = ""
    · subst ha
      exact ⟨"/", [], fun name hname => headAndParts_root hname.noSeparator⟩
    · exact ⟨_, _, fun name hname => headAndParts_separator ha hname.noSeparator⟩

theorem fileName?_of_headAndParts {p : Path} {head last : String} {parts : List String}
    (h : p.headAndParts = (head, parts ++ [last])) (hlast : IsPlainName last) :
    p.fileName? = some last := by
  have htrivial : isTrivial last = false := by simp [isTrivial, hlast.ne_empty, hlast.ne_dot]
  have hcomponent : componentOf last = .normal last := by simp [componentOf, hlast.ne_dots]
  have hends : ∃ init, p.components = init ++ [.normal last] := by
    rw [components_eq, ← filter_headAndParts, h, List.filter_append, List.map_append,
      ← List.append_assoc]
    refine ⟨_, congrArg _ ?_⟩
    simp [htrivial, hcomponent]
  obtain ⟨init, hinit⟩ := hends
  rw [fileName?, hinit, List.getLast?_concat]

/-- **Names with the same in front of them lie in one directory**, each under its own name. -/
theorem exists_beside {x : String} (hx : IsLead x) :
    ∃ directory, ∀ name, IsPlainName name →
      parent? ⟨x ++ name⟩ = some directory ∧ fileName? ⟨x ++ name⟩ = some name := by
  obtain ⟨head, parts, hparts⟩ := exists_headAndParts hx
  refine ⟨assemble head (parts.reverse.dropWhile isTrivial).reverse, ?_⟩
  intro name hname
  have htrivial : isTrivial name = false := by simp [isTrivial, hname.ne_empty, hname.ne_dot]
  exact ⟨parent?_of_headAndParts (hparts name hname) htrivial,
    fileName?_of_headAndParts (hparts name hname) hname⟩

/-! ## Components behind any base -/

/-- The leading dot of a name, which is a component only where nothing stands before it. -/
def leadingDot (base : Path) (name : String) : List Component :=
  if base.text = "" ∧ (separated '/' name).head? = some "." then [.current] else []

/-- The components of a relative name come behind those of any base. -/
theorem components_join_any (base : Path) {name : String} (h : isAbsolute ⟨name⟩ = false) :
    (base.join name).components =
      base.components ++ leadingDot base name ++ (undotted (names ⟨name⟩)).map componentOf := by
  by_cases hbase : base.text = ""
  · obtain rfl : base = ⟨""⟩ := congrArg Path.mk hbase
    have hempty : components ⟨""⟩ = [] := by decide
    have hself : Path.join ⟨""⟩ name = ⟨name⟩ := by
      rw [join_of_relative ⟨""⟩ h]
      exact congrArg Path.mk String.empty_append
    rw [hself, hempty, List.nil_append, components_eq, sign_eq, leadingDot]
    simp [h]
  · rw [components_join hbase h, leadingDot, if_neg (fun hboth => hbase hboth.1), List.append_nil]

end Path

namespace Layout

open ModuleDepot.Path (undotted leadingDot IsLead)

/-! ## Contained resources -/

/-- A contained resource ends in a plain name. -/
theorem exists_lead_of_isContained {resource : String} (h : isContained resource = true) :
    ∃ lead last, resource = lead ++ last ∧ IsLead lead ∧ IsPlainName last := by
  obtain ⟨-, -, hempty, hdot, hdots, -, -⟩ := isContained_iff.mp h
  obtain ⟨before, last, hsplit, hslash⟩ := exists_last resource
  have hname : lastName resource = lastName last := by
    rcases hsplit with ⟨rfl, -⟩ | rfl
    · rfl
    · exact lastName_separator before last
  rw [hname] at hempty hdot hdots
  have hplain : IsPlainName last := by
    refine ⟨?_, ?_, ?_, hslash⟩
    · rintro rfl
      exact hempty rfl
    · rintro rfl
      exact hdot rfl
    · rintro rfl
      exact hdots rfl
  rcases hsplit with ⟨hself, -⟩ | hself
  · exact ⟨"", last, by rw [hself, String.empty_append], .inl rfl, hplain⟩
  · exact ⟨before ++ "/", last, hself, .inr ⟨before, rfl⟩, hplain⟩

/-- Where a resource lies that is joined to a base: behind its components come names, and the index
lies in the same directory, under the name of the resource with the suffix. -/
structure LiesInside (base : Path) (resource : String) (names : List String) : Prop where
  components : (base.join resource).components =
    base.components ++ leadingDot base resource ++ names.map .normal
  parent : ∃ directory, (base.join resource).parent? = some directory ∧
    (base.join (indexOf resource)).parent? = some directory
  fileName : ∃ name, (base.join resource).fileName? = some name ∧
    (base.join (indexOf resource)).fileName? = some (name ++ indexSuffix)

/-- **Below every base a contained resource lies inside**, under the same names. -/
theorem liesInside {resource : String} (h : isContained resource = true) (base : Path) :
    LiesInside base resource (undotted (Path.names ⟨resource⟩)) := by
  have hpath := isContainedPath h
  have hindex := isContainedPath (isContained_indexOf h)
  obtain ⟨lead, last, hsplit, hlead, hlast⟩ := exists_lead_of_isContained h
  have hlast' : IsPlainName (last ++ indexSuffix) := hlast.append (by decide) (by decide)
  have hjoin : base.join resource = ⟨base.stem ++ lead ++ last⟩ := by
    rw [Path.join_of_relative base hpath.relative, String.append_assoc, ← hsplit]
  have hjoin' : base.join (indexOf resource) = ⟨base.stem ++ lead ++ (last ++ indexSuffix)⟩ := by
    rw [Path.join_of_relative base hindex.relative, indexOf, hsplit]
    simp only [String.append_assoc]
  obtain ⟨directory, hbeside⟩ := Path.exists_beside ((Path.isLead_stem base).append hlead)
  obtain ⟨hparent, hname⟩ := hbeside last hlast
  obtain ⟨hparent', hname'⟩ := hbeside (last ++ indexSuffix) hlast'
  rw [← hjoin] at hparent hname
  rw [← hjoin'] at hparent' hname'
  refine ⟨?_, ⟨directory, hparent, hparent'⟩, ⟨last, hname, hname'⟩⟩
  rw [Path.components_join_any base hpath.relative,
    Path.map_componentOf (mt Path.dots_mem_undotted.mp hpath.noDots)]

/-- The leading dot stays only where nothing stands before it. -/
example :
    (Path.join ⟨"/c"⟩ "./lib//a").components = [.root, .normal "c", .normal "lib", .normal "a"] ∧
    (Path.join ⟨""⟩ "./lib//a").components = [.current, .normal "lib", .normal "a"] := by decide

/-- **Contained is exactly what lies inside.** The index of a contained resource is contained, and
joined to any base the resource lies inside it, with the index beside it. And a text without
backslashes is contained exactly if it does not start with a separator, none of its parts leads up,
and the last one is a name. -/
theorem isContained_exactly (resource : String) :
    (isContained resource = true →
      isContained (indexOf resource) = true ∧
      ∃ names, names ≠ [] ∧ ∀ base : Path, LiesInside base resource names) ∧
    ('\\' ∉ resource.toList →
      (isContained resource = true ↔
        resource.toList.head? ≠ some '/' ∧ ".." ∉ separated '/' resource ∧
        ∃ last, (separated '/' resource).getLast? = some last ∧ last ≠ "" ∧ last ≠ ".")) := by
  refine ⟨?_, isContained_iff_parts⟩
  intro h
  exact ⟨isContained_indexOf h, _, (isContainedPath h).counts, liesInside h⟩

/-- A resource with a leading dot and two separators is contained, and lies inside a base as well as
below none. -/
theorem isContained_exactly_of_dotted :
    let resource := "./lib//a.jar"
    '\\' ∉ resource.toList ∧ isContained resource = true ∧ isContained (indexOf resource) = true ∧
    ∃ names, names ≠ [] ∧ LiesInside ⟨"/c"⟩ resource names ∧ LiesInside ⟨""⟩ resource names := by
  intro resource
  obtain ⟨hsound, hcomplete⟩ := isContained_exactly resource
  have hmark : '\\' ∉ resource.toList := by decide
  have hcontained : isContained resource = true := by
    apply (hcomplete hmark).mpr
    exact ⟨by decide, by decide, "a.jar", by decide, by decide, by decide⟩
  obtain ⟨hindex, names, hne, hinside⟩ := hsound hcontained
  exact ⟨hmark, hcontained, hindex, names, hne, hinside _, hinside _⟩

end Layout
end ModuleDepot
