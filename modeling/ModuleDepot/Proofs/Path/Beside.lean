import ModuleDepot.Proofs.FileTree.Files
import ModuleDepot.Proofs.Layout

/-! # Files beside a file

The path above a file in a directory `d` need not be `d` itself: it lacks the separators and dots at
the end of `d`, which change nothing (`exists_trims_parent?`). What a name leads to below `d` it
also leads to below that path (`isFile_join_of_trims`). The converse fails, since the path that is
not trimmed can be too long.

A relative name joined to a path comes behind the `stem` of the path, and so it does not matter in
which order paths are joined (`join_join`).
-/

namespace ModuleDepot

namespace Path

/-! ## Taking a path apart -/

/-- A name behind a separator is one more part. -/
theorem separated_separator (a : String) {name : String} (h : '/' ∉ name.toList) :
    separated '/' (a ++ "/" ++ name) = separated '/' a ++ [name] := by
  rw [separated_append, separated_eq_singleton h]

theorem headAndParts_separator {a name : String} (ha : a ≠ "") (h : '/' ∉ name.toList) :
    headAndParts ⟨a ++ "/" ++ name⟩ =
      ((headAndParts ⟨a⟩).1, (headAndParts ⟨a⟩).2 ++ [name]) := by
  have habs : isAbsolute ⟨a ++ "/" ++ name⟩ = isAbsolute ⟨a⟩ := by
    rw [String.append_assoc, isAbsolute_append, if_neg ha]
  cases hroot : isAbsolute ⟨a⟩ with
  | true =>
      obtain ⟨rest, hrest⟩ : ∃ rest, a.toList = '/' :: rest := by
        rwa [isAbsolute, beq_iff_eq, List.head?_eq_some_iff] at hroot
      rw [headAndParts, headAndParts, if_pos (habs.trans hroot), if_pos hroot]
      refine Prod.ext rfl ?_
      have htail : String.ofList (a ++ "/" ++ name).toList.tail =
          String.ofList rest ++ "/" ++ name := by
        apply String.toList_injective
        simp [hrest]
      rw [htail, separated_separator _ h, hrest, List.tail_cons]
  | false =>
      rw [headAndParts, headAndParts, if_neg (by simp [habs, hroot]), if_neg (by simp [hroot]),
        separated_separator a h]
      split
      next parts hparts =>
        obtain ⟨first, rest, hfirst⟩ := List.exists_cons_of_ne_nil (separated_ne_nil a)
        rw [hfirst] at hparts ⊢
        obtain ⟨rfl, rfl⟩ := List.cons.inj hparts
        rfl
      next hne =>
        split
        next parts hparts => exact absurd (by rw [hparts]; rfl) (hne (parts ++ [name]))
        next => rfl

/-! ## What stands in front of a joined name -/

/-- What stands in front of the relative names that are joined to a path. -/
def stem (d : Path) : String :=
  if d.text.isEmpty || d.endsInSeparator then d.text else d.text ++ "/"

theorem join_of_relative (d : Path) {name : String} (h : Path.isAbsolute ⟨name⟩ = false) :
    d.join name = ⟨d.stem ++ name⟩ := by
  have hhead : ¬(name.toList.head? == some '/') = true := by simpa [isAbsolute] using h
  rw [join, if_neg hhead, stem]
  split <;> rfl

/-- In front of the names there is nothing, or a text with a separator behind it. -/
theorem stem_cases (d : Path) :
    d = ⟨""⟩ ∨ ∃ a, (d = ⟨a⟩ ∧ a ≠ "" ∨ d = ⟨a ++ "/"⟩) ∧ d.stem = a ++ "/" := by
  by_cases hempty : d.text = ""
  · exact .inl (congrArg Path.mk hempty)
  refine .inr ?_
  cases hsep : d.endsInSeparator with
  | true =>
      obtain ⟨a, ha⟩ := endsInSeparator_iff.mp hsep
      exact ⟨a, .inr (congrArg Path.mk ha), by simp [stem, hsep, ha]⟩
  | false => exact ⟨d.text, .inl ⟨rfl, hempty⟩, by simp [stem, hempty, hsep]⟩

theorem stem_append (a : String) {b : String} (hb : b ≠ "") :
    stem ⟨a ++ b⟩ = a ++ stem ⟨b⟩ := by
  have hne : b.toList ≠ [] := mt String.toList_eq_nil_iff.mp hb
  have hsep : endsInSeparator ⟨a ++ b⟩ = endsInSeparator ⟨b⟩ := by
    rw [endsInSeparator, endsInSeparator, String.toList_append, List.getLast?_append,
      List.getLast?_eq_some_getLast hne, Option.some_or]
  rw [stem, stem, hsep]
  cases endsInSeparator ⟨b⟩ <;> simp [hb, String.append_assoc]

theorem stem_stem (d : Path) : stem ⟨d.stem⟩ = d.stem := by
  rcases stem_cases d with rfl | ⟨a, -, hstem⟩
  · rfl
  · rw [hstem, stem_append a (by decide)]
    rfl

/-- **Joining is associative.** -/
theorem join_join (base d : Path) {name : String} (h : Path.isAbsolute ⟨name⟩ = false) :
    base.join (d.join name).text = (base.join d.text).join name := by
  cases habs : d.isAbsolute with
  | true =>
      have hname : (d.join name).isAbsolute = true := (isAbsolute_join h).trans habs
      rw [show base.join d.text = d from join_of_isAbsolute habs]
      exact join_of_isAbsolute hname
  | false =>
      have hrelative : Path.isAbsolute ⟨d.stem ++ name⟩ = false := by
        rw [← join_of_relative d h, isAbsolute_join h, habs]
      rw [join_of_relative d h, join_of_relative base hrelative, join_of_relative base habs,
        join_of_relative _ h, ← String.append_assoc]
      congr 2
      by_cases hempty : d.text = ""
      · obtain rfl : d = ⟨""⟩ := congrArg Path.mk hempty
        rw [String.append_empty, stem_stem]
        exact String.append_empty
      · exact (stem_append base.stem hempty).symm

/-! ## The path above a file -/

/-- The second path is the first without some of what changes nothing. -/
structure Trims (d q : Path) : Prop where
  isAbsolute : q.isAbsolute = d.isAbsolute
  hasNul : d.hasNul = false → q.hasNul = false
  names : ∃ dots, d.names = q.names ++ dots ∧ ∀ name ∈ dots, name = "."
  size : ∀ name, Path.isAbsolute ⟨name⟩ = false →
    (q.join name).text.utf8ByteSize ≤ (d.join name).text.utf8ByteSize

theorem Trims.refl (d : Path) : Trims d d :=
  ⟨rfl, id, ⟨[], (List.append_nil _).symm, nofun⟩, fun _ _ => Nat.le_refl _⟩

/-- The parts at the end of a path that count for nothing can be left out. -/
theorem names_assemble_append {head : String} {parts trivials : List String}
    (h : IsSplit head (parts ++ trivials)) (htrivials : ∀ part ∈ trivials, isTrivial part = true) :
    ∃ dots, (assemble head (parts ++ trivials)).names = (assemble head parts).names ++ dots ∧
      ∀ name ∈ dots, name = "." := by
  have hdots : ∀ l : List String, (∀ part ∈ l, isTrivial part = true) →
      ∀ name ∈ l.filter (· != ""), name = "." := by
    intro l hl name hname
    obtain ⟨hmem, hne⟩ := List.mem_filter.mp hname
    have htriv := hl name hmem
    simp only [isTrivial, Bool.or_eq_true, beq_iff_eq] at htriv
    exact htriv.resolve_left (by simpa using hne)
  rw [names_assemble h, names_assemble (h.of_prefix (List.prefix_append parts trivials)),
    namedParts, namedParts]
  split
  next =>
    cases parts with
    | nil =>
        refine ⟨trivials.tail.filter (· != ""), ?_, hdots _ fun part hpart =>
          htrivials part (List.mem_of_mem_tail hpart)⟩
        simp
    | cons first rest =>
        refine ⟨trivials.filter (· != ""), ?_, hdots _ htrivials⟩
        simp [List.filter_append]
  next => exact ⟨trivials.filter (· != ""), by rw [List.filter_append], hdots _ htrivials⟩

/-- The beginning of a text is no longer than the text. -/
theorem utf8ByteSize_le_of_prefix {a b : String} (h : a.toList <+: b.toList) :
    a.utf8ByteSize ≤ b.utf8ByteSize := by
  obtain ⟨rest, hrest⟩ := h
  have hb : b = a ++ String.ofList rest := String.toList_injective (by simp [hrest])
  rw [hb, String.utf8ByteSize_append]
  exact Nat.le_add_right _ _

/-- A path is trimmed where parts that count for nothing are left out at its end. -/
theorem trims_assemble {d : Path} {a head : String} {parts trivials : List String}
    (hd : d = ⟨a⟩ ∧ a ≠ "" ∨ d = ⟨a ++ "/"⟩) (ha : a ≠ "")
    (hstem : d.stem = a ++ "/") (hparts : headAndParts ⟨a⟩ = (head, parts ++ trivials))
    (htrivials : ∀ part ∈ trivials, isTrivial part = true) : Trims d (assemble head parts) := by
  have hsplit : IsSplit head (parts ++ trivials) := by
    have := isSplit_headAndParts (p := ⟨a⟩) ha
    rwa [hparts] at this
  have hwhole : assemble head (parts ++ trivials) = ⟨a⟩ := by
    have := assemble_headAndParts ⟨a⟩
    rwa [hparts] at this
  have htext : (assemble head parts).text.toList <+: a.toList := by
    change _ <+: (Path.mk a).text.toList
    rw [← hwhole, assemble, assemble, String.toList_append, String.toList_append]
    exact (List.prefix_append_right_inj _).mpr
      (prefix_intercalate (List.prefix_append parts trivials))
  have habs : d.isAbsolute = isAbsolute ⟨a⟩ := by
    rcases hd with ⟨rfl, -⟩ | rfl
    · rfl
    · rw [isAbsolute_append, if_neg ha]
  have hnames : d.names = names ⟨a⟩ := by
    rcases hd with ⟨rfl, -⟩ | rfl
    · rfl
    · have := names_separator a ""
      rwa [String.append_empty, names_empty, List.append_nil] at this
  have hmem : ∀ c ∈ a.toList, c ∈ d.text.toList := by
    rcases hd with ⟨rfl, -⟩ | rfl <;> simp +contextual
  refine ⟨?_, fun hnul => ?_, ?_, fun name hname => ?_⟩
  · rw [habs, isAbsolute_assemble (hsplit.of_prefix (List.prefix_append _ _)), isAbsolute_eq_head,
      hparts]
  · simp only [hasNul, List.contains_eq_mem, decide_eq_false_iff_not] at hnul ⊢
    exact fun h => hnul (hmem _ (htext.subset h))
  · rw [hnames, ← hwhole]
    exact names_assemble_append hsplit htrivials
  · have hsize := utf8ByteSize_join (assemble head parts) name
    have hprefix := utf8ByteSize_le_of_prefix htext
    have hone : "/".utf8ByteSize = 1 := by decide
    rw [join_of_relative d hname, hstem, String.utf8ByteSize_append, String.utf8ByteSize_append]
    omega

/-- The path above a path whose last part counts. -/
theorem parent?_of_headAndParts {p : Path} {head last : String} {parts : List String}
    (h : p.headAndParts = (head, parts ++ [last])) (hlast : isTrivial last = false) :
    p.parent? = some (assemble head (parts.reverse.dropWhile isTrivial).reverse) := by
  rw [parent?, parents_eq, h, List.reverse_append, List.reverse_singleton, List.singleton_append,
    withoutLast, if_neg (by simp [hlast])]
  rfl

theorem headAndParts_of_isPlainName {name : String} (h : IsPlainName name) :
    headAndParts ⟨name⟩ = ("", [name]) := by
  have hrelative := isAbsolute_of_isPlainName h
  rw [headAndParts, if_neg (by simp [hrelative]), separated_eq_singleton h.noSeparator]
  split
  next hdot => exact absurd (List.cons.inj hdot).1 h.ne_dot
  next => rfl

theorem headAndParts_root {name : String} (h : '/' ∉ name.toList) :
    headAndParts ⟨"/" ++ name⟩ = ("/", [name]) := by
  have habs : isAbsolute ⟨"/" ++ name⟩ = true := by simp [isAbsolute]
  have htail : String.ofList ("/" ++ name).toList.tail = name := by simp
  rw [headAndParts, if_pos habs, htail, separated_eq_singleton h]

/-- **The path above a file in a directory** is the directory without what changes nothing. -/
theorem exists_trims_parent? (d : Path) {last : String} (h : IsPlainName last) :
    ∃ q, (d.join last).parent? = some q ∧ Trims d q := by
  have hlast : isTrivial last = false := by simp [isTrivial, h.ne_empty, h.ne_dot]
  have hrelative := isAbsolute_of_isPlainName h
  rcases stem_cases d with rfl | ⟨a, hd, hstem⟩
  · have hparts : headAndParts ⟨last⟩ = ("", [] ++ [last]) := headAndParts_of_isPlainName h
    rw [show Path.join ⟨""⟩ last = ⟨last⟩ from join_of_relative ⟨""⟩ hrelative,
      parent?_of_headAndParts hparts hlast]
    exact ⟨_, rfl, .refl _⟩
  rw [join_of_relative d hrelative, hstem]
  by_cases ha : a = ""
  · subst ha
    have hparts : headAndParts ⟨"" ++ "/" ++ last⟩ = ("/", [] ++ [last]) :=
      headAndParts_root h.noSeparator
    obtain rfl : d = ⟨"/"⟩ := by
      rcases hd with ⟨-, hne⟩ | rfl
      · exact absurd rfl hne
      · rfl
    rw [parent?_of_headAndParts hparts hlast]
    exact ⟨_, rfl, .refl _⟩
  · rw [parent?_of_headAndParts (headAndParts_separator ha h.noSeparator) hlast]
    have hparts : headAndParts ⟨a⟩ = ((headAndParts ⟨a⟩).1,
        ((headAndParts ⟨a⟩).2.reverse.dropWhile isTrivial).reverse ++
          ((headAndParts ⟨a⟩).2.reverse.takeWhile isTrivial).reverse) := by
      rw [← List.reverse_append, List.takeWhile_append_dropWhile, List.reverse_reverse]
    refine ⟨_, rfl, trims_assemble hd ha hstem hparts fun part hpart => ?_⟩
    exact List.all_eq_true.mp List.all_takeWhile part (List.mem_reverse.mp hpart)

end Path

namespace FileTree

open ModuleDepot.Path (Trims)

variable {t : FileTree}

/-- Steps that stay can be left out in the middle. -/
theorem thins_append {a dots b : List String} (h : ∀ name ∈ dots, name = ".") :
    Thins (a ++ dots ++ b) (a ++ b) := by
  have hself : ∀ l : List String, Thins l l := fun l => by
    induction l with
    | nil => exact .nil
    | cons name rest ih => exact .keep ih
  rw [List.append_assoc]
  refine Thins.append_left ?_ a
  induction dots with
  | nil => exact hself b
  | cons name rest ih =>
      exact .drop (h name List.mem_cons_self) (ih fun n hn => h n (List.mem_cons_of_mem name hn))

/-- **What a name leads to below a directory it leads to below the trimmed path as well.** -/
theorem isFile_join_of_trims {d q : Path} (h : Trims d q) {name : String}
    (hname : Path.isAbsolute ⟨name⟩ = false) (hne : name ≠ "")
    (hfile : t.isFile (d.join name) = true) : t.isFile (q.join name) = true := by
  obtain ⟨loc, content, hloc, hcontent⟩ := isFile_iff.mp hfile
  obtain ⟨hcheck, hlead⟩ := resolve_eq_ok_iff.mp hloc
  obtain ⟨dots, hnames, hdots⟩ := h.names
  have hdnames : (d.join name).names = q.names ++ dots ++ Path.names ⟨name⟩ := by
    rw [Path.names_join hname, hnames]
  have hstart : t.start (q.join name) = t.start (d.join name) := by
    simp [FileTree.start, Path.isAbsolute_join hname, h.isAbsolute]
  have hsteps : (q.join name).steps = (q.join name).names := by
    have hsame := steps_of_isFile hfile
    rw [Path.steps, Path.endsInSeparator_join d hne] at hsame
    rw [Path.steps, Path.endsInSeparator_join q hne]
    split at hsame
    next => simp at hsame
    next hnot =>
      refine if_neg fun hsep => hnot ?_
      rw [Bool.and_eq_true] at hsep ⊢
      refine ⟨hsep.1, ?_⟩
      have hq := hsep.2
      rw [Path.names_join hname] at hq
      rw [hdnames]
      simp only [Bool.not_eq_true', List.isEmpty_eq_false_iff] at hq ⊢
      simp only [ne_eq, List.append_eq_nil_iff, not_and] at hq ⊢
      exact fun hboth => hq hboth.1
  rw [steps_of_isFile hfile, hdnames, ← hstart] at hlead
  have hwalk := hlead.thin (thins_append hdots)
  rw [← Path.names_join hname, ← hsteps] at hwalk
  refine isFile_iff.mpr ⟨loc, content, resolve_eq_ok_iff.mpr ⟨?_, hwalk⟩, hcontent⟩
  obtain ⟨hnul, -, hsize⟩ := checkPath_eq_ok_iff.mp hcheck
  obtain ⟨between, -, htext⟩ := Path.exists_text_join d hname
  obtain ⟨between', -, htext'⟩ := Path.exists_text_join q hname
  refine checkPath_eq_ok_iff.mpr ⟨?_, ?_, (h.size name hname).trans hsize⟩
  · simp only [Path.hasNul, htext, String.toList_append, List.contains_append,
      Bool.or_eq_false_iff] at hnul
    exact Path.hasNul_join (h.hasNul hnul.1.1) hnul.2
  · rw [htext']
    exact fun hempty => hne (String.append_eq_empty_iff.mp hempty).2

end FileTree
end ModuleDepot
