import Mathlib.Data.List.Chain
import ModuleDepot.Proofs.Path.Names

/-! # The paths above a path

Each of the `parents` of a path has the names of the one before it without the last, as far
as names that stay where they are do not count (`isChain_parents`). So the names of every
path above are the first names of the path (`prefix_of_mem_parents`).

A path is split into a sign and parts and put together again from fewer parts. `IsSplit`
says which signs and parts belong together, and `assemble` puts them together.
-/

namespace ModuleDepot.Path

/-! ## Splitting and putting together -/

/-- A sign at the start and parts behind it that do not change its meaning. -/
structure IsSplit (head : String) (parts : List String) : Prop where
  noSeparator : ∀ part ∈ parts, '/' ∉ part.toList
  start : head = "/" ∨ (head = "" ∧ ∀ first ∈ parts.head?, first ≠ "" ∧ first ≠ ".") ∨
    (head = "." ∧ ∀ first ∈ parts.head?, first = "")

/-- The path of a sign and the parts behind it. -/
def assemble (head : String) (parts : List String) : Path :=
  ⟨head ++ "/".intercalate parts⟩

/-- The first parts behind a sign. -/
theorem IsSplit.of_prefix {head : String} {parts parts' : List String} (h : IsSplit head parts)
    (hbegins : parts' <+: parts) : IsSplit head parts' := by
  have hhead : ∀ first ∈ parts'.head?, first ∈ parts.head? := by
    obtain ⟨rest, rfl⟩ := hbegins
    intro first hfirst
    simp [List.head?_append, Option.mem_def.mp hfirst]
  refine ⟨fun part hpart => h.noSeparator part (hbegins.subset hpart), ?_⟩
  rcases h.start with hroot | ⟨hempty, hfirst⟩ | ⟨hdot, hfirst⟩
  · exact .inl hroot
  · exact .inr (.inl ⟨hempty, fun first hmem => hfirst first (hhead first hmem)⟩)
  · exact .inr (.inr ⟨hdot, fun first hmem => hfirst first (hhead first hmem)⟩)

theorem not_mem_of_mem_separated {sep : Char} {s part : String} (h : part ∈ separated sep s) :
    sep ∉ part.toList := by
  obtain ⟨l, hl, rfl⟩ := List.mem_map.mp h
  simpa using not_mem_of_mem_splitOn hl

theorem separated_ne_nil (s : String) : separated '/' s ≠ [] :=
  mt List.map_eq_nil_iff.mp (List.splitOn_ne_nil '/' s.toList)

/-- The parts of a relative text do not start with an empty one. -/
theorem ne_empty_of_head?_separated {s first : String} (hrel : isAbsolute ⟨s⟩ = false)
    (hne : s ≠ "") (h : first ∈ (separated '/' s).head?) : first ≠ "" := by
  obtain ⟨c, cs, hcs⟩ := List.exists_cons_of_ne_nil (mt String.toList_eq_nil_iff.mp hne)
  have hc : ¬(c == '/') = true := by simpa [isAbsolute, hcs] using hrel
  obtain ⟨l, ls, hls⟩ := List.exists_cons_of_ne_nil (List.splitOn_ne_nil '/' cs)
  have hsplit : separated '/' s = (String.ofList (c :: l)) :: ls.map String.ofList := by
    rw [separated, hcs, List.splitOn_cons_eq_if_modifyHead, if_neg hc, hls,
      List.modifyHead_cons, List.map_cons]
  rw [hsplit, List.head?_cons, Option.mem_some_iff] at h
  subst h
  intro hempty
  have := String.toList_eq_nil_iff.mpr hempty
  simp at this

/-- A path that is not empty is split into a sign and parts that belong to it. -/
theorem isSplit_headAndParts {p : Path} (hne : p.text ≠ "") :
    IsSplit p.headAndParts.1 p.headAndParts.2 := by
  unfold headAndParts
  split
  next => exact ⟨fun _ => not_mem_of_mem_separated, .inl rfl⟩
  next hrel =>
    have hrel : isAbsolute ⟨p.text⟩ = false := by simpa using hrel
    have hfirst : ∀ first ∈ (separated '/' p.text).head?, first ≠ "" :=
      fun _ => ne_empty_of_head?_separated hrel hne
    have hparts : ∀ part ∈ separated '/' p.text, '/' ∉ part.toList :=
      fun _ => not_mem_of_mem_separated
    split
    next parts hsep =>
      refine ⟨fun part hpart => ?_, .inr (.inr ⟨rfl, by simp⟩)⟩
      rcases List.mem_cons.mp hpart with rfl | hrest
      · simp
      · exact hparts part (hsep ▸ List.mem_cons_of_mem _ hrest)
    next hdot =>
      refine ⟨hparts, .inr (.inl ⟨rfl, fun first hmem => ⟨hfirst first hmem, ?_⟩⟩)⟩
      rintro rfl
      obtain ⟨parts, hcons⟩ := List.head?_eq_some_iff.mp hmem
      exact hdot parts hcons

/-- The parts that count are those that are neither empty nor stay. -/
theorem undotted_filter (parts : List String) :
    undotted (parts.filter (· != "")) = parts.filter (!isTrivial ·) := by
  rw [undotted, List.filter_filter]
  congr 1
  funext part
  cases h : part == "" <;> cases h' : part == "." <;> simp [isTrivial, bne, h, h']

/-- The parts of a path that count are its names. -/
theorem filter_headAndParts (p : Path) :
    p.headAndParts.2.filter (!isTrivial ·) = undotted p.names := by
  unfold headAndParts
  split
  next habs =>
    obtain ⟨text, htext⟩ : ∃ text, p.text = "" ++ "/" ++ String.ofList text := by
      rw [isAbsolute, beq_iff_eq, List.head?_eq_some_iff] at habs
      obtain ⟨text, htext⟩ := habs
      exact ⟨text, String.toList_injective (by simp [htext])⟩
    have hnames := names_separator "" (String.ofList text)
    rw [← htext, names_empty, List.nil_append] at hnames
    have htail : String.ofList p.text.toList.tail = String.ofList text := by simp [htext]
    rw [htail, ← undotted_filter]
    exact congrArg undotted hnames.symm
  next =>
    split
    next parts hsep =>
      have hnames : p.names = ("." :: parts).filter (· != "") := by rw [← hsep]; rfl
      rw [hnames, undotted_filter]
      rfl
    next => exact (undotted_filter _).symm

/-- What a path starts with, if that is no name. -/
def sign (p : Path) : List Component :=
  if p.headAndParts.1 == "/" then [.root]
  else if p.headAndParts.1 == "." then [.current]
  else []

/-- The components of a path are its sign and the names that count. -/
theorem components_eq (p : Path) :
    p.components = p.sign ++ (undotted p.names).map componentOf := by
  rw [← filter_headAndParts, components, sign]
  generalize p.headAndParts = parts
  obtain ⟨head, parts⟩ := parts
  dsimp only
  split
  · rfl
  · split <;> rfl

/-- Names that do not climb are components as they are. -/
theorem map_componentOf {names : List String} (h : ".." ∉ names) :
    names.map componentOf = names.map .normal := by
  refine List.map_congr_left fun name hmem => ?_
  rw [componentOf, if_neg]
  rw [beq_iff_eq]
  rintro rfl
  exact h hmem

/-! ## What is put together -/

/-- The parts whose names a path put together has. -/
def namedParts (head : String) (parts : List String) : List String :=
  if head = "." then "." :: parts.tail else parts

theorem names_intercalate {parts : List String} (h : ∀ part ∈ parts, '/' ∉ part.toList) :
    names ⟨"/".intercalate parts⟩ = parts.filter (· != "") := by
  cases parts with
  | nil => exact names_empty
  | cons first rest =>
      have hsplit : ("/".intercalate (first :: rest)).toList.splitOn '/' =
          (first :: rest).map String.toList := by
        rw [String.toList_intercalate]
        refine List.splitOn_intercalate '/' (fun l hl => ?_) (by simp)
        obtain ⟨part, hpart, rfl⟩ := List.mem_map.mp hl
        exact h part hpart
      rw [names_mk, hsplit, List.map_map]
      simp

theorem names_assemble {head : String} {parts : List String} (h : IsSplit head parts) :
    (assemble head parts).names = (namedParts head parts).filter (· != "") := by
  rcases h.start with rfl | ⟨rfl, -⟩ | ⟨rfl, hfirst⟩
  · have hnames := names_separator "" ("/".intercalate parts)
    rw [names_empty, List.nil_append, names_intercalate h.noSeparator] at hnames
    exact hnames
  · rw [assemble, String.empty_append]
    exact names_intercalate h.noSeparator
  · -- Behind a leading dot the first part is empty, so that the dot takes its place.
    have htext : "." ++ "/".intercalate parts = "/".intercalate ("." :: parts.tail) := by
      cases parts with
      | nil => rfl
      | cons first rest =>
          obtain rfl : first = "" := hfirst first rfl
          apply String.toList_injective
          simp only [String.toList_append, String.toList_intercalate]
          cases rest <;> simp
    rw [assemble, htext]
    refine names_intercalate fun part hpart => ?_
    rcases List.mem_cons.mp hpart with rfl | hrest
    · simp
    · exact h.noSeparator part (List.mem_of_mem_tail hrest)

theorem undotted_assemble {head : String} {parts : List String} (h : IsSplit head parts) :
    undotted (assemble head parts).names = parts.filter (!isTrivial ·) := by
  rw [names_assemble h, undotted_filter, namedParts]
  split
  next hhead =>
    subst hhead
    cases parts with
    | nil => rfl
    | cons first rest =>
        have hfirst : first = "" := by
          rcases h.start with habs | ⟨habs, -⟩ | ⟨-, hfirst⟩
          · exact absurd habs (by decide)
          · exact absurd habs (by decide)
          · exact hfirst first rfl
        subst hfirst
        rfl
  next => rfl

theorem isAbsolute_assemble {head : String} {parts : List String} (h : IsSplit head parts) :
    (assemble head parts).isAbsolute = (head == "/") := by
  rw [assemble, isAbsolute_append]
  rcases h.start with rfl | ⟨rfl, hfirst⟩ | ⟨rfl, -⟩
  · rfl
  · cases parts with
    | nil => rfl
    | cons first rest =>
        have hne := (hfirst first rfl).1
        obtain ⟨c, cs, hcs⟩ := List.exists_cons_of_ne_nil (mt String.toList_eq_nil_iff.mp hne)
        have hc : c ≠ '/' := by
          rintro rfl
          exact h.noSeparator first List.mem_cons_self (hcs ▸ List.mem_cons_self)
        cases rest <;> simp [isAbsolute, String.toList_intercalate, hcs, hc]
  · rfl

/-! ## The paths above -/

/-- The second path lies directly above the first one. -/
structure Below (p q : Path) : Prop where
  isAbsolute : q.isAbsolute = p.isAbsolute
  names : undotted q.names = (undotted p.names).dropLast

/-- The parts that count, in the order in which `withoutLast` takes them away. -/
theorem filter_dropWhile_isTrivial (parts : List String) :
    (parts.dropWhile isTrivial).filter (!isTrivial ·) = parts.filter (!isTrivial ·) := by
  induction parts with
  | nil => rfl
  | cons part parts ih =>
      rw [List.dropWhile_cons]
      split
      next htriv => simp [htriv, ih]
      next => rfl

theorem isChain_withoutLast {head : String} {below : List String}
    (h : IsSplit head below.reverse) :
    ∀ p : Path, p.isAbsolute = (head == "/") →
      undotted p.names = below.reverse.filter (!isTrivial ·) →
      (p :: withoutLast head below).IsChain Below := by
  induction below with
  | nil =>
      intro p habs hnames
      rw [withoutLast]
      split
      next hdot =>
        cases eq_of_beq hdot
        refine .cons_cons ⟨?_, ?_⟩ (.singleton _)
        · exact habs.symm
        · rw [hnames]
          rfl
      next => exact .singleton _
  | cons part below ih =>
      have hbelow : IsSplit head below.reverse :=
        h.of_prefix ⟨[part], by rw [List.reverse_cons]⟩
      intro p habs hnames
      rw [withoutLast]
      split
      next htriv =>
        -- A part that does not count gives no path of its own.
        refine ih hbelow p habs ?_
        rw [hnames, List.reverse_cons, List.filter_append]
        simp [htriv]
      next hcount =>
        -- The next path is put together without the parts that would not count at its end.
        have hrest : IsSplit head (below.dropWhile isTrivial).reverse :=
          hbelow.of_prefix (List.reverse_prefix.mpr (List.dropWhile_suffix _))
        have hnames' : undotted (assemble head (below.dropWhile isTrivial).reverse).names =
            below.reverse.filter (!isTrivial ·) := by
          rw [undotted_assemble hrest, List.filter_reverse, filter_dropWhile_isTrivial,
            List.filter_reverse]
        refine .cons_cons ⟨?_, ?_⟩ (ih hbelow _ (isAbsolute_assemble hrest) hnames')
        · exact (isAbsolute_assemble hrest).trans habs.symm
        · refine hnames'.trans ?_
          rw [hnames, List.reverse_cons, List.filter_append]
          simp [hcount]

theorem isAbsolute_eq_head (p : Path) : p.isAbsolute = (p.headAndParts.1 == "/") := by
  unfold headAndParts
  split
  next habs => simpa using habs
  next hrel =>
    rw [Bool.not_eq_true] at hrel
    split
    · exact hrel
    · exact hrel

theorem parents_eq (p : Path) :
    p.parents = withoutLast p.headAndParts.1 p.headAndParts.2.reverse := rfl

/-- **Each path above a path has its names but the last**, up to names that stay. -/
theorem isChain_parents (p : Path) : (p :: p.parents).IsChain Below := by
  by_cases hempty : p.text = ""
  · obtain rfl : p = ⟨""⟩ := by cases p; exact congrArg Path.mk hempty
    exact .singleton _
  · have hsplit := isSplit_headAndParts hempty
    rw [parents_eq]
    refine isChain_withoutLast (by rwa [List.reverse_reverse]) p (isAbsolute_eq_head p) ?_
    rw [List.reverse_reverse, filter_headAndParts]

/-- The paths above a path start as it does and have first names of it. -/
theorem prefix_of_mem_parents {p q : Path} (hq : q ∈ p.parents) :
    q.isAbsolute = p.isAbsolute ∧ undotted q.names <+: undotted p.names := by
  have hstep : ∀ {a b : Path}, Below a b →
      b.isAbsolute = a.isAbsolute ∧ undotted b.names <+: undotted a.names :=
    fun h => ⟨h.isAbsolute, h.names ▸ List.dropLast_prefix _⟩
  have hchain : (p :: p.parents).IsChain fun a b =>
      b.isAbsolute = a.isAbsolute ∧ undotted b.names <+: undotted a.names :=
    (isChain_parents p).imp fun _ _ => hstep
  have htrans : IsTrans Path fun a b =>
      b.isAbsolute = a.isAbsolute ∧ undotted b.names <+: undotted a.names :=
    ⟨fun _ _ _ hab hbc => ⟨hbc.1.trans hab.1, hbc.2.trans hab.2⟩⟩
  exact (List.pairwise_cons.mp hchain.pairwise).1 q hq

/-- Above a path without a step up stand paths without one. -/
theorem not_mem_of_mem_parents {p q : Path} (hdots : ".." ∉ p.names) (hq : q ∈ p.parents) :
    ".." ∉ q.names := by
  rw [← dots_mem_undotted] at hdots ⊢
  exact fun hmem => hdots ((prefix_of_mem_parents hq).2.subset hmem)

/-- The path directly above has the names but the last. -/
theorem below_of_parent? {p q : Path} (h : p.parent? = some q) : Below p q := by
  obtain ⟨rest, hrest⟩ := List.head?_eq_some_iff.mp h
  have hchain := isChain_parents p
  rw [hrest] at hchain
  exact (List.isChain_cons_cons.mp hchain).1

/-! ## How far up, and how long -/

theorem withoutLast_ne_nil {head : String} {below : List String}
    (h : below.filter (!isTrivial ·) ≠ []) : withoutLast head below ≠ [] := by
  induction below with
  | nil => exact absurd rfl h
  | cons part below ih =>
      rw [withoutLast]
      split
      next htriv => exact ih (by simpa [htriv] using h)
      next => exact List.cons_ne_nil _ _

/-- A path with a name that counts has a path above it. -/
theorem exists_parent? {p : Path} (h : undotted p.names ≠ []) : ∃ q, p.parent? = some q := by
  rw [← filter_headAndParts] at h
  have hparents : p.parents ≠ [] := by
    rw [parents_eq]
    refine withoutLast_ne_nil ?_
    rwa [List.filter_reverse, ne_eq, List.reverse_eq_nil_iff]
  obtain ⟨q, rest, hcons⟩ := List.exists_cons_of_ne_nil hparents
  exact ⟨q, List.head?_eq_some_iff.mpr ⟨rest, hcons⟩⟩

theorem undotted_of_getLast?_withoutLast {head : String} {below : List String}
    (h : IsSplit head below.reverse) {q : Path} (hq : q ∈ (withoutLast head below).getLast?) :
    undotted q.names = [] := by
  induction below with
  | nil =>
      rw [withoutLast] at hq
      split at hq
      · obtain rfl : (⟨""⟩ : Path) = q := Option.some.inj hq
        rw [names_empty, undotted_nil]
      · cases hq
  | cons part below ih =>
      have hbelow : IsSplit head below.reverse :=
        h.of_prefix ⟨[part], by rw [List.reverse_cons]⟩
      rw [withoutLast] at hq
      split at hq
      · exact ih hbelow hq
      · by_cases hnil : withoutLast head below = []
        · have hfilter : below.filter (!isTrivial ·) = [] :=
            by_contra fun hne => withoutLast_ne_nil hne hnil
          have hrest : IsSplit head (below.dropWhile isTrivial).reverse :=
            hbelow.of_prefix (List.reverse_prefix.mpr (List.dropWhile_suffix _))
          rw [hnil] at hq
          obtain rfl : assemble head (below.dropWhile isTrivial).reverse = q :=
            Option.some.inj hq
          rw [undotted_assemble hrest, List.filter_reverse, filter_dropWhile_isTrivial, hfilter,
            List.reverse_nil]
        · rw [List.getLast?_cons_of_ne_nil hnil] at hq
          exact ih hbelow hq

/-- The last of the paths above has no name that counts. -/
theorem undotted_of_getLast?_parents {p q : Path} (hq : q ∈ p.parents.getLast?) :
    undotted q.names = [] := by
  by_cases hempty : p.text = ""
  · obtain rfl : p = ⟨""⟩ := by cases p; exact congrArg Path.mk hempty
    cases hq
  · rw [parents_eq] at hq
    refine undotted_of_getLast?_withoutLast ?_ hq
    rw [List.reverse_reverse]
    exact isSplit_headAndParts hempty

/-! ## The texts of the paths above -/

theorem prefix_intercalate {parts parts' : List String} (h : parts' <+: parts) :
    ("/".intercalate parts').toList <+: ("/".intercalate parts).toList := by
  obtain ⟨rest, rfl⟩ := h
  by_cases hparts : parts' = []
  · subst hparts
    exact List.nil_prefix
  · by_cases hrest : rest = []
    · subst hrest
      simp
    · rw [String.intercalate_append_of_ne_nil hparts hrest, String.append_assoc,
        String.toList_append]
      exact List.prefix_append _ _

/-- A path that starts at the root is put together from its parts. -/
theorem text_eq_of_isAbsolute {p : Path} (h : p.isAbsolute = true) :
    p.headAndParts.1 = "/" ∧ p.text = "/" ++ "/".intercalate p.headAndParts.2 := by
  rw [headAndParts, if_pos h]
  refine ⟨rfl, ?_⟩
  rw [isAbsolute, beq_iff_eq, List.head?_eq_some_iff] at h
  obtain ⟨rest, hrest⟩ := h
  apply String.toList_injective
  have hsplit : (separated '/' (String.ofList rest)).map String.toList = rest.splitOn '/' := by
    simp [separated]
  rw [hrest, List.tail_cons, String.toList_append, String.toList_intercalate, hsplit]
  exact congrArg ('/' :: ·) (List.intercalate_splitOn '/').symm

theorem intercalate_separated (s : String) : "/".intercalate (separated '/' s) = s := by
  apply String.toList_injective
  have hsplit : (separated '/' s).map String.toList = s.toList.splitOn '/' := by
    simp [separated]
  rw [String.toList_intercalate, hsplit]
  exact List.intercalate_splitOn '/'

/-- A path is put together from what it was split into. -/
theorem assemble_headAndParts (p : Path) :
    assemble p.headAndParts.1 p.headAndParts.2 = p := by
  cases habs : p.isAbsolute with
  | true =>
      obtain ⟨hhead, htext⟩ := text_eq_of_isAbsolute habs
      rw [assemble, hhead, ← htext]
  | false =>
      have htext := intercalate_separated p.text
      rw [headAndParts, if_neg (by simp [habs])]
      split
      next parts hparts =>
        -- The dot that was taken as the sign stands before the separator that follows it.
        rw [hparts] at htext
        cases parts with
        | nil => exact congrArg Path.mk htext
        | cons first rest =>
            refine (congrArg Path.mk ?_).trans (congrArg Path.mk htext)
            apply String.toList_injective
            simp [String.toList_intercalate]
      next => exact congrArg Path.mk (by rw [String.empty_append, htext])

/-- The texts of the paths above a path are put together from its first parts. -/
theorem exists_parts_of_mem_withoutLast {head : String} {below : List String} {q : Path}
    (hq : q ∈ withoutLast head below) :
    q = ⟨""⟩ ∨ ∃ parts, parts <+: below.reverse ∧
      (∀ last ∈ parts.getLast?, isTrivial last = false) ∧ q = assemble head parts := by
  induction below with
  | nil =>
      rw [withoutLast] at hq
      split at hq
      · exact .inl (List.mem_singleton.mp hq)
      · cases hq
  | cons part below ih =>
      have hbelow : below.reverse <+: (part :: below).reverse :=
        ⟨[part], by rw [List.reverse_cons]⟩
      have habove : q ∈ withoutLast head below → q = ⟨""⟩ ∨ ∃ parts,
          parts <+: (part :: below).reverse ∧ (∀ last ∈ parts.getLast?, isTrivial last = false) ∧
          q = assemble head parts := fun hq => (ih hq).imp_right fun ⟨parts, hparts, hrest⟩ =>
        ⟨parts, hparts.trans hbelow, hrest⟩
      rw [withoutLast] at hq
      split at hq
      · exact habove hq
      · rcases List.mem_cons.mp hq with rfl | hq
        · refine .inr ⟨(below.dropWhile isTrivial).reverse, ?_, fun last hlast => ?_, rfl⟩
          · exact (List.reverse_prefix.mpr (List.dropWhile_suffix _)).trans hbelow
          · rw [List.getLast?_reverse] at hlast
            have hcounts := List.head?_dropWhile_not isTrivial below
            rwa [Option.mem_def.mp hlast] at hcounts
        · exact habove hq

/-- **A path above another one is the beginning of its text**, and does not end in a name that
stays, unless it is that name. -/
theorem text_prefix_of_mem_parents {p q : Path} (hq : q ∈ p.parents) :
    q.text.toList <+: p.text.toList ∧ (q.names.getLast? = some "." → q = ⟨"."⟩) := by
  have hempty : q = ⟨""⟩ →
      q.text.toList <+: p.text.toList ∧ (q.names.getLast? = some "." → q = ⟨"."⟩) := by
    rintro rfl
    exact ⟨List.nil_prefix, by simp⟩
  by_cases hne : p.text = ""
  · obtain rfl : p = ⟨""⟩ := congrArg Path.mk hne
    cases hq
  have hsplit := isSplit_headAndParts hne
  have hwhole := assemble_headAndParts p
  rw [parents_eq] at hq
  generalize p.headAndParts.1 = head at hq hsplit hwhole
  rcases exists_parts_of_mem_withoutLast hq with hq | ⟨parts, hparts, hlast, rfl⟩
  · exact hempty hq
  rw [List.reverse_reverse] at hparts
  refine ⟨?_, fun hdot => ?_⟩
  · rw [← hwhole, assemble, assemble, String.toList_append, String.toList_append]
    exact (List.prefix_append_right_inj _).mpr (prefix_intercalate hparts)
  rw [names_assemble (hsplit.of_prefix hparts)] at hdot
  rcases List.eq_nil_or_concat' parts with rfl | ⟨init, last, rfl⟩
  · rw [namedParts] at hdot
    split at hdot
    next hhead => rw [hhead, assemble, String.intercalate_nil, String.append_empty]
    next => cases hdot
  · -- The last part counts, so it is the last name.
    have hne : last ≠ "" ∧ last ≠ "." := by simpa [isTrivial] using hlast last (by simp)
    have hnamed : ∃ init', namedParts head (init ++ [last]) = init' ++ [last] := by
      rw [namedParts]
      split
      next hhead =>
        -- Behind a leading dot stands an empty part, which is not the last one.
        cases init with
        | nil =>
            subst hhead
            have hfirst := (hsplit.of_prefix hparts).start
            simp [hne.1] at hfirst
        | cons first rest => exact ⟨"." :: rest, rfl⟩
      next => exact ⟨init, rfl⟩
    obtain ⟨init', hnamed⟩ := hnamed
    rw [hnamed, List.filter_append] at hdot
    simp [hne.1, hne.2] at hdot

/-! ## How a relative path starts -/

/-- A relative path starts with a dot, or its parts are those of the text. -/
theorem headAndParts_of_relative {p : Path} (hrel : p.isAbsolute = false) :
    (p.headAndParts.1 = "." ∧ p.names.head? = some ".") ∨
      (p.headAndParts = ("", separated '/' p.text) ∧ p.names.head? ≠ some ".") := by
  have hnames : p.names = (separated '/' p.text).filter (· != "") := rfl
  rw [headAndParts, if_neg (by simp [hrel])]
  split
  next parts hparts => exact .inl ⟨rfl, by rw [hnames, hparts]; rfl⟩
  next hdot =>
    refine .inr ⟨rfl, fun hhead => ?_⟩
    obtain ⟨first, rest, hparts⟩ := List.exists_cons_of_ne_nil (separated_ne_nil p.text)
    by_cases hempty : p.text = ""
    · obtain rfl : p = ⟨""⟩ := congrArg Path.mk hempty
      cases hhead
    · have hfirst : first ≠ "" := ne_empty_of_head?_separated hrel hempty (by rw [hparts]; rfl)
      rw [hnames, hparts, List.filter_cons_of_pos (by simpa using hfirst)] at hhead
      cases hhead
      exact hdot rest hparts

/-- A relative path that is not empty has a name. -/
theorem names_ne_nil_of_relative {p : Path} (hrel : p.isAbsolute = false) (hne : p.text ≠ "") :
    p.names ≠ [] := by
  obtain ⟨first, rest, hparts⟩ := List.exists_cons_of_ne_nil (separated_ne_nil p.text)
  have hfirst : first ≠ "" := ne_empty_of_head?_separated hrel hne (by rw [hparts]; rfl)
  have hnames : p.names = (separated '/' p.text).filter (· != "") := rfl
  rw [hnames, hparts, List.filter_cons_of_pos (by simpa using hfirst)]
  exact List.cons_ne_nil _ _

theorem text_of_head?_withoutLast {head : String} {below : List String} {q : Path}
    (h : below.filter (!isTrivial ·) ≠ []) (hq : q ∈ (withoutLast head below).head?) :
    ∃ behind, q.text = head ++ behind := by
  induction below with
  | nil => exact absurd rfl h
  | cons part below ih =>
      rw [withoutLast] at hq
      split at hq
      next htriv => exact ih (by simpa [htriv] using h) hq
      next =>
        cases hq
        exact ⟨_, rfl⟩

/-- **Above a path with a name that counts the empty path stands only if this is its first name.** -/
theorem names_of_parent?_empty {p : Path} (h : p.parent? = some ⟨""⟩)
    (hne : undotted p.names ≠ []) :
    ∃ name, p.names.head? = some name ∧ undotted p.names = [name] := by
  have hbelow := below_of_parent? h
  have hrel : p.isAbsolute = false := hbelow.isAbsolute.symm
  have habove : (⟨""⟩ : Path) ∈ (withoutLast p.headAndParts.1 p.headAndParts.2.reverse).head? := h
  have hcounts : p.headAndParts.2.reverse.filter (!isTrivial ·) ≠ [] := by
    rwa [List.filter_reverse, ne_eq, List.reverse_eq_nil_iff, filter_headAndParts]
  obtain ⟨behind, htext⟩ := text_of_head?_withoutLast hcounts habove
  have hhead : p.headAndParts.1 = "" := by
    have hlength := congrArg String.length htext
    rw [String.length_append] at hlength
    exact String.length_eq_zero_iff.mp (Nat.eq_zero_of_add_eq_zero_right hlength.symm)
  rcases headAndParts_of_relative hrel with ⟨hdot, -⟩ | ⟨-, hfirst⟩
  · exact absurd (hdot.symm.trans hhead) (by decide)
  obtain ⟨name, rest, hnames⟩ := List.exists_cons_of_ne_nil (fun hnil => hne (by rw [hnil]; rfl) :
    p.names ≠ [])
  have hname : name ≠ "." := fun heq => hfirst (by rw [hnames, heq]; rfl)
  have hdrop := hbelow.names
  rw [hnames, undotted_cons hname] at hdrop hne ⊢
  refine ⟨name, rfl, ?_⟩
  have hrest : undotted rest = [] := by
    by_contra hrest
    rw [List.dropLast_cons_of_ne_nil hrest, names_empty, undotted_nil] at hdrop
    cases hdrop
  rw [hrest]

end ModuleDepot.Path
