import ModuleDepot.Path
import ModuleDepot.Proofs.Basic

/-! # The names of a path

A path put together from others has their names, one behind the other (`names_join`). What
a path leads to depends on its names, on whether it starts at the root, and not on the names
`.` in between; `undotted` leaves these out.
-/

namespace ModuleDepot

namespace Path

/-- The names without those that stay where they are. -/
def undotted (names : List String) : List String :=
  names.filter (· != ".")

@[simp] theorem undotted_nil : undotted [] = [] := rfl

@[simp] theorem undotted_dot (names : List String) : undotted ("." :: names) = undotted names := rfl

@[simp] theorem undotted_append (a b : List String) :
    undotted (a ++ b) = undotted a ++ undotted b := by
  simp [undotted]

theorem undotted_cons {name : String} (h : name ≠ ".") (names : List String) :
    undotted (name :: names) = name :: undotted names := by
  simp [undotted, h]

theorem undotted_eq_self {names : List String} (h : "." ∉ names) : undotted names = names := by
  rw [undotted, List.filter_eq_self]
  intro name hmem
  simpa using fun heq : name = "." => h (heq ▸ hmem)

theorem mem_of_mem_undotted {name : String} {names : List String} (h : name ∈ undotted names) :
    name ∈ names :=
  (List.mem_filter.mp h).1

theorem dot_not_mem_undotted (names : List String) : "." ∉ undotted names := by
  simp [undotted]

@[simp] theorem dots_mem_undotted {names : List String} :
    ".." ∈ undotted names ↔ ".." ∈ names :=
  ⟨mem_of_mem_undotted, fun h => List.mem_filter.mpr ⟨h, rfl⟩⟩

@[simp] theorem undotted_undotted (names : List String) :
    undotted (undotted names) = undotted names :=
  undotted_eq_self (dot_not_mem_undotted names)

/-- The names before the last one, if that counts. -/
theorem dropLast_undotted {names : List String} (h : names.getLast? ≠ some ".") :
    (undotted names).dropLast = undotted names.dropLast := by
  cases hlast : names.getLast? with
  | none =>
      rw [List.getLast?_eq_none_iff.mp hlast]
      rfl
  | some last =>
      obtain ⟨init, rfl⟩ := List.getLast?_eq_some_iff.mp hlast
      have hdot : last ≠ "." := by
        rintro rfl
        exact h hlast
      rw [undotted_append, undotted_cons hdot, undotted_nil, List.dropLast_concat,
        List.dropLast_concat]

/-! ## Names and separators -/

theorem names_mk (text : String) :
    names ⟨text⟩ = ((text.toList.splitOn '/').map String.ofList).filter (· != "") := rfl

@[simp] theorem names_empty : names ⟨""⟩ = [] := by
  simp [names_mk]

/-- A separator separates. -/
theorem separated_append (a b : String) :
    separated '/' (a ++ "/" ++ b) = separated '/' a ++ separated '/' b := by
  have hsplit : (a ++ "/" ++ b).toList.splitOn '/' =
      a.toList.splitOn '/' ++ b.toList.splitOn '/' := by
    rw [String.toList_append, String.toList_append, List.append_assoc]
    exact List.splitOn_append_cons_self _ _
  rw [separated, hsplit, List.map_append]
  rfl

/-- A text without the separator is not taken apart. -/
theorem separated_eq_singleton {sep : Char} {s : String} (h : sep ∉ s.toList) :
    separated sep s = [s] := by
  rw [separated, List.splitOn_eq_singleton h, List.map_singleton, String.ofList_toList]

theorem names_separator (a b : String) : names ⟨a ++ "/" ++ b⟩ = names ⟨a⟩ ++ names ⟨b⟩ := by
  rw [names, separated_append, List.filter_append]
  rfl

/-- A text without a separator is a name of its own. -/
theorem names_of_not_mem {s : String} (hsep : '/' ∉ s.toList) (hne : s ≠ "") :
    names ⟨s⟩ = [s] := by
  rw [names_mk, List.splitOn_eq_singleton hsep]
  simp [hne]

/-! ## Names of joined paths -/

theorem endsInSeparator_iff {p : Path} :
    p.endsInSeparator = true ↔ ∃ text, p.text = text ++ "/" := by
  rw [endsInSeparator, beq_iff_eq, List.getLast?_eq_some_iff]
  constructor
  · rintro ⟨init, hinit⟩
    exact ⟨String.ofList init, String.toList_injective (by simpa using hinit)⟩
  · rintro ⟨text, htext⟩
    exact ⟨text.toList, by simp [htext]⟩

theorem isAbsolute_append (a b : String) :
    isAbsolute ⟨a ++ b⟩ = if a = "" then isAbsolute ⟨b⟩ else isAbsolute ⟨a⟩ := by
  unfold isAbsolute
  split
  next hempty => simp [hempty]
  next hne =>
    obtain ⟨c, cs, hcs⟩ := List.exists_cons_of_ne_nil (mt String.toList_eq_nil_iff.mp hne)
    simp [hcs]

theorem text_ne_empty_of_isAbsolute {p : Path} (h : p.isAbsolute = true) : p.text ≠ "" := by
  intro hempty
  rw [isAbsolute, hempty] at h
  cases h

/-- An absolute name replaces the base. -/
theorem join_of_isAbsolute {base : Path} {name : String} (h : isAbsolute ⟨name⟩ = true) :
    base.join name = ⟨name⟩ := by
  simp only [isAbsolute, beq_iff_eq] at h
  simp [join, h]

/-- A relative name adds its names to those of the base. -/
theorem names_join {base : Path} {name : String} (h : isAbsolute ⟨name⟩ = false) :
    (base.join name).names = base.names ++ names ⟨name⟩ := by
  have hhead : ¬(name.toList.head? == some '/') = true := by simpa [isAbsolute] using h
  rw [join, if_neg hhead]
  split
  next hbase =>
    rcases Bool.or_eq_true_iff.mp hbase with hempty | hsep
    · have hempty : base = ⟨""⟩ := by
        cases base
        simpa using hempty
      simp [hempty]
    · obtain ⟨text, htext⟩ := endsInSeparator_iff.mp hsep
      have hnames : base.names = names ⟨text⟩ := by
        have := names_separator text ""
        rw [String.append_empty, ← htext, names_empty, List.append_nil] at this
        exact this
      rw [htext, names_separator, hnames]
  next => exact names_separator _ _

theorem isAbsolute_join {base : Path} {name : String} (h : isAbsolute ⟨name⟩ = false) :
    (base.join name).isAbsolute = base.isAbsolute := by
  have hhead : ¬(name.toList.head? == some '/') = true := by simpa [isAbsolute] using h
  rw [join, if_neg hhead]
  split
  · rw [isAbsolute_append]
    split
    next hempty =>
      rw [h]
      simp [isAbsolute, hempty]
    next => rfl
  next hbase =>
    have hne : base.text ≠ "" := by
      intro hempty
      simp [hempty] at hbase
    rw [String.append_assoc, isAbsolute_append, if_neg hne]

/-- The base, a name behind it, and nothing or a separator in between. -/
theorem exists_text_join (base : Path) {name : String} (h : isAbsolute ⟨name⟩ = false) :
    ∃ between, (between = "" ∨ between = "/") ∧
      (base.join name).text = base.text ++ between ++ name := by
  have hhead : ¬(name.toList.head? == some '/') = true := by simpa [isAbsolute] using h
  rw [join, if_neg hhead]
  split
  · exact ⟨"", .inl rfl, by rw [String.append_empty]⟩
  · exact ⟨"/", .inr rfl, rfl⟩

/-- A joined path ends as the name does. -/
theorem endsInSeparator_join (base : Path) {name : String} (hne : name ≠ "") :
    (base.join name).endsInSeparator = endsInSeparator ⟨name⟩ := by
  cases h : isAbsolute ⟨name⟩ with
  | true => rw [join_of_isAbsolute h]
  | false =>
      obtain ⟨between, -, htext⟩ := exists_text_join base h
      have hne : name.toList ≠ [] := mt String.toList_eq_nil_iff.mp hne
      rw [endsInSeparator, endsInSeparator, htext, String.toList_append, List.getLast?_append,
        List.getLast?_eq_some_getLast hne, Option.some_or]

theorem hasNul_join {base : Path} {name : String} (hbase : base.hasNul = false)
    (hname : hasNul ⟨name⟩ = false) : (base.join name).hasNul = false := by
  cases h : isAbsolute ⟨name⟩ with
  | true => rwa [join_of_isAbsolute h]
  | false =>
      obtain ⟨between, hbetween, htext⟩ := exists_text_join base h
      have hnul : '\x00' ∉ between.toList := by rcases hbetween with rfl | rfl <;> decide
      simp only [hasNul, List.contains_eq_mem, decide_eq_false_iff_not] at hbase hname ⊢
      rw [htext]
      simp [String.toList_append, hbase, hname, hnul]

/-- A joined path is longer than its parts by a separator at most. -/
theorem utf8ByteSize_join (base : Path) (name : String) :
    (base.join name).text.utf8ByteSize ≤ base.text.utf8ByteSize + name.utf8ByteSize + 1 := by
  cases h : isAbsolute ⟨name⟩ with
  | true =>
      rw [join_of_isAbsolute h]
      exact Nat.le_succ_of_le (Nat.le_add_left ..)
  | false =>
      obtain ⟨between, hbetween, htext⟩ := exists_text_join base h
      have hsize : between.utf8ByteSize ≤ 1 := by rcases hbetween with rfl | rfl <;> decide
      rw [htext, String.utf8ByteSize_append, String.utf8ByteSize_append]
      omega

end Path
end ModuleDepot
