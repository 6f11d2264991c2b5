import ModuleDepot.Proofs.Url.Opening

/-! # Following a path

The path of a URL is made segment by segment. All segments but the last do to the names before them
what `passBy` does, so that a path which goes on is followed from the names where it stood
(`followSegments_append`). A text that begins URLs has such names; what is put behind it is followed
from them, if neither holds the sign of a query or of a fragment (`Opens.exists_names`).
-/

namespace ModuleDepot.Url

/-! ## Query and fragment -/

/-- A path with neither sign is all there is. -/
theorem splitQuery_of_not_mem {cs : List Char} (h : '?' ∉ cs ∧ '#' ∉ cs) :
    splitQuery cs = (cs, none, none) := by
  have hmarks : ∀ c ∈ cs, (c != '?' && c != '#') = true := fun c hc => by
    rw [Bool.and_eq_true, bne_iff_ne, bne_iff_ne]
    exact ⟨fun heq => h.1 (heq ▸ hc), fun heq => h.2 (heq ▸ hc)⟩
  have hdrop : cs.dropWhile (fun c => c != '?' && c != '#') = [] :=
    List.dropWhile_eq_nil_iff.mpr hmarks
  have htake : cs.takeWhile (fun c => c != '?' && c != '#') = cs :=
    List.takeWhile_eq_self_iff.mpr hmarks
  rw [splitQuery]
  dsimp only
  rw [hdrop, htake]

/-- The first sign is found, whichever it is. -/
theorem splitQuery_of_mem {cs : List Char} (h : '?' ∈ cs ∨ '#' ∈ cs) :
    (splitQuery cs).2.1.isSome = true ∨ (splitQuery cs).2.2.isSome = true := by
  have hstop := List.head?_dropWhile_not (fun c => c != '?' && c != '#') cs
  have hne : cs.dropWhile (fun c => c != '?' && c != '#') ≠ [] := by
    intro hnil
    have hmarks := List.dropWhile_eq_nil_iff.mp hnil
    rcases h with h | h
    · exact absurd (hmarks _ h) (by decide)
    · exact absurd (hmarks _ h) (by decide)
  obtain ⟨c, rest, hdrop⟩ := List.exists_cons_of_ne_nil hne
  rw [hdrop] at hstop
  rw [splitQuery]
  dsimp only
  rw [hdrop]
  by_cases hquery : c = '?'
  · subst hquery
    exact .inl rfl
  · have hfragment : c = '#' := by simpa [hquery] using hstop
    subst hfragment
    exact .inr rfl

/-- A URL has neither query nor fragment exactly if what comes behind the authority has no sign of
them. -/
theorem readPath_marks {u : Url} {cs : List Char} :
    (readPath u cs).query = none ∧ (readPath u cs).fragment = none ↔ '?' ∉ cs ∧ '#' ∉ cs := by
  have hquery : (readPath u cs).query = none ↔ (splitQuery cs).2.1 = none := Option.map_eq_none_iff
  have hfragment : (readPath u cs).fragment = none ↔ (splitQuery cs).2.2 = none :=
    Option.map_eq_none_iff
  rw [hquery, hfragment]
  constructor
  · intro hnone
    rw [← not_or]
    intro hmem
    rcases splitQuery_of_mem hmem with hsome | hsome
    · rw [hnone.1] at hsome
      cases hsome
    · rw [hnone.2] at hsome
      cases hsome
  · intro hmem
    rw [splitQuery_of_not_mem hmem]
    exact ⟨rfl, rfl⟩

/-- A path with neither sign is followed from the slash that it starts with. -/
theorem readPath_eq {u : Url} {first : Char} {cs : List Char}
    (hfirst : isSlash (isSpecial u.scheme) first = true)
    (h : '?' ∉ first :: cs ∧ '#' ∉ first :: cs) :
    readPath u (first :: cs) =
      { u with
        path := .segments (followPath u.scheme [] cs)
        query := none
        fragment := none } := by
  rw [readPath, splitQuery_of_not_mem h]
  simp [withQuery, hfirst]

/-! ## Segments -/

/-- What a segment that is not the last one makes of the names before it, last first. -/
def passBy (scheme : String) (names : List String) (segment : List Char) : List String :=
  if isDoubleDot segment then above names
  else if isDot segment then names
  else nameOf scheme names segment :: names

variable {scheme : String}

theorem followSegments_cons {rest : List (List Char)} (h : rest ≠ []) (names : List String)
    (segment : List Char) :
    followSegments scheme names (segment :: rest) =
      followSegments scheme (passBy scheme names segment) rest := by
  obtain ⟨next, rest, rfl⟩ := List.exists_cons_of_ne_nil h
  rw [followSegments, passBy]
  · split
    next => rfl
    next => split <;> rfl
  · nofun

/-- **What comes later is followed from where the path stood.** -/
theorem followSegments_append {back : List (List Char)} (h : back ≠ []) (names : List String)
    (front : List (List Char)) :
    followSegments scheme names (front ++ back) =
      followSegments scheme (front.foldl (passBy scheme) names) back := by
  induction front generalizing names with
  | nil => rfl
  | cons segment front ih =>
      rw [List.cons_append, followSegments_cons (by simp [h]), ih, List.foldl_cons]

/-- Only in the path of a file a name is not just what the segment is written as. -/
theorem nameOf_eq (h : scheme ≠ "file") (names : List String) (segment : List Char) :
    nameOf scheme names segment = encode inPath segment := by
  unfold nameOf
  split
  next => rw [if_neg (by simp [h])]
  next => rfl

theorem utf8_ne_nil (c : Char) : Text.utf8 (String.singleton c) ≠ [] := by
  intro h
  have hsize : (String.singleton c).utf8ByteSize = 0 := congrArg List.length h
  rw [String.utf8ByteSize_eq_zero_iff] at hsize
  have hchars := congrArg String.toList hsize
  simp at hchars

/-- No character is left out when a text is encoded. -/
theorem encode_eq_empty {reserved : Char → Bool} {cs : List Char}
    (h : encode reserved cs = "") : cs = [] := by
  rw [encode, String.ofList_eq_empty_iff, encodeChars, List.flatMap_eq_nil_iff] at h
  rw [List.eq_nil_iff_forall_not_mem]
  intro c hc
  have hnil := h c hc
  split at hnil
  next =>
    rw [List.flatMap_eq_nil_iff] at hnil
    obtain ⟨b, bytes, hbytes⟩ := List.exists_cons_of_ne_nil (utf8_ne_nil c)
    have := hnil b (by rw [hbytes]; exact List.mem_cons_self)
    cases this
  next => cases hnil

theorem splitSegments_ne_nil (special : Bool) (cs : List Char) : splitSegments special cs ≠ [] :=
  List.splitOnP_ne_nil _ cs

theorem splitSegments_append_cons {special : Bool} {slash : Char}
    (h : isSlash special slash = true) (a b : List Char) :
    splitSegments special (a ++ slash :: b) = splitSegments special a ++ splitSegments special b :=
  List.splitOnP_append_cons a b h

/-- **What is put behind a text that begins URLs is followed from the same names**, whatever it is.
-/
theorem Opens.exists_names {root : String} {owner : Except UrlError Url} {start : List Char}
    (h : Opens root scheme owner start) (hroot : '?' ∉ root.toList ∧ '#' ∉ root.toList) :
    ∃ names, ∀ t : String, '?' ∉ t.toList ∧ '#' ∉ t.toList →
      Url.parse (root ++ t) = owner.map fun u =>
        { u with
          path := .segments
            (followSegments scheme names (splitSegments true (tidied t.toList))).reverse
          query := none
          fragment := none } := by
  obtain ⟨first, hfirst, hends⟩ := h.first
  obtain ⟨rest, rfl⟩ := List.head?_eq_some_iff.mp hfirst
  have hmarks : '?' ∉ first :: rest ∧ '#' ∉ first :: rest :=
    ⟨mt (h.marks _ (.inl rfl)).mp hroot.1, mt (h.marks _ (.inr rfl)).mp hroot.2⟩
  have hslash : isSlash true first = true := by
    have hquery : first ≠ '?' := fun heq => hmarks.1 (heq ▸ List.mem_cons_self)
    have hfragment : first ≠ '#' := fun heq => hmarks.2 (heq ▸ List.mem_cons_self)
    simpa [endsAuthority, hquery, hfragment] using hends
  -- Behind the first slash there is nothing, or something that ends in a slash.
  obtain ⟨front, hfront⟩ : ∃ front, ∀ cs, splitSegments true (rest ++ cs) =
      front ++ splitSegments true cs := by
    obtain ⟨before, hbefore⟩ := h.last
    cases before with
    | nil =>
        obtain rfl : rest = [] := (List.cons.inj hbefore).2
        exact ⟨[], fun _ => rfl⟩
    | cons _ before =>
        obtain rfl : rest = before ++ ['/'] := (List.cons.inj hbefore).2
        refine ⟨splitSegments true before, fun cs => ?_⟩
        rw [List.append_assoc]
        exact splitSegments_append_cons rfl before cs
  refine ⟨front.foldl (passBy scheme) [], fun t ht => ?_⟩
  have hmem : ∀ {c : Char}, c ∉ t.toList → c ∉ tidied t.toList := mt mem_of_mem_tidied
  rw [h.parse t]
  cases howner : owner with
  | error e => rfl
  | ok u =>
      have hscheme := h.scheme u howner
      have hspecial : isSpecial u.scheme = true := by rw [hscheme]; exact h.isWeb.isSpecial
      have hnames : '?' ∉ first :: (rest ++ tidied t.toList) ∧
          '#' ∉ first :: (rest ++ tidied t.toList) := by
        rw [← List.cons_append, List.mem_append, List.mem_append, not_or, not_or]
        exact ⟨⟨hmarks.1, hmem ht.1⟩, hmarks.2, hmem ht.2⟩
      refine congrArg Except.ok ?_
      dsimp only
      rw [List.cons_append, readPath_eq (by rw [hspecial]; exact hslash) hnames, followPath,
        hspecial, hfront, hscheme, List.reverse_nil,
        followSegments_append (splitSegments_ne_nil true _)]

end ModuleDepot.Url
