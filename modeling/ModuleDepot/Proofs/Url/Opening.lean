import ModuleDepot.Proofs.Basic
import ModuleDepot.Url.Parser

/-! # URLs with the same beginning

A text that is a URL of this program, with a slash at its end, begins many URLs. What is put behind
it belongs to the path: scheme and authority are read from the beginning, whatever comes behind
(`Opens`, `exists_opens`). Blanks and controls at the end of the text do not count as long as it
stands alone, but behind the slash they become part of what they follow.
-/

namespace ModuleDepot.Url

/-! ## What is read of a text -/

/-- Controls and the space, which do not count at the ends of a text. -/
def isEdge (c : Char) : Bool := c.toNat ≤ 0x20

/-- Tabs and line breaks, which do not count anywhere. -/
def isBreak (c : Char) : Bool := c == '\t' || c == '\n' || c == '\r'

/-- What is read of characters inside a text. -/
def visible (cs : List Char) : List Char := cs.filter (!isBreak ·)

/-- What is read of the blanks and controls at the end of characters, if more follows. -/
def trailing (cs : List Char) : List Char := visible (cs.reverse.takeWhile isEdge).reverse

/-- What is read of characters at the end of a text. -/
def tidied (cs : List Char) : List Char := visible (cs.reverse.dropWhile isEdge).reverse

theorem cleaned_eq (s : String) : cleaned s = tidied (s.toList.dropWhile isEdge) := rfl

theorem isEdge_iff {c : Char} : isEdge c = true ↔ c.toNat ≤ 0x20 := decide_eq_true_iff

theorem ne_of_isEdge {c d : Char} (hc : isEdge c = true) (hd : isEdge d = false) : c ≠ d := by
  rintro rfl
  cases hc.symm.trans hd

theorem isBreak_eq_false {c : Char} (h : isEdge c = false) : isBreak c = false := by
  rw [← Bool.not_eq_true]
  intro hbreak
  simp only [isBreak, Bool.or_eq_true, beq_iff_eq] at hbreak
  rcases hbreak with (rfl | rfl) | rfl <;> cases h

@[simp] theorem visible_append (a b : List Char) : visible (a ++ b) = visible a ++ visible b :=
  List.filter_append ..

theorem visible_cons {c : Char} (h : isBreak c = false) (cs : List Char) :
    visible (c :: cs) = c :: visible cs := by
  rw [visible, List.filter_cons_of_pos (by simp [h]), visible]

/-- Only the end of a text is tidied. -/
theorem tidied_append_cons {sep : Char} (h : isEdge sep = false) (a b : List Char) :
    tidied (a ++ sep :: b) = visible a ++ sep :: tidied b := by
  have hreverse : (a ++ sep :: b).reverse = b.reverse ++ sep :: a.reverse := by simp
  rw [tidied, hreverse, dropWhile_append_cons h, List.reverse_append, List.reverse_cons,
    List.reverse_reverse, List.append_assoc, visible_append, List.singleton_append,
    visible_cons (isBreak_eq_false h), tidied]

/-- What is read of a text that goes on is what is read of it and of what trails it. -/
theorem tidied_append_trailing (cs : List Char) : tidied cs ++ trailing cs = visible cs := by
  rw [tidied, trailing, ← visible_append, ← List.reverse_append,
    List.takeWhile_append_dropWhile, List.reverse_reverse]

theorem prefix_visible (cs : List Char) : tidied cs <+: visible cs :=
  ⟨_, tidied_append_trailing cs⟩

theorem mem_of_mem_tidied {c : Char} {cs : List Char} (h : c ∈ tidied cs) : c ∈ cs :=
  (List.filter_sublist).mem ((prefix_visible cs).mem h)

theorem trailing_eq_nil {cs : List Char} (h : ∀ c ∈ cs.getLast?, isEdge c = false) :
    trailing cs = [] := by
  have hstop : ([] ++ cs.reverse).takeWhile isEdge = [] :=
    takeWhile_stop nofun fun c hc => h c (by rwa [← List.head?_reverse])
  rw [List.nil_append] at hstop
  rw [trailing, hstop]
  rfl

theorem tidied_eq_visible {cs : List Char} (h : ∀ c ∈ cs.getLast?, isEdge c = false) :
    tidied cs = visible cs := by
  rw [← tidied_append_trailing, trailing_eq_nil h, List.append_nil]

theorem mem_visible {c : Char} (h : isBreak c = false) {cs : List Char} :
    c ∈ visible cs ↔ c ∈ cs := by
  simp [visible, h]

theorem mem_dropWhile_isEdge {c : Char} (h : isEdge c = false) {cs : List Char} :
    c ∈ cs.dropWhile isEdge ↔ c ∈ cs := by
  refine ⟨fun hmem => (List.dropWhile_sublist _).mem hmem, fun hmem => ?_⟩
  rw [← List.takeWhile_append_dropWhile (p := isEdge) (l := cs), List.mem_append] at hmem
  rcases hmem with hmem | hmem
  · cases h.symm.trans (List.mem_takeWhile_imp hmem)
  · exact hmem

/-- Characters that count everywhere are in what is read of a text if they are in the text. -/
theorem mem_cleaned {c : Char} (h : isEdge c = false) {s : String} :
    c ∈ cleaned s ↔ c ∈ s.toList := by
  rw [cleaned_eq, tidied, mem_visible (isBreak_eq_false h), List.mem_reverse,
    mem_dropWhile_isEdge h, List.mem_reverse, mem_dropWhile_isEdge h]

/-- What is read of a text with a slash in it. -/
theorem cleaned_separator (stem behind : String) :
    cleaned (stem ++ "/" ++ behind) =
      visible (stem.toList.dropWhile isEdge) ++ '/' :: tidied behind.toList := by
  have hslash : isEdge '/' = false := rfl
  have htext : (stem ++ "/" ++ behind).toList = stem.toList ++ '/' :: behind.toList := by simp
  rw [cleaned_eq, htext, dropWhile_append_cons hslash, tidied_append_cons hslash]

/-- The blanks and controls at the end of a text, which count as soon as it goes on. -/
def trail (s : String) : List Char := trailing (s.toList.dropWhile isEdge)

/-- What is read of a text that goes on behind a slash. -/
theorem cleaned_slash (s : String) : cleaned (s ++ "/") = cleaned s ++ (trail s ++ ['/']) := by
  have hslash := cleaned_separator s ""
  rwa [String.append_empty, ← tidied_append_trailing, List.append_assoc] at hslash

theorem trail_eq_nil {s : String} (h : ∀ c ∈ s.toList.getLast?, isEdge c = false) :
    trail s = [] := by
  refine trailing_eq_nil fun c hc => h c ?_
  obtain ⟨before, hbefore⟩ := List.dropWhile_suffix (l := s.toList) isEdge
  rw [← hbefore, List.getLast?_append, Option.mem_def.mp hc, Option.some_or]
  rfl

/-! ## The scheme -/

/-- A scheme starts with a letter, and a colon stands behind it. -/
theorem splitScheme_eq_some {cs rest : List Char} {scheme : String} :
    splitScheme cs = some (scheme, rest) ↔
      ∃ before, cs = before ++ ':' :: rest ∧ (∀ c ∈ before, inScheme c = true) ∧
        before.head?.any Char.isAlpha = true ∧
        String.ofList (before.map Char.toLower) = scheme := by
  constructor
  · intro h
    unfold splitScheme at h
    split at h
    next => cases h
    next first behind =>
      split at h
      next => cases h
      next halpha =>
        have hfirst : inScheme first = true := by
          simp only [Bool.not_eq_true, Bool.not_eq_false'] at halpha
          simp [inScheme, Char.isAlphanum, halpha]
        split at h
        next hstop =>
          cases h
          refine ⟨(first :: behind).takeWhile inScheme, ?_, fun _ => List.mem_takeWhile_imp, ?_,
            rfl⟩
          · rw [← hstop, List.takeWhile_append_dropWhile]
          · rw [List.takeWhile_cons_of_pos hfirst]
            simpa using halpha
        next => cases h
  · rintro ⟨before, rfl, hbefore, halpha, rfl⟩
    have hcolon : ∀ c ∈ (':' :: rest).head?, inScheme c = false := by simp; rfl
    cases before with
    | nil => cases halpha
    | cons first before =>
        rw [List.cons_append, splitScheme, if_neg (by simpa using halpha), ← List.cons_append,
          dropWhile_stop hbefore hcolon, takeWhile_stop hbefore hcolon]
        rfl

/-- What comes behind the scheme does not change it. -/
theorem splitScheme_append {cs rest : List Char} {scheme : String}
    (h : splitScheme cs = some (scheme, rest)) (behind : List Char) :
    splitScheme (cs ++ behind) = some (scheme, rest ++ behind) := by
  obtain ⟨before, rfl, hscheme⟩ := splitScheme_eq_some.mp h
  exact splitScheme_eq_some.mpr ⟨before, by simp, hscheme⟩

/-- What has no colon in it does not come before the end of the scheme. -/
theorem splitScheme_of_append {cs behind rest : List Char} {scheme : String}
    (h : splitScheme (cs ++ behind) = some (scheme, rest)) (hbehind : ':' ∉ behind) :
    ∃ rest', splitScheme cs = some (scheme, rest') ∧ rest = rest' ++ behind := by
  obtain ⟨before, hcs, hscheme⟩ := splitScheme_eq_some.mp h
  rcases List.append_eq_append_iff.mp hcs with ⟨more, -, rfl⟩ | ⟨more, rfl, hrest⟩
  · simp at hbehind
  · cases more with
    | nil =>
        rw [List.nil_append] at hrest
        exact absurd (hrest ▸ List.mem_cons_self) hbehind
    | cons colon more =>
        obtain ⟨rfl, rfl⟩ := List.cons.inj hrest
        exact ⟨more, splitScheme_eq_some.mpr ⟨before, rfl, hscheme⟩, rfl⟩

/-! ## The authority -/

theorem splitHost_append (inBrackets : Bool) (cs : List Char) :
    (splitHost inBrackets cs).1 ++ (splitHost inBrackets cs).2 = cs := by
  induction cs generalizing inBrackets with
  | nil => rfl
  | cons c cs ih =>
      rw [splitHost]
      split
      next => rfl
      next => exact congrArg (c :: ·) (ih _)

theorem mem_of_mem_splitUserInfo {c : Char} {cs : List Char} (h : c ∈ (splitUserInfo cs).2) :
    c ∈ cs := by
  rw [splitUserInfo] at h
  split at h
  next =>
    dsimp only at h
    exact List.mem_reverse.mp ((List.takeWhile_sublist _).mem (List.mem_reverse.mp h))
  next => exact h

/-- Reading an authority keeps the scheme. Without a backslash nothing of it is left for the path.
-/
theorem readAuthority_eq_ok {u v : Url} {cs behind : List Char}
    (h : readAuthority u cs = .ok (v, behind)) :
    v.scheme = u.scheme ∧ ('\\' ∉ cs → behind = []) := by
  have hbehind : '\\' ∉ cs →
      (splitHost false (splitUserInfo cs).2).2.tail.dropWhile (· != '\\') = [] := by
    intro hnone
    rw [List.dropWhile_eq_nil_iff]
    intro c hc
    rw [bne_iff_ne]
    rintro rfl
    refine hnone (mem_of_mem_splitUserInfo ?_)
    rw [← splitHost_append false (splitUserInfo cs).2]
    exact List.mem_append_right _ (List.mem_of_mem_tail hc)
  unfold readAuthority at h
  dsimp only at h
  split at h
  next => cases h
  split at h
  all_goals
    obtain ⟨host, -, h⟩ := ok_of_bind h
    split at h
    next => cases h
    next =>
      obtain ⟨port, -, h⟩ := ok_of_bind h
      cases h
      exact ⟨rfl, hbehind⟩

/-- Credentials alone make no authority. -/
theorem readAuthority_credentials {u : Url} (hu : isSpecial u.scheme = true) :
    readAuthority u ['@'] = .error .emptyHost := by
  have hsplit : splitUserInfo ['@'] = (some [], []) := by decide
  unfold readAuthority
  simp [hsplit, splitHost, hu]
  rfl

/-- The owner of a URL is what its authority says, if it says anything. -/
def readOwner (u : Url) (authority : List Char) : Except UrlError Url :=
  if authority == ['@'] then .error .emptyHost else (readAuthority u authority).map Prod.fst

theorem scheme_of_readOwner {u v : Url} {authority : List Char}
    (h : readOwner u authority = .ok v) : v.scheme = u.scheme := by
  unfold readOwner at h
  split at h
  next => cases h
  next =>
    cases hread : readAuthority u authority with
    | error e =>
        rw [hread] at h
        cases h
    | ok result =>
        rw [hread] at h
        cases h
        exact (readAuthority_eq_ok hread).1

/-- What comes behind the authority is read as the path, whoever the owner is. -/
theorem readHierarchy_eq {u : Url} (hu : isSpecial u.scheme = true) {authority rest : List Char}
    (hauthority : ∀ c ∈ authority, endsAuthority true c = false)
    (hrest : ∃ c ∈ rest.head?, endsAuthority true c = true) :
    readHierarchy u (authority ++ rest) = (readOwner u authority).map (readPath · rest) := by
  obtain ⟨first, hfirst, hends⟩ := hrest
  have hstop : ∀ c ∈ rest.head?, (!endsAuthority true c) = false := fun c hc => by
    cases (Option.mem_unique hc hfirst : c = first)
    rw [hends]
    rfl
  have hkeep : ∀ c ∈ authority, (!endsAuthority true c) = true := fun c hc => by
    rw [hauthority c hc]
    rfl
  have hne : rest.isEmpty = false := by
    cases rest with
    | nil => cases hfirst
    | cons => rfl
  have hbackslash : '\\' ∉ authority := fun hmem => absurd (hauthority _ hmem) (by decide)
  unfold readHierarchy readOwner
  dsimp only
  rw [hu, takeWhile_stop hkeep hstop, dropWhile_stop hkeep hstop, hne]
  split
  next hcredentials => rw [if_pos (by simpa using hcredentials)]; rfl
  next hcredentials =>
    rw [if_neg (by simpa using hcredentials)]
    cases hread : readAuthority u authority with
    | error e => rfl
    | ok result =>
        obtain ⟨v, behind⟩ := result
        rw [(readAuthority_eq_ok hread).2 hbackslash]
        rfl

/-- A URL has an owner, even if nothing comes behind the authority. -/
theorem exists_owner_of_readHierarchy {u v : Url} (hu : isSpecial u.scheme = true)
    {cs : List Char} (h : readHierarchy u cs = .ok v) :
    ∃ owner, readOwner u (cs.takeWhile (!endsAuthority true ·)) = .ok owner := by
  unfold readHierarchy at h
  dsimp only at h
  rw [hu] at h
  split at h
  next => cases h
  obtain ⟨⟨owner, behind⟩, hread, -⟩ := ok_of_bind h
  refine ⟨owner, ?_⟩
  unfold readOwner
  split
  next hcredentials =>
    rw [eq_of_beq hcredentials, readAuthority_credentials hu] at hread
    cases hread
  next => rw [hread]; rfl

/-! ## URLs of this program -/

theorem scheme_of_readHierarchy {u v : Url} {cs : List Char} (h : readHierarchy u cs = .ok v) :
    v.scheme = u.scheme := by
  unfold readHierarchy at h
  dsimp only at h
  split at h
  next => cases h
  obtain ⟨⟨owner, behind⟩, hread, h⟩ := ok_of_bind h
  cases h
  exact (readAuthority_eq_ok hread).1

theorem scheme_readFilePath (host : Host) (cs : List Char) :
    (readFilePath host cs).scheme = "file" := by
  unfold readFilePath
  dsimp only
  split <;> rfl

theorem scheme_of_readFile {v : Url} {cs : List Char} (h : readFile cs = .ok v) :
    v.scheme = "file" := by
  unfold readFile at h
  split at h
  next =>
    split at h
    next => cases h; exact scheme_readFilePath ..
    split at h
    next => cases h; exact scheme_readFilePath ..
    dsimp only at h
    split at h
    all_goals
      obtain ⟨host, -, h⟩ := ok_of_bind h
      cases h
      exact scheme_readFilePath ..
  next => cases h; exact scheme_readFilePath ..

/-- A URL has the scheme that its text starts with. -/
theorem scheme_of_readBehindScheme {scheme : String} {v : Url} {rest : List Char}
    (h : readBehindScheme scheme rest = .ok v) : v.scheme = scheme := by
  unfold readBehindScheme at h
  split at h
  next hfile => exact (scheme_of_readFile h).trans (eq_of_beq hfile).symm
  split at h
  next => exact scheme_of_readHierarchy h
  split at h
  next => exact scheme_of_readHierarchy h
  next => cases h; rfl
  next => cases h; rfl

/-- The schemes whose URLs this program requests. -/
def IsWeb (scheme : String) : Prop := scheme = "http" ∨ scheme = "https"

theorem isHttp_iff {u : Url} : u.isHttp = true ↔ IsWeb u.scheme := by
  simp [isHttp, IsWeb]

theorem IsWeb.isSpecial {scheme : String} (h : IsWeb scheme) : isSpecial scheme = true := by
  rcases h with rfl | rfl <;> decide

theorem IsWeb.ne_file {scheme : String} (h : IsWeb scheme) : scheme ≠ "file" := by
  rcases h with rfl | rfl <;> decide

theorem parse_of_isWeb {s scheme : String} {rest : List Char}
    (h : splitScheme (cleaned s) = some (scheme, rest)) (hweb : IsWeb scheme) :
    parse s = readHierarchy { scheme } (rest.dropWhile (isSlash true)) := by
  rw [parse, h]
  unfold readBehindScheme
  dsimp only
  rw [if_neg (by simpa using hweb.ne_file), if_pos hweb.isSpecial]

/-- Without an authority a URL of this program has no owner. -/
theorem readOwner_nil {u : Url} (hu : isSpecial u.scheme = true) :
    readOwner u [] = .error .emptyHost := by
  have hread : readAuthority u [] = .error .emptyHost := by
    unfold readAuthority
    simp [splitUserInfo, splitHost, hu]
    rfl
  rw [readOwner, if_neg (by decide), hread]
  rfl

theorem ne_nil_of_readOwner {u v : Url} (hu : isSpecial u.scheme = true) {cs : List Char}
    (h : readOwner u (cs.takeWhile (!endsAuthority true ·)) = .ok v) : cs ≠ [] := by
  rintro rfl
  rw [List.takeWhile_nil, readOwner_nil hu] at h
  cases h

/-- A URL of this program has an owner, which stands behind its scheme and the slashes there. -/
theorem exists_owner_of_parse {s : String} {u : Url} (h : Url.parse s = .ok u)
    (hweb : u.isHttp = true) :
    ∃ scheme rest, splitScheme (cleaned s) = some (scheme, rest) ∧ IsWeb scheme ∧ ∃ v,
      readOwner { scheme } ((rest.dropWhile (isSlash true)).takeWhile (!endsAuthority true ·)) =
        .ok v := by
  obtain ⟨scheme, rest, hsplit, hscheme⟩ : ∃ scheme rest,
      splitScheme (cleaned s) = some (scheme, rest) ∧ u.scheme = scheme := by
    rw [Url.parse] at h
    split at h
    next => cases h
    next scheme rest hsplit => exact ⟨scheme, rest, hsplit, scheme_of_readBehindScheme h⟩
  have hscheme : IsWeb scheme := hscheme ▸ isHttp_iff.mp hweb
  rw [parse_of_isWeb hsplit hscheme] at h
  exact ⟨scheme, rest, hsplit, hscheme, exists_owner_of_readHierarchy hscheme.isSpecial h⟩

/-- A slash behind a URL adds to what is read, but does not take anything away. -/
theorem exists_cleaned_append {root stem : String} (hstem : root = stem ++ "/" ∨ root = stem) :
    ∃ more, cleaned (stem ++ "/") = cleaned root ++ more ∧
      ((∀ c ∈ root.toList.getLast?, isEdge c = false) → more = [] ∨ more = ['/']) := by
  rcases hstem with rfl | rfl
  · exact ⟨[], (List.append_nil _).symm, fun _ => .inl rfl⟩
  · exact ⟨_, cleaned_slash root, fun hlast => .inr (by rw [trail_eq_nil hlast, List.nil_append])⟩

/-- What a text with a slash at its end says of the URLs that it begins: their scheme and owner, and
the beginning of their paths. Nothing that is put behind it changes these. -/
structure Opens (root scheme : String) (owner : Except UrlError Url) (start : List Char) :
    Prop where
  isWeb : IsWeb scheme
  parse : ∀ t, Url.parse (root ++ t) = owner.map (readPath · (start ++ tidied t.toList))
  scheme : ∀ u, owner = .ok u → u.scheme = scheme
  first : ∃ c ∈ start.head?, endsAuthority true c = true
  last : ∃ before, start = before ++ ['/']
  marks : ∀ c, c = '?' ∨ c = '#' → (c ∈ start ↔ c ∈ root.toList)

/-- What a slash ends has an authority and the start of a path. -/
theorem exists_start (init : List Char) :
    ∃ start, init ++ ['/'] = init.takeWhile (!endsAuthority true ·) ++ start ∧
      (∃ c ∈ start.head?, endsAuthority true c = true) ∧ ∃ before, start = before ++ ['/'] := by
  refine ⟨init.dropWhile (!endsAuthority true ·) ++ ['/'], ?_, ?_, _, rfl⟩
  · rw [← List.append_assoc, List.takeWhile_append_dropWhile]
  · have hfirst := List.head?_dropWhile_not (!endsAuthority true ·) init
    cases hdrop : init.dropWhile (!endsAuthority true ·) with
    | nil => exact ⟨'/', rfl, rfl⟩
    | cons c rest =>
        rw [hdrop] at hfirst
        exact ⟨c, rfl, by simpa using hfirst⟩

/-- **A text that is a URL of this program begins others** as soon as it ends in a slash. Their
owner is that of the URL, unless a blank at the end of the text gets between the two. -/
theorem exists_opens {root stem : String} {u : Url} (h : Url.parse root = .ok u)
    (hweb : u.isHttp = true) (hstem : root = stem ++ "/" ∨ root = stem) :
    ∃ scheme owner start, Opens (stem ++ "/") scheme owner start ∧
      ((∀ c ∈ root.toList.getLast?, isEdge c = false) → ∃ v, owner = .ok v) := by
  obtain ⟨scheme, rest, hsplit, hscheme, v, hv⟩ := exists_owner_of_parse h hweb
  have hspecial := hscheme.isSpecial
  -- Behind the slashes stands an authority, which a slash behind the text does not change.
  have hne := ne_nil_of_readOwner hspecial hv
  obtain ⟨more, hmore, hsame⟩ := exists_cleaned_append hstem
  obtain ⟨before, hbefore, hinScheme, -⟩ := splitScheme_eq_some.mp hsplit
  have hslashes : ∀ t,
      (rest ++ t).dropWhile (isSlash true) = rest.dropWhile (isSlash true) ++ t := by
    intro t
    rw [List.dropWhile_append, if_neg (by simpa using hne)]
  obtain ⟨slashes, hslash, hrest⟩ : ∃ slashes, (∀ c ∈ slashes, isSlash true c = true) ∧
      rest = slashes ++ rest.dropWhile (isSlash true) :=
    ⟨_, fun _ => List.mem_takeWhile_imp, List.takeWhile_append_dropWhile.symm⟩
  generalize rest.dropWhile (isSlash true) = body at hne hslashes hrest hv
  have hwhole : cleaned (stem ++ "/") = before ++ ':' :: (slashes ++ (body ++ more)) := by
    rw [hmore, hbefore, hrest]
    simp
  have hslashed : cleaned (stem ++ "/") = visible (stem.toList.dropWhile isEdge) ++ ['/'] := by
    have := cleaned_separator stem ""
    rwa [String.append_empty] at this
  obtain ⟨init, hinit⟩ : ∃ init, body ++ more = init ++ ['/'] := by
    refine exists_concat_of_suffix (v := visible (stem.toList.dropWhile isEdge)) ?_ (by simp [hne])
    rw [← hslashed, hwhole]
    exact ⟨before ++ ':' :: slashes, by simp⟩
  obtain ⟨start, hparts, hstart, hlast⟩ := exists_start init
  have hauthority : ∀ c ∈ init.takeWhile (!endsAuthority true ·), endsAuthority true c = false :=
    fun c hc => by simpa using List.mem_takeWhile_imp hc
  have howner : (∀ c ∈ root.toList.getLast?, isEdge c = false) →
      readOwner { scheme } (init.takeWhile (!endsAuthority true ·)) = .ok v := by
    intro hedge
    rcases hsame hedge with rfl | rfl
    · rw [List.append_nil] at hinit
      rwa [hinit, takeWhile_append_cons (by decide)] at hv
    · rwa [(List.append_inj' hinit rfl).1] at hv
  generalize init.takeWhile (!endsAuthority true ·) = authority at hparts hauthority howner
  rw [hinit, hparts] at hwhole
  refine ⟨scheme, readOwner { scheme } authority, start, ⟨hscheme, fun t => ?_,
      fun _ => scheme_of_readOwner, hstart, hlast, fun c hc => ?_⟩, fun hedge => ⟨v, howner hedge⟩⟩
  · have hcleaned : cleaned (stem ++ "/" ++ t) = cleaned root ++ (more ++ tidied t.toList) := by
      rw [← List.append_assoc, ← hmore, hslashed, cleaned_separator]
      simp
    obtain ⟨first, hfirst, hends⟩ := hstart
    rw [parse_of_isWeb (hcleaned ▸ splitScheme_append hsplit _) hscheme, hslashes,
      ← List.append_assoc, hinit, hparts, List.append_assoc]
    refine readHierarchy_eq hspecial hauthority ⟨first, ?_, hends⟩
    rw [List.head?_append, Option.mem_def.mp hfirst]
    rfl
  · -- Neither the scheme nor the authority holds the sign of a query or of a fragment.
    have hnone : ∀ {p : Char → Bool} {cs : List Char}, (∀ x ∈ cs, p x = true) → p c = false →
        c ∉ cs := fun hp hfalse hmem => by
      rw [hp c hmem] at hfalse
      cases hfalse
    have hedge : isEdge c = false := by rcases hc with rfl | rfl <;> decide
    have hcolon : c ≠ ':' := by rcases hc with rfl | rfl <;> decide
    have hbefore' : c ∉ before := hnone hinScheme (by rcases hc with rfl | rfl <;> decide)
    have hslash' : c ∉ slashes := hnone hslash (by rcases hc with rfl | rfl <;> decide)
    have hauthority' : c ∉ authority := fun hmem =>
      absurd (hauthority c hmem) (by rcases hc with rfl | rfl <;> decide)
    rw [← mem_cleaned hedge, hwhole]
    simp [hauthority', hbefore', hslash', hcolon]

end ModuleDepot.Url
