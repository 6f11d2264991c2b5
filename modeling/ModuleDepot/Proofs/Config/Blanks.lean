import ModuleDepot.Proofs.Config.Layers

/-! # Blanks around values

A settings file and the environment can give the same text to a part of a configuration. Blank texts
count as not given in both. Any other text is taken from the file without the blanks around it, and
from a variable as it is. So a text gives the same in both places if and only if there are no blanks
around it, unless the load fails for a reason that has nothing to do with the part
(`texts_alike_exactly_if_trimmed`).

With a root URL this is not obvious, since it gets a slash at its end and the blanks in front of the
slash could get lost. They do not (`slashTerminated_trim`).
-/

namespace ModuleDepot

/-! ## Trimmed texts -/

namespace Text

theorem all_dropWhile {α : Type} (p : α → Bool) (l : List α) : (l.dropWhile p).all p = l.all p := by
  induction l with
  | nil => rfl
  | cons a l ih =>
      by_cases h : p a = true
      · rw [List.dropWhile_cons_of_pos h, ih, List.all_cons, h, Bool.true_and]
      · rw [List.dropWhile_cons_of_neg h]

theorem isBlankText_trim (text : String) : isBlankText (trim text) = isBlankText text := by
  simp only [isBlankText, trim, trimChars, trimEnd, String.toList_ofList, List.all_reverse,
    all_dropWhile]

theorem trimChars_infix (cs : List Char) : trimChars cs <:+: cs := by
  have hend : trimEnd (cs.dropWhile isBlank) <+: cs.dropWhile isBlank := by
    rw [← List.reverse_suffix, trimEnd, List.reverse_reverse]
    exact List.dropWhile_suffix _
  exact hend.isInfix.trans (List.dropWhile_suffix _).isInfix

/-- A character at the end that is not blank stays there. -/
theorem getLast?_trimChars {cs : List Char} {c : Char} (hc : isBlank c = false)
    (h : cs.getLast? = some c) : (trimChars cs).getLast? = some c := by
  have hlast : (cs.dropWhile isBlank).getLast? = some c := by
    have hrest : cs.dropWhile isBlank ≠ [] := by
      rw [Ne, List.dropWhile_eq_nil_iff]
      intro hall
      exact Bool.false_ne_true (hc.symm.trans (hall c (List.mem_of_getLast? h)))
    rw [← List.takeWhile_append_dropWhile (p := isBlank) (l := cs),
      List.getLast?_append_of_ne_nil _ hrest] at h
    exact h
  obtain ⟨init, hinit⟩ := List.getLast?_eq_some_iff.mp hlast
  rw [trimChars, trimEnd, hinit, List.reverse_append, List.reverse_singleton, List.singleton_append,
    List.dropWhile_cons_of_neg (by simp [hc]), List.reverse_cons, List.reverse_reverse,
    List.getLast?_append_cons, List.getLast?_singleton]

end Text

/-- **A slash does not make up for blanks.** -/
theorem HttpRepository.slashTerminated_trim {url : String}
    (h : slashTerminated (Text.trim url) = slashTerminated url) : Text.trim url = url := by
  have hinfix := Text.trimChars_infix url.toList
  have htrimmed : (Text.trim url).toList = Text.trimChars url.toList := String.toList_ofList
  by_contra hne
  have hshorter : (Text.trim url).length < url.length := by
    rw [← String.length_toList, ← String.length_toList, htrimmed]
    refine Nat.lt_of_le_of_ne hinfix.length_le fun hlength => hne ?_
    rw [Text.trim, hinfix.eq_of_length hlength, String.ofList_toList]
  by_cases hslash : url.toList.getLast? = some '/'
  · -- The slash stays at the end, so neither text gets another one.
    have hstays := Text.getLast?_trimChars (by decide) hslash
    rw [← htrimmed] at hstays
    have hlong : slashTerminated url = url := if_pos (beq_iff_eq.mpr hslash)
    have hshort : slashTerminated (Text.trim url) = Text.trim url := if_pos (beq_iff_eq.mpr hstays)
    exact hne (hshort.symm.trans (h.trans hlong))
  · -- The slash is put behind the longer text, at least.
    have hlong : slashTerminated url = url ++ "/" := if_neg (mt beq_iff_eq.mp hslash)
    have hlengths := congrArg String.length h
    rw [hlong, String.length_append, slashTerminated] at hlengths
    split at hlengths
    · omega
    · rw [String.length_append] at hlengths
      omega

namespace Sources

variable {s s' : Sources} {p : Part} {text text' : String}

/-! ## The same text in the file and in a variable -/

/-- A place is the only one of a part where something is given. -/
structure Alone (s : Sources) (p : Part) (place : Place) : Prop where
  mem : place ∈ p.places
  others : ∀ other ∈ p.places, other ≠ place → Settings.given (s.value other) = none

/-- The first value is the one that is given alone. -/
theorem Alone.first {place : Place} (h : s.Alone p place) :
    s.first p = Settings.given (s.value place) := by
  obtain ⟨hmem, hothers⟩ := h
  have hnone : ∀ places : List Place,
      (∀ other ∈ places, Settings.given (s.value other) = none) → s.firstIn places = none := by
    intro places hplaces
    induction places with
    | nil => rfl
    | cons other rest ih =>
        rw [firstIn, hplaces other List.mem_cons_self, Option.none_or]
        exact ih fun other hother => hplaces other (List.mem_cons_of_mem _ hother)
  rw [Sources.first]
  generalize p.places = places at hmem hothers
  induction places with
  | nil => cases hmem
  | cons head rest ih =>
      rw [firstIn]
      have hrest : ∀ other ∈ rest, other ≠ place → Settings.given (s.value other) = none :=
        fun other hother => hothers other (List.mem_cons_of_mem _ hother)
      by_cases hhead : head = place
      · subst hhead
        cases hgiven : Settings.given (s.value head) with
        | some value => rfl
        | none =>
            refine hnone rest fun other hother => ?_
            by_cases heq : other = head
            · rw [heq, hgiven]
            · exact hrest other hother heq
      · rw [hothers head List.mem_cons_self hhead, Option.none_or]
        exact ih ((List.mem_cons.mp hmem).resolve_left (Ne.symm hhead)) hrest

/-- A part is given a text in the file by one source and a text in a variable by the other, and
nothing else. All other parts are given the same by both. -/
structure Parallel (s s' : Sources) (p : Part) (text text' : String) : Prop where
  isText : p ≠ .timeout
  inFile : ∃ heading name, s.Alone p (.key heading name) ∧
    s.document.get? heading name = some text
  inVariable : ∃ v, s'.Alone p (.variable v) ∧ s'.values v = some text'
  elsewhere : ∀ q ≠ p, ∀ place ∈ q.places, s.value place = s'.value place

namespace Parallel

theorem first_file (h : Parallel s s' p text text') :
    s.first p = Settings.given (some (Text.trim text)) := by
  obtain ⟨heading, name, halone, htext⟩ := h.inFile
  rw [halone.first, value, htext, Option.map_some]

theorem first_variable (h : Parallel s s' p text text') :
    s'.first p = Settings.given (some text') := by
  obtain ⟨v, halone, htext⟩ := h.inVariable
  rw [halone.first, value, htext]

/-- Numbers are given the same. -/
theorem unreadable?_eq (h : Parallel s s' p text text') : s.unreadable? = s'.unreadable? := by
  -- A part with both a key and a variable is the timeout, or no number.
  obtain ⟨v, ⟨hv, -⟩, -⟩ := h.inVariable
  have hnumbers : ∀ q ∈ Part.numbers, q.1 ≠ p ∧ q.2 ∈ q.1.places := by
    have htext := h.isText
    cases p <;> simp_all [Part.places, Part.numbers]
  rw [unreadable?, unreadable?, ← List.head?_filterMap, ← List.head?_filterMap]
  congr 1
  refine List.filterMap_congr fun q hq => ?_
  obtain ⟨hpart, hplace⟩ := hnumbers q hq
  dsimp only
  rw [fault?, fault?, h.elsewhere q.1 hpart q.2 hplace]

/-- Only these parts are texts that both a file and variables can give. -/
theorem part_cases (h : Parallel s s' p text text') :
    p = .rootUrl ∨ p = .repositoryVersion ∨ p = .cacheRoot := by
  obtain ⟨v, ⟨hv, -⟩, -⟩ := h.inVariable
  have htext := h.isText
  cases p <;> simp_all [Part.places]

/-- Every part is given the same if this one is. -/
theorem first_congr (h : Parallel s s' p text text') (hp : s.first p = s'.first p) (q : Part) :
    s.first q = s'.first q := by
  by_cases hq : q = p
  · exact hq ▸ hp
  · exact Sources.first_congr (h.elsewhere q hq)

end Parallel

/-! ## What is loaded -/

variable {t t' : FileTree} {file file' : Option Path}

/-- What is given the same is loaded the same. -/
theorem load_congr (hs : Reads t file s.document) (hs' : Reads t' file' s'.document)
    (hread : s.unreadable? = s'.unreadable?) (hfirst : ∀ q, s.first q = s'.first q) :
    Config.load t file s.values = Config.load t' file' s'.values := by
  have hsettings : s.settings = s'.settings := by
    simp only [settings, number?, hfirst]
  rw [load_eq hs, load_eq hs', hread, hsettings]

end Sources

/-- The part that an error is about, if it is about what that part is given. -/
def ConfigError.part? : ConfigError → Option Part
  | .noCacheRoot => some .cacheRoot
  | .badRootUrl _ _ => some .rootUrl
  | .badVersion _ => some .repositoryVersion
  | _ => none

/-- Why a configuration is refused: it has an empty cache root, or the error shows its root URL or
its version. -/
theorem Config.validate_eq_error {c : Config} {e : ConfigError} (h : c.validate = .error e) :
    (e = .noCacheRoot ∧ c.cacheRoot.text = "") ∨ (∃ reason, e = .badRootUrl c.rootUrl reason) ∨
      e = .badVersion c.repositoryVersion := by
  unfold validate at h
  split at h
  next hroot =>
    cases h
    exact .inl ⟨rfl, by simpa using hroot⟩
  next =>
    split at h
    next reason _ =>
      cases h
      exact .inr (.inl ⟨reason, rfl⟩)
    next =>
      split at h
      next => cases h
      next =>
        cases h
        exact .inr (.inr rfl)

namespace Sources

variable {s s' : Sources} {p : Part} {text text' : String} {t t' : FileTree}
  {file file' : Option Path}

/-- A configuration has the text that a part is given, its root URL with a slash at the end. -/
def Shows (p : Part) (c : Config) (text : String) : Prop :=
  match p with
  | .rootUrl => c.rootUrl = HttpRepository.slashTerminated text
  | .repositoryVersion => c.repositoryVersion = text
  | .cacheRoot => c.cacheRoot = ⟨text⟩
  | _ => True

/-- What a part is given can be told from what is loaded, unless that is an error about something
else. -/
theorem shows_of_load (hs : Reads t file s.document) (hp : s.first p = some text)
    (hblank : Text.isBlankText text = false) :
    (∃ c, Config.load t file s.values = .ok c ∧ Shows p c text) ∨
    ∃ e, Config.load t file s.values = .error e ∧ (e.part? = some p →
      (∃ reason, e = .badRootUrl text reason) ∨ e = .badVersion text) := by
  cases hread : s.unreadable? with
  | some fault => exact .inr ⟨_, load_of_unreadable hs hread, nofun⟩
  | none =>
  by_cases hroot : s.first .cacheRoot = none
  · refine .inr ⟨_, load_of_rootless hs hread hroot, fun hpart => ?_⟩
    obtain rfl : Part.cacheRoot = p := Option.some.inj hpart
    cases hp.symm.trans hroot
  obtain ⟨given, hgiven, hload⟩ := exists_gives hs hread hroot
  rw [hload]
  cases hvalid : given.validate with
  | ok c =>
      refine .inl ⟨c, rfl, ?_⟩
      rw [Config.eq_of_validate hvalid]
      cases p with
      | rootUrl =>
          have hurl : given.rootUrl = text := by rw [hgiven.rootUrl, hp, Option.getD_some]
          exact congrArg HttpRepository.slashTerminated hurl
      | repositoryVersion => exact hgiven.repositoryVersion.trans (by rw [hp, Option.getD_some])
      | cacheRoot => exact congrArg Path.mk (Option.some.inj (hgiven.cacheRoot.symm.trans hp))
      | _ => trivial
  | error e =>
      refine .inr ⟨e, rfl, fun hpart => ?_⟩
      rcases Config.validate_eq_error hvalid with ⟨rfl, hempty⟩ | ⟨reason, rfl⟩ | rfl
      · -- An empty cache root would be blank.
        obtain rfl : Part.cacheRoot = p := Option.some.inj hpart
        have htext := Option.some.inj (hgiven.cacheRoot.symm.trans hp)
        rw [← htext, hempty] at hblank
        cases hblank
      · obtain rfl : Part.rootUrl = p := Option.some.inj hpart
        exact .inl ⟨reason, by rw [hgiven.rootUrl, hp, Option.getD_some]⟩
      · obtain rfl : Part.repositoryVersion = p := Option.some.inj hpart
        exact .inr (by rw [hgiven.repositoryVersion, hp, Option.getD_some])

/-- What is loaded the same was given the same but for a slash, unless it is an error about
something else. -/
theorem slashTerminated_eq_of_load_eq (hs : Reads t file s.document)
    (hs' : Reads t' file' s'.document)
    (hpart : p = .rootUrl ∨ p = .repositoryVersion ∨ p = .cacheRoot)
    (hp : s.first p = some text) (hblank : Text.isBlankText text = false)
    (hp' : s'.first p = some text') (hblank' : Text.isBlankText text' = false)
    (heq : Config.load t file s.values = Config.load t' file' s'.values) :
    HttpRepository.slashTerminated text = HttpRepository.slashTerminated text' ∨
    ∃ e, e.part? ≠ some p ∧ Config.load t file s.values = .error e ∧
      Config.load t' file' s'.values = .error e := by
  rcases shows_of_load hs hp hblank with ⟨c, hc, hshows⟩ | ⟨e, he, hshows⟩
  · rcases shows_of_load hs' hp' hblank' with ⟨c', hc', hshows'⟩ | ⟨e, he, -⟩
    · obtain rfl : c = c' := Except.ok.inj (hc.symm.trans (heq.trans hc'))
      refine .inl ?_
      rcases hpart with rfl | rfl | rfl
      · exact hshows.symm.trans hshows'
      · exact congrArg _ (hshows.symm.trans hshows')
      · exact congrArg _ (Path.mk.inj (hshows.symm.trans hshows'))
    · cases (hc.symm.trans heq).trans he
  · have he' := heq.symm.trans he
    by_cases hsome : e.part? = some p
    · rcases shows_of_load hs' hp' hblank' with ⟨c', hc', -⟩ | ⟨e', he'', hshows'⟩
      · cases he'.symm.trans hc'
      obtain rfl : e = e' := Except.error.inj (he'.symm.trans he'')
      refine .inl (congrArg _ ?_)
      rcases hshows hsome with ⟨reason, rfl⟩ | rfl
      · rcases hshows' hsome with ⟨_, hurl⟩ | hversion
        · exact (ConfigError.badRootUrl.inj hurl).1
        · cases hversion
      · rcases hshows' hsome with ⟨_, hurl⟩ | hversion
        · cases hurl
        · exact ConfigError.badVersion.inj hversion
    · exact .inr ⟨e, hsome, he, he'⟩

/-- **A text gives the same in the file and in a variable exactly if no blanks are around it.** Let
a part be given a text in the file alone, or else in a variable alone, and let all other parts be
given the same. The same configuration is loaded, or the same error, if the variable has the text
without the blanks around it. If it has the text as it is in the file, this is so for a blank text
and for one without blanks around it. Otherwise what is loaded differs, unless both fail for a
reason that the part has nothing to do with. -/
theorem texts_alike_exactly_if_trimmed (h : s.Parallel s' p text text')
    (hs : Reads t file s.document) (hs' : Reads t' file' s'.document) :
    let fromFile := Config.load t file s.values
    let fromVariable := Config.load t' file' s'.values
    (text' = Text.trim text → fromFile = fromVariable) ∧
    (text' = text → (fromFile = fromVariable ↔
      Text.isBlankText text = true ∨ Text.trim text = text ∨
        ∃ e, e.part? ≠ some p ∧ fromFile = .error e ∧ fromVariable = .error e)) := by
  intro fromFile fromVariable
  have halike : s.first p = s'.first p → fromFile = fromVariable := fun hfirst =>
    load_congr hs hs' h.unreadable?_eq (h.first_congr hfirst)
  have hfile := h.first_file
  have hvariable := h.first_variable
  refine ⟨?_, ?_⟩
  · rintro rfl
    exact halike (hfile.trans hvariable.symm)
  rintro rfl
  constructor
  · intro heq
    cases hblank : Text.isBlankText text' with
    | true => exact .inl rfl
    | false =>
        have htrimmed : Text.isBlankText (Text.trim text') = false :=
          (Text.isBlankText_trim text').trans hblank
        rw [Settings.given_of_not_blank htrimmed] at hfile
        rw [Settings.given_of_not_blank hblank] at hvariable
        exact .inr ((slashTerminated_eq_of_load_eq hs hs' h.part_cases hfile htrimmed hvariable
          hblank heq).imp_left HttpRepository.slashTerminated_trim)
  · rintro (hblank | htrim | ⟨e, -, he, he'⟩)
    · have htrimmed : Text.isBlankText (Text.trim text') = true :=
        (Text.isBlankText_trim text').trans hblank
      rw [Settings.given_of_blank htrimmed] at hfile
      rw [Settings.given_of_blank hblank] at hvariable
      exact halike (hfile.trans hvariable.symm)
    · rw [htrim] at hfile
      exact halike (hfile.trans hvariable.symm)
    · exact he.trans he'.symm

end Sources

/-! ## A version between quotes -/

/-- A settings file with nothing but a version, between quotes. -/
def quotedFile : String := "[remote]\nrepository_version = \" 7.1 \"\n"

def quotedDocument : Ini.Document := [(some "remote", [("repository_version", " 7.1 ")])]

def quotedTree : FileTree := FileTree.empty.insert ["c.ini"] (.file (Text.utf8 quotedFile))

theorem reads_quotedFile : Reads quotedTree (some ⟨"/c.ini"⟩) quotedDocument :=
  .named (by decide +kernel) (ByteStream.contents_ofBytes _) (Text.readUtf8_utf8 quotedFile)
    (by decide +kernel)

/-- Variables that give a cache root, and perhaps a version. -/
def withVersion (version : Option String) : Variables
  | .cacheRoot => some "/c"
  | .repositoryVersion => version
  | _ => none

/-- The version of the file, and some version of a variable. -/
theorem parallel_quotedFile (version : String) :
    Sources.Parallel ⟨quotedDocument, withVersion none⟩ ⟨[], withVersion (some version)⟩
      .repositoryVersion " 7.1 " version where
  isText := nofun
  inFile := by
    refine ⟨"remote", "repository_version", ⟨by decide, fun other hother hne => ?_⟩, by decide⟩
    rcases List.mem_pair.mp hother with rfl | rfl
    · rfl
    · exact absurd rfl hne
  inVariable := by
    refine ⟨.repositoryVersion, ⟨by decide, fun other hother hne => ?_⟩, rfl⟩
    rcases List.mem_pair.mp hother with rfl | rfl
    · exact absurd rfl hne
    · rfl
  elsewhere := by
    intro q hq place hplace
    cases q with
    | repositoryVersion => exact absurd rfl hq
    | _ =>
        simp only [Part.places, List.mem_cons, List.not_mem_nil, or_false] at hplace
        rcases hplace with rfl | rfl | rfl <;> rfl

/-- The variable has to be `7.1` for the same configuration. -/
theorem texts_alike_exactly_if_trimmed_of_version :
    let fromFile := Config.load quotedTree (some ⟨"/c.ini"⟩) (withVersion none)
    Sources.Parallel ⟨quotedDocument, withVersion none⟩ ⟨[], withVersion (some "7.1")⟩
      .repositoryVersion " 7.1 " "7.1" ∧
    Reads quotedTree (some ⟨"/c.ini"⟩) quotedDocument ∧ Reads FileTree.empty none [] ∧
    "7.1" = Text.trim " 7.1 " ∧
    fromFile = Config.load FileTree.empty none (withVersion (some "7.1")) ∧
    fromFile = .ok { Config.ofCacheRoot ⟨"/c"⟩ with repositoryVersion := "7.1" } := by
  intro fromFile
  have htrim : "7.1" = Text.trim " 7.1 " := by decide +kernel
  have hparallel := parallel_quotedFile "7.1"
  exact ⟨hparallel, reads_quotedFile, .unnamed, htrim,
    (Sources.texts_alike_exactly_if_trimmed hparallel reads_quotedFile .unnamed).1 htrim,
    by decide +kernel⟩

/-- **A variable keeps the blanks around its text**, and the configurations differ. -/
theorem variable_keeps_blanks :
    Sources.Parallel ⟨quotedDocument, withVersion none⟩ ⟨[], withVersion (some " 7.1 ")⟩
      .repositoryVersion " 7.1 " " 7.1 " ∧
    Reads quotedTree (some ⟨"/c.ini"⟩) quotedDocument ∧ Reads FileTree.empty none [] ∧
    (Config.load quotedTree (some ⟨"/c.ini"⟩) (withVersion none)).toOption.map
      (·.repositoryVersion) = some "7.1" ∧
    (Config.load FileTree.empty none (withVersion (some " 7.1 "))).toOption.map
      (·.repositoryVersion) = some " 7.1 " := by
  exact ⟨parallel_quotedFile " 7.1 ", reads_quotedFile, .unnamed, by decide +kernel,
    by decide +kernel⟩

end ModuleDepot
