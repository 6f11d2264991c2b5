import ModuleDepot.Command.Run
import ModuleDepot.Proofs.Config.Layers

/-! # Options before variables before the file

Three parts of a configuration have an option. It comes before the variables of the part and its key
in the settings file, with one exception: an option takes the place of its variable even if it is
blank, and so hides what the variable gives (`first_sources_eq_ordered_iff`). It hides nothing else.
-/

namespace ModuleDepot.Command

/-- The option of a part. -/
def optionOf (o : Options) : Part → Option String
  | .rootUrl => o.get? .rootUrl
  | .repositoryVersion => o.get? .repositoryVersion
  | .cacheRoot => o.get? .cacheRoot
  | _ => none

section Parts

variable (env : Environment) (o : Options) (d : Ini.Document) (p : Part)

/-- What the command loads a configuration from. -/
def sources : Sources := ⟨d, valuesOf env o⟩

/-- The same without the options. -/
def around : Sources := ⟨d, env.given⟩

/-- The first value of a part that is not blank: of the option, then of the variables and the
file. -/
def ordered : Option String :=
  (Settings.given (optionOf o p)).or ((around env d).first p)

/-- The value of the variable that an option stands for. -/
def variableValue : Option String :=
  (around env d).firstIn (p.places.take 1)

/-- The first value of the other variables and the file. -/
def behindVariable : Option String :=
  (around env d).firstIn (p.places.drop 1)

/-- The option of a part is given, but blank. -/
def IsBlankOption : Prop :=
  ∃ text, optionOf o p = some text ∧ Text.isBlankText text = true

/-- A blank option hides the value of its variable, and something else is taken. -/
def Hides : Prop :=
  IsBlankOption o p ∧
    ∃ value, variableValue env d p = some value ∧ behindVariable env d p ≠ some value

end Parts

section Order

variable {env : Environment} {o : Options} {d : Ini.Document} {p : Part}

theorem first_around :
    (around env d).first p = (variableValue env d p).or (behindVariable env d p) := by
  rw [Sources.first, variableValue, behindVariable]
  cases p.places with
  | nil => rfl
  | cons place rest => simp [Sources.firstIn]

/-- An option that is given stands in the place of its variable. -/
theorem first_sources :
    (sources env o d).first p = match optionOf o p with
      | none => (around env d).first p
      | some text => (Settings.given (some text)).or (behindVariable env d p) := by
  have hor : ∀ option value rest : Option String,
      (Settings.given (option.or value)).or rest = match option with
        | none => (Settings.given value).or rest
        | some text => (Settings.given (some text)).or rest := by
    intro option value rest
    cases option <;> rfl
  cases p with
  | rootUrl => exact hor _ _ _
  | repositoryVersion => exact hor _ _ _
  | cacheRoot => exact hor _ _ _
  | _ => rfl

theorem first_sources_of_isBlankOption (h : IsBlankOption o p) :
    (sources env o d).first p = behindVariable env d p := by
  obtain ⟨text, hoption, hblank⟩ := h
  rw [first_sources, hoption]
  dsimp only
  rw [Settings.given_of_blank hblank, Option.none_or]

theorem first_sources_of_not_isBlankOption (h : ¬ IsBlankOption o p) :
    (sources env o d).first p = ordered env o d p := by
  rw [first_sources, ordered]
  cases hoption : optionOf o p with
  | none => rfl
  | some text =>
      have hblank : Text.isBlankText text = false := by simpa [IsBlankOption, hoption] using h
      dsimp only
      rw [Settings.given_of_not_blank hblank, Option.some_or, Option.some_or]

/-- The order is kept unless a blank option hides a value. -/
theorem first_sources_eq_ordered_iff :
    (sources env o d).first p = ordered env o d p ↔ ¬ Hides env o d p := by
  by_cases h : IsBlankOption o p
  · have hordered : ordered env o d p = (variableValue env d p).or (behindVariable env d p) := by
      obtain ⟨text, hoption, hblank⟩ := h
      rw [ordered, first_around, hoption, Settings.given_of_blank hblank, Option.none_or]
    rw [first_sources_of_isBlankOption h, hordered, Hides]
    cases variableValue env d p <;> simp [h]
  · simp [first_sources_of_not_isBlankOption h, Hides, h]

/-- No option is a number. -/
theorem unreadable?_sources : (sources env o d).unreadable? = (around env d).unreadable? := rfl

end Order

/-- **Options come first, unless they are blank.** What the command takes for a part is the first
value that is not blank, of the option, the variables and the file, if and only if the option does
not hide the value of its variable. A blank option does, and then the other variables and the file
decide.

A number that cannot be read is an error, and so is a missing cache root. Otherwise the
configuration is what was taken for each part, validated. -/
theorem options_take_precedence {env : Environment} {o : Options} {t : FileTree} {d : Ini.Document}
    (h : Reads t (settingsFile env o t) d) :
    (∀ p, (sources env o d).first p = ordered env o d p ↔ ¬ Hides env o d p) ∧
    (∀ p, IsBlankOption o p → (sources env o d).first p = behindVariable env d p) ∧
    (∀ place text, (around env d).unreadable? = some (place, text) →
      loadConfig env o t = .error (.config (.badNumber place.name text))) ∧
    ((around env d).unreadable? = none → (sources env o d).first .cacheRoot = none →
      loadConfig env o t = .error (.config .noCacheRoot)) ∧
    ((around env d).unreadable? = none → (sources env o d).first .cacheRoot ≠ none →
      ∃ given, (sources env o d).Gives given ∧
        loadConfig env o t = match given.validate with
          | .ok c => .ok (c, configEvent (settingsFile env o t) c)
          | .error e => .error (.config e)) := by
  refine ⟨fun p => first_sources_eq_ordered_iff, fun p => first_sources_of_isBlankOption,
    fun place text hfault => ?_, fun hread hroot => ?_, fun hread hroot => ?_⟩
  · have hload : Config.load t (settingsFile env o t) (valuesOf env o) = _ :=
      Sources.load_of_unreadable (s := sources env o d) h (unreadable?_sources.trans hfault)
    rw [loadConfig, hload]
  · have hload : Config.load t (settingsFile env o t) (valuesOf env o) = _ :=
      Sources.load_of_rootless (s := sources env o d) h (unreadable?_sources.trans hread) hroot
    rw [loadConfig, hload]
  · obtain ⟨given, hgiven, hload⟩ :=
      Sources.exists_gives (s := sources env o d) h (unreadable?_sources.trans hread) hroot
    have hload : Config.load t (settingsFile env o t) (valuesOf env o) = _ := hload
    refine ⟨given, hgiven, ?_⟩
    rw [loadConfig, hload]
    cases given.validate <;> rfl

/-- An environment that gives a root URL. -/
def sampleEnvironment : Environment :=
  ⟨⟨"/home"⟩, fun v => if v = .rootUrl then some "http://env/" else none, none⟩

/-- Without a settings file nothing is read. -/
theorem reads_of_no_file {o : Options}
    (h : settingsFile sampleEnvironment o FileTree.empty = none) :
    Reads FileTree.empty (settingsFile sampleEnvironment o FileTree.empty) [] :=
  h ▸ .unnamed

/-- The version and the cache root are those of the options, the root URL is that of the
variable. -/
theorem options_take_precedence_of_two :
    let o : Options := ⟨[(.repositoryVersion, "7.1"), (.cacheRoot, "/c")], false⟩
    Reads FileTree.empty (settingsFile sampleEnvironment o FileTree.empty) [] ∧
    (around sampleEnvironment []).unreadable? = none ∧
    (sources sampleEnvironment o []).first .cacheRoot ≠ none ∧
    ∃ c event, loadConfig sampleEnvironment o FileTree.empty = .ok (c, event) ∧
      c.rootUrl = "http://env/" ∧ c.repositoryVersion = "7.1" ∧ c.cacheRoot = ⟨"/c"⟩ := by
  intro o
  have hreads : Reads FileTree.empty (settingsFile sampleEnvironment o FileTree.empty) [] :=
    reads_of_no_file (by decide +kernel)
  have hread : (around sampleEnvironment []).unreadable? = none := by decide +kernel
  have hroot : (sources sampleEnvironment o []).first .cacheRoot = some "/c" := by decide +kernel
  have hgiven : (sources sampleEnvironment o []).first .cacheRoot ≠ none := by simp [hroot]
  obtain ⟨-, -, -, -, hload⟩ := options_take_precedence hreads
  obtain ⟨given, hgives, hload⟩ := hload hread hgiven
  have hurl : given.rootUrl = "http://env/" := hgives.rootUrl.trans (by decide +kernel)
  have hversion : given.repositoryVersion = "7.1" :=
    hgives.repositoryVersion.trans (by decide +kernel)
  have hcache : given.cacheRoot = ⟨"/c"⟩ :=
    congrArg Path.mk (Option.some.inj (hgives.cacheRoot.symm.trans hroot))
  have hvalid : given.validate = .ok { given with rootUrl := "http://env/" } := by
    have hfault : Config.rootUrlFault? "http://env/" = none := by decide +kernel
    rw [Config.validate, hcache, hurl, hversion, hfault]
    rfl
  rw [hvalid] at hload
  exact ⟨hreads, hread, hgiven, _, _, hload, rfl, hversion, hcache⟩

/-- **A blank option hides a variable.** The variable has the first value that is not blank, and the
standard is taken. -/
theorem blank_option_hides_variable :
    let o : Options := ⟨[(.rootUrl, ""), (.cacheRoot, "/c")], false⟩
    readArguments ["config", "--root-url", "", "--cache-root", "/c"] = .ok (o, .config) ∧
    Reads FileTree.empty (settingsFile sampleEnvironment o FileTree.empty) [] ∧
    ordered sampleEnvironment o [] .rootUrl = some "http://env/" ∧
    (loadConfig sampleEnvironment o FileTree.empty).toOption.map (·.1.rootUrl) =
      some Config.standardRootUrl ∧
    Config.standardRootUrl ≠ "http://env/" := by
  intro o
  exact ⟨by decide +kernel, reads_of_no_file (by decide +kernel), by decide +kernel,
    by decide +kernel, by decide⟩

end ModuleDepot.Command
