import ModuleDepot.Config.Settings
import ModuleDepot.Proofs.Config.Validation
import ModuleDepot.Proofs.Markup.Spelling

/-! # Layers of a configuration

A part of a configuration can be given in several places: by variables, and by a key of the settings
file. `Part.places` has them in the order in which they win, and this table is all there is to
layers: whatever is read, the settings are those of the table (`load_eq`), unless a number that was
given cannot be read in one of the places. Then that is the error, even where another place wins.

No settings file is as good as one without keys.
-/

namespace ModuleDepot

/-! ## Numbers -/

namespace Text

theorem le_of_readDigitsFrom {base bound n : Nat} {digits : List Char} {acc : Nat}
    (h : readDigitsFrom base bound acc digits = .ok n) (hacc : acc ≤ bound) : n ≤ bound := by
  induction digits generalizing acc with
  | nil => exact Except.ok.inj h ▸ hacc
  | cons c rest ih =>
      rw [readDigitsFrom] at h
      split at h
      next => cases h
      next d hdigit =>
        split at h
        next hle => exact ih h hle
        next => cases h

/-- A number that is read is within the bound. -/
theorem le_of_readUnsigned? {bound n : Nat} {text : String}
    (h : readUnsigned? bound text = some n) : n ≤ bound := by
  obtain ⟨digits, hdigits⟩ : ∃ digits,
      readUnsigned? bound text = (readDigits 10 bound digits).toOption := ⟨_, rfl⟩
  rw [hdigits] at h
  cases hread : readDigits 10 bound digits with
  | error e =>
      rw [hread] at h
      cases h
  | ok m =>
      rw [hread] at h
      cases h
      rw [readDigits] at hread
      split at hread
      next => cases hread
      next => exact le_of_readDigitsFrom hread (Nat.zero_le _)

end Text

/-! ## Places -/

/-- A place where a part of a configuration can be given. -/
inductive Place where
  | variable (v : Variable)
  | key (heading name : String)
  deriving DecidableEq, Repr

/-- How an error calls a place. -/
def Place.name : Place → String
  | .variable v => v.name
  | .key heading name => heading ++ "." ++ name

/-- The parts of a configuration that can be given. -/
inductive Part where
  | rootUrl
  | repositoryVersion
  | cacheRoot
  | timeout
  | maxRetries
  | firstWait
  deriving DecidableEq, Repr

namespace Part

/-- The places of a part, the one that wins first. -/
def places : Part → List Place
  | rootUrl => [.variable .rootUrl, .key "remote" "root_url"]
  | repositoryVersion => [.variable .repositoryVersion, .key "remote" "repository_version"]
  | cacheRoot => [.variable .cacheRoot, .variable .modulePath, .key "cache" "root"]
  | timeout => [.variable .timeoutSeconds, .key "remote" "timeout_secs"]
  | maxRetries => [.key "remote" "max_retries"]
  | firstWait => [.key "remote" "retry_backoff_ms"]

/-- The largest number that a part can be. -/
def largest : Part → Nat
  | maxRetries => Text.max32
  | _ => Text.max64

/-- The number that a text gives a part. -/
def number? (p : Part) (text : String) : Option Nat :=
  Text.readUnsigned? p.largest (Text.trim text)

/-- Two configurations have the same in a part. -/
def Same : Part → Config → Config → Prop
  | rootUrl, c, c' => c.rootUrl = c'.rootUrl
  | repositoryVersion, c, c' => c.repositoryVersion = c'.repositoryVersion
  | cacheRoot, c, c' => c.cacheRoot = c'.cacheRoot
  | timeout, c, c' => c.timeout = c'.timeout
  | maxRetries, c, c' => c.retry.maxRetries = c'.retry.maxRetries
  | firstWait, c, c' => c.retry.firstWait = c'.retry.firstWait

/-- The places where numbers are read, in the order of reading. -/
def numbers : List (Part × Place) :=
  [(timeout, .key "remote" "timeout_secs"), (maxRetries, .key "remote" "max_retries"),
    (firstWait, .key "remote" "retry_backoff_ms"), (timeout, .variable .timeoutSeconds)]

/-- What is the same stays the same in validation. -/
theorem Same.validate {p : Part} {c c' v v' : Config} (h : p.Same c c')
    (hv : c.validate = .ok v) (hv' : c'.validate = .ok v') : p.Same v v' := by
  rw [Config.eq_of_validate hv, Config.eq_of_validate hv']
  cases p with
  | rootUrl => exact congrArg HttpRepository.slashTerminated h
  | _ => exact h

/-- A place belongs to one part. -/
theorem eq_of_mem_places {p q : Part} {o : Place} (hp : o ∈ p.places) (hq : o ∈ q.places) :
    p = q := by
  cases p <;> cases q <;> grind [places]

end Part

/-! ## What is given -/

theorem Settings.given_of_blank {text : String} (h : Text.isBlankText text = true) :
    given (some text) = none := by
  rw [given, Option.filter_some, h]
  rfl

theorem Settings.given_of_not_blank {text : String} (h : Text.isBlankText text = false) :
    given (some text) = some text := by
  rw [given, Option.filter_some, h]
  rfl

/-- What a configuration is loaded from. -/
structure Sources where
  document : Ini.Document
  values : Variables

/-- What a settings file holds, if one is named. -/
inductive Reads (t : FileTree) : Option Path → Ini.Document → Prop where
  | unnamed : Reads t none []
  | named {p : Path} {stream : ByteStream} {bytes : List UInt8} {text : String}
      {d : Ini.Document} (opened : t.openFile p = .ok stream)
      (read : stream.contents = (bytes, none)) (decoded : Text.readUtf8 bytes = .ok text)
      (parsed : Ini.parse text = .ok d) : Reads t (some p) d

namespace Sources

variable (s : Sources)

/-- What stands in a place: a variable as it is, a value of the file without the blanks around
it. -/
def value : Place → Option String
  | .variable v => s.values v
  | .key heading name => (s.document.get? heading name).map Text.trim

/-- The first value in some places that is not blank. -/
def firstIn : List Place → Option String
  | [] => none
  | place :: rest => (Settings.given (s.value place)).or (firstIn rest)

/-- What a part is given: the first value in its places that is not blank. -/
def first (p : Part) : Option String :=
  s.firstIn p.places

/-- What stands in a place and is not the number that a part needs. -/
def fault? (p : Part) (place : Place) : Option String :=
  (Settings.given (s.value place)).filter fun text => (p.number? text).isNone

/-- The first number that was given and cannot be read. -/
def unreadable? : Option (Place × String) :=
  Part.numbers.findSome? fun (p, place) => (s.fault? p place).map (place, ·)

/-- The number that a part is given. -/
def number? (p : Part) : Option Nat :=
  (s.first p).bind p.number?

/-- A configuration as it is given, with the standard of what is not. -/
structure Gives (c : Config) : Prop where
  rootUrl : c.rootUrl = (s.first .rootUrl).getD Config.standardRootUrl
  repositoryVersion :
    c.repositoryVersion = (s.first .repositoryVersion).getD Config.standardVersion
  cacheRoot : s.first .cacheRoot = some c.cacheRoot.text
  timeout :
    c.timeout = ((s.number? .timeout).map Duration.ofSeconds).getD HttpRepository.standardTimeout
  maxRetries :
    c.retry.maxRetries.toNat =
      (s.number? .maxRetries).getD RetryPolicy.standard.maxRetries.toNat
  firstWait :
    c.retry.firstWait =
      ((s.number? .firstWait).map Duration.ofMilliseconds).getD RetryPolicy.standard.firstWait
  longestWait : c.retry.longestWait = RetryPolicy.standard.longestWait

/-- The settings that all places give together. -/
def settings : Settings where
  rootUrl := s.first .rootUrl
  repositoryVersion := s.first .repositoryVersion
  cacheRoot := s.first .cacheRoot
  timeoutSeconds := (s.number? .timeout).map UInt64.ofNat
  maxRetries := (s.number? .maxRetries).map UInt32.ofNat
  backoffMilliseconds := (s.number? .firstWait).map UInt64.ofNat

/-! ## What is loaded -/

variable {s}

/-- A number is read where it stands, or it is the one that cannot be read. -/
theorem mapM_read {α : Type} {key : String} (read : String → Except ConfigError α) (make : Nat → α)
    (p : Part) (place : Place)
    (hread : ∀ text, read text =
      (p.number? text).elim (.error (.badNumber key text)) fun n => .ok (make n)) :
    (Settings.given (s.value place)).mapM read = match s.fault? p place with
      | some text => .error (.badNumber key text)
      | none => .ok (((Settings.given (s.value place)).bind p.number?).map make) := by
  rw [fault?]
  cases Settings.given (s.value place) with
  | none => rfl
  | some text =>
      rw [Option.mapM_some, hread, Option.filter_some, Option.bind_some]
      cases p.number? text <;> rfl

theorem readNumber64_eq {p : Part} (hp : p.largest = Text.max64) (key text : String) :
    Settings.readNumber64 key text =
      (p.number? text).elim (.error (.badNumber key text)) fun n => .ok (UInt64.ofNat n) := by
  have hread : Text.readUnsigned? Text.max64 (Text.trim text) = p.number? text := by
    rw [Part.number?, hp]
  rw [Settings.readNumber64, hread]
  cases p.number? text <;> rfl

theorem readNumber32_eq {p : Part} (hp : p.largest = Text.max32) (key text : String) :
    Settings.readNumber32 key text =
      (p.number? text).elim (.error (.badNumber key text)) fun n => .ok (UInt32.ofNat n) := by
  have hread : Text.readUnsigned? Text.max32 (Text.trim text) = p.number? text := by
    rw [Part.number?, hp]
  rw [Settings.readNumber32, hread]
  cases p.number? text <;> rfl

/-- The file comes first, then the variables. -/
theorem load_of_reads {t : FileTree} {file : Option Path} {d : Ini.Document} (h : Reads t file d)
    (values : Variables) :
    Config.load t file values =
      Settings.ofDocument d >>= fun lower =>
        Settings.ofVariables values >>= fun upper => (upper.above lower).toConfig := by
  cases h with
  | unnamed => rfl
  | @named p _ _ _ _ opened read decoded parsed =>
      have hfile : Settings.ofFile t p = Settings.ofDocument d := by
        simp only [Settings.ofFile, opened, read, decoded, parsed]
      exact congrArg (· >>= _) hfile

/-- Where the number of the upper place can be read, it does not matter whether numbers are read
before or after a place wins. -/
theorem number_or {p : Part} {place : Place} (h : s.fault? p place = none) (lower : Option String) :
    ((Settings.given (s.value place)).bind p.number?).or (lower.bind p.number?) =
      ((Settings.given (s.value place)).or lower).bind p.number? := by
  rw [fault?] at h
  cases hgiven : Settings.given (s.value place) with
  | none => rfl
  | some text =>
      have hread := Option.filter_eq_none_iff.mp h text hgiven
      obtain ⟨n, hn⟩ : ∃ n, p.number? text = some n := by
        simpa [Option.ne_none_iff_exists'] using hread
      rw [Option.bind_some, hn, Option.some_or, Option.some_or, Option.bind_some, hn]

/-- **The table decides.** -/
theorem load_eq {t : FileTree} {file : Option Path} (h : Reads t file s.document) :
    Config.load t file s.values =
      match s.unreadable? with
      | some (place, text) => .error (.badNumber place.name text)
      | none => s.settings.toConfig := by
  have hfile : ∀ heading key, Settings.fromFile s.document heading key =
      Settings.given (s.value (.key heading key)) := fun _ _ => rfl
  have hvariable : ∀ v, s.values v = s.value (.variable v) := fun _ => rfl
  rw [load_of_reads h, Settings.ofDocument, Settings.ofVariables, unreadable?, Part.numbers]
  simp only [hfile, hvariable, List.findSome?_cons, List.findSome?_nil]
  rw [mapM_read _ _ .timeout (.key _ _) (readNumber64_eq rfl _),
    mapM_read _ _ .maxRetries (.key _ _) (readNumber32_eq rfl _),
    mapM_read _ _ .firstWait (.key _ _) (readNumber64_eq rfl _),
    mapM_read _ _ .timeout (.variable _) (readNumber64_eq rfl _)]
  cases htimeout : s.fault? .timeout (.key "remote" "timeout_secs") with
  | some text => rfl
  | none =>
  cases hretries : s.fault? .maxRetries (.key "remote" "max_retries") with
  | some text => rfl
  | none =>
  cases hwait : s.fault? .firstWait (.key "remote" "retry_backoff_ms") with
  | some text => rfl
  | none =>
  cases hvalue : s.fault? .timeout (.variable .timeoutSeconds) with
  | some text => rfl
  | none =>
  have hor := number_or hvalue (Settings.given (s.value (.key "remote" "timeout_secs")))
  refine congrArg Settings.toConfig ?_
  simp only [Settings.above, settings, first, number?, Part.places, firstIn, Option.or_none,
    Option.none_or, Option.or_assoc, ← hor, Option.map_or]

/-! ## Numbers fit -/

/-- All numbers are read. -/
theorem unreadable?_eq_none_iff :
    s.unreadable? = none ↔ ∀ p place, (p, place) ∈ Part.numbers → ∀ text,
      Settings.given (s.value place) = some text → ∃ n, p.number? text = some n := by
  have hfault : ∀ p place, s.fault? p place = none ↔ ∀ text,
      Settings.given (s.value place) = some text → ∃ n, p.number? text = some n := by
    intro p place
    simp [fault?, Option.ne_none_iff_exists']
  simp only [unreadable?, List.findSome?_eq_none_iff, Option.map_eq_none_iff, Prod.forall, hfault]

theorem number?_le {p : Part} {n : Nat} (h : s.number? p = some n) : n ≤ p.largest := by
  obtain ⟨text, -, hread⟩ := Option.bind_eq_some_iff.mp h
  exact Text.le_of_readUnsigned? hread

/-- A number of 64 bits goes through its type unchanged. -/
theorem map_number64 {α : Type} {p : Part} (hp : p.largest = Text.max64) (f : Nat → α) :
    ((s.number? p).map UInt64.ofNat).map (fun n => f n.toNat) = (s.number? p).map f := by
  cases hn : s.number? p with
  | none => rfl
  | some n =>
      have hle : n ≤ Text.max64 := hp ▸ number?_le hn
      simp [UInt64.toNat_ofNat_of_lt' (Nat.lt_succ_of_le hle)]

/-- The settings of the table make the configuration that is given. -/
theorem gives_complete {root : String} (h : s.first .cacheRoot = some root) :
    s.Gives (s.settings.complete root) where
  rootUrl := rfl
  repositoryVersion := rfl
  cacheRoot := h
  timeout := congrArg (Option.getD · _) (map_number64 rfl _)
  maxRetries := by
    show (((s.number? .maxRetries).map UInt32.ofNat).getD _).toNat = _
    cases hn : s.number? .maxRetries with
    | none => rfl
    | some n =>
        have hle : n ≤ Text.max32 := number?_le hn
        exact UInt32.toNat_ofNat_of_lt' (Nat.lt_succ_of_le hle)
  firstWait := congrArg (Option.getD · _) (map_number64 rfl _)
  longestWait := rfl

/-! ## Changes -/

/-- A part is given the same if the same stands in its places. -/
theorem first_congr {s' : Sources} {p : Part}
    (h : ∀ place ∈ p.places, s.value place = s'.value place) : s.first p = s'.first p := by
  have hall : ∀ places : List Place, (∀ place ∈ places, s.value place = s'.value place) →
      s.firstIn places = s'.firstIn places := by
    intro places hplaces
    induction places with
    | nil => rfl
    | cons place rest ih =>
        rw [firstIn, firstIn, hplaces place List.mem_cons_self,
          ih fun place hplace => hplaces place (List.mem_cons_of_mem _ hplace)]
  exact hall _ h

/-- What is given the same in a part is the same. -/
theorem Gives.same {s' : Sources} {c c' : Config} (h : s.Gives c) (h' : s'.Gives c') {p : Part}
    (hp : s.first p = s'.first p) : p.Same c c' := by
  have hnumber : s.number? p = s'.number? p := congrArg (·.bind p.number?) hp
  cases p with
  | rootUrl => exact h.rootUrl.trans (hp ▸ h'.rootUrl.symm)
  | repositoryVersion => exact h.repositoryVersion.trans (hp ▸ h'.repositoryVersion.symm)
  | cacheRoot =>
      have htext := Option.some.inj (h.cacheRoot.symm.trans (hp.trans h'.cacheRoot))
      exact congrArg Path.mk htext
  | timeout => exact h.timeout.trans (hnumber ▸ h'.timeout.symm)
  | maxRetries => exact UInt32.toNat_inj.mp (h.maxRetries.trans (hnumber ▸ h'.maxRetries.symm))
  | firstWait => exact h.firstWait.trans (hnumber ▸ h'.firstWait.symm)

section Load

variable {t : FileTree} {file : Option Path}

/-- The first number that cannot be read is the error. -/
theorem load_of_unreadable (h : Reads t file s.document) {place : Place} {text : String}
    (hfault : s.unreadable? = some (place, text)) :
    Config.load t file s.values = .error (.badNumber place.name text) := by
  rw [load_eq h, hfault]

theorem load_of_rootless (h : Reads t file s.document) (hread : s.unreadable? = none)
    (hroot : s.first .cacheRoot = none) : Config.load t file s.values = .error .noCacheRoot := by
  have hnone : s.settings.cacheRoot = none := hroot
  rw [load_eq h, hread]
  dsimp only
  rw [Settings.toConfig, hnone]

/-- What is given is validated. -/
theorem exists_gives (h : Reads t file s.document) (hread : s.unreadable? = none)
    (hroot : s.first .cacheRoot ≠ none) :
    ∃ given, s.Gives given ∧ Config.load t file s.values = given.validate := by
  obtain ⟨root, hsome⟩ := Option.ne_none_iff_exists'.mp hroot
  have hsettings : s.settings.cacheRoot = some root := hsome
  refine ⟨s.settings.complete root, gives_complete hsome, ?_⟩
  rw [load_eq h, hread]
  dsimp only
  rw [Settings.toConfig, hsettings]

/-- A configuration that is loaded is what its sources give, validated. -/
theorem exists_gives_of_load (h : Reads t file s.document) {c : Config}
    (hload : Config.load t file s.values = .ok c) :
    ∃ given, s.Gives given ∧ given.validate = .ok c := by
  cases hread : s.unreadable? with
  | some fault => cases (load_of_unreadable h hread).symm.trans hload
  | none =>
      by_cases hroot : s.first .cacheRoot = none
      · cases (load_of_rootless h hread hroot).symm.trans hload
      · obtain ⟨given, hgiven, hvalid⟩ := exists_gives h hread hroot
        exact ⟨given, hgiven, hvalid.symm.trans hload⟩

end Load

/-- **Layers compose part by part.** Let no settings file be named, or let one be read. The first
number that was given and cannot be read is the error, whichever place wins. If all numbers can be
read, a cache root has to be given; then the configuration is what is given, validated.

Where two loads differ in what stands in one place, what they lead to differs at most in the part of
that place. -/
theorem layers_compose {t : FileTree} {file : Option Path} (h : Reads t file s.document) :
    (s.unreadable? = none ↔ ∀ p place, (p, place) ∈ Part.numbers → ∀ text,
      Settings.given (s.value place) = some text → ∃ n, p.number? text = some n) ∧
    (∀ place text, s.unreadable? = some (place, text) →
      Config.load t file s.values = .error (.badNumber place.name text)) ∧
    (s.unreadable? = none → s.first .cacheRoot = none →
      Config.load t file s.values = .error .noCacheRoot) ∧
    (s.unreadable? = none → s.first .cacheRoot ≠ none →
      ∃ c, s.Gives c ∧ Config.load t file s.values = c.validate) ∧
    (∀ (p q : Part) (place : Place), place ∈ p.places → place ∈ q.places → p = q) ∧
    ∀ (t' : FileTree) (file' : Option Path) (s' : Sources), Reads t' file' s'.document →
      ∀ place, (∀ other, other ≠ place → s.value other = s'.value other) →
      ∀ c c', Config.load t file s.values = .ok c → Config.load t' file' s'.values = .ok c' →
        c.retry.longestWait = c'.retry.longestWait ∧
          ∀ p : Part, place ∉ p.places → p.Same c c' := by
  refine ⟨unreadable?_eq_none_iff, fun _ _ => load_of_unreadable h, load_of_rootless h,
    exists_gives h, fun _ _ _ => Part.eq_of_mem_places, ?_⟩
  intro t' file' s' h' place hagree c c' hc hc'
  obtain ⟨given, hgiven, hvalid⟩ := exists_gives_of_load h hc
  obtain ⟨given', hgiven', hvalid'⟩ := exists_gives_of_load h' hc'
  refine ⟨?_, fun p hp => ?_⟩
  · rw [Config.eq_of_validate hvalid, Config.eq_of_validate hvalid']
    exact hgiven.longestWait.trans hgiven'.longestWait.symm
  · have hfirst : s.first p = s'.first p := by
      refine first_congr fun other hother => hagree other ?_
      rintro rfl
      exact hp hother
    exact (hgiven.same hgiven' hfirst).validate hvalid hvalid'

end Sources

/-! ## A settings file -/

/-- A settings file with a version between quotes, which keep the blanks around it. -/
def sampleFile : String :=
  "[remote]\nrepository_version = \" 7.1 \"\ntimeout_secs = 9\n[cache]\nroot = /c\n"

def sampleDocument : Ini.Document :=
  [(some "remote", [("repository_version", " 7.1 "), ("timeout_secs", "9")]),
    (some "cache", [("root", "/c")])]

def sampleTree : FileTree := FileTree.empty.insert ["c.ini"] (.file (Text.utf8 sampleFile))

theorem reads_sampleFile : Reads sampleTree (some ⟨"/c.ini"⟩) sampleDocument :=
  .named (by decide +kernel) (ByteStream.contents_ofBytes _) (Text.readUtf8_utf8 sampleFile)
    (by decide +kernel)

/-- A variable is above the file, and what neither gives is the standard. -/
theorem layers_compose_of_file :
    let s : Sources := ⟨sampleDocument, fun v => if v = .timeoutSeconds then some " 12 " else none⟩
    Reads sampleTree (some ⟨"/c.ini"⟩) s.document ∧ s.unreadable? = none ∧
    s.first .cacheRoot ≠ none ∧
    ∃ c : Config, c.timeout = .ofSeconds 12 ∧ c.repositoryVersion = "7.1" ∧
      c.rootUrl = Config.standardRootUrl ∧ c.cacheRoot = ⟨"/c"⟩ ∧
      Config.load sampleTree (some ⟨"/c.ini"⟩) s.values = c.validate := by
  intro s
  have hread : s.unreadable? = none := by decide +kernel
  have hroot : s.first .cacheRoot = some "/c" := by decide +kernel
  have hgiven : s.first .cacheRoot ≠ none := by simp [hroot]
  obtain ⟨-, -, -, hgives, -⟩ := Sources.layers_compose (s := s) reads_sampleFile
  obtain ⟨c, hc, hload⟩ := hgives hread hgiven
  refine ⟨reads_sampleFile, hread, hgiven, c, ?_, ?_, ?_, ?_, hload⟩
  · exact hc.timeout.trans (by decide +kernel)
  · exact hc.repositoryVersion.trans (by decide +kernel)
  · exact hc.rootUrl.trans (by decide +kernel)
  · exact congrArg Path.mk (Option.some.inj (hc.cacheRoot.symm.trans hroot))

/-- **Values of a file lose the blanks around them**, also those that quotes kept. -/
theorem file_values_are_trimmed :
    ¬ ∀ (t : FileTree) (file : Option Path) (s : Sources) (version : String) (c : Config),
      Reads t file s.document → s.values .repositoryVersion = none →
      s.document.get? "remote" "repository_version" = some version →
      Text.isBlankText version = false →
      Config.load t file s.values = .ok c → c.repositoryVersion = version := by
  intro h
  have hload : Config.load sampleTree (some ⟨"/c.ini"⟩) (fun _ => none) =
      .ok { Config.ofCacheRoot ⟨"/c"⟩ with
        repositoryVersion := "7.1"
        timeout := .ofSeconds 9 } := by decide +kernel
  have hversion := h _ _ ⟨sampleDocument, fun _ => none⟩ " 7.1 " _ reads_sampleFile rfl
    (by decide +kernel) (by decide +kernel) hload
  exact absurd hversion (by decide)

end ModuleDepot
