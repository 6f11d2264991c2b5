import ModuleDepot.Config.Settings
import ModuleDepot.Proofs.Path.Names
import ModuleDepot.Proofs.Url.Ending
import ModuleDepot.Resolver.Configured

/-! # Usable configurations

Validation reads the root as it is given and keeps it with a slash at its end (`validate_eq_ok`).
What it returns is therefore usable again if the root can be read with the slash, too, and this is
all that can go wrong (`returned_is_usable`): nothing else of a usable configuration is refused
later, neither by validation nor where a chain is made of it.
-/

namespace ModuleDepot

theorem HttpRepository.slashTerminated_slash (stem : String) :
    slashTerminated (stem ++ "/") = stem ++ "/" := by
  rw [slashTerminated, if_pos (by simp)]

namespace Config

/-! ## Validation -/

/-- **A configuration is usable** if it has a cache root, a version, and a root that can be
requested. Only the end of the root changes. -/
theorem validate_eq_ok {c c' : Config} :
    c.validate = .ok c' ↔ c.cacheRoot.text ≠ "" ∧ isVersion c.repositoryVersion = true ∧
      (∃ u, Url.parse c.rootUrl = .ok u ∧ u.isHttp = true) ∧
      c' = { c with rootUrl := HttpRepository.slashTerminated c.rootUrl } := by
  have hfault : rootUrlFault? c.rootUrl = none ↔
      ∃ u, Url.parse c.rootUrl = .ok u ∧ u.isHttp = true := by
    unfold rootUrlFault?
    cases Url.parse c.rootUrl with
    | error e => simp
    | ok u => simp
  rw [← hfault, validate]
  by_cases hroot : c.cacheRoot.text = ""
  · simp [hroot]
  cases hread : rootUrlFault? c.rootUrl with
  | some reason => simp [hroot]
  | none =>
      cases hversion : isVersion c.repositoryVersion with
      | false => simp [hroot]
      | true =>
          rw [if_neg (by simpa using hroot)]
          refine ⟨fun h => ⟨hroot, rfl, rfl, (Except.ok.inj h).symm⟩, ?_⟩
          rintro ⟨-, -, -, rfl⟩
          rfl

/-- A usable configuration differs from what it was made of in the end of its root alone. -/
theorem eq_of_validate {c c' : Config} (h : c.validate = .ok c') :
    c' = { c with rootUrl := HttpRepository.slashTerminated c.rootUrl } :=
  (validate_eq_ok.mp h).2.2.2

/-- What a usable configuration was before its root got a slash at the end. -/
theorem exists_of_validate {c c' : Config} (h : c.validate = .ok c') :
    ∃ stem, c'.rootUrl = stem ++ "/" ∧ (c.rootUrl = stem ++ "/" ∨ c.rootUrl = stem) ∧
      ∃ u, Url.parse c.rootUrl = .ok u ∧ u.isHttp = true := by
  obtain ⟨-, -, hparse, rfl⟩ := validate_eq_ok.mp h
  dsimp only
  rw [HttpRepository.slashTerminated]
  split
  next hslash =>
    have hends : Path.endsInSeparator ⟨c.rootUrl⟩ = true := hslash
    obtain ⟨stem, hstem⟩ := Path.endsInSeparator_iff.mp hends
    exact ⟨stem, hstem, .inl hstem, hparse⟩
  next => exact ⟨c.rootUrl, rfl, .inr rfl, hparse⟩

/-! ## Returned configurations -/

/-- A configuration that is returned: by validation itself, or from what it is loaded of. -/
inductive Returned : Config → Prop where
  | validated {c c' : Config} (h : c.validate = .ok c') : Returned c'
  | ofVariables {vars : Variables} {c : Config} (h : Config.ofVariables vars = .ok c) : Returned c
  | ofFile {t : FileTree} {p : Path} {c : Config} (h : Config.ofFile t p = .ok c) : Returned c
  | loaded {t : FileTree} {file : Option Path} {vars : Variables} {c : Config}
      (h : Config.load t file vars = .ok c) : Returned c

theorem exists_validate_of_toConfig {s : Settings} {c : Config} (h : s.toConfig = .ok c) :
    ∃ given : Config, given.validate = .ok c := by
  unfold Settings.toConfig at h
  split at h
  next => cases h
  next => exact ⟨_, h⟩

/-- Whatever it is loaded of, a configuration that is returned was validated. -/
theorem Returned.exists_validate {c : Config} (h : Returned c) :
    ∃ given : Config, given.validate = .ok c := by
  cases h with
  | validated h => exact ⟨_, h⟩
  | ofVariables h =>
      obtain ⟨s, -, h⟩ := ok_of_bind h
      exact exists_validate_of_toConfig h
  | ofFile h =>
      obtain ⟨s, -, h⟩ := ok_of_bind h
      exact exists_validate_of_toConfig h
  | @loaded _ file _ _ h =>
      cases file <;>
      · obtain ⟨lower, -, h⟩ := ok_of_bind h
        obtain ⟨upper, -, h⟩ := ok_of_bind h
        exact exists_validate_of_toConfig h

/-- A chain is made of the validated configuration, over the store below its cache root. -/
theorem ofConfig_eq {σ : Type} {c c' : Config} (hc : c.validate = .ok c') (t : FileTree)
    (client : Http.Client σ) :
    Chain.ofConfig t c client = match Store.openAt t c'.cacheRoot with
      | .error cause => .error (.store cause)
      | .ok store => .ok ⟨LocalResolver.toResolver ⟨c'.cacheRoot, Descriptor.documentParser⟩,
          systemResolver, ⟨store,
            (HttpRepository.create c'.rootUrl c'.timeout c'.retry).toRepository client,
            Descriptor.documentParser, c'.repositoryVersion⟩⟩ := by
  simp only [Chain.ofConfig, hc, Fetcher.ofConfig, bind, Except.bind]
  cases Store.openAt t c'.cacheRoot <;> rfl

/-- Only the store of a usable configuration can fail. -/
theorem ofConfig_of_validate {σ : Type} {t : FileTree} {c c' : Config} {client : Http.Client σ}
    {e : ConfigError} (hc : c.validate = .ok c') (h : Chain.ofConfig t c client = .error e) :
    ∃ cause, e = .store cause := by
  rw [ofConfig_eq hc] at h
  cases hopen : Store.openAt t c'.cacheRoot with
  | error cause =>
      rw [hopen] at h
      exact ⟨cause, (Except.error.inj h).symm⟩
  | ok store =>
      rw [hopen] at h
      cases h

/-- **A configuration that is returned is usable again**, and is the same then, unless its root
trails the authority. If it does, the root cannot be read with the slash at its end, and this is why
the configuration is refused from then on. -/
theorem returned_is_usable {c : Config} (h : Returned c) :
    c.cacheRoot.text ≠ "" ∧ ∃ stem, c.rootUrl = stem ++ "/" ∧
      (Url.trailsAuthority stem = false →
        c.validate = .ok c ∧ (∃ u, Url.parse c.rootUrl = .ok u ∧ u.isHttp = true) ∧
        ∀ {σ : Type} (t : FileTree) (client : Http.Client σ) (e : ConfigError),
          Chain.ofConfig t c client = .error e → ∃ cause, e = .store cause) ∧
      (Url.trailsAuthority stem = true →
        ∃ reason, Url.parse c.rootUrl = .error reason ∧
          c.validate = .error (.badRootUrl c.rootUrl reason.message) ∧
          ∀ {σ : Type} (t : FileTree) (client : Http.Client σ),
            Chain.ofConfig t c client = .error (.badRootUrl c.rootUrl reason.message)) := by
  obtain ⟨given, hgiven⟩ := h.exists_validate
  obtain ⟨stem, hroot, hstem, u, hu, hweb⟩ := exists_of_validate hgiven
  obtain ⟨hreads, hfails⟩ := Url.parse_root hu hweb hstem
  obtain ⟨hcache, hversion, -, hc⟩ := validate_eq_ok.mp hgiven
  -- Validation changes nothing but the root, so that nothing else can be refused afterwards.
  have hcache : c.cacheRoot.text ≠ "" := by rwa [hc]
  have hversion : isVersion c.repositoryVersion = true := by rwa [hc]
  refine ⟨hcache, stem, hroot, fun hends => ?_, fun htrails => ?_⟩
  · have hread : ∃ u, Url.parse c.rootUrl = .ok u ∧ u.isHttp = true := hroot ▸ hreads hends
    have hslash : HttpRepository.slashTerminated c.rootUrl = c.rootUrl := by
      rw [hroot, HttpRepository.slashTerminated_slash]
    have hvalid : c.validate = .ok c :=
      validate_eq_ok.mpr ⟨hcache, hversion, hread, by rw [hslash]⟩
    exact ⟨hvalid, hread, fun t client e => ofConfig_of_validate hvalid⟩
  · obtain ⟨reason, hreason⟩ := hfails htrails
    rw [← hroot] at hreason
    have hinvalid : c.validate = .error (.badRootUrl c.rootUrl reason.message) := by
      rw [validate, if_neg (by simpa using hcache), rootUrlFault?, hreason]
    refine ⟨reason, hreason, hinvalid, fun t client => ?_⟩
    rw [Chain.ofConfig, hinvalid]
    rfl

/-- The variables that give a root, and a cache root. -/
def withRoot (root : String) : Variables
  | .rootUrl => some root
  | .cacheRoot => some "/c"
  | _ => none

/-- A blank at the end of a path stays before the slash, and the configuration is usable again. -/
theorem returned_is_usable_of_root :
    let c : Config := { ofCacheRoot ⟨"/c"⟩ with rootUrl := "http://h/m /" }
    Config.ofVariables (withRoot "http://h/m ") = .ok c ∧ c.validate = .ok c := by
  intro c
  have hload : Config.ofVariables (withRoot "http://h/m ") = .ok c := by decide +kernel
  obtain ⟨-, stem, hroot, husable, -⟩ := returned_is_usable (.ofVariables hload)
  obtain rfl : stem = "http://h/m " := by
    have : "http://h/m " ++ "/" = stem ++ "/" := hroot
    exact (String.append_left_inj "/").mp this.symm
  exact ⟨hload, (husable (by decide +kernel)).1⟩

/-- **A usable configuration can be refused**: a blank at the end of the root does not count until
the slash is put behind it, and then it is part of the host. -/
theorem returned_is_refused :
    let c : Config := { ofCacheRoot ⟨"/c"⟩ with rootUrl := "http://h /" }
    Config.ofVariables (withRoot "http://h ") = .ok c ∧
    ({ c with rootUrl := "http://h " } : Config).validate = .ok c ∧
    c.validate = .error (.badRootUrl "http://h /" "invalid international domain name") := by
  exact ⟨by decide +kernel, by decide +kernel, by decide +kernel⟩

end Config
end ModuleDepot
