import ModuleDepot.Proofs.Url.Blank

/-! # The end of a root

A URL stays one when a slash is put behind it, but for one thing: blanks and controls at its end do
not count until then (`trail`). In a path or a query they do no harm. Behind a host or a port they
make an authority that nobody has (`isEdge_eq_false_of_readOwner`), so that the text with the slash
is no URL any more (`parse_root`).
-/

namespace ModuleDepot.Url

/-! ## Authorities -/

/-- A port is made of digits. -/
theorem isEdge_eq_false_of_readPort {scheme : String} {digits : List Char} {port : Option Nat}
    (h : readPort scheme digits = .ok port) : ∀ c ∈ digits, isEdge c = false := by
  have hfrom : ∀ {cs : List Char} {acc n : Nat}, Text.readDigitsFrom 10 65535 acc cs = .ok n →
      ∀ c ∈ cs, isEdge c = false := by
    intro cs
    induction cs with
    | nil => simp
    | cons d cs ih =>
        intro acc n hread
        rw [Text.readDigitsFrom] at hread
        split at hread
        next => cases hread
        next hdigit =>
          split at hread
          next =>
            rw [List.forall_mem_cons]
            refine ⟨?_, ih hread⟩
            by_contra hedge
            rw [Bool.not_eq_false] at hedge
            cases hdigit.symm.trans (Text.digitValue?_of_isEdge hedge 10)
          next => cases hread
  unfold readPort at h
  split at h
  next hempty => simp [List.isEmpty_iff.mp hempty]
  next hne =>
    split at h
    next => cases h
    next n hread =>
      rw [Text.readDigits, if_neg hne] at hread
      exact hfrom hread

theorem splitHost_behind (inBrackets : Bool) (cs : List Char) :
    ∀ c ∈ (splitHost inBrackets cs).2.head?, c = ':' := by
  induction cs generalizing inBrackets with
  | nil => simp [splitHost]
  | cons c cs ih =>
      rw [splitHost]
      split
      next hcolon =>
        rw [Bool.and_eq_true] at hcolon
        simpa using eq_of_beq hcolon.1
      next => exact ih _

/-- The last character of an authority belongs to its host or port. -/
theorem getLast?_splitUserInfo {c : Char} (hc : c ≠ '@') {cs : List Char}
    (h : cs.getLast? = some c) : (splitUserInfo cs).2.getLast? = some c := by
  obtain ⟨init, rfl⟩ := List.getLast?_eq_some_iff.mp h
  rw [splitUserInfo]
  split
  next => simp [hc]
  next => exact h

/-- The host and the port are read from the two sides of the colon. -/
theorem exists_of_readAuthority {u v : Url} (hu : isSpecial u.scheme = true) {cs behind : List Char}
    (h : readAuthority u cs = .ok (v, behind)) :
    let parts := splitHost false (splitUserInfo cs).2
    (∃ host, readHost parts.1 = .ok host) ∧
      ∃ port, readPort u.scheme (parts.2.tail.takeWhile (· != '\\')) = .ok port := by
  intro parts
  unfold readAuthority at h
  dsimp only at h
  rw [if_pos hu] at h
  split at h
  next => cases h
  next =>
    obtain ⟨host, hhost, h⟩ := ok_of_bind h
    split at h
    next => cases h
    next =>
      obtain ⟨port, hport, -⟩ := ok_of_bind h
      exact ⟨⟨host, hhost⟩, port, hport⟩

/-- **An owner has no blank or control at the end of its authority.** -/
theorem isEdge_eq_false_of_readOwner {u v : Url} (hu : isSpecial u.scheme = true)
    {authority : List Char} (hbackslash : '\\' ∉ authority) (h : readOwner u authority = .ok v) :
    ∀ c ∈ authority.getLast?, isEdge c = false := by
  intro c hc
  by_contra hedge
  rw [Option.mem_def] at hc
  have hlast : (splitUserInfo authority).2.getLast? = some c :=
    getLast?_splitUserInfo (by rintro rfl; exact hedge rfl) hc
  obtain ⟨⟨owner, behind⟩, hread⟩ : ∃ result, readAuthority u authority = .ok result := by
    unfold readOwner at h
    split at h
    next => cases h
    next =>
      obtain ⟨result, hresult, -⟩ := exists_of_map h
      exact ⟨result, hresult⟩
  obtain ⟨⟨host, hhost⟩, port, hport⟩ := exists_of_readAuthority hu hread
  have hsplit := splitHost_append false (splitUserInfo authority).2
  have hcolon := splitHost_behind false (splitUserInfo authority).2
  have hrest : '\\' ∉ (splitHost false (splitUserInfo authority).2).2 := fun hmem =>
    hbackslash (mem_of_mem_splitUserInfo (hsplit ▸ List.mem_append_right _ hmem))
  generalize splitHost false (splitUserInfo authority).2 = parts at *
  obtain ⟨hostText, portText⟩ := parts
  rw [← hsplit] at hlast
  cases portText with
  | nil => exact hedge (isEdge_eq_false_of_readHost hhost c (by simpa using hlast))
  | cons colon digits =>
      obtain rfl := hcolon colon rfl
      have hdigits : digits.takeWhile (· != '\\') = digits :=
        List.takeWhile_eq_self_iff.mpr fun d hd => by
          rw [bne_iff_ne]
          rintro rfl
          exact hrest (List.mem_cons_of_mem _ hd)
      rw [List.tail_cons, hdigits] at hport
      have hmem : c ∈ ':' :: digits := by
        rw [List.getLast?_append_cons] at hlast
        exact List.mem_of_getLast? hlast
      rcases List.mem_cons.mp hmem with rfl | hmem
      · exact hedge rfl
      · exact hedge (isEdge_eq_false_of_readPort hport c hmem)

/-! ## Behind the text -/

/-- What stands behind the scheme of a text and the slashes there. -/
def hierarchy (s : String) : List Char :=
  ((cleaned s).dropWhile inScheme).tail.dropWhile (isSlash true)

/-- Whether nothing ends the authority of a text before the blanks and controls at the end. -/
def trailsAuthority (s : String) : Bool :=
  !(trail s).isEmpty && (hierarchy s).all (!endsAuthority true ·)

theorem trailsAuthority_iff {s : String} :
    trailsAuthority s = true ↔
      trail s ≠ [] ∧ ∀ c ∈ hierarchy s, endsAuthority true c = false := by
  simp [trailsAuthority]

theorem endsAuthority_of_isEdge {c : Char} (h : isEdge c = true) :
    endsAuthority true c = false := by
  rw [← Bool.not_eq_true]
  intro hends
  simp only [endsAuthority, isSlash, Bool.true_and, Bool.or_eq_true, beq_iff_eq] at hends
  rcases hends with ((rfl | rfl) | rfl) | rfl <;> cases h

theorem isSlash_of_isEdge {c : Char} (h : isEdge c = true) : isSlash true c = false := by
  have := endsAuthority_of_isEdge h
  simp only [endsAuthority, Bool.or_eq_false_iff] at this
  exact this.1.1

theorem isEdge_of_mem_trail {s : String} {c : Char} (h : c ∈ trail s) : isEdge c = true :=
  List.mem_takeWhile_imp (List.mem_reverse.mp (List.mem_of_mem_filter h))

theorem not_mem_trail {s : String} {c : Char} (hc : isEdge c = false) : c ∉ trail s := fun h =>
  ne_of_isEdge (isEdge_of_mem_trail h) hc rfl

theorem hierarchy_eq {s scheme : String} {rest : List Char}
    (h : splitScheme (cleaned s) = some (scheme, rest)) :
    hierarchy s = rest.dropWhile (isSlash true) := by
  obtain ⟨before, hbefore, hscheme, -⟩ := splitScheme_eq_some.mp h
  rw [hierarchy, hbefore, dropWhile_stop hscheme (by simp; rfl), List.tail_cons]

/-- **A slash behind a text** ends its authority, if nothing before it does. What trails the text
is read then. -/
theorem parse_slash {s scheme : String} {rest : List Char}
    (h : splitScheme (cleaned s) = some (scheme, rest)) (hweb : IsWeb scheme)
    (hne : hierarchy s ≠ [] ∨ trail s ≠ []) :
    ∃ start, Url.parse (s ++ "/") =
      (readOwner { scheme } ((hierarchy s ++ trail s).takeWhile (!endsAuthority true ·))).map
        (readPath · start) := by
  have hrest : (rest ++ (trail s ++ ['/'])).dropWhile (isSlash true) =
      hierarchy s ++ trail s ++ ['/'] := by
    rw [List.dropWhile_append, ← hierarchy_eq h]
    split
    next hempty =>
      have hnil : hierarchy s = [] := List.isEmpty_iff.mp hempty
      obtain ⟨c, more, htrail⟩ := List.exists_cons_of_ne_nil (hne.resolve_left (absurd hnil))
      have hslash : isSlash true c = false :=
        isSlash_of_isEdge (isEdge_of_mem_trail (htrail ▸ List.mem_cons_self))
      rw [hnil, htrail, List.cons_append, List.dropWhile_cons_of_neg (by simp [hslash])]
      rfl
    next => rw [List.append_assoc]
  obtain ⟨start, hstart, hends, -⟩ := exists_start (hierarchy s ++ trail s)
  refine ⟨start, ?_⟩
  have hsplit := splitScheme_append h (trail s ++ ['/'])
  rw [← cleaned_slash] at hsplit
  rw [parse_of_isWeb hsplit hweb, hrest, hstart]
  exact readHierarchy_eq hweb.isSpecial (fun c hc => by simpa using List.mem_takeWhile_imp hc) hends

/-- What trails an authority makes it none. -/
theorem readOwner_of_trailsAuthority {s : String} (h : trailsAuthority s = true) {u : Url}
    (hu : isSpecial u.scheme = true) :
    ∃ e, readOwner u ((hierarchy s ++ trail s).takeWhile (!endsAuthority true ·)) = .error e := by
  obtain ⟨htrail, hnone⟩ := trailsAuthority_iff.mp h
  have hauthority : ∀ c ∈ hierarchy s ++ trail s, endsAuthority true c = false := fun c hc =>
    (List.mem_append.mp hc).elim (hnone c) fun hc =>
      endsAuthority_of_isEdge (isEdge_of_mem_trail hc)
  have hwhole : (hierarchy s ++ trail s).takeWhile (!endsAuthority true ·) =
      hierarchy s ++ trail s :=
    List.takeWhile_eq_self_iff.mpr fun c hc => by rw [hauthority c hc]; rfl
  rw [hwhole]
  cases hv : readOwner u (hierarchy s ++ trail s) with
  | error e => exact ⟨e, rfl⟩
  | ok v =>
      have hbackslash : '\\' ∉ hierarchy s ++ trail s := fun hc => by cases hauthority _ hc
      obtain ⟨last, hlast⟩ := Option.isSome_iff_exists.mp (List.getLast?_isSome.mpr htrail)
      have hedge := isEdge_eq_false_of_readOwner hu hbackslash hv last
        (by rw [List.getLast?_append, hlast]; rfl)
      exact absurd (List.mem_of_getLast? hlast) (not_mem_trail hedge)

/-- A text that trails its authority does not begin URLs. -/
theorem parse_slash_of_trailsAuthority {s : String} (h : trailsAuthority s = true) {scheme : String}
    {rest : List Char} (hsplit : splitScheme (cleaned s) = some (scheme, rest))
    (hscheme : IsWeb scheme) : ∃ e, Url.parse (s ++ "/") = .error e := by
  obtain ⟨start, hparse⟩ := parse_slash hsplit hscheme (.inr (trailsAuthority_iff.mp h).1)
  obtain ⟨e, he⟩ := readOwner_of_trailsAuthority h (u := { scheme }) hscheme.isSpecial
  rw [hparse, he]
  exact ⟨e, rfl⟩

/-- **A URL of this program stays one with a slash behind it**, if it does not trail its authority.
-/
theorem exists_parse_slash {s : String} {u : Url} (hu : Url.parse s = .ok u)
    (hweb : u.isHttp = true) (h : trailsAuthority s = false) :
    ∃ v, Url.parse (s ++ "/") = .ok v ∧ v.isHttp = true := by
  obtain ⟨scheme, rest, hsplit, hscheme, v, hv⟩ := exists_owner_of_parse hu hweb
  rw [← hierarchy_eq hsplit] at hv
  obtain ⟨start, hparse⟩ :=
    parse_slash hsplit hscheme (.inl (ne_nil_of_readOwner hscheme.isSpecial hv))
  have hauthority : (hierarchy s ++ trail s).takeWhile (!endsAuthority true ·) =
      (hierarchy s).takeWhile (!endsAuthority true ·) := by
    by_cases htrail : trail s = []
    · rw [htrail, List.append_nil]
    · obtain ⟨c, hc, hends⟩ : ∃ c ∈ hierarchy s, endsAuthority true c = true := by
        by_contra hnone
        have htrails : trailsAuthority s = true := trailsAuthority_iff.mpr
          ⟨htrail, fun c hc => by simpa using fun hends => hnone ⟨c, hc, hends⟩⟩
        cases h.symm.trans htrails
      obtain ⟨before, behind, hsplit⟩ := List.append_of_mem hc
      have hstop := takeWhile_append_cons (p := (!endsAuthority true ·))
        (show (!endsAuthority true c) = false by rw [hends]; rfl) before
      rw [hsplit, List.append_assoc, List.cons_append, hstop, hstop]
  rw [hparse, hauthority, hv]
  exact ⟨_, rfl, isHttp_iff.mpr (scheme_of_readOwner hv ▸ hscheme)⟩

/-- **A root ends in a slash unless it trails its authority**: a URL of this program with a slash at
its end is one if and only if there is no trail right behind the authority. -/
theorem parse_root {root stem : String} {u : Url} (hu : Url.parse root = .ok u)
    (hweb : u.isHttp = true) (hstem : root = stem ++ "/" ∨ root = stem) :
    (trailsAuthority stem = false → ∃ v, Url.parse (stem ++ "/") = .ok v ∧ v.isHttp = true) ∧
      (trailsAuthority stem = true → ∃ e, Url.parse (stem ++ "/") = .error e) := by
  obtain ⟨scheme, rest, hsplit, hscheme, -⟩ := exists_owner_of_parse hu hweb
  rcases hstem with rfl | rfl
  · have hcolon : ':' ∉ trail stem := not_mem_trail rfl
    rw [cleaned_slash] at hsplit
    obtain ⟨rest, hsplit, -⟩ := splitScheme_of_append hsplit (by simp [hcolon])
    exact ⟨fun _ => ⟨u, hu, hweb⟩, fun h => parse_slash_of_trailsAuthority h hsplit hscheme⟩
  · exact ⟨exists_parse_slash hu hweb, fun h => parse_slash_of_trailsAuthority h hsplit hscheme⟩

end ModuleDepot.Url
