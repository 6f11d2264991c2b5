import ModuleDepot.Identifier
import ModuleDepot.Proofs.Basic

/-! # Identifiers and their written forms

A text is split at its first colon, in exactly one way (`splitSlot_eq_iff`). It is read as an
identifier if what stands before the colon is a name without an empty segment, and what stands
behind the colon is not empty (`parse_of_splits`). The written form of an identifier always has a
colon, so it is read as that identifier unless another colon comes first, or one of the two sides is
empty (`parse_text_iff`). No identifier that was read is of this kind, and so writing and reading
invert each other on all of them (`parse_and_text_are_inverse`).
-/

namespace ModuleDepot.ModuleId

/-! ## The first colon -/

/-- A text is what stands before its first colon and what stands behind it, if there is one. -/
inductive SplitsAtColon : String → String → Option String → Prop
  | whole {s : String} (h : ':' ∉ s.toList) : SplitsAtColon s s none
  | colon {name slot : String} (h : ':' ∉ name.toList) :
      SplitsAtColon (name ++ ":" ++ slot) name (some slot)

theorem SplitsAtColon.not_mem {s name : String} {slot? : Option String}
    (h : SplitsAtColon s name slot?) : ':' ∉ name.toList := by
  cases h with
  | whole h => exact h
  | colon h => exact h

theorem exists_splitsAtColon (s : String) : ∃ name slot?, SplitsAtColon s name slot? := by
  by_cases h : ':' ∈ s.toList
  · obtain ⟨before, behind, hsplit, hbefore⟩ := List.eq_append_cons_of_mem h
    have hs : s = String.ofList before ++ ":" ++ String.ofList behind := by
      apply String.toList_injective
      simp [hsplit]
    refine ⟨String.ofList before, some (String.ofList behind), ?_⟩
    rw [hs]
    exact .colon (by simpa using hbefore)
  · exact ⟨s, none, .whole h⟩

/-- The split of the reader is the one at the first colon. -/
theorem splitSlot_of_splits {s name : String} {slot? : Option String}
    (h : SplitsAtColon s name slot?) : splitSlot s = (name, slot?) := by
  have hall : ∀ c ∈ name.toList, (c != ':') = true := by
    intro c hc
    rw [bne_iff_ne]
    rintro rfl
    exact h.not_mem hc
  unfold splitSlot
  dsimp only
  cases h with
  | whole =>
      rw [List.dropWhile_eq_nil_iff.mpr hall, List.takeWhile_eq_self_iff.mpr hall,
        String.ofList_toList]
  | @colon _ slot =>
      have htext : (name ++ ":" ++ slot).toList = name.toList ++ ':' :: slot.toList := by simp
      rw [htext, dropWhile_stop hall (by simp), takeWhile_stop hall (by simp)]
      simp

theorem splitSlot_eq_iff {s name : String} {slot? : Option String} :
    splitSlot s = (name, slot?) ↔ SplitsAtColon s name slot? := by
  refine ⟨?_, splitSlot_of_splits⟩
  intro heq
  obtain ⟨name', slot'?, h⟩ := exists_splitsAtColon s
  rw [splitSlot_of_splits h] at heq
  cases heq
  exact h

/-! ## Reading -/

/-- The slot that is meant is empty only if an empty one is given. -/
theorem getD_defaultSlot_eq_empty_iff {slot? : Option String} :
    slot?.getD defaultSlot = "" ↔ slot? = some "" := by
  cases slot? with
  | none => simp [defaultSlot]
  | some slot => simp

/-- **What is read of a text** follows from its split: the first of three faults, or an identifier.
-/
theorem parse_of_splits {s name : String} {slot? : Option String}
    (h : SplitsAtColon s name slot?) :
    parse s =
      if name = "" then .error (.emptyName s)
      else if slot? = some "" then .error (.emptySlot s)
      else if "" ∈ separated '.' name then .error (.emptySegment name)
      else .ok ⟨name, slot?.getD defaultSlot⟩ := by
  have hsegments : (separated '.' name).any String.isEmpty = true ↔ "" ∈ separated '.' name := by
    simp
  unfold parse
  rw [splitSlot_of_splits h]
  dsimp only
  simp only [String.isEmpty_iff, getD_defaultSlot_eq_empty_iff, hsegments]

theorem exists_parse_iff {s name : String} {slot? : Option String}
    (h : SplitsAtColon s name slot?) :
    (∃ id, parse s = .ok id) ↔ name ≠ "" ∧ "" ∉ separated '.' name ∧ slot? ≠ some "" := by
  rw [parse_of_splits h]
  by_cases hname : name = ""
  · simp [hname]
  by_cases hslot : slot? = some ""
  · simp [hname, hslot]
  by_cases hsegments : "" ∈ separated '.' name
  · simp [hname, hslot, hsegments]
  · simp [hname, hslot, hsegments]

theorem parse_eq_ok_iff {s : String} {id : ModuleId} :
    parse s = .ok id ↔ ∃ slot?, SplitsAtColon s id.name slot? ∧ id.slot = slot?.getD defaultSlot ∧
      id.name ≠ "" ∧ "" ∉ id.segments ∧ id.slot ≠ "" := by
  constructor
  · intro hparse
    obtain ⟨name, slot?, h⟩ := exists_splitsAtColon s
    obtain ⟨hname, hsegments, hslot⟩ := (exists_parse_iff h).mp ⟨id, hparse⟩
    rw [parse_of_splits h, if_neg hname, if_neg hslot, if_neg hsegments] at hparse
    cases hparse
    exact ⟨slot?, h, rfl, hname, hsegments, mt getD_defaultSlot_eq_empty_iff.mp hslot⟩
  · rintro ⟨slot?, h, hid, hname, hsegments, hslot⟩
    have hgiven : slot? ≠ some "" := by
      intro hempty
      exact hslot (hid.trans (getD_defaultSlot_eq_empty_iff.mpr hempty))
    have hsegments : "" ∉ separated '.' id.name := hsegments
    rw [parse_of_splits h, if_neg hname, if_neg hgiven, if_neg hsegments, ← hid]

/-! ## Reading what was written -/

/-- **A written form is read as the identifier** exactly if the name ends at the first colon and has
no empty segment, and neither side is empty. -/
theorem parse_text_iff {id : ModuleId} :
    parse id.text = .ok id ↔
      id.name ≠ "" ∧ ':' ∉ id.name.toList ∧ "" ∉ id.segments ∧ id.slot ≠ "" := by
  constructor
  · intro hparse
    obtain ⟨slot?, h, -, hname, hsegments, hslot⟩ := parse_eq_ok_iff.mp hparse
    exact ⟨hname, h.not_mem, hsegments, hslot⟩
  · rintro ⟨hname, hcolon, hsegments, hslot⟩
    apply parse_eq_ok_iff.mpr
    exact ⟨some id.slot, .colon hcolon, rfl, hname, hsegments, hslot⟩

/-- An identifier that was read is read again from its written form. -/
theorem parse_text_of_parse {s : String} {id : ModuleId} (h : parse s = .ok id) :
    parse id.text = .ok id := by
  obtain ⟨slot?, hsplit, -, hname, hsegments, hslot⟩ := parse_eq_ok_iff.mp h
  exact parse_text_iff.mpr ⟨hname, hsplit.not_mem, hsegments, hslot⟩

/-- **Reading and writing are inverse.** A text is read exactly if what stands before its first colon
is not empty and has no empty segment, and what stands behind it, if there is one, is not empty. The
written form of what was read is read as the same, and any identifier is read from its written form
exactly if its name is not empty, has no colon and no empty segment, and its slot is not empty. What
was read has a written form of its own. -/
theorem parse_and_text_are_inverse :
    (∀ s, ∃ name slot?, SplitsAtColon s name slot? ∧
      ((∃ id, parse s = .ok id) ↔ name ≠ "" ∧ "" ∉ separated '.' name ∧ slot? ≠ some "")) ∧
    (∀ s id, parse s = .ok id → parse id.text = .ok id) ∧
    (∀ name slot, parse (text ⟨name, slot⟩) = .ok ⟨name, slot⟩ ↔
      name ≠ "" ∧ ':' ∉ name.toList ∧ "" ∉ separated '.' name ∧ slot ≠ "") ∧
    (∀ s s' id id', parse s = .ok id → parse s' = .ok id' → id ≠ id' → id.text ≠ id'.text) := by
  refine ⟨?_, ?_, ?_, ?_⟩
  · intro s
    obtain ⟨name, slot?, h⟩ := exists_splitsAtColon s
    exact ⟨name, slot?, h, exists_parse_iff h⟩
  · intro s id
    exact parse_text_of_parse
  · intro name slot
    exact parse_text_iff
  · intro s s' id id' hid hid' hne htext
    have hsame : parse id.text = .ok id' := htext ▸ parse_text_of_parse hid'
    exact hne (Except.ok.inj ((parse_text_of_parse hid).symm.trans hsame))

/-- A slot may have colons; the first one ends the name. -/
theorem parse_and_text_are_inverse_of_colons :
    parse "a.b:c:d" = .ok ⟨"a.b", "c:d"⟩ ∧ parse (text ⟨"a.b", "c:d"⟩) = .ok ⟨"a.b", "c:d"⟩ := by
  obtain ⟨-, hagain, -, -⟩ := parse_and_text_are_inverse
  have hread : parse "a.b:c:d" = .ok ⟨"a.b", "c:d"⟩ := by decide
  exact ⟨hread, hagain _ _ hread⟩

end ModuleDepot.ModuleId
