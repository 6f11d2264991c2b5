import ModuleDepot.Proofs.Basic
import ModuleDepot.Proofs.Markup.Scan

/-! # Looking into tags

From the content of a tag its name and the values of its attributes are read back
(`tagName_content`, `attribute?_content`), however they are spaced and quoted.
-/

namespace ModuleDepot.Markup

theorem inKey_of_isNameByte {b : UInt8} (h : isNameByte b = true) : inKey b = true := by
  have hne : b ≠ 0x3D := ne_of_isNameByte h rfl
  simp [inKey, hne, isSpace_of_isNameByte h]

/-- What follows blanks starts with a blank or as it does. -/
theorem Blanks.head?_append (s : Blanks) {rest : List UInt8} {x : UInt8}
    (h : x ∈ (s.bytes ++ rest).head?) : isSpace x = true ∨ x ∈ rest.head? := by
  rcases hs : s.bytes with _ | ⟨y, blanks⟩
  · rw [hs] at h
    exact .inr h
  · rw [hs] at h
    cases h
    exact .inl (s.blank x (hs ▸ List.mem_cons_self))

/-! ## Reading an attribute -/

theorem readValue_quotedValue (a : Attribute) (length : Nat) (key rest : List UInt8) :
    readValue length key (a.behindSign.bytes ++ (a.quotedValue ++ rest)) =
      .found key a.value rest := by
  have hspace : isSpace a.quote = false := by
    rcases a.isQuote with h | h <;> rw [h] <;> rfl
  have hquote : (a.quote == 0x22 || a.quote == 0x27) = true := by
    rcases a.isQuote with h | h <;> rw [h] <;> rfl
  have hinside : ∀ b ∈ a.value, (b != a.quote) = true := fun b hb => by
    rw [bne_iff_ne]
    rintro rfl
    exact a.unquoted hb
  have hvalue : a.behindSign.bytes ++ (a.quotedValue ++ rest) =
      a.behindSign.bytes ++ a.quote :: (a.value ++ a.quote :: rest) := by
    simp [Attribute.quotedValue]
  have hend : ∀ x ∈ (a.quote :: rest).head?, (x != a.quote) = false := by simp
  rw [readValue, hvalue, dropWhile_stop a.behindSign.blank (by simpa using hspace)]
  dsimp only
  rw [if_pos hquote, dropWhile_stop hinside hend, takeWhile_stop hinside hend]

/-- **An attribute is read as it was written.** -/
theorem nextAttribute_bytes (a : Attribute) (length : Nat) (rest : List UInt8) :
    nextAttribute length (a.bytes ++ rest) = .found a.key.bytes a.value rest := by
  obtain ⟨first, key, hkey, hfirst⟩ := a.key.exists_cons
  have hinside : ∀ b ∈ key, inKey b = true := fun b hb =>
    inKey_of_isNameByte (a.key.plain b (hkey ▸ List.mem_cons_of_mem first hb))
  have hend : ∀ x ∈ (a.beforeSign.bytes ++ 0x3D :: (a.behindSign.bytes ++
      (a.quotedValue ++ rest))).head?, inKey x = false := by
    intro x hx
    rcases a.beforeSign.head?_append hx with hspace | hsign
    · simp [inKey, hspace]
    · cases hsign
      rfl
  have hbytes : a.bytes ++ rest = a.before.bytes ++ first :: (key ++ (a.beforeSign.bytes ++
      0x3D :: (a.behindSign.bytes ++ (a.quotedValue ++ rest)))) := by
    simp [Attribute.bytes, hkey]
  rw [nextAttribute, hbytes, dropWhile_stop a.before.blank
    (by simpa using isSpace_of_isNameByte hfirst)]
  dsimp only
  rw [dropWhile_stop hinside hend, takeWhile_stop hinside hend,
    dropWhile_stop a.beforeSign.blank (by simp; rfl)]
  dsimp only
  rw [if_pos (beq_self_eq_true _), readValue_quotedValue, hkey]

theorem nextAttribute_blanks (s : Blanks) (length : Nat) :
    nextAttribute length s.bytes = .finished := by
  rw [nextAttribute, List.dropWhile_eq_nil_iff.mpr s.blank]

theorem findAttribute_flatMap (attributes : List Attribute) (s : Blanks) (length : Nat)
    (key : List UInt8) :
    findAttribute length key (attributes.flatMap Attribute.bytes ++ s.bytes) =
      .ok ((attributes.find? (·.key.bytes == key)).map (·.value)) := by
  induction attributes with
  | nil =>
      rw [List.flatMap_nil, List.nil_append, findAttribute]
      split
      next => rfl
      next hnext => cases hnext.symm.trans (nextAttribute_blanks s length)
      next hnext => cases hnext.symm.trans (nextAttribute_blanks s length)
  | cons a rest ih =>
      have hread := nextAttribute_bytes a length (rest.flatMap Attribute.bytes ++ s.bytes)
      rw [List.flatMap_cons, List.append_assoc, findAttribute]
      split
      next hnext => cases hnext.symm.trans hread
      next hnext => cases hnext.symm.trans hread
      next hnext =>
        cases hnext.symm.trans hread
        rw [ih, List.find?_cons]
        cases hkey : a.key.bytes == key <;> rfl

/-! ## Reading a tag -/

/-- Behind the name of a tag stands a blank or nothing. -/
theorem Tag.head?_behind (t : Tag) :
    ∀ x ∈ (t.attributes.flatMap Attribute.bytes ++ t.behind.bytes).head?, (!isSpace x) = false := by
  intro x hx
  rcases hattributes : t.attributes with _ | ⟨a, rest⟩
  · rw [hattributes] at hx
    simp [t.behind.blank x (List.mem_of_head? hx)]
  · obtain ⟨first, blanks, hbefore⟩ := List.exists_cons_of_ne_nil a.separate
    rw [hattributes, List.flatMap_cons, Attribute.bytes, hbefore] at hx
    cases hx
    have hmem : x ∈ a.before.bytes := by
      rw [hbefore]
      exact List.mem_cons_self
    simp [a.before.blank x hmem]

/-- **The name of a tag is read back.** -/
theorem tagName_content (t : Tag) : tagName t.content = t.name.bytes := by
  refine takeWhile_stop (fun b hb => ?_) t.head?_behind
  simp [isSpace_of_isNameByte (t.name.plain b hb)]

/-- **The first value for a key is read back.** -/
theorem attribute?_content (t : Tag) (key : List UInt8) :
    attribute? key t.content = .ok (t.value? key) := by
  rw [attribute?, tagName_content, Tag.content, List.drop_left, findAttribute_flatMap]
  rfl

end ModuleDepot.Markup
