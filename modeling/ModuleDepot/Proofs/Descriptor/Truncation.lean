import ModuleDepot.Proofs.Descriptor.Resources

/-! # Documents that are cut short

A document that ends too early is accepted, if it ends between two items or within text, behind at
least one tag (`documentParser_take`): open elements at the end are no fault. The resources behind
the cut are then missing, without an error (`accepts_cut_document`).

What makes the parser reject a cut document is either markup that is not complete, or that there is
no tag at all, or a resource before the cut which it rejects anyway. Whether the root element is
closed has no part in it.
-/

namespace ModuleDepot.Descriptor

open Markup

theorem parseDocument_take_of_not_endsInMarkup (d : Document) {n : Nat}
    (h : endsInMarkup n d.items = false) :
    parseDocument (d.bytes.take n) none =
      match (resourceTags false (complete n d.items)).mapM pathOf with
      | .error e => .error e
      | .ok paths =>
        if (complete n d.items).any (·.tag?.isSome) then .ok paths else .error .noRoot := by
  obtain ⟨ending, hread, hending⟩ := read_take d n
  rw [h, if_neg Bool.false_ne_true] at hending
  subst hending
  exact parseDocument_of_finished hread

theorem exists_error_of_endsInMarkup (d : Document) {n : Nat}
    (h : endsInMarkup n d.items = true) :
    ∃ e, parseDocument (d.bytes.take n) none = .error e := by
  obtain ⟨ending, hread, hending⟩ := read_take d n
  rw [h, if_pos rfl] at hending
  obtain ⟨e, rfl⟩ := hending
  exact exists_error_of_unfinished hread

/-- **When a document that is cut short is rejected.** The first bytes of a document are rejected
exactly if they end in markup, or there is no tag in them, or the path of a resource in them cannot
be read. Otherwise they are accepted, with the paths of the resources in them, and these are the
first ones that the whole document has. -/
theorem documentParser_take (d : Document) (n : Nat) (stream : ByteStream)
    (h : stream.contents = (d.bytes.take n, none)) :
    let seen := complete n d.items
    let tags := resourceTags false seen
    ((∃ e, documentParser stream = .error e) ↔
      endsInMarkup n d.items = true ∨ (∀ item ∈ seen, item.tag? = none) ∨
        ∃ tag ∈ tags, ∃ e, pathOf tag = .error e) ∧
    ∀ paths, documentParser stream = .ok paths →
      tags.mapM pathOf = .ok paths ∧
      ∀ whole, parseDocument d.bytes none = .ok whole → paths <+: whole := by
  intro seen tags
  rw [documentParser_of_contents h]
  cases hcut : endsInMarkup n d.items with
  | true =>
      obtain ⟨e, he⟩ := exists_error_of_endsInMarkup d hcut
      refine ⟨⟨fun _ => .inl rfl, fun _ => ⟨e, he⟩⟩, fun paths hpaths => ?_⟩
      cases he.symm.trans hpaths
  | false =>
      have hparse : parseDocument (d.bytes.take n) none =
          match tags.mapM pathOf with
          | .error e => .error e
          | .ok paths => if seen.any (·.tag?.isSome) then .ok paths else .error .noRoot :=
        parseDocument_take_of_not_endsInMarkup d hcut
      rw [hparse, ← exists_error_iff]
      cases hread : tags.mapM pathOf with
      | error e => exact ⟨⟨fun _ => .inr (.inr ⟨e, rfl⟩), fun _ => ⟨e, rfl⟩⟩, nofun⟩
      | ok paths =>
          cases htag : seen.any (·.tag?.isSome) with
          | false =>
              have hnone : ∀ item ∈ seen, item.tag? = none := by simpa using htag
              exact ⟨⟨fun _ => .inr (.inl hnone), fun _ => ⟨_, rfl⟩⟩, nofun⟩
          | true =>
              obtain ⟨item, hitem, hsome⟩ := List.any_eq_true.mp htag
              refine ⟨⟨nofun, fun hrejected => ?_⟩, fun paths' hpaths => ?_⟩
              · rcases hrejected with hmarkup | hnone | ⟨e, herror⟩
                · cases hmarkup
                · rw [hnone item hitem] at hsome
                  cases hsome
                · cases herror
              · cases hpaths
                refine ⟨rfl, fun whole hwhole => ?_⟩
                obtain ⟨rest, hrest⟩ := complete_prefix n d.items
                rw [parseDocument_bytes, ← hrest, resourceTags_append] at hwhole
                exact prefix_of_mapM hread hwhole

/-- A document with two resources. -/
def twoResources : Document :=
  ⟨[], .element moduleTag
    (.element listTag (.single firstTag (.single secondTag .done)) .none .done)
    .none, []⟩

/-- Behind the first resource it can be cut, in whatever pieces it is read. -/
theorem documentParser_take_of_twoResources :
    let stream : ByteStream := ⟨[.data (Text.utf8 "<module><resources><res"), .interrupted,
      .data (Text.utf8 "ource-root path=\"a.jar\"/>")], none⟩
    stream.contents = (twoResources.bytes.take 48, none) ∧
      ¬ ∃ e, documentParser stream = .error e := by
  intro stream
  have hcontents : stream.contents = (twoResources.bytes.take 48, none) := by decide +kernel
  refine ⟨hcontents, fun herror => ?_⟩
  have htags : resourceTags false (complete 48 twoResources.items) = [firstTag] := rfl
  have hpath : pathOf firstTag = .ok "a.jar" := by decide +kernel
  rcases (documentParser_take twoResources 48 stream hcontents).1.mp herror with
    hmarkup | hnone | ⟨tag, htag, e, he⟩
  · exact absurd hmarkup (by decide +kernel)
  · cases hnone (.opening moduleTag) List.mem_cons_self
  · rw [htags] at htag
    cases List.mem_singleton.mp htag
    cases hpath.symm.trans he

/-- **A cut document is accepted.** The root element is not closed in it, and a resource is
missing. -/
theorem accepts_cut_document :
    let n := 48
    twoResources.bytes = Text.utf8 ("<module><resources><resource-root path=\"a.jar\"/>" ++
      "<resource-root path=\"b.jar\"/></resources></module>") ∧
    n < (render twoResources.itemsToRoot).length ∧
    documentParser (.ofBytes (twoResources.bytes.take n)) = .ok ["a.jar"] ∧
    documentParser (.ofBytes twoResources.bytes) = .ok ["a.jar", "b.jar"] := by
  intro n
  exact ⟨by decide +kernel, by decide +kernel, by decide +kernel, by decide +kernel⟩

end ModuleDepot.Descriptor
