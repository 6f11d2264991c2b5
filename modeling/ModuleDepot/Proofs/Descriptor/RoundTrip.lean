import ModuleDepot.Proofs.Descriptor.Nesting
import ModuleDepot.Proofs.Markup.Spelling

/-! # Documents that declare given paths

A module can write the paths of its resources into a document in many ways: the names have prefixes
or not, the paths are quoted and spelled in one way or another, among other attributes, a resource
is an empty element or has content, and there are blanks, comments and other sections around.
`Lists` are all of these ways that keep to one list, and from each of them the parser reads the
paths back, in whatever pieces the document arrives (`documentParser_reads_back`).
-/

namespace ModuleDepot.Descriptor

open Markup

/-- The local name of the outermost element of a descriptor. -/
def moduleName : List UInt8 := Text.utf8 "module"

/-- The tags of the elements in a document, in its order. -/
def tags (c : Content) : List Tag :=
  c.items.filterMap Item.tag?

theorem tags_element (tag : Tag) (inner : Content) (behind : Blanks) (rest : Content) :
    tags (.element tag inner behind rest) = tag :: (tags inner ++ tags rest) := by
  rw [tags, Content.items, List.filterMap_cons, List.filterMap_append, List.filterMap_cons]
  rfl

/-! ## Ways to declare paths -/

/-- The tag of a resource with this path, spelled somehow, as the only value for its key. -/
structure Declares (tag : Tag) (path : String) : Prop where
  resource : isResource tag = true
  distinct : (tag.attributes.map (·.key.bytes)).Nodup
  spelled : ∃ a ∈ tag.attributes, a.key.bytes = pathKey ∧
    ∃ value : String, a.value = Text.utf8 value ∧ Spelled path.toList value.toList

/-- The content of a list that declares the paths: resources with blanks and comments between them,
and whatever else that is neither a list nor a resource inside them. -/
inductive Entries : Content → List String → Prop
  | done : Entries .done []
  | misc {m rest paths} : Entries rest paths → Entries (.misc m rest) paths
  | single {tag rest path paths} : Declares tag path → Entries rest paths →
      Entries (.single tag rest) (path :: paths)
  | element {tag inner behind rest path paths} : Declares tag path →
      (∀ t ∈ tags inner, isList t = false ∧ isResource t = false) → Entries rest paths →
      Entries (.element tag inner behind rest) (path :: paths)

/-- The content of a module that declares the paths in one list, with other sections around it that
have no list in them. -/
inductive Lists : Content → List String → Prop
  | misc {m rest paths} : Lists rest paths → Lists (.misc m rest) paths
  | single {tag rest paths} : isList tag = false → Lists rest paths →
      Lists (.single tag rest) paths
  | element {tag inner behind rest paths} : isList tag = false →
      (∀ t ∈ tags inner, isList t = false) → Lists rest paths →
      Lists (.element tag inner behind rest) paths
  | list {tag inner behind rest paths} : isList tag = true → Entries inner paths →
      (∀ t ∈ tags rest, isList t = false) → Lists (.element tag inner behind rest) paths
  | emptyList {tag rest} : isList tag = true → (∀ t ∈ tags rest, isList t = false) →
      Lists (.single tag rest) []

/-! ## The path in a tag -/

/-- The only value for a key is the one that is found. -/
theorem value?_of_nodup {tag : Tag} {a : Attribute} (ha : a ∈ tag.attributes)
    (hdistinct : (tag.attributes.map (·.key.bytes)).Nodup) :
    tag.value? a.key.bytes = some a.value := by
  have hfind : tag.attributes.find? (·.key.bytes == a.key.bytes) = some a := by
    generalize tag.attributes = attributes at ha hdistinct
    induction attributes with
    | nil => cases ha
    | cons b rest ih =>
        rw [List.map_cons, List.nodup_cons] at hdistinct
        rcases List.mem_cons.mp ha with rfl | hrest
        · exact List.find?_cons_of_pos (beq_self_eq_true _)
        · have hne : b.key.bytes ≠ a.key.bytes := fun heq =>
            hdistinct.1 (heq ▸ List.mem_map_of_mem hrest)
          rw [List.find?_cons_of_neg (by simpa using hne), ih hrest hdistinct.2]
  rw [Tag.value?, hfind]
  rfl

/-- **A declared path is read back from its tag.** -/
theorem pathOf_of_declares {tag : Tag} {path : String} (h : Declares tag path) :
    pathOf tag = .ok path := by
  obtain ⟨a, ha, hkey, value, hvalue, hspelled⟩ := h.spelled
  have hraw : tag.value? pathKey = some (Text.utf8 value) := by
    rw [← hkey, value?_of_nodup ha h.distinct, hvalue]
  rw [pathOf, hraw]
  dsimp only
  rw [Text.readUtf8_utf8]
  dsimp only
  rw [unescape_of_spelled hspelled]

/-! ## What is passed -/

theorem opensList?_eq_none {c : Content} (h : ∀ t ∈ tags c, isList t = false) :
    ∀ item ∈ c.items, opensList? item = none := by
  induction c with
  | done => exact fun _ hitem => absurd hitem List.not_mem_nil
  | misc m rest ih =>
      rintro item (_ | ⟨_, hitem⟩)
      · rfl
      · exact ih h item hitem
  | single tag rest ih =>
      rintro item (_ | ⟨_, hitem⟩)
      · rfl
      · exact ih (fun t ht => h t (List.mem_cons_of_mem tag ht)) item hitem
  | element tag inner behind rest ihInner ihRest =>
      rw [tags_element] at h
      have htag : isList tag = false := h tag List.mem_cons_self
      have hinner : ∀ t ∈ tags inner, isList t = false := fun t ht =>
        h t (List.mem_cons_of_mem tag (List.mem_append_left _ ht))
      have hrest : ∀ t ∈ tags rest, isList t = false := fun t ht =>
        h t (List.mem_cons_of_mem tag (List.mem_append_right _ ht))
      intro item hitem
      rcases List.mem_cons.mp hitem with rfl | hitem
      · simp [opensList?, htag]
      rcases List.mem_append.mp hitem with hitem | hitem
      · exact ihInner hinner item hitem
      rcases List.mem_cons.mp hitem with rfl | hitem
      · rw [opensList?_closing, htag]
        rfl
      · exact ihRest hrest item hitem

/-- Where no list is opened or closed, what is open stays so, and the resources are those among the
tags. -/
theorem resourceTags_of_opensList? {items : List Item}
    (h : ∀ item ∈ items, opensList? item = none) (inside : Bool) :
    insideAfter inside items = inside ∧
      resourceTags inside items = (items.filterMap Item.tag?).filter fun t =>
        inside && isResource t := by
  induction items with
  | nil => exact ⟨rfl, rfl⟩
  | cons item rest ih =>
      obtain ⟨hinside, htags⟩ := ih fun x hx => h x (List.mem_cons_of_mem item hx)
      have hpass : (opensList? item).getD inside = inside := by
        rw [h item List.mem_cons_self]
        rfl
      constructor
      · rw [insideAfter, List.foldl_cons, hpass]
        exact hinside
      · rw [resourceTags, hpass, htags, resourceTag?, List.filterMap_cons]
        cases item.tag? with
        | none => rfl
        | some tag =>
            rw [Option.filter_some, List.filter_cons]
            split <;> rfl

section Passed

variable {c : Content} (h : ∀ t ∈ tags c, isList t = false)

include h

theorem insideAfter_of_tags (inside : Bool) : insideAfter inside c.items = inside :=
  (resourceTags_of_opensList? (opensList?_eq_none h) inside).1

theorem resourceTags_of_tags (inside : Bool) :
    resourceTags inside c.items = (tags c).filter fun t => inside && isResource t :=
  (resourceTags_of_opensList? (opensList?_eq_none h) inside).2

/-- Outside a list nothing is found. -/
theorem resourceTags_false : resourceTags false c.items = [] := by
  rw [resourceTags_of_tags h]
  exact List.filter_eq_nil_iff.mpr fun _ _ => Bool.false_ne_true

end Passed

/-! ## Reading back -/

/-- The path of a resource and those behind it. -/
theorem mapM_cons_of_declares {tag : Tag} {path : String} {others : List Tag}
    {paths : List String} (htag : Declares tag path) (hothers : others.mapM pathOf = .ok paths) :
    (tag :: others).mapM pathOf = .ok (path :: paths) := by
  rw [List.mapM_cons, pathOf_of_declares htag, hothers]
  rfl

/-- **In a list the paths of its resources are read**, and the list stays open. -/
theorem mapM_pathOf_of_entries {c : Content} {paths : List String} (h : Entries c paths) :
    (resourceTags true c.items).mapM pathOf = .ok paths := by
  induction h with
  | done => rfl
  | misc _ ih => exact ih
  | @single tag rest path paths htag _ ih =>
      have hfirst : resourceTags true (Content.single tag rest).items =
          tag :: resourceTags true rest.items := by
        rw [Content.items, resourceTags, resourceTag?, Item.tag?, Option.filter_some,
          htag.resource]
        rfl
      rw [hfirst]
      exact mapM_cons_of_declares htag ih
  | @element tag inner behind rest path paths htag hinner _ ih =>
      have hlist : isList tag = false :=
        Bool.eq_false_iff.mpr fun hlist =>
          Bool.false_ne_true ((isResource_eq_false hlist).symm.trans htag.resource)
      have hnone : (tags inner).filter (fun t => true && isResource t) = [] :=
        List.filter_eq_nil_iff.mpr fun t ht => by simp [(hinner t ht).2]
      have hpassed : ∀ t ∈ tags inner, isList t = false := fun t ht => (hinner t ht).1
      have hopening : (opensList? (.opening tag)).getD true = true := by
        simp [opensList?, hlist]
      have hclosing : (opensList? (.closing tag.name behind)).getD true = true := by
        rw [opensList?_closing, hlist]
        rfl
      have hfirst : resourceTags true (Content.element tag inner behind rest).items =
          tag :: resourceTags true rest.items := by
        rw [Content.items, resourceTags, hopening, resourceTags_append,
          resourceTags_of_tags hpassed, hnone, insideAfter_of_tags hpassed, resourceTags, hclosing,
          resourceTag?, Item.tag?, Option.filter_some, htag.resource]
        rfl
      rw [hfirst]
      exact mapM_cons_of_declares htag ih

/-- **In a module the paths in its list are read**, and nothing before and behind the list. -/
theorem mapM_pathOf_of_lists {c : Content} {paths : List String} (h : Lists c paths) :
    (resourceTags false c.items).mapM pathOf = .ok paths := by
  induction h with
  | misc _ ih => exact ih
  | single htag _ ih => exact ih
  | @element tag inner behind rest paths htag hinner _ ih =>
      have hopening : (opensList? (.opening tag)).getD false = false := by
        simp [opensList?, htag]
      have hclosing : (opensList? (.closing tag.name behind)).getD false = false := by
        rw [opensList?_closing, htag]
        rfl
      rw [Content.items, resourceTags, hopening, resourceTags_append, resourceTags_false hinner,
        insideAfter_of_tags hinner, resourceTags, hclosing]
      exact ih
  | @list tag inner behind rest paths htag hinner hrest =>
      have hopening : (opensList? (.opening tag)).getD false = true := by
        simp [opensList?, htag]
      have hclosing (inside : Bool) :
          (opensList? (.closing tag.name behind)).getD inside = false := by
        rw [opensList?_closing, htag]
        rfl
      have hbehind : resourceTags (insideAfter true inner.items)
          (.closing tag.name behind :: rest.items) = [] := by
        rw [resourceTags, hclosing, resourceTags_false hrest]
        rfl
      rw [Content.items, resourceTags, hopening, resourceTags_append, hbehind, List.append_nil]
      exact mapM_pathOf_of_entries hinner
  | emptyList htag hrest =>
      rw [Content.items, resourceTags]
      exact congrArg (List.mapM pathOf) (resourceTags_false hrest)

/-- **In a document the paths in its module are read.** -/
theorem resourceTags_document (before after : List Misc) {root : Tag} (inner : Content)
    (behind : Blanks) (hroot : isList root = false) :
    resourceTags false (Document.mk before (.element root inner behind) after).items =
      resourceTags false inner.items := by
  have hopening : (opensList? (.opening root)).getD false = false := by
    simp [opensList?, hroot]
  have hclosing (inside : Bool) : resourceTags inside [.closing root.name behind] = [] := rfl
  obtain ⟨hbefore, hinside⟩ := resourceTags_misc before false
  rw [Document.items, Document.itemsToRoot, Root.content, Content.items, Content.items,
    resourceTags_append, resourceTags_append, hbefore, hinside, (resourceTags_misc after _).1,
    List.append_nil, List.nil_append, resourceTags, hopening, resourceTags_append, hclosing,
    List.append_nil]
  rfl

/-- **Declared paths are read back.** Whatever paths a document declares in one list in its module,
and however it is written, the parser gives these paths in their order, in whatever pieces and with
whatever interruptions the document arrives.

The document is in an encoding that extends ASCII and its values are UTF-8, which is what the
parser takes them for; in its document type declaration the angle brackets balance, as the reader
counts them. -/
theorem documentParser_reads_back (paths : List String) (before after : List Misc) (root : Tag)
    (inner : Content) (behind : Blanks) (stream : ByteStream)
    (hroot : root.localName = moduleName) (hlists : Lists inner paths)
    (h : stream.contents = (Document.bytes ⟨before, .element root inner behind, after⟩, none)) :
    documentParser stream = .ok paths := by
  have hlist : isList root = false := by
    rw [isList, hroot]
    decide
  rw [documentParser_of_contents h, parseDocument_bytes, resourceTags_document _ _ _ _ hlist,
    mapM_pathOf_of_lists hlists]

/-! ## A document to try it on -/

/-- The tag of a resource, with the path as `escape` spells it. -/
theorem declares_resourceTag (path : String)
    (h : (Text.utf8 (Markup.escape path)).contains 0x22 = false) :
    Declares (resourceTag (Markup.escape path) h) path :=
  ⟨(by decide : (Markup.localName resourceName == resourceName) = true),
    List.nodup_cons.mpr ⟨List.not_mem_nil, .nil⟩,
    _, List.mem_singleton.mpr rfl, rfl, _, rfl, spelled_escape path⟩

/-- A module with a comment and an empty section before its list, a resource with content whose path
has an ampersand, and an empty one. -/
def mixedModule : Content :=
  .misc (.comment (Text.utf8 " resources ") (by decide)) (.single moduleTag
    (.element listTag
      (.element (resourceTag (Markup.escape "a&b.jar") (by decide)) (.single moduleTag .done) .none
        (.misc (.text (Text.utf8 "\n") (by decide)) (.single secondTag .done)))
      .none (.single moduleTag .done)))

theorem documentParser_reads_back_mixedModule :
    let document : Document := ⟨[], .element moduleTag mixedModule .none, []⟩
    let stream : ByteStream := ⟨[.data (document.bytes.take 30), .interrupted,
      .data (document.bytes.drop 30)], none⟩
    stream.contents = (document.bytes, none) ∧ moduleTag.localName = moduleName ∧
      Lists mixedModule ["a&b.jar", "b.jar"] ∧
      documentParser stream = .ok ["a&b.jar", "b.jar"] := by
  intro document stream
  have hcontents : stream.contents = (document.bytes, none) := by decide +kernel
  have hroot : moduleTag.localName = moduleName := by decide
  have hentries : Entries (.element (resourceTag (Markup.escape "a&b.jar") (by decide))
      (.single moduleTag .done) .none (.misc (.text (Text.utf8 "\n") (by decide))
        (.single secondTag .done))) ["a&b.jar", "b.jar"] := by
    refine .element (declares_resourceTag "a&b.jar" _) ?_
      (.misc (.single (declares_resourceTag "b.jar" (by decide)) .done))
    intro t ht
    cases List.mem_singleton.mp ht
    decide
  have hlists : Lists mixedModule ["a&b.jar", "b.jar"] := by
    refine .misc (.single (by decide) (.list (by decide) hentries ?_))
    intro t ht
    cases List.mem_singleton.mp ht
    decide
  exact ⟨hcontents, hroot, hlists,
    documentParser_reads_back _ _ _ _ _ _ stream hroot hlists hcontents⟩

end ModuleDepot.Descriptor
