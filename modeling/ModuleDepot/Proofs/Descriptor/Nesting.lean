import ModuleDepot.Fetch.Fetcher
import ModuleDepot.Proofs.Descriptor.Resources

/-! # Lists inside lists

A document declares the resources that stand in a list of resources, however deep. The parser gives
their paths in the order of the document, but for those that it overlooks: it forgets that a list is
open as soon as one inside it is closed (`documentParser_finds`). Where no list stands inside
another one nothing is overlooked, and else a resource can be missing (`overlooks_nested_resource`).

An element of a document is known by the elements around it, each with what stands in it before.
`Content.occurrences` goes through the tree, and `isOpen` says what the parser knows of the elements
around the place: whether in the innermost list among them no list was closed yet.
-/

namespace ModuleDepot.Descriptor

open Markup

/-! ## Elements and what is around them -/

/-- An element around a place in a document, with what stands in it before the place. -/
structure Level where
  tag : Tag
  before : List Item

/-- An element in a document, with the elements around it, innermost first. -/
structure Occurrence where
  levels : List Level
  tag : Tag

/-- The elements around a place that lies further on. -/
def past (items : List Item) (levels : List Level) : List Level :=
  levels.map fun level => { level with before := level.before ++ items }

/-- The elements in a document, in its order. -/
def occurrences (levels : List Level) : Content → List Occurrence
  | .done => []
  | .misc m rest => occurrences (past [.misc m] levels) rest
  | .element tag inner behind rest =>
    ⟨levels, tag⟩ :: (occurrences (⟨tag, []⟩ :: past [.opening tag] levels) inner ++
      occurrences (past (.opening tag :: (inner.items ++ [.closing tag.name behind])) levels) rest)
  | .single tag rest => ⟨levels, tag⟩ :: occurrences (past [.single tag] levels) rest

/-- The innermost list among the elements around a place. -/
def innermostList? (levels : List Level) : Option Level :=
  levels.find? fun level => isList level.tag

/-- Whether a list is closed in a row of items. -/
def closesList (items : List Item) : Bool :=
  items.any fun item => opensList? item == some false

namespace Occurrence

/-- A resource is declared if it stands in a list. -/
def isDeclared (o : Occurrence) : Bool :=
  isResource o.tag && o.levels.any fun level => isList level.tag

/-- A declared resource is overlooked if in the innermost list around it a list was closed. -/
def isOverlooked (o : Occurrence) : Bool :=
  (innermostList? o.levels).any fun level => closesList level.before

end Occurrence

/-- The resources that a document declares, in its order. -/
def declared (d : Document) : List Occurrence :=
  (occurrences [] d.root.content).filter (·.isDeclared)

/-! ## What the parser knows of the elements around -/

/-- In the innermost list around a place no list was closed. -/
def isOpen (levels : List Level) : Bool :=
  (innermostList? levels).any fun level => !closesList level.before

theorem past_append (a b : List Item) (levels : List Level) :
    past (a ++ b) levels = past b (past a levels) := by
  simp [past]

theorem closesList_append (a b : List Item) :
    closesList (a ++ b) = (closesList a || closesList b) :=
  List.any_append

theorem innermostList?_past (items : List Item) (levels : List Level) :
    innermostList? (past items levels) =
      (innermostList? levels).map fun level => { level with before := level.before ++ items } := by
  rw [innermostList?, past, List.find?_map]
  rfl

/-- **Items that close no list leave open what is open.** -/
theorem isOpen_past (items : List Item) (levels : List Level) :
    isOpen (past items levels) = (isOpen levels && !closesList items) := by
  rw [isOpen, innermostList?_past, isOpen]
  cases innermostList? levels with
  | none => rfl
  | some level => simp [closesList_append]

theorem isOpen_cons (tag : Tag) (levels : List Level) :
    isOpen (⟨tag, []⟩ :: levels) = (isList tag || isOpen levels) := by
  rw [isOpen, innermostList?, List.find?_cons]
  cases isList tag with
  | true => rfl
  | false => rfl

/-- What is in an element that is no list does not matter behind it. -/
theorem isOpen_past_cons {tag : Tag} (h : isList tag = false) (items : List Item)
    (levels : List Level) :
    isOpen (past items (⟨tag, []⟩ :: levels)) = isOpen (past items levels) := by
  rw [isOpen_past, isOpen_past, isOpen_cons, h, Bool.false_or]

/-- A declared resource that is not overlooked stands where a list is open. -/
theorem isDeclared_and_not_isOverlooked (o : Occurrence) :
    (o.isDeclared && !o.isOverlooked) = (isOpen o.levels && isResource o.tag) := by
  have hany : (o.levels.any fun level => isList level.tag) = (innermostList? o.levels).isSome := by
    rw [Bool.eq_iff_iff, innermostList?, List.find?_isSome, List.any_eq_true]
  rw [Occurrence.isDeclared, Occurrence.isOverlooked, hany, isOpen]
  cases innermostList? o.levels with
  | none => simp
  | some level => cases isResource o.tag <;> cases h : closesList level.before <;> simp [h]

/-! ## The elements in their order -/

theorem insideAfter_append (inside : Bool) (items rest : List Item) :
    insideAfter inside (items ++ rest) = insideAfter (insideAfter inside items) rest :=
  List.foldl_append

/-- What opens no list is passed by the parser as by the levels. -/
theorem getD_opensList? {item : Item} (h : opensList? item ≠ some true) (levels : List Level) :
    (opensList? item).getD (isOpen levels) = isOpen (past [item] levels) := by
  rw [isOpen_past, closesList, List.any_cons, List.any_nil]
  match hitem : opensList? item with
  | some true => exact absurd hitem h
  | some false => simp
  | none => simp

theorem closesList_opening (tag : Tag) (items : List Item) :
    closesList (.opening tag :: items) = closesList items := by
  rw [closesList, List.any_cons, opensList?]
  cases isList tag <;> rfl

theorem opensList?_closing (tag : Tag) (behind : Blanks) :
    opensList? (.closing tag.name behind) = if isList tag then some false else none :=
  rfl

theorem getD_opening (tag : Tag) (levels : List Level) :
    (opensList? (.opening tag)).getD (isOpen levels) =
      isOpen (⟨tag, []⟩ :: past [.opening tag] levels) := by
  rw [isOpen_cons, isOpen_past, closesList_opening, opensList?]
  cases isList tag with
  | true => rfl
  | false => exact (Bool.and_true _).symm

/-- **Behind an element** the parser knows of the elements around what it knew before it, unless a
list was closed in the element or with it. -/
theorem getD_closing (tag : Tag) (inner : List Item) (behind : Blanks) (levels : List Level) :
    (opensList? (.closing tag.name behind)).getD
        (isOpen (past inner (⟨tag, []⟩ :: past [.opening tag] levels))) =
      isOpen (past (.opening tag :: (inner ++ [.closing tag.name behind])) levels) := by
  have hclosing : closesList [.closing tag.name behind] = isList tag := by
    rw [closesList, List.any_cons, opensList?_closing]
    cases isList tag <;> rfl
  rw [isOpen_past _ levels, closesList_opening, closesList_append, hclosing, opensList?_closing]
  cases h : isList tag with
  | true => simp
  | false =>
      rw [isOpen_past_cons h, isOpen_past, isOpen_past, closesList_opening, Bool.or_false]
      simp [closesList]

/-- The resources among occurrences that stand where a list is open. -/
def openResources (occurrences : List Occurrence) : List Tag :=
  (occurrences.filter fun o => isOpen o.levels && isResource o.tag).map (·.tag)

theorem openResources_cons (levels : List Level) (tag : Tag) (rest : List Occurrence) :
    openResources (⟨levels, tag⟩ :: rest) =
      ((some tag).filter fun tag => isOpen levels && isResource tag).toList ++
        openResources rest := by
  rw [openResources, List.filter_cons, Option.filter_some]
  split <;> rfl

theorem openResources_append (a b : List Occurrence) :
    openResources (a ++ b) = openResources a ++ openResources b := by
  rw [openResources, List.filter_append, List.map_append]
  rfl

/-- **The parser goes through the elements as they stand in the tree.** It picks out the resources
that stand where a list is open. -/
theorem resourceTags_content (c : Content) (levels : List Level) :
    resourceTags (isOpen levels) c.items = openResources (occurrences levels c) ∧
      insideAfter (isOpen levels) c.items = isOpen (past c.items levels) := by
  induction c generalizing levels with
  | done =>
      refine ⟨rfl, ?_⟩
      rw [Content.items, isOpen_past]
      simp [insideAfter, closesList]
  | misc m rest ih =>
      obtain ⟨htags, hinside⟩ := ih (past [.misc m] levels)
      have hmisc : opensList? (.misc m) ≠ some true := (Option.some_ne_none true).symm
      have hpass := getD_opensList? hmisc levels
      rw [Content.items, resourceTags, hpass, htags, insideAfter, List.foldl_cons, hpass]
      refine ⟨rfl, hinside.trans ?_⟩
      rw [← past_append]
      rfl
  | single tag rest ih =>
      obtain ⟨htags, hinside⟩ := ih (past [.single tag] levels)
      have hsingle : opensList? (.single tag) ≠ some true := (Option.some_ne_none true).symm
      have hpass := getD_opensList? hsingle levels
      rw [Content.items, resourceTags, hpass, htags, insideAfter, List.foldl_cons, hpass]
      refine ⟨(openResources_cons levels tag _).symm, hinside.trans ?_⟩
      rw [← past_append]
      rfl
  | element tag inner behind rest ihInner ihRest =>
      obtain ⟨htags, hinside⟩ := ihInner (⟨tag, []⟩ :: past [.opening tag] levels)
      obtain ⟨htags', hinside'⟩ :=
        ihRest (past (.opening tag :: (inner.items ++ [.closing tag.name behind])) levels)
      have hopening := getD_opening tag levels
      have hclosing := getD_closing tag inner.items behind levels
      constructor
      · rw [Content.items, resourceTags, hopening, resourceTags_append, htags, hinside,
          resourceTags, hclosing, htags', occurrences, openResources_cons, openResources_append]
        rfl
      · rw [Content.items, insideAfter, List.foldl_cons, hopening]
        refine (insideAfter_append _ inner.items _).trans ?_
        rw [hinside, insideAfter, List.foldl_cons, hclosing]
        refine hinside'.trans ?_
        rw [← past_append]
        simp

theorem resourceTags_misc (l : List Misc) (inside : Bool) :
    resourceTags inside (l.map .misc) = [] ∧ insideAfter inside (l.map .misc) = inside := by
  induction l with
  | nil => exact ⟨rfl, rfl⟩
  | cons m rest ih => exact ih

/-- **The parser finds the declared resources that it does not overlook.** -/
theorem resourceTags_items (d : Document) :
    resourceTags false d.items = ((declared d).filter (!·.isOverlooked)).map (·.tag) := by
  have hopen : ((occurrences [] d.root.content).filter (·.isDeclared)).filter (!·.isOverlooked) =
      (occurrences [] d.root.content).filter fun o => isOpen o.levels && isResource o.tag := by
    rw [List.filter_filter]
    refine List.filter_congr fun o _ => ?_
    rw [Bool.and_comm, isDeclared_and_not_isOverlooked]
  obtain ⟨hbefore, hinside⟩ := resourceTags_misc d.before false
  obtain ⟨hroot, -⟩ := resourceTags_content d.root.content []
  rw [declared, hopen, Document.items, Document.itemsToRoot, resourceTags_append,
    resourceTags_append, hbefore, hinside, (resourceTags_misc d.behind _).1, List.append_nil,
    List.nil_append]
  exact hroot

/-- Reading some and reading all comes to the same if these are all, or if one of them cannot be
read. -/
theorem toOption_filter_iff {ε α β : Type} {f : α → Except ε β} {p : α → Bool} {l : List α} :
    ((l.filter p).mapM f).toOption = (l.mapM f).toOption ↔
      (∀ x ∈ l, p x = true) ∨ ∃ x ∈ l.filter p, ∃ e, f x = .error e := by
  rw [← exists_error_iff]
  cases hsome : (l.filter p).mapM f with
  | error e =>
      refine ⟨fun _ => .inr ⟨e, rfl⟩, fun _ => ?_⟩
      obtain ⟨x, hx, hfx⟩ := exists_error_iff.mp ⟨e, hsome⟩
      obtain ⟨e', hall⟩ := exists_error_iff.mpr ⟨x, (List.mem_filter.mp hx).1, hfx⟩
      rw [hall]
      rfl
  | ok ys =>
      refine ⟨fun heq => .inl ?_, fun hread => ?_⟩
      · cases hall : l.mapM f with
        | error e =>
            rw [hall] at heq
            cases heq
        | ok zs =>
            rw [hall] at heq
            cases heq
            have hlength := (length_of_mapM hsome).symm.trans (length_of_mapM hall)
            exact List.length_filter_eq_length_iff.mp hlength
      · rcases hread with hread | ⟨e, he⟩
        · rw [← hsome, List.filter_eq_self.mpr hread]
        · cases he

/-- **What the parser finds in a document.** It gives the paths of the declared resources that are
not overlooked, in the order of the document, or an error if one of these paths cannot be read, and
the error names the module whose descriptor is read. So it gives the declared resources, or an error
if one of them has no path that can be read, exactly if nothing is overlooked or a resource that is
not overlooked is such an error already. -/
theorem documentParser_finds (d : Document) (stream : ByteStream)
    (h : stream.contents = (d.bytes, none)) :
    let found := (declared d).filter (!·.isOverlooked)
    documentParser stream = found.mapM (fun o => pathOf o.tag) ∧
    ((documentParser stream).toOption = ((declared d).mapM fun o => pathOf o.tag).toOption ↔
      (∀ o ∈ declared d, o.isOverlooked = false) ∨ ∃ o ∈ found, ∃ e, pathOf o.tag = .error e) ∧
    ∀ (σ : Type) (f : Fetcher σ) (id : ModuleId) (t : FileTree), f.parser = documentParser →
      t.openFile (f.store.path (Layout.file id Layout.descriptorName)) = .ok stream →
      f.readDescriptor id t = (documentParser stream).mapError (.invalid id) := by
  intro found
  have hparse : documentParser stream = found.mapM (fun o => pathOf o.tag) := by
    rw [documentParser_of_contents h, parseDocument_bytes, resourceTags_items, List.mapM_map]
    rfl
  refine ⟨hparse, ?_, fun σ f id t hparser hopen => ?_⟩
  · rw [hparse, toOption_filter_iff]
    simp only [Bool.not_eq_true']
    rfl
  · unfold Fetcher.readDescriptor
    extract_lets path
    rw [show t.openFile path = .ok stream from hopen, hparser]
    dsimp only
    cases documentParser stream <;> rfl

/-- A document with a list inside a list, and a resource behind the inner one. -/
def nestedList : Document :=
  ⟨[], .element moduleTag
    (.element listTag (.element listTag .done .none (.single firstTag .done)) .none .done)
    .none, []⟩

/-- In whatever pieces it is read, nothing is found in it. -/
theorem documentParser_finds_nothing_in_nestedList :
    let stream : ByteStream := ⟨[.data (nestedList.bytes.take 30), .interrupted,
      .data (nestedList.bytes.drop 30)], none⟩
    stream.contents = (nestedList.bytes, none) ∧ documentParser stream = .ok [] := by
  intro stream
  have hcontents : stream.contents = (nestedList.bytes, none) := by decide +kernel
  exact ⟨hcontents, (documentParser_finds nestedList stream hcontents).1⟩

/-- **A resource behind an inner list is missing**, although its path can be read. -/
theorem overlooks_nested_resource :
    nestedList.bytes = Text.utf8 ("<module><resources><resources></resources>" ++
      "<resource-root path=\"a.jar\"/></resources></module>") ∧
    (declared nestedList).mapM (fun o => pathOf o.tag) = .ok ["a.jar"] ∧
    documentParser (.ofBytes nestedList.bytes) = .ok [] := by
  exact ⟨by decide +kernel, by decide +kernel, by decide +kernel⟩

end ModuleDepot.Descriptor
