import ModuleDepot.Descriptor.Document
import ModuleDepot.Proofs.Markup.Reading

/-! # The resources in a row of items

The parser takes a path from the tags that `resourceTags` picks out: those of resources that stand
behind an opening `resources` tag, where no `resources` element was closed in between. It is an
error if one of these paths cannot be read, and then it does not matter what follows
(`parse_of_read`).
-/

namespace ModuleDepot.Descriptor

open Markup

/-- The path in a tag: the first attribute for it, decoded and with its references resolved. -/
def pathOf (t : Tag) : Except DescriptorError String :=
  match t.value? pathKey with
  | none => .error .noPath
  | some raw =>
    match Text.readUtf8 raw with
    | .error fault => .error (.notText fault)
    | .ok value =>
      match unescape value with
      | .error e => .error (.reference e)
      | .ok path => .ok path

theorem declaredPath_content (t : Tag) : declaredPath t.content = pathOf t := by
  rw [declaredPath, attribute?_content, pathOf]
  cases t.value? pathKey <;> rfl

/-- An element that lists resources. -/
def isList (t : Tag) : Bool :=
  t.localName == resourcesName

/-- An element that declares a resource. -/
def isResource (t : Tag) : Bool :=
  t.localName == resourceName

theorem isResource_eq_false {t : Tag} (h : isList t = true) : isResource t = false := by
  rw [isList, beq_iff_eq] at h
  rw [isResource, h]
  decide

/-- Whether an item opens or closes a list of resources. -/
def opensList? : Item → Option Bool
  | .opening tag => if isList tag then some true else none
  | .closing name _ => if localName name.bytes == resourcesName then some false else none
  | _ => none

/-- The tag of a resource in an item, if a list is open. -/
def resourceTag? (inside : Bool) (item : Item) : Option Tag :=
  item.tag?.filter fun tag => inside && isResource tag

/-- The tags of resources behind the opening tag of a list, as long as no list is closed. -/
def resourceTags (inside : Bool) : List Item → List Tag
  | [] => []
  | item :: rest =>
    (resourceTag? inside item).toList ++ resourceTags ((opensList? item).getD inside) rest

/-- Whether a list was opened and none closed behind it. -/
def insideAfter (inside : Bool) (items : List Item) : Bool :=
  items.foldl (fun inside item => (opensList? item).getD inside) inside

theorem resourceTags_append (inside : Bool) (items rest : List Item) :
    resourceTags inside (items ++ rest) =
      resourceTags inside items ++ resourceTags (insideAfter inside items) rest := by
  induction items generalizing inside with
  | nil => rfl
  | cons item items ih =>
      rw [List.cons_append, resourceTags, resourceTags, ih, List.append_assoc]
      rfl

/-! ## Paths, one after the other -/

section Paths

variable {ε α β : Type} {f : α → Except ε β} {l : List α}

theorem exists_error_iff : (∃ e, l.mapM f = .error e) ↔ ∃ x ∈ l, ∃ e, f x = .error e := by
  induction l with
  | nil => simp [pure, Except.pure]
  | cons x l ih =>
      rw [List.mapM_cons, List.exists_mem_cons_iff, ← ih]
      cases hx : f x with
      | error e => simp [bind, Except.bind]
      | ok y => cases hl : l.mapM f <;> simp [bind, Except.bind, pure, Except.pure]

theorem length_of_mapM {ys : List β} (h : l.mapM f = .ok ys) : ys.length = l.length := by
  induction l generalizing ys with
  | nil =>
      cases h
      rfl
  | cons x l ih =>
      rw [List.mapM_cons] at h
      cases hx : f x with
      | error e =>
          rw [hx] at h
          cases h
      | ok y =>
          cases hl : l.mapM f with
          | error e =>
              rw [hx, hl] at h
              cases h
          | ok zs =>
              rw [hx, hl] at h
              cases h
              rw [List.length_cons, List.length_cons, ih hl]

/-- What comes first is read first. -/
theorem prefix_of_mapM {l' : List α} {ys zs : List β} (h : l.mapM f = .ok ys)
    (hall : (l ++ l').mapM f = .ok zs) : ys <+: zs := by
  rw [List.mapM_append, h] at hall
  cases hl' : l'.mapM f with
  | error e =>
      rw [hl'] at hall
      cases hall
  | ok ys' =>
      rw [hl'] at hall
      cases hall
      exact List.prefix_append ys ys'

end Paths

/-! ## What the parser reads -/

/-- What is read behind an item, from the paths in it on. -/
def Reading.behind (r : Reading) (item : Item) (paths : List String) : Reading :=
  ⟨(opensList? item).getD r.inResources, r.sawElement || item.tag?.isSome, paths.reverse ++ r.paths⟩

/-- The tag of an element that is no list is taken in. -/
theorem tag_content (r : Reading) (t : Tag) :
    r.tag t.content =
      match ((some t).filter fun tag => r.inResources && isResource tag).toList.mapM pathOf with
      | .error e => .error e
      | .ok paths => .ok ⟨r.inResources, true, paths.reverse ++ r.paths⟩ := by
  rw [Reading.tag, tagName_content, declaredPath_content]
  change (if r.inResources && isResource t then _ else _) = _
  cases hread : r.inResources && isResource t with
  | false =>
      rw [Option.filter_some, hread, if_neg Bool.false_ne_true, if_neg Bool.false_ne_true]
      rfl
  | true =>
      rw [Option.filter_some, hread, if_pos rfl, if_pos rfl]
      cases hpath : pathOf t with
      | error e => simp [hpath, bind, Except.bind]
      | ok path => simp [hpath, bind, Except.bind, pure, Except.pure]

/-- **The parser takes in an item**, with the paths in it, which are one or none. -/
theorem steps_item (r : Reading) (item : Item) (events : List ElementEvent) :
    r.steps (item.event?.toList ++ events) =
      match (resourceTag? r.inResources item).toList.mapM pathOf with
      | .error e => .error e
      | .ok paths => (r.behind item paths).steps events := by
  cases item with
  | misc m =>
      have hbehind : r.behind (.misc m) [] = r := by simp [Reading.behind, opensList?, Item.tag?]
      rw [show (resourceTag? r.inResources (.misc m)).toList.mapM pathOf = .ok [] from rfl]
      exact congrArg (·.steps events) hbehind.symm
  | closing name behind =>
      have hbehind : r.step (.closed name.bytes) = .ok (r.behind (.closing name behind) []) := by
        rw [Reading.step, Reading.behind, opensList?]
        split <;> simp [Item.tag?]
      rw [show (resourceTag? r.inResources (.closing name behind)).toList.mapM pathOf = .ok [] from
        rfl, Item.event?, Option.toList_some, List.singleton_append, Reading.steps, hbehind]
  | single tag =>
      rw [Item.event?, Option.toList_some, List.singleton_append, Reading.steps, Reading.step,
        tag_content, resourceTag?, Item.tag?]
      generalize ((some tag).filter _).toList.mapM pathOf = read
      cases read with
      | error e => rfl
      | ok paths => simp [Reading.behind, opensList?, Item.tag?]
  | opening tag =>
      rw [Item.event?, Option.toList_some, List.singleton_append, Reading.steps, Reading.step,
        tagName_content, ← Tag.localName, ← isList]
      cases hlist : isList tag with
      | true =>
          have hnone : resourceTag? r.inResources (.opening tag) = none := by
            simp [resourceTag?, Item.tag?, Option.filter_some, isResource_eq_false hlist]
          rw [if_pos rfl, hnone]
          simp [Reading.behind, opensList?, hlist, Item.tag?, pure, Except.pure]
      | false =>
          rw [if_neg (by simp), tag_content, resourceTag?, Item.tag?]
          generalize ((some tag).filter _).toList.mapM pathOf = read
          cases read with
          | error e => rfl
          | ok paths => simp [Reading.behind, opensList?, hlist, Item.tag?]

/-- **The parser takes in items in a row**: the paths of the resources, up to the first that cannot
be read. -/
theorem steps_filterMap (r : Reading) (items : List Item) :
    r.steps (items.filterMap Item.event?) =
      match (resourceTags r.inResources items).mapM pathOf with
      | .error e => .error e
      | .ok paths => .ok ⟨insideAfter r.inResources items,
          r.sawElement || items.any (·.tag?.isSome), paths.reverse ++ r.paths⟩ := by
  induction items generalizing r with
  | nil =>
    simp [Reading.steps, resourceTags, insideAfter, pure, Except.pure]
  | cons item rest ih =>
      have hevents : (item :: rest).filterMap Item.event? =
          item.event?.toList ++ rest.filterMap Item.event? := by
        rw [List.filterMap_cons]
        cases item.event? <;> rfl
      rw [hevents, steps_item, resourceTags, List.mapM_append]
      cases (resourceTag? r.inResources item).toList.mapM pathOf with
      | error e => rfl
      | ok first =>
          refine (ih _).trans ?_
          simp only [Reading.behind]
          generalize (resourceTags _ rest).mapM pathOf = read
          cases read with
          | error e => rfl
          | ok others => simp [insideAfter, bind, Except.bind, pure, Except.pure, Bool.or_assoc]

/-- **What the parser makes of bytes** whose events are those of items. -/
theorem parseDocument_of_finished {bytes : List UInt8} {items : List Item}
    (h : read bytes = (items.filterMap Item.event?, .finished)) :
    parseDocument bytes none =
      match (resourceTags false items).mapM pathOf with
      | .error e => .error e
      | .ok paths => if items.any (·.tag?.isSome) then .ok paths else .error .noRoot := by
  rw [parseDocument, h]
  dsimp only
  rw [steps_filterMap]
  generalize (resourceTags _ items).mapM pathOf = read
  cases read with
  | error e => rfl
  | ok paths => simp

/-- Bytes that end in markup are no document. -/
theorem exists_error_of_unfinished {bytes : List UInt8} {events : List ElementEvent}
    {e : DocumentError} (h : read bytes = (events, .unfinished e)) :
    ∃ e, parseDocument bytes none = .error e := by
  rw [parseDocument, h]
  dsimp only
  cases Reading.steps {} events with
  | error e => exact ⟨e, rfl⟩
  | ok r => exact ⟨_, rfl⟩

/-- A document has a tag. -/
theorem exists_tag (d : Document) : d.items.any (·.tag?.isSome) = true := by
  have hroot : d.root.content.items.any (·.tag?.isSome) = true := by
    cases d.root <;> rfl
  rw [Document.items, Document.itemsToRoot, List.any_append, List.any_append, hroot]
  simp

/-- **What the parser makes of a document**: the paths of its resources, or an error if one of them
cannot be read. -/
theorem parseDocument_bytes (d : Document) :
    parseDocument d.bytes none = (resourceTags false d.items).mapM pathOf := by
  rw [parseDocument_of_finished (read_bytes d), exists_tag]
  cases (resourceTags false d.items).mapM pathOf <;> rfl

theorem documentParser_of_contents {stream : ByteStream} {bytes : List UInt8}
    (h : stream.contents = (bytes, none)) : documentParser stream = parseDocument bytes none := by
  rw [documentParser, h]

/-! ## Tags to try it on -/

/-- A tag without attributes. -/
def bareTag (name : Name) : Tag :=
  ⟨name, [], .none⟩

def moduleTag : Tag :=
  bareTag ⟨Text.utf8 "module", by decide, List.all_eq_true.mp (by decide)⟩

def listTag : Tag :=
  bareTag ⟨resourcesName, by decide, List.all_eq_true.mp (by decide)⟩

/-- The tag of a resource with this path. -/
def resourceTag (path : String) (h : (Text.utf8 path).contains 0x22 = false) : Tag :=
  ⟨⟨resourceName, by decide, List.all_eq_true.mp (by decide)⟩,
    [{ before := ⟨[0x20], List.all_eq_true.mp rfl⟩
       separate := by decide
       key := ⟨pathKey, by decide, List.all_eq_true.mp (by decide)⟩
       beforeSign := .none
       behindSign := .none
       quote := 0x22
       isQuote := .inl rfl
       value := Text.utf8 path
       unquoted := fun hmem =>
         Bool.false_ne_true (h.symm.trans (List.contains_iff_mem.mpr hmem)) }],
    .none⟩

def firstTag : Tag :=
  resourceTag "a.jar" (by decide)

def secondTag : Tag :=
  resourceTag "b.jar" (by decide)

end ModuleDepot.Descriptor
