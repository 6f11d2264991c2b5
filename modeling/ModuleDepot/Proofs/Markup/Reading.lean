import ModuleDepot.Proofs.Markup.Attributes

/-! # Reading documents

The reader finds in a document the events of its items (`read_bytes`), and in the first bytes of
one those of the items that are complete in them (`read_take`). Whether it finds these bytes
unfinished depends on where they end: within markup it does, between two items and within text it
does not, however many elements are open there.

`Item.step` is what the reader keeps of the items: the names of the open elements. In a document it
never fails (`foldlM_items`).
-/

namespace ModuleDepot.Markup

/-! ## One step of the reader -/

section Reader

variable {opened : List (List UInt8)} {events : List ElementEvent} {bytes rest : List UInt8}

theorem readFrom_of_finished (h : scan bytes = .finished) :
    readFrom opened events bytes = (events.reverse, .finished) := by
  rw [readFrom]
  split <;> simp_all

theorem readFrom_of_unfinished {e : SyntaxError} (h : scan bytes = .unfinished e) :
    readFrom opened events bytes = (events.reverse, .unfinished (.notMarkup e)) := by
  rw [readFrom]
  split <;> simp_all

theorem readFrom_of_malformed {e : SyntaxError} (h : scan bytes = .malformed e) :
    readFrom opened events bytes = (events.reverse, .faulty (.notMarkup e)) := by
  rw [readFrom]
  split <;> simp_all

theorem readFrom_of_token {token : Token} (h : scan bytes = .token token rest) :
    readFrom opened events bytes =
      match understand opened token with
      | .error e => (events.reverse, .faulty e)
      | .ok (event, opened) => readFrom opened (event.toList ++ events) rest := by
  rw [readFrom]
  split
  next hscan => cases hscan.symm.trans h
  next hscan => cases hscan.symm.trans h
  next hscan => cases hscan.symm.trans h
  next hscan =>
    cases hscan.symm.trans h
    rfl

/-- What is scanned alike is read alike. -/
theorem readFrom_congr {bytes' : List UInt8} (h : scan bytes = scan bytes') :
    readFrom opened events bytes = readFrom opened events bytes' := by
  cases h' : scan bytes' with
  | finished => rw [readFrom_of_finished (h.trans h'), readFrom_of_finished h']
  | unfinished e => rw [readFrom_of_unfinished (h.trans h'), readFrom_of_unfinished h']
  | malformed e => rw [readFrom_of_malformed (h.trans h'), readFrom_of_malformed h']
  | token token rest => rw [readFrom_of_token (h.trans h'), readFrom_of_token h']

end Reader

/-! ## Open elements -/

/-- The names of the open elements behind an item, innermost first. A closing tag has to close the
innermost one. -/
def Item.step (opened : List (List UInt8)) : Item → Option (List (List UInt8))
  | .misc _ | .single _ => some opened
  | .opening tag => some (tag.name.bytes :: opened)
  | .closing name _ =>
    match opened with
    | [] => none
    | innermost :: outer => if innermost == name.bytes then some outer else none

section Step

variable {opened opened' : List (List UInt8)} {item : Item} {items rest : List Item}

theorem foldlM_cons_of_some (h : item.step opened = some opened') :
    (item :: rest).foldlM Item.step opened = rest.foldlM Item.step opened' := by
  rw [List.foldlM_cons, h]
  rfl

theorem foldlM_append_of_some (h : items.foldlM Item.step opened = some opened') :
    (items ++ rest).foldlM Item.step opened = rest.foldlM Item.step opened' := by
  rw [List.foldlM_append, h]
  rfl

/-- Items that can be read to the end can be read to every place before it. -/
theorem exists_foldlM_of_append (h : (items ++ rest).foldlM Item.step opened = some opened') :
    ∃ between, items.foldlM Item.step opened = some between := by
  rw [List.foldlM_append] at h
  cases hitems : items.foldlM Item.step opened with
  | none =>
      rw [hitems] at h
      cases h
  | some between => exact ⟨between, rfl⟩

theorem step_closing (name : Name) (behind : Blanks) :
    (Item.closing name behind).step (name.bytes :: opened) = some opened :=
  if_pos (beq_self_eq_true name.bytes)

end Step

/-- **What stands in an element closes what it opens.** -/
theorem foldlM_content (c : Content) (opened : List (List UInt8)) :
    c.items.foldlM Item.step opened = some opened := by
  induction c generalizing opened with
  | done => rfl
  | misc m rest ih => exact ih opened
  | single tag rest ih => exact ih opened
  | element tag inner behind rest ihInner ihRest =>
      have hopened : (Item.opening tag).step opened = some (tag.name.bytes :: opened) := rfl
      rw [Content.items, foldlM_cons_of_some hopened, foldlM_append_of_some (ihInner _),
        foldlM_cons_of_some (step_closing tag.name behind)]
      exact ihRest opened

theorem foldlM_misc (l : List Misc) (opened : List (List UInt8)) :
    (l.map Item.misc).foldlM Item.step opened = some opened := by
  induction l with
  | nil => rfl
  | cons m rest ih => exact ih

theorem foldlM_items (d : Document) : d.items.foldlM Item.step [] = some [] := by
  rw [Document.items, Document.itemsToRoot, List.append_assoc,
    foldlM_append_of_some (foldlM_misc d.before []),
    foldlM_append_of_some (foldlM_content d.root.content []), foldlM_misc]

/-! ## Items in a row -/

section Items

variable {opened opened' : List (List UInt8)} {events : List ElementEvent} {item : Item}
  {items : List Item}

/-- The reader understands the token of an item. -/
theorem understand_token (h : item.step opened = some opened') :
    understand opened item.token = .ok (item.event?, opened') := by
  cases item with
  | opening tag =>
      cases h
      rw [Item.token, understand, tagName_content, Item.event?]
  | single tag =>
      cases h
      rfl
  | closing name behind =>
      cases opened with
      | nil => cases h
      | cons innermost outer =>
          rw [Item.step] at h
          rw [Item.token, understand, Item.event?]
          split at h
          next hname =>
            cases h
            rw [if_pos hname]
          next => cases h
  | misc m =>
      cases h
      cases m with
      | doctype body hname _ => rw [Item.token, understand, if_neg (by simp [hname]), Item.event?]
      | _ => rfl

/-- Text is all that is no markup. -/
theorem exists_text (h : item.isMarkup = false) :
    ∃ bytes htext, item = .misc (.text bytes htext) := by
  cases item with
  | misc m =>
      cases m with
      | text bytes htext => exact ⟨bytes, htext, rfl⟩
      | _ => cases h
  | _ => cases h

/-- **An item is read as its event.** -/
theorem readFrom_item (h : item.step opened = some opened') (rest : List UInt8) :
    readFrom opened events (item.bytes ++ rest) =
      readFrom opened' (item.event?.toList ++ events) rest := by
  cases hmarkup : item.isMarkup with
  | true => rw [readFrom_of_token ((isToken_bytes hmarkup).whole rest), understand_token h]
  | false =>
      obtain ⟨bytes, htext, rfl⟩ := exists_text hmarkup
      cases h
      exact readFrom_congr (scan_text htext rest)

/-- **Items in a row are read as their events.** -/
theorem readFrom_render (h : items.foldlM Item.step opened = some opened')
    (events : List ElementEvent) (rest : List UInt8) :
    readFrom opened events (render items ++ rest) =
      readFrom opened' ((items.filterMap Item.event?).reverse ++ events) rest := by
  induction items generalizing opened events with
  | nil =>
      cases h
      rfl
  | cons item items ih =>
      rw [List.foldlM_cons] at h
      cases hitem : item.step opened with
      | none =>
          rw [hitem] at h
          cases h
      | some between =>
          rw [hitem] at h
          rw [render, List.flatMap_cons, List.append_assoc, readFrom_item hitem]
          refine (ih h _).trans ?_
          rw [List.filterMap_cons]
          cases item.event? <;> simp

end Items

/-- **A document is read as the events of its items.** -/
theorem read_bytes (d : Document) : read d.bytes = (d.items.filterMap Item.event?, .finished) := by
  have hread := readFrom_render (foldlM_items d) [] []
  rw [List.append_nil, List.append_nil, readFrom_of_finished scan_nil,
    List.reverse_reverse] at hread
  exact hread

/-! ## The first bytes of a document -/

/-- The items that are complete in so many bytes. -/
def complete (n : Nat) : List Item → List Item
  | [] => []
  | item :: rest =>
    if item.bytes.length ≤ n then item :: complete (n - item.bytes.length) rest else []

/-- The item that is begun but not complete in so many bytes. -/
def begun (n : Nat) : List Item → Option Item
  | [] => none
  | item :: rest =>
    if item.bytes.length ≤ n then begun (n - item.bytes.length) rest
    else if n = 0 then none else some item

/-- The bytes end within markup. -/
def endsInMarkup (n : Nat) (items : List Item) : Bool :=
  (begun n items).any Item.isMarkup

theorem complete_prefix (n : Nat) (items : List Item) : complete n items <+: items := by
  induction items generalizing n with
  | nil => exact List.prefix_rfl
  | cons item rest ih =>
      rw [complete]
      split
      · exact List.cons_prefix_cons.mpr ⟨rfl, ih _⟩
      · exact List.nil_prefix

/-- The first bytes are the complete items and a part of the one that is begun. -/
theorem exists_part (n : Nat) (items : List Item) :
    ∃ part, (render items).take n = render (complete n items) ++ part ∧
      (begun n items = none ∧ part = [] ∨ ∃ item, begun n items = some item ∧
        part <+: item.bytes ∧ part ≠ item.bytes ∧ part ≠ []) := by
  induction items generalizing n with
  | nil => exact ⟨[], by simp [render, complete], .inl ⟨rfl, rfl⟩⟩
  | cons item rest ih =>
      have hrender : render (item :: rest) = item.bytes ++ render rest := List.flatMap_cons
      rw [complete, begun, hrender]
      split
      next hfits =>
        obtain ⟨part, hpart, hbegun⟩ := ih (n - item.bytes.length)
        refine ⟨part, ?_, hbegun⟩
        rw [List.take_append, List.take_of_length_le hfits, hpart]
        simp [render]
      next hlong =>
        have htake : (item.bytes ++ render rest).take n = item.bytes.take n :=
          List.take_append_of_le_length (by omega)
        refine ⟨item.bytes.take n, by rw [htake]; rfl, ?_⟩
        split
        next hzero => exact .inl ⟨rfl, by rw [hzero, List.take_zero]⟩
        next hpos =>
          refine .inr ⟨item, rfl, List.take_prefix n _, fun heq => ?_, fun hnil => ?_⟩
          · have := congrArg List.length heq
            rw [List.length_take] at this
            omega
          · have := congrArg List.length hnil
            rw [List.length_take, List.length_nil] at this
            omega

theorem scan_part {item : Item} {part : List UInt8} (hpart : part <+: item.bytes)
    (hne : part ≠ item.bytes) (hnonempty : part ≠ []) :
    if item.isMarkup then ∃ e, scan part = .unfinished e else scan part = .finished := by
  split
  next hmarkup => exact (isToken_bytes hmarkup).cut part hpart hne hnonempty
  next htext =>
    obtain ⟨bytes, hbytes, rfl⟩ := exists_text (by simpa using htext)
    have hscan := scan_text (fun h => hbytes (hpart.subset h)) []
    rwa [List.append_nil, scan_nil] at hscan

/-- **The first bytes of a document are read as the events of the items that are complete in them.**
They are unfinished if they end in markup, and otherwise not. -/
theorem read_take (d : Document) (n : Nat) :
    ∃ ending, read (d.bytes.take n) = ((complete n d.items).filterMap Item.event?, ending) ∧
      if endsInMarkup n d.items then ∃ e, ending = .unfinished e else ending = .finished := by
  obtain ⟨part, hpart, hbegun⟩ := exists_part n d.items
  obtain ⟨rest, hrest⟩ := complete_prefix n d.items
  obtain ⟨opened, hopened⟩ : ∃ opened, (complete n d.items).foldlM Item.step [] = some opened := by
    have hall := foldlM_items d
    rw [← hrest] at hall
    exact exists_foldlM_of_append hall
  have hread := readFrom_render hopened [] part
  rw [← hpart] at hread
  rw [read, Document.bytes, hread]
  have hscan : if endsInMarkup n d.items then ∃ e, scan part = .unfinished e
      else scan part = .finished := by
    rw [endsInMarkup]
    rcases hbegun with ⟨hnone, rfl⟩ | ⟨item, hsome, hprefix, hne, hnonempty⟩
    · rw [hnone]
      exact scan_nil
    · rw [hsome]
      exact scan_part hprefix hne hnonempty
  split at hscan
  next hmarkup =>
    obtain ⟨e, he⟩ := hscan
    refine ⟨_, by rw [readFrom_of_unfinished he, List.append_nil, List.reverse_reverse], ?_⟩
    rw [if_pos hmarkup]
    exact ⟨_, rfl⟩
  next hnot =>
    refine ⟨_, by rw [readFrom_of_finished hscan, List.append_nil, List.reverse_reverse], ?_⟩
    rw [if_neg hnot]

end ModuleDepot.Markup
