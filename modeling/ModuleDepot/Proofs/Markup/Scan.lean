import Mathlib.Data.List.Infix
import Mathlib.Data.List.Induction
import ModuleDepot.Proofs.Markup.Syntax

/-! # Scanning markup

What is written down as one piece of markup is scanned as one token, whatever follows it, and the
scanner finds every part of it unfinished (`isToken_bytes`). Text is passed over.

What all kinds of markup have in common is `isToken_bracketed`: up to its end nothing ends it, and
the state in which the scanner is at the end says that it does.
-/

namespace ModuleDepot.Markup

/-! ## Up to the end -/

section UpToEnd

variable {σ : Type} {ends : σ → Bool} {next : σ → UInt8 → σ} {state : σ}

/-- No angle bracket in the bytes ends the token that is being read. -/
def RunsOn (ends : σ → Bool) (next : σ → UInt8 → σ) (state : σ) (bytes : List UInt8) : Prop :=
  ∀ before behind, bytes = before ++ 0x3E :: behind → ends (before.foldl next state) = false

theorem RunsOn.of_prefix {part bytes : List UInt8} (h : RunsOn ends next state bytes)
    (hpart : part <+: bytes) : RunsOn ends next state part := by
  rintro before behind rfl
  obtain ⟨rest, rfl⟩ := hpart
  exact h before (behind ++ rest) (by simp)

theorem RunsOn.not_ends {b : UInt8} {bytes : List UInt8}
    (h : RunsOn ends next state (b :: bytes)) : ¬(b == 0x3E && ends state) = true := by
  intro hend
  obtain ⟨hb, hends⟩ := Bool.and_eq_true_iff.mp hend
  obtain rfl := eq_of_beq hb
  cases hends.symm.trans (h [] bytes rfl)

theorem RunsOn.tail {b : UInt8} {bytes : List UInt8} (h : RunsOn ends next state (b :: bytes)) :
    RunsOn ends next (next state b) bytes := by
  rintro before behind rfl
  exact h (b :: before) behind rfl

theorem runsOn_append {a b : List UInt8} (ha : RunsOn ends next state a)
    (hb : RunsOn ends next (a.foldl next state) b) : RunsOn ends next state (a ++ b) := by
  intro before behind h
  rcases List.append_eq_append_iff.mp h with ⟨between, rfl, hbetween⟩ | ⟨between, rfl, hbetween⟩
  · rw [List.foldl_append]
    exact hb between behind hbetween
  · cases between with
    | nil =>
        have hb' := hb [] behind hbetween.symm
        simpa using hb'
    | cons c rest =>
        obtain ⟨rfl, -⟩ := List.cons.inj hbetween
        exact ha before rest rfl

/-- Without angle brackets nothing ends. -/
theorem runsOn_of_not_mem {bytes : List UInt8} (h : 0x3E ∉ bytes) :
    RunsOn ends next state bytes := by
  rintro before behind rfl
  simp at h

theorem upToEnd_eq_none {read bytes : List UInt8} (h : RunsOn ends next state bytes) :
    upToEnd ends next state read bytes = none := by
  induction bytes generalizing state read with
  | nil => rfl
  | cons b bytes ih =>
      rw [upToEnd, if_neg h.not_ends]
      exact ih h.tail

theorem upToEnd_eq_some {read bytes rest : List UInt8} (h : RunsOn ends next state bytes)
    (hends : ends (bytes.foldl next state) = true) :
    upToEnd ends next state read (bytes ++ 0x3E :: rest) = some (read.reverse ++ bytes, rest) := by
  induction bytes generalizing state read with
  | nil =>
      rw [List.nil_append, upToEnd, if_pos (by simpa using hends), List.append_nil]
  | cons b bytes ih =>
      rw [List.cons_append, upToEnd, if_neg h.not_ends, ih h.tail hends]
      simp

end UpToEnd

/-! ## One token -/

/-- The bytes are one token wherever they stand, and a part of them is the start of one. -/
structure IsToken (bytes : List UInt8) (token : Token) : Prop where
  whole : ∀ rest, scan (bytes ++ rest) = .token token rest
  cut : ∀ part, part <+: bytes → part ≠ bytes → part ≠ [] → ∃ e, scan part = .unfinished e

/-- **Markup is one token** if its kind is known from how it is opened, nothing ends it before its
end, and there it ends. -/
theorem isToken_bracketed {σ : Type} {ends : σ → Bool} {next : σ → UInt8 → σ} {state : σ}
    {fault : SyntaxError} {accept : List UInt8 → Option Token} {opener body : List UInt8}
    {token : Token}
    (hscan : ∀ more, scan (0x3C :: (opener ++ more)) =
      closedAt fault accept (upToEnd ends next state [] (opener ++ more)))
    (hopener : ∀ part, part <+: opener → part ≠ opener → ∃ e, scan (0x3C :: part) = .unfinished e)
    (hruns : RunsOn ends next state (opener ++ body))
    (hends : ends ((opener ++ body).foldl next state) = true)
    (haccept : accept (opener ++ body) = some token) :
    IsToken (Item.bracketed (opener ++ body)) token where
  whole rest := by
    have hbytes : Item.bracketed (opener ++ body) ++ rest =
        0x3C :: (opener ++ (body ++ 0x3E :: rest)) := by
      simp [Item.bracketed]
    rw [hbytes, hscan, ← List.append_assoc, upToEnd_eq_some hruns hends, List.reverse_nil,
      List.nil_append, closedAt, haccept]
  cut part hpart hne hnonempty := by
    cases part with
    | nil => exact absurd rfl hnonempty
    | cons b part =>
        obtain ⟨rfl, hrest⟩ := List.cons_prefix_cons.mp hpart
        -- The closing bracket is missing, and so is perhaps some of what opens the token.
        have hinside : part <+: opener ++ body := by
          rcases List.prefix_concat_iff.mp hrest with rfl | hinside
          · exact absurd rfl hne
          · exact hinside
        rcases List.prefix_or_prefix_of_prefix hinside (List.prefix_append opener body) with
          hshort | ⟨more, rfl⟩
        · by_cases hwhole : part = opener
          · subst hwhole
            have hnone := hscan []
            rw [List.append_nil, upToEnd_eq_none (hruns.of_prefix hinside)] at hnone
            exact ⟨fault, hnone⟩
          · exact hopener part hshort hwhole
        · rw [hscan, upToEnd_eq_none (hruns.of_prefix hinside)]
          exact ⟨fault, rfl⟩

/-! ## Markup with a mark before its end -/

/-- A pattern whose end is not in the second part lies in the first. -/
theorem infix_of_infix_append_left {pattern a b : List UInt8} {last : UInt8} (hlast : last ∉ b)
    (h : pattern ++ [last] <:+: a ++ b) : pattern ++ [last] <:+: a := by
  obtain ⟨before, behind, h⟩ := h
  rw [List.append_assoc] at h
  rcases List.append_eq_append_iff.mp h with ⟨between, rfl, hbetween⟩ | ⟨between, rfl, hbetween⟩
  · rcases List.append_eq_append_iff.mp hbetween with ⟨rest, rfl, -⟩ | ⟨rest, hpattern, rfl⟩
    · exact ⟨before, rest, by simp⟩
    · rcases List.eq_nil_or_concat' rest with rfl | ⟨rest, c, rfl⟩
      · exact ⟨before, [], by simpa using hpattern⟩
      · have hc : last = c := by
          have := congrArg List.getLast? hpattern
          simpa using this
        exact absurd (by simp [hc]) hlast
  · exact absurd (by simp [hbetween]) hlast

/-- A pattern whose start is not in the first part lies in the second. -/
theorem infix_of_infix_append_right {pattern a b : List UInt8} {first : UInt8} (hfirst : first ∉ a)
    (h : first :: pattern <:+: a ++ b) : first :: pattern <:+: b := by
  have hreverse : pattern.reverse ++ [first] <:+: b.reverse ++ a.reverse := by
    rw [← List.reverse_cons, ← List.reverse_append]
    exact List.reverse_infix.mpr h
  have := infix_of_infix_append_left (by simpa using hfirst) hreverse
  rw [← List.reverse_cons] at this
  exact List.reverse_infix.mp this

/-- **Nothing ends before the mark**, if the bracket behind it does not follow the mark earlier,
where the first bytes do not count. -/
theorem runsOn_mark {σ : Type} {ends : σ → Bool} {next : σ → UInt8 → σ} {state : σ} {k : Nat}
    {mark bytes : List UInt8} (hne : mark ≠ []) (hmark : 0x3E ∉ mark)
    (hends : ∀ before : List UInt8, ends (before.foldl next state) = true →
      mark <:+ before.drop k)
    (hbytes : ¬ mark ++ [0x3E] <:+: bytes.drop k) : RunsOn ends next state (bytes ++ mark) := by
  intro before behind h
  by_contra hend
  obtain ⟨init, hinit⟩ := hends before (by simpa using hend)
  have hk : k ≤ before.length := by
    by_contra hlong
    rw [List.drop_of_length_le (by omega)] at hinit
    exact hne (List.append_eq_nil_iff.mp hinit).2
  obtain ⟨rest, rfl⟩ : ∃ rest, bytes = before ++ 0x3E :: rest := by
    rcases List.append_eq_append_iff.mp h with ⟨between, rfl, hbetween⟩ | ⟨between, rfl, hbetween⟩
    · exact absurd (by simp [hbetween]) hmark
    · cases between with
      | nil =>
          have hmem : 0x3E ∈ [] ++ mark := hbetween ▸ List.mem_cons_self
          exact absurd hmem hmark
      | cons c rest =>
          obtain ⟨rfl, -⟩ := List.cons.inj hbetween
          exact ⟨rest, rfl⟩
  refine hbytes ⟨init, rest, ?_⟩
  rw [List.drop_append_of_le_length hk, ← hinit]
  simp

/-- The trail is where the bytes end. -/
theorem count_trail (bytes : List UInt8) : (bytes.foldl Trail.push {}).count = bytes.length := by
  induction bytes using List.reverseRecOn with
  | nil => rfl
  | append_singleton init b ih => simp [Trail.push, ih]

theorem suffix_of_last {bytes : List UInt8} {b : UInt8} (hb : b ≠ 0)
    (h : (bytes.foldl Trail.push {}).last = b) : [b] <:+ bytes := by
  rcases List.eq_nil_or_concat' bytes with rfl | ⟨init, c, rfl⟩
  · exact absurd h.symm hb
  · simp only [List.foldl_append, List.foldl_cons, List.foldl_nil, Trail.push] at h
    exact ⟨init, by rw [h]⟩

theorem suffix_of_trail {bytes : List UInt8} {a b : UInt8} (ha : a ≠ 0) (hb : b ≠ 0)
    (hlast : (bytes.foldl Trail.push {}).last = b)
    (hbefore : (bytes.foldl Trail.push {}).beforeLast = a) : [a, b] <:+ bytes := by
  rcases List.eq_nil_or_concat' bytes with rfl | ⟨init, c, rfl⟩
  · exact absurd hlast.symm hb
  · simp only [List.foldl_append, List.foldl_cons, List.foldl_nil, Trail.push] at hlast hbefore
    obtain ⟨first, rfl⟩ := suffix_of_last ha hbefore
    exact ⟨first, by simp [hlast]⟩

/-! ## Text -/

theorem dropWhile_text {text : List UInt8} (h : 0x3C ∉ text) (rest : List UInt8) :
    (text ++ rest).dropWhile (· != 0x3C) = rest.dropWhile (· != 0x3C) := by
  refine List.dropWhile_append_of_pos fun b hb => ?_
  rw [bne_iff_ne]
  rintro rfl
  exact h hb

/-- Text is passed over. -/
theorem scan_text {text : List UInt8} (h : 0x3C ∉ text) (rest : List UInt8) :
    scan (text ++ rest) = scan rest := by
  unfold scan
  rw [dropWhile_text h]

theorem scan_nil : scan [] = .finished := rfl

/-! ## Comments, character data and instructions -/

/-- The scan has run into the end. -/
def Scan.isUnfinished : Scan → Bool
  | .unfinished _ => true
  | _ => false

/-- A part of what opens a kind of markup is unfinished, if the scanner says so of each. -/
theorem unfinished_opener {opener : List UInt8}
    (h : ∀ part ∈ opener.inits, part ≠ opener → (scan (0x3C :: part)).isUnfinished = true) :
    ∀ part, part <+: opener → part ≠ opener → ∃ e, scan (0x3C :: part) = .unfinished e := by
  intro part hpart hne
  have hunfinished := h part ((List.mem_inits _ _).mpr hpart) hne
  generalize scan (0x3C :: part) = found at hunfinished
  cases found with
  | unfinished e => exact ⟨e, rfl⟩
  | _ => cases hunfinished

/-- What starts with what it has to start with means nothing. -/
theorem skipped_append (opener : String) (body : List UInt8) :
    skipped opener (Text.utf8 opener ++ body) = some .other := by
  rw [skipped, if_pos (List.isPrefixOf_iff_prefix.mpr (List.prefix_append _ _))]

/-- A bracket ends a comment behind two hyphens, unless they belong to what opens it. -/
def endsComment (t : Trail) : Bool :=
  4 < t.count && t.last == 0x2D && t.beforeLast == 0x2D

/-- A bracket ends character data behind two square brackets. -/
def endsCharacters (t : Trail) : Bool :=
  t.last == 0x5D && t.beforeLast == 0x5D

/-- A bracket ends an instruction behind a question mark. -/
def endsInstruction (t : Trail) : Bool :=
  t.last == 0x3F

theorem isToken_comment {body : List UInt8} (h : ¬ Text.utf8 "-->" <:+: body) :
    IsToken (Item.bracketed (Misc.comment body h).inside) .other := by
  have hopener : Text.utf8 "!--" = [0x21, 0x2D, 0x2D] := by decide
  have hmark : Text.utf8 "--" = [0x2D, 0x2D] := by decide
  have hclose : Text.utf8 "-->" = [0x2D, 0x2D] ++ [0x3E] := by decide
  have hscan : ∀ more, scan (0x3C :: (Text.utf8 "!--" ++ more)) =
      closedAt .commentNotClosed (skipped "!--")
        (upToEnd endsComment Trail.push {} [] (Text.utf8 "!--" ++ more)) := fun more => by
    rw [hopener]
    rfl
  refine isToken_bracketed hscan (unfinished_opener (by decide)) ?_ ?_ (skipped_append "!--" _)
  · rw [← List.append_assoc, hmark]
    refine runsOn_mark (by decide) (by decide) (k := 3) (fun before hends => ?_) ?_
    · simp only [endsComment, Bool.and_eq_true, decide_eq_true_eq, beq_iff_eq, count_trail] at hends
      -- The mark is not made of the hyphens that opened the comment, since more than four bytes
      -- were read.
      obtain ⟨⟨hcount, hlast⟩, hbefore⟩ := hends
      obtain ⟨init, rfl⟩ := suffix_of_trail (by decide) (by decide) hlast hbefore
      have hlength : 3 ≤ init.length := by
        rw [List.length_append, List.length_cons, List.length_singleton] at hcount
        omega
      exact ⟨init.drop 3, by rw [List.drop_append_of_le_length hlength]⟩
    · rw [hopener]
      rwa [hclose] at h
  · rw [← List.append_assoc, hmark, List.foldl_append]
    simp only [List.foldl_cons, List.foldl_nil, endsComment, Trail.push, count_trail]
    simp [hopener]

theorem isToken_characters {body : List UInt8} (h : ¬ Text.utf8 "]]>" <:+: body) :
    IsToken (Item.bracketed (Misc.characters body h).inside) .other := by
  have hopener : Text.utf8 "![CDATA[" = [0x21, 0x5B, 0x43, 0x44, 0x41, 0x54, 0x41, 0x5B] := by
    decide
  have hmark : Text.utf8 "]]" = [0x5D, 0x5D] := by decide
  have hclose : Text.utf8 "]]>" = [0x5D, 0x5D] ++ [0x3E] := by decide
  have hscan : ∀ more, scan (0x3C :: (Text.utf8 "![CDATA[" ++ more)) =
      closedAt .sectionNotClosed (skipped "![CDATA[")
        (upToEnd endsCharacters Trail.push {} [] (Text.utf8 "![CDATA[" ++ more)) := fun more => by
    rw [hopener]
    rfl
  refine isToken_bracketed hscan (unfinished_opener (by decide)) ?_ ?_
    (skipped_append "![CDATA[" _)
  · rw [← List.append_assoc, hmark]
    refine runsOn_mark (by decide) (by decide) (k := 0) (fun before hends => ?_) fun hinfix => ?_
    · simp only [endsCharacters, Bool.and_eq_true, beq_iff_eq] at hends
      exact suffix_of_trail (by decide) (by decide) hends.1 hends.2
    · rw [hclose] at h
      exact h (infix_of_infix_append_right (by rw [hopener]; decide) hinfix)
  · rw [← List.append_assoc, hmark, List.foldl_append]
    simp [endsCharacters, Trail.push]

theorem isToken_instruction {body : List UInt8} (hne : body ≠ [])
    (h : ¬ Text.utf8 "?>" <:+: 0x3F :: body) :
    IsToken (Item.bracketed (Misc.instruction body hne h).inside) .other := by
  have hopener : Text.utf8 "?" = [0x3F] := by decide
  have hclose : Text.utf8 "?>" = [0x3F] ++ [0x3E] := by decide
  have hscan : ∀ more, scan (0x3C :: (Text.utf8 "?" ++ more)) =
      closedAt .instructionNotClosed
        (fun content => if content.length < 2 then none else some .other)
        (upToEnd endsInstruction Trail.push {} [] (Text.utf8 "?" ++ more)) := fun more => by
    rw [hopener]
    rfl
  refine isToken_bracketed hscan (unfinished_opener (by decide)) ?_ ?_ ?_
  · rw [← List.append_assoc, hopener]
    refine runsOn_mark (by decide) (by decide) (k := 0) (fun before hends => ?_) ?_
    · exact suffix_of_last (by decide) (by simpa [endsInstruction] using hends)
    · rwa [hclose] at h
  · rw [← List.append_assoc, hopener, List.foldl_append]
    simp [endsInstruction, Trail.push]
  · rw [if_neg]
    simp [hopener]

/-! ## Document type declarations -/

theorem isToken_doctype {body : List UInt8} (hname : body.all isSpace = false)
    (h : BracketsBalance body) :
    IsToken (Item.bracketed (Misc.doctype body hname h).inside) (.doctype body) := by
  have hopener : Text.utf8 "!DOCTYPE" = [0x21, 0x44, 0x4F, 0x43, 0x54, 0x59, 0x50, 0x45] := by
    decide
  have hscan : ∀ more, scan (0x3C :: (Text.utf8 "!DOCTYPE" ++ more)) =
      closedAt .doctypeNotClosed doctype? (doctypeEnd (Text.utf8 "!DOCTYPE" ++ more)) :=
    fun more => by
      rw [hopener]
      rfl
  refine isToken_bracketed hscan (unfinished_opener (by decide)) ?_ ?_ ?_
  · refine runsOn_append (runsOn_of_not_mem (by rw [hopener]; decide)) ?_
    intro before behind heq
    have hdepth := h.opened before behind heq
    rw [hopener]
    simpa [bracketDepth] using hdepth
  · have hclosed := h.closed
    rw [List.foldl_append, hopener]
    simpa [bracketDepth] using hclosed
  · rw [doctype?, hopener]
    rfl

/-! ## Tags -/

/-- The quote that is open behind a byte. -/
def quoteAfter (quote : Option UInt8) (b : UInt8) : Option UInt8 :=
  match quote with
  | none => if b == 0x22 || b == 0x27 then some b else none
  | some q => if b == q then none else quote

theorem tagEnd_eq : tagEnd = upToEnd Option.isNone quoteAfter none [] := rfl

/-- The bytes can stand in a tag: they leave no quote open, and no bracket in them ends the tag. -/
structure Passes (bytes : List UInt8) : Prop where
  runsOn : RunsOn Option.isNone quoteAfter none bytes
  unquoted : bytes.foldl quoteAfter none = none

theorem Passes.append {a b : List UInt8} (ha : Passes a) (hb : Passes b) : Passes (a ++ b) where
  runsOn := runsOn_append ha.runsOn (by rw [ha.unquoted]; exact hb.runsOn)
  unquoted := by rw [List.foldl_append, ha.unquoted, hb.unquoted]

theorem passes_nil : Passes [] := ⟨runsOn_of_not_mem List.not_mem_nil, rfl⟩

theorem passes_flatMap {α : Type} {f : α → List UInt8} {l : List α}
    (h : ∀ a ∈ l, Passes (f a)) : Passes (l.flatMap f) := by
  induction l with
  | nil => exact passes_nil
  | cons a l ih =>
      rw [List.flatMap_cons]
      exact (h a List.mem_cons_self).append (ih fun b hb => h b (List.mem_cons_of_mem a hb))

/-- A byte that is neither a bracket nor a quote. -/
def isPlain (b : UInt8) : Bool :=
  b != 0x3E && b != 0x22 && b != 0x27

theorem passes_of_isPlain {bytes : List UInt8} (h : ∀ b ∈ bytes, isPlain b = true) :
    Passes bytes where
  runsOn := runsOn_of_not_mem fun hmem => nomatch h _ hmem
  unquoted := by
    induction bytes with
    | nil => rfl
    | cons b bytes ih =>
        have hb := h b List.mem_cons_self
        have hquote : quoteAfter none b = none := by
          simp only [isPlain, Bool.and_eq_true, bne_iff_ne] at hb
          simp [quoteAfter, hb.1.2, hb.2]
        rw [List.foldl_cons, hquote]
        exact ih fun c hc => h c (List.mem_cons_of_mem b hc)

theorem passes_singleton {b : UInt8} (h : isPlain b = true) : Passes [b] :=
  passes_of_isPlain (List.forall_mem_singleton.mpr h)

/-- A value in quotes passes. -/
theorem passes_quoted {q : UInt8} (hq : q = 0x22 ∨ q = 0x27) {value : List UInt8}
    (h : q ∉ value) : Passes (q :: (value ++ [q])) := by
  have hopen : quoteAfter none q = some q := by rcases hq with rfl | rfl <;> rfl
  have hinside : ∀ part : List UInt8, q ∉ part → part.foldl quoteAfter (some q) = some q := by
    intro part hpart
    induction part with
    | nil => rfl
    | cons b part ih =>
        obtain ⟨hne, hrest⟩ := not_or.mp (mt List.mem_cons.mpr hpart)
        rw [List.foldl_cons, quoteAfter, if_neg (by simpa using Ne.symm hne)]
        exact ih hrest
  refine ⟨?_, ?_⟩
  · intro before behind heq
    cases before with
    | nil =>
        obtain ⟨rfl, -⟩ := List.cons.inj heq
        rcases hq with hq | hq <;> cases hq
    | cons b before =>
        obtain ⟨rfl, hrest⟩ := List.cons.inj heq
        have hbefore : q ∉ before := by
          rcases List.append_eq_append_iff.mp hrest with
            ⟨between, rfl, hbetween⟩ | ⟨between, rfl, -⟩
          · cases between with
            | nil =>
                obtain ⟨rfl, -⟩ := List.cons.inj hbetween
                rcases hq with hq | hq <;> cases hq
            | cons c between => simp at hbetween
          · exact fun hmem => h (List.mem_append_left _ hmem)
        rw [List.foldl_cons, hopen, hinside before hbefore]
        rfl
  · rw [List.foldl_cons, hopen, List.foldl_append, hinside value h]
    simp [quoteAfter]

theorem isPlain_of_isSpace {b : UInt8} (h : isSpace b = true) : isPlain b = true := by
  simp only [isSpace, Bool.or_eq_true, beq_iff_eq] at h
  rcases h with ((rfl | rfl) | rfl) | rfl <;> rfl

theorem isSpace_of_isNameByte {b : UInt8} (h : isNameByte b = true) : isSpace b = false := by
  rw [isNameByte, Bool.and_eq_true, Bool.not_eq_true'] at h
  exact h.1

theorem isPlain_of_isNameByte {b : UInt8} (h : isNameByte b = true) : isPlain b = true := by
  simp only [isNameByte, Bool.and_eq_true, Bool.not_eq_true', List.contains_eq_mem,
    decide_eq_false_iff_not, List.mem_cons, not_or] at h
  simp [isPlain, h.2]

theorem Blanks.passes (s : Blanks) : Passes s.bytes :=
  passes_of_isPlain fun b hb => isPlain_of_isSpace (s.blank b hb)

theorem Name.passes (n : Name) : Passes n.bytes :=
  passes_of_isPlain fun b hb => isPlain_of_isNameByte (n.plain b hb)

theorem Attribute.passes (a : Attribute) : Passes a.bytes :=
  a.before.passes.append <| a.key.passes.append <| a.beforeSign.passes.append <|
    (passes_singleton rfl : Passes [0x3D]).append <|
      a.behindSign.passes.append (passes_quoted a.isQuote a.unquoted)

theorem Tag.passes (t : Tag) : Passes t.content :=
  t.name.passes.append ((passes_flatMap fun a _ => a.passes).append t.behind.passes)

/-- What passes is the inside of a tag, unless it starts as other markup does. -/
theorem isToken_tag {first : UInt8} {rest : List UInt8} (hbang : first ≠ 0x21)
    (hquestion : first ≠ 0x3F) (h : Passes (first :: rest)) :
    IsToken (Item.bracketed (first :: rest)) (tagToken (first :: rest)) := by
  have hscan : ∀ more, scan (0x3C :: ([first] ++ more)) =
      closedAt .tagNotClosed (fun content => some (tagToken content))
        (upToEnd Option.isNone quoteAfter none [] ([first] ++ more)) := fun more => by
    have hdrop : (0x3C :: first :: more).dropWhile (· != (0x3C : UInt8)) = 0x3C :: first :: more :=
      rfl
    rw [List.singleton_append, scan, hdrop]
    dsimp only
    rw [if_neg (by simpa using hbang), if_neg (by simpa using hquestion), scanTag, tagEnd_eq]
  have hopener : ∀ part, part <+: [first] → part ≠ [first] →
      ∃ e, scan (0x3C :: part) = .unfinished e := by
    intro part hpart hne
    cases part with
    | nil => exact ⟨_, rfl⟩
    | cons b part =>
        obtain ⟨rfl, hnil⟩ := List.cons_prefix_cons.mp hpart
        exact absurd (congrArg _ (List.prefix_nil.mp hnil)) hne
  exact isToken_bracketed hscan hopener h.runsOn (by rw [List.singleton_append, h.unquoted]; rfl)
    rfl

theorem ne_of_isNameByte {b c : UInt8} (h : isNameByte b = true)
    (hc : isNameByte c = false) : b ≠ c := by
  rintro rfl
  cases h.symm.trans hc

theorem Name.exists_cons (n : Name) :
    ∃ first rest, n.bytes = first :: rest ∧ isNameByte first = true := by
  obtain ⟨first, rest, h⟩ := List.exists_cons_of_ne_nil n.nonempty
  exact ⟨first, rest, h, n.plain first (h ▸ List.mem_cons_self)⟩

/-- The last byte is no slash. -/
def EndsWithoutSlash (bytes : List UInt8) : Prop :=
  bytes.getLast? ≠ some 0x2F

theorem EndsWithoutSlash.append {a b : List UInt8} (ha : EndsWithoutSlash a)
    (hb : EndsWithoutSlash b) : EndsWithoutSlash (a ++ b) := by
  rw [EndsWithoutSlash, List.getLast?_append]
  cases h : b.getLast? with
  | none => exact ha
  | some last => exact fun heq => hb (h.trans heq)

theorem endsWithoutSlash_of_not_mem {bytes : List UInt8} (h : 0x2F ∉ bytes) :
    EndsWithoutSlash bytes :=
  fun hlast => h (List.mem_of_getLast? hlast)

theorem Attribute.endsWithoutSlash (a : Attribute) : EndsWithoutSlash a.bytes := by
  have hquote : a.quote ≠ 0x2F := by
    rcases a.isQuote with h | h <;> rw [h] <;> decide
  have hbytes : a.bytes = a.before.bytes ++ a.key.bytes ++ a.beforeSign.bytes ++ [0x3D] ++
      a.behindSign.bytes ++ a.quote :: a.value ++ [a.quote] := by
    simp [Attribute.bytes, Attribute.quotedValue]
  rw [EndsWithoutSlash, hbytes, List.getLast?_concat]
  exact fun h => hquote (Option.some.inj h)

theorem Tag.endsWithoutSlash (t : Tag) : EndsWithoutSlash t.content := by
  have hattributes : ∀ attributes : List Attribute,
      EndsWithoutSlash (attributes.flatMap Attribute.bytes) := by
    intro attributes
    induction attributes with
    | nil => exact endsWithoutSlash_of_not_mem List.not_mem_nil
    | cons a rest ih =>
        rw [List.flatMap_cons]
        exact a.endsWithoutSlash.append ih
  have hname : 0x2F ∉ t.name.bytes := fun h => by cases t.name.plain _ h
  have hbehind : 0x2F ∉ t.behind.bytes := fun h => by cases t.behind.blank _ h
  exact (endsWithoutSlash_of_not_mem hname).append
    ((hattributes t.attributes).append (endsWithoutSlash_of_not_mem hbehind))

/-- The content of a tag starts with the first byte of the name. -/
theorem Tag.exists_cons (t : Tag) :
    ∃ first rest, t.content = first :: rest ∧ isNameByte first = true := by
  obtain ⟨first, rest, h, hfirst⟩ := t.name.exists_cons
  exact ⟨first, _, by rw [Tag.content, h, List.cons_append], hfirst⟩

theorem tagToken_of_ne {first : UInt8} (rest : List UInt8) (h : first ≠ 0x2F) :
    tagToken (first :: rest) =
      if (first :: rest).getLast? == some 0x2F then .empty (first :: rest).dropLast
      else .opening (first :: rest) := by
  unfold tagToken
  split
  next heq => exact absurd (List.cons.inj heq).1 h
  next => rfl

/-- The blanks at the end of a closing tag do not count. -/
theorem closingName_append (n : Name) (s : Blanks) :
    closingName (n.bytes ++ s.bytes) = n.bytes := by
  obtain ⟨last, init, hlast⟩ := List.exists_cons_of_ne_nil
    (mt List.reverse_eq_nil_iff.mp n.nonempty)
  have hmem : last ∈ n.bytes := List.mem_reverse.mp (hlast ▸ List.mem_cons_self)
  have hspace : isSpace last = false := isSpace_of_isNameByte (n.plain last hmem)
  rw [closingName, if_neg]
  · rw [List.reverse_append,
      List.dropWhile_append_of_pos fun b hb => s.blank b (List.mem_reverse.mp hb), hlast,
      List.dropWhile_cons_of_neg (by simp [hspace]), ← hlast, List.reverse_reverse]
  · intro hall
    have := List.all_eq_true.mp hall last (List.mem_append_left _ hmem)
    cases this.symm.trans hspace

theorem isToken_opening (t : Tag) : IsToken (Item.bracketed t.content) (.opening t.content) := by
  obtain ⟨first, rest, h, hfirst⟩ := t.exists_cons
  have hpasses := t.passes
  have hend := t.endsWithoutSlash
  rw [h] at hpasses hend ⊢
  have htoken := isToken_tag (ne_of_isNameByte hfirst rfl) (ne_of_isNameByte hfirst rfl) hpasses
  rwa [tagToken_of_ne rest (ne_of_isNameByte hfirst rfl), if_neg (by rwa [beq_iff_eq])] at htoken

theorem isToken_single (t : Tag) :
    IsToken (Item.bracketed (t.content ++ [0x2F])) (.empty t.content) := by
  obtain ⟨first, rest, h, hfirst⟩ := t.exists_cons
  have hslash : Passes [0x2F] := passes_singleton rfl
  have hpasses := t.passes.append hslash
  rw [h, List.cons_append] at hpasses ⊢
  have htoken := isToken_tag (ne_of_isNameByte hfirst rfl) (ne_of_isNameByte hfirst rfl) hpasses
  rw [tagToken_of_ne _ (ne_of_isNameByte hfirst rfl), ← List.cons_append, List.getLast?_concat,
    if_pos (by decide), List.dropLast_concat] at htoken
  exact htoken

theorem isToken_closing (n : Name) (s : Blanks) :
    IsToken (Item.bracketed (0x2F :: (n.bytes ++ s.bytes))) (.closing n.bytes) := by
  have hslash : Passes [0x2F] := passes_singleton rfl
  have htoken := isToken_tag (by decide) (by decide) (hslash.append (n.passes.append s.passes))
  have hname : tagToken (0x2F :: (n.bytes ++ s.bytes)) = .closing n.bytes := by
    rw [tagToken, closingName_append]
  exact hname ▸ htoken

/-- **Every piece of markup is one token.** -/
theorem isToken_bytes {item : Item} (h : item.isMarkup = true) : IsToken item.bytes item.token := by
  rw [Item.bytes, if_pos h]
  cases item with
  | opening tag => exact isToken_opening tag
  | single tag => exact isToken_single tag
  | closing name behind => exact isToken_closing name behind
  | misc m =>
      cases m with
      | text => cases h
      | comment body hbody => exact isToken_comment hbody
      | characters body hbody => exact isToken_characters hbody
      | instruction body hne hbody => exact isToken_instruction hne hbody
      | doctype body hname hbody => exact isToken_doctype hname hbody

end ModuleDepot.Markup
