import Mathlib.Data.List.Basic
import ModuleDepot.Markup.Reference
import ModuleDepot.Proofs.Markup.Attributes

/-! # Spellings of a text

A text can be written in a value in many ways: each character as it is, by its name, or by its
number in either base. `Spelled` are all of them, and `escape` is one (`spelled_escape`). Whichever
is taken, the text is read back (`unescape_of_spelled`).
-/

namespace ModuleDepot

namespace Text

/-- The bytes of a text are read back. -/
theorem readUtf8_utf8 (s : String) : readUtf8 (utf8 s) = .ok s := by
  have hread : String.fromUTF8? ⟨(utf8 s).toArray⟩ = some s := by
    rw [utf8, Array.toArray_toList]
    exact dif_pos s.isValidUTF8
  rw [readUtf8, hread]

/-- The number that digits spell in a base, whatever its size, behind `n`. -/
def numberFrom? (base n : Nat) (digits : List Char) : Option Nat :=
  digits.foldlM (fun n c => (digitValue? base c).map (n * base + ·)) n

theorem numberFrom?_cons (base n : Nat) (c : Char) (rest : List Char) :
    numberFrom? base n (c :: rest) =
      (digitValue? base c).bind fun d => numberFrom? base (n * base + d) rest := by
  rw [numberFrom?, List.foldlM_cons]
  cases digitValue? base c <;> rfl

/-- A number within the bound is read, since all its beginnings are within the bound. -/
theorem readDigitsFrom_of_numberFrom? {base bound acc n : Nat} {digits : List Char}
    (hbase : 0 < base) (h : numberFrom? base acc digits = some n) (hn : n ≤ bound) :
    acc ≤ n ∧ readDigitsFrom base bound acc digits = .ok n := by
  induction digits generalizing acc with
  | nil =>
      cases h
      exact ⟨le_refl _, rfl⟩
  | cons c rest ih =>
      rw [numberFrom?_cons] at h
      obtain ⟨d, hdigit, hrest⟩ := Option.bind_eq_some_iff.mp h
      obtain ⟨hle, hread⟩ := ih hrest
      have hacc : acc ≤ acc * base + d :=
        le_trans (Nat.le_mul_of_pos_right acc hbase) (Nat.le_add_right _ _)
      refine ⟨le_trans hacc hle, ?_⟩
      rw [readDigitsFrom, hdigit]
      dsimp only
      rw [if_pos (le_trans hle hn), hread]

/-- What is no digit does not stand in a number. -/
theorem not_mem_digits {base acc n : Nat} {digits : List Char}
    (h : numberFrom? base acc digits = some n) {x : Char} (hx : digitValue? base x = none) :
    x ∉ digits := by
  induction digits generalizing acc with
  | nil => exact List.not_mem_nil
  | cons c rest ih =>
      rw [numberFrom?_cons] at h
      obtain ⟨d, hdigit, hrest⟩ := Option.bind_eq_some_iff.mp h
      rw [List.mem_cons, not_or]
      refine ⟨?_, ih hrest⟩
      rintro rfl
      cases hx.symm.trans hdigit

end Text

namespace Markup

/-- The number of a character, in decimal or behind a mark in hexadecimal. -/
structure IsNumber (base : Nat) (mark digits : List Char) (c : Char) : Prop where
  marked : (mark = [] ∧ base = 10) ∨ (mark = ['x'] ∧ base = 16)
  not_nul : c ≠ '\x00'
  nonempty : digits ≠ []
  number : Text.numberFrom? base 0 digits = some c.toNat

/-- The ways to write a character in a value. -/
inductive Spells (c : Char) : List Char → Prop
  | plain : c ≠ '&' → Spells c [c]
  | named (name : List Char) : namedCharacter? name = some c → Spells c ('&' :: (name ++ [';']))
  | numbered (base : Nat) (mark digits : List Char) : IsNumber base mark digits c →
      Spells c ('&' :: (('#' :: (mark ++ digits)) ++ [';']))

/-- The ways to write a text in a value, one character after the other. -/
inductive Spelled : List Char → List Char → Prop
  | nil : Spelled [] []
  | cons {c spelling text value} : Spells c spelling → Spelled text value →
      Spelled (c :: text) (spelling ++ value)

/-! ## References -/

/-- What may stand between the signs of a reference to a character. -/
structure Refers (name : List Char) (c : Char) : Prop where
  inside : ∀ x ∈ name, inReference x = true
  referenced : ∀ position, referenced position name = .ok c

theorem refers_of_named {name : List Char} {c : Char} (h : namedCharacter? name = some c) :
    Refers name c := by
  have hreferenced : ∀ position, referenced position name = .ok c := by
    intro position
    have hsign : ∀ number, name ≠ '#' :: number := by
      rintro number rfl
      simp [namedCharacter?] at h
    unfold referenced
    split
    next number => exact absurd rfl (hsign number)
    next => rw [h]
  refine ⟨?_, hreferenced⟩
  unfold namedCharacter? at h
  split_ifs at h with hname hname hname hname hname <;> subst hname <;>
    exact List.all_eq_true.mp (by decide)

/-! ## Numbers -/

section Number

variable {base : Nat} {mark digits : List Char} {c : Char}

/-- The number of a character is within the bound. -/
theorem IsNumber.readDigits (h : IsNumber base mark digits c) :
    Text.readDigits base Text.max32 digits = .ok c.toNat := by
  have hbase : 0 < base := by rcases h.marked with ⟨-, rfl⟩ | ⟨-, rfl⟩ <;> decide
  have hle : c.toNat ≤ Text.max32 := Nat.le_of_lt_succ c.val.toNat_lt
  rw [Text.readDigits, if_neg (by simpa using h.nonempty)]
  exact (Text.readDigitsFrom_of_numberFrom? hbase h.number hle).2

theorem IsNumber.not_mem (h : IsNumber base mark digits c) {x : Char}
    (hx : x ∈ ['&', ';', '+', '-']) : x ∉ digits := by
  refine Text.not_mem_digits h.number ?_
  have hsigns : ∀ x ∈ ['&', ';', '+', '-'],
      ((Text.digitValue? 10 x).isNone && (Text.digitValue? 16 x).isNone) = true :=
    List.all_eq_true.mp (by decide)
  obtain ⟨hten, hsixteen⟩ := (Bool.and_eq_true _ _).mp (hsigns x hx)
  rcases h.marked with ⟨-, rfl⟩ | ⟨-, rfl⟩
  · exact Option.isNone_iff_eq_none.mp hten
  · exact Option.isNone_iff_eq_none.mp hsixteen

theorem numberedCharacter_of_number (h : IsNumber base mark digits c) :
    numberedCharacter (mark ++ digits) = .ok c := by
  have hread := h.readDigits
  have hsign : ¬ (digits.head? = some '+' ∨ digits.head? = some '-') := by
    rintro (hhead | hhead)
    · exact h.not_mem (by decide) (List.mem_of_head? hhead)
    · exact h.not_mem (by decide) (List.mem_of_head? hhead)
  have hnonzero : c.toNat ≠ 0 := fun hzero => h.not_nul (Char.toNat_inj.mp hzero)
  have hvalid : c.toNat.isValidChar := c.valid
  rcases h.marked with ⟨rfl, rfl⟩ | ⟨rfl, rfl⟩
  · have hmark : 'x' ∉ digits := Text.not_mem_digits h.number (by decide)
    rw [List.nil_append, numberedCharacter, if_neg hsign, hread]
    · dsimp only
      rw [if_neg hnonzero, if_pos hvalid, Char.ofNat_toNat]
      rfl
    · rintro digits rfl
      exact hmark List.mem_cons_self
  · rw [List.singleton_append, numberedCharacter, if_neg hsign, hread]
    dsimp only
    rw [if_neg hnonzero, if_pos hvalid, Char.ofNat_toNat]
    rfl

theorem refers_of_number (h : IsNumber base mark digits c) :
    Refers ('#' :: (mark ++ digits)) c := by
  refine ⟨fun x hx => ?_, fun position => numberedCharacter_of_number h⟩
  have hdigits : ∀ x ∈ digits, inReference x = true := by
    intro x hx
    have hand : x ≠ '&' := fun heq => h.not_mem (by decide) (heq ▸ hx)
    have hend : x ≠ ';' := fun heq => h.not_mem (by decide) (heq ▸ hx)
    simp [inReference, hand, hend]
  have hmark : ∀ x ∈ mark, inReference x = true := by
    rcases h.marked with ⟨rfl, -⟩ | ⟨rfl, -⟩ <;> exact List.all_eq_true.mp (by decide)
  rcases List.mem_cons.mp hx with rfl | hx
  · rfl
  · exact (List.mem_append.mp hx).elim (hmark x) (hdigits x)

end Number

/-! ## Reading a spelling -/

/-- A spelling is the character itself or a reference to it. -/
theorem Spells.cases_reference {c : Char} {spelling : List Char} (h : Spells c spelling) :
    (c ≠ '&' ∧ spelling = [c]) ∨ ∃ name, Refers name c ∧ spelling = '&' :: (name ++ [';']) := by
  cases h with
  | plain hne => exact .inl ⟨hne, rfl⟩
  | named name hname => exact .inr ⟨name, refers_of_named hname, rfl⟩
  | numbered base mark digits hnumber => exact .inr ⟨_, refers_of_number hnumber, rfl⟩

/-- **A text is read back from its spelling**, behind what was read before. -/
theorem unescapeFrom_of_spelled {text value : List Char} (h : Spelled text value)
    (stop position : Nat) (before : List Char) :
    unescapeFrom stop position before value = .ok (before.reverse ++ text) := by
  induction h generalizing position before with
  | nil => rw [unescapeFrom, List.append_nil]
  | @cons c spelling text value hspells _ ih =>
      rcases hspells.cases_reference with ⟨hne, rfl⟩ | ⟨name, hrefers, rfl⟩
      · rw [List.singleton_append, unescapeFrom, if_neg hne, ih, List.reverse_cons,
          List.append_assoc]
        rfl
      · have hstop : ∀ x ∈ (';' :: value).head?, inReference x = false := by
          intro x hx
          cases hx
          rfl
        have hname := takeWhile_stop hrefers.inside hstop
        have hbehind := dropWhile_stop hrefers.inside hstop
        rw [List.cons_append, List.append_assoc, List.singleton_append, unescapeFrom, if_pos rfl]
        split
        next behind heq =>
          cases hbehind.symm.trans heq
          rw [hname, hrefers.referenced]
          dsimp only
          rw [ih, List.reverse_cons, List.append_assoc]
          rfl
        next hother => exact absurd hbehind (hother value)

theorem unescape_of_spelled {text value : String} (h : Spelled text.toList value.toList) :
    unescape value = .ok text := by
  rw [unescape, unescapeFrom_of_spelled h]
  exact congrArg Except.ok String.ofList_toList

/-- What `escape` writes is a spelling. -/
theorem spelled_escape (s : String) : Spelled s.toList (escape s).toList := by
  have hspelled : ∀ cs : List Char, Spelled cs (cs.flatMap escapeChar) := by
    intro cs
    induction cs with
    | nil => exact .nil
    | cons c rest ih =>
        refine .cons ?_ ih
        unfold escapeChar
        split_ifs with hlt hgt hand hapos hquot
        · exact .named ['l', 't'] (by subst hlt; rfl)
        · exact .named ['g', 't'] (by subst hgt; rfl)
        · exact .named ['a', 'm', 'p'] (by subst hand; rfl)
        · exact .named ['a', 'p', 'o', 's'] (by subst hapos; rfl)
        · exact .named ['q', 'u', 'o', 't'] (by subst hquot; rfl)
        · exact .plain hand
  rw [escape, String.toList_ofList]
  exact hspelled s.toList

end Markup
end ModuleDepot
