import Mathlib.Data.List.Induction
import ModuleDepot.Proofs.Url.Following
import ModuleDepot.Repository.Http

/-! # The encoding of a resource

What is put behind the root of a repository is encoded. The encoding changes only the characters
that would be a sign of the URL: it keeps what the reader of URLs leaves out, at the end and
elsewhere (`tidied_encode`), and the separators between segments (`splitSegments_encode`). A segment
is a step of the path only if it is one before it is encoded (`isDot_encode`, `isDoubleDot_encode`),
so that all others are followed as the names that they are (`followSegments_encode`).
-/

namespace ModuleDepot.HttpRepository

open Url

/-! ## The encoding -/

/-- A character stands for itself, or is spelled with a percent sign. -/
theorem encodeChar_cases (c : Char) :
    encodeChar c = [c] ∧ c ≠ '%' ∧ c ≠ '?' ∧ c ≠ '#' ∨
      (c = '%' ∨ c = '?' ∨ c = '#') ∧
        encodeChar c ∈ [['%', '2', '5'], ['%', '3', 'F'], ['%', '2', '3']] := by
  unfold encodeChar
  split
  next h => exact .inr ⟨.inl h, by simp⟩
  next hpercent =>
    split
    next h => exact .inr ⟨.inr (.inl h), by simp⟩
    next hquery =>
      split
      next h => exact .inr ⟨.inr (.inr h), by simp⟩
      next hfragment => exact .inl ⟨rfl, hpercent, hquery, hfragment⟩

theorem encodeChar_ne_nil (c : Char) : encodeChar c ≠ [] := by
  rcases encodeChar_cases c with ⟨hself, -⟩ | ⟨rfl | rfl | rfl, -⟩
  · simp [hself]
  all_goals decide

theorem eq_nil_of_encode {cs : List Char} (h : cs.flatMap encodeChar = []) : cs = [] :=
  List.eq_nil_iff_forall_not_mem.mpr fun c hc =>
    encodeChar_ne_nil c (List.flatMap_eq_nil_iff.mp h c hc)

theorem not_mem_encode {c : Char} (h : c = '?' ∨ c = '#') (cs : List Char) :
    c ∉ cs.flatMap encodeChar := by
  intro hmem
  obtain ⟨x, -, hx⟩ := List.mem_flatMap.mp hmem
  rcases encodeChar_cases x with ⟨hself, -, hquery, hfragment⟩ | ⟨-, hspelled⟩
  · rw [hself, List.mem_singleton] at hx
    subst hx
    exact h.elim hquery hfragment
  · simp only [List.mem_cons, List.not_mem_nil, or_false] at hspelled
    rcases h with rfl | rfl <;> rcases hspelled with h | h | h <;> simp [h] at hx

theorem encodePath_append (a b : String) : encodePath (a ++ b) = encodePath a ++ encodePath b := by
  apply String.toList_injective
  simp [encodePath]

/-- The encoding neither adds nor takes away what does not count. -/
theorem visible_encode (cs : List Char) :
    visible (cs.flatMap encodeChar) = (visible cs).flatMap encodeChar := by
  induction cs with
  | nil => rfl
  | cons c cs ih =>
      have hchar : visible (encodeChar c) = (visible [c]).flatMap encodeChar := by
        rcases encodeChar_cases c with ⟨hself, -⟩ | ⟨rfl | rfl | rfl, -⟩
        · rw [hself]
          cases hbreak : isBreak c with
          | true => simp [visible, hbreak]
          | false => simp [visible, hbreak, hself]
        all_goals decide
      rw [List.flatMap_cons, visible_append, hchar, ih, ← List.flatMap_append, ← visible_append,
        List.singleton_append]

theorem tidied_concat {c : Char} (h : isEdge c = true) (cs : List Char) :
    tidied (cs ++ [c]) = tidied cs := by
  rw [tidied, List.reverse_concat, List.dropWhile_cons_of_pos h, tidied]

/-- What is read of an encoded text is what is read of the text, encoded. -/
theorem tidied_encode (cs : List Char) :
    tidied (cs.flatMap encodeChar) = (tidied cs).flatMap encodeChar := by
  -- From behind, because blanks are dropped at the end only.
  induction cs using List.reverseRecOn with
  | nil => rfl
  | append_singleton cs c ih =>
      have hconcat : (cs ++ [c]).flatMap encodeChar = cs.flatMap encodeChar ++ encodeChar c := by
        simp
      cases hedge : isEdge c with
      | true =>
          have hself : encodeChar c = [c] := by
            rcases encodeChar_cases c with ⟨hself, -⟩ | ⟨rfl | rfl | rfl, -⟩
            · exact hself
            all_goals cases hedge
          rw [hconcat, hself, tidied_concat hedge, ih, tidied_concat hedge]
      | false =>
          have hlast : ∀ x ∈ (encodeChar c).getLast?, isEdge x = false := by
            rcases encodeChar_cases c with ⟨hself, -⟩ | ⟨rfl | rfl | rfl, -⟩
            · simpa [hself] using hedge
            all_goals simp [encodeChar, isEdge]
          rw [tidied_eq_visible, visible_encode, tidied_eq_visible]
          · simpa using hedge
          · intro x hx
            rw [hconcat, List.getLast?_append_of_ne_nil _ (encodeChar_ne_nil c)] at hx
            exact hlast x hx

/-- The encoding keeps the segments. -/
theorem splitSegments_encode (cs : List Char) :
    splitSegments true (cs.flatMap encodeChar) =
      (splitSegments true cs).map (·.flatMap encodeChar) := by
  refine splitOnP_flatMap (fun c hc => ?_) (fun c hc x hx => ?_) cs
  · rcases encodeChar_cases c with ⟨hself, -⟩ | ⟨rfl | rfl | rfl, -⟩
    · exact hself
    all_goals cases hc
  · rcases encodeChar_cases c with ⟨hself, -⟩ | ⟨-, hspelled⟩
    · rw [hself, List.mem_singleton] at hx
      rwa [hx]
    · have hnone : ∀ spelled ∈ [['%', '2', '5'], ['%', '3', 'F'], ['%', '2', '3']],
          ∀ x ∈ spelled, isSlash true x = false := by
        simp [isSlash]
      exact hnone _ hspelled x hx

/-! ## Dots -/

theorem eq_of_toLower {c d : Char} (h : c.toLower = d) (hd : d.toNat < 'a'.toNat) : c = d := by
  subst h
  unfold Char.toLower at hd ⊢
  split at hd
  next hupper =>
    have hfirst : 65 ≤ c.val.toNat := hupper.1
    have hlast : c.val.toNat ≤ 90 := hupper.2
    have hlower : (c.val + ('a'.val - 'A'.val)).toNat < 97 := hd
    have hshift : ('a'.val - 'A'.val).toNat = 32 := by decide
    rw [UInt32.toNat_add] at hlower
    omega
  next hupper => rw [dif_neg hupper]

/-- Where an encoded text starts with a dot, so does the text. -/
theorem encode_eq_dot {cs rest : List Char}
    (h : (cs.flatMap encodeChar).map Char.toLower = '.' :: rest) :
    ∃ cs', cs = '.' :: cs' ∧ rest = (cs'.flatMap encodeChar).map Char.toLower := by
  cases cs with
  | nil => cases h
  | cons c cs =>
      rw [List.flatMap_cons, List.map_append] at h
      rcases encodeChar_cases c with ⟨hself, -⟩ | ⟨rfl | rfl | rfl, -⟩
      · rw [hself] at h
        obtain ⟨hdot, hrest⟩ := List.cons.inj h
        rw [eq_of_toLower hdot (by decide)]
        exact ⟨cs, rfl, hrest.symm⟩
      all_goals cases h

/-- An encoded text does not spell a dot. -/
theorem encode_ne_spelled (cs rest : List Char) :
    (cs.flatMap encodeChar).map Char.toLower ≠ '%' :: '2' :: 'e' :: rest := by
  intro h
  cases cs with
  | nil => cases h
  | cons c cs =>
      rw [List.flatMap_cons, List.map_append] at h
      rcases encodeChar_cases c with ⟨hself, hpercent, -⟩ | ⟨rfl | rfl | rfl, -⟩
      · rw [hself] at h
        exact hpercent (eq_of_toLower (List.cons.inj h).1 (by decide))
      all_goals cases h

theorem isDot_encode {cs : List Char} : isDot (cs.flatMap encodeChar) = true ↔ cs = ['.'] := by
  constructor
  · intro h
    simp only [isDot, Bool.or_eq_true, beq_iff_eq] at h
    rcases h with h | h
    · obtain ⟨cs, rfl, hrest⟩ := encode_eq_dot h
      rw [eq_nil_of_encode (List.map_eq_nil_iff.mp hrest.symm)]
    · exact absurd h (encode_ne_spelled cs [])
  · rintro rfl
    decide

/-- **Only two dots lead up**, and no encoded spelling of them. -/
theorem isDoubleDot_encode {cs : List Char} :
    isDoubleDot (cs.flatMap encodeChar) = true ↔ cs = ['.', '.'] := by
  constructor
  · intro h
    simp only [isDoubleDot, Bool.or_eq_true, beq_iff_eq] at h
    -- The other three ways to write two dots have a percent sign, which would be encoded.
    rcases h with ((h | h) | h) | h
    · obtain ⟨cs, rfl, hrest⟩ := encode_eq_dot h
      obtain ⟨rest, rfl, hnil⟩ := encode_eq_dot hrest.symm
      rw [eq_nil_of_encode (List.map_eq_nil_iff.mp hnil.symm)]
    · obtain ⟨cs, rfl, hrest⟩ := encode_eq_dot h
      exact absurd hrest.symm (encode_ne_spelled cs [])
    · exact absurd h (encode_ne_spelled cs _)
    · exact absurd h (encode_ne_spelled cs _)
  · rintro rfl
    decide

/-! ## Names -/

/-- A name as it stands in the path of a URL. -/
def written (name : List Char) : String := encode inPath (name.flatMap encodeChar)

theorem written_eq_empty {name : List Char} (h : written name = "") : name = [] :=
  eq_nil_of_encode (encode_eq_empty h)

section Follow

variable {scheme : String} {parts : List (List Char)}

theorem passBy_encode (hscheme : scheme ≠ "file") {part : List Char} (hdot : part ≠ ['.'])
    (hdots : part ≠ ['.', '.']) (names : List String) :
    passBy scheme names (part.flatMap encodeChar) = written part :: names := by
  rw [passBy, if_neg (mt isDoubleDot_encode.mp hdots), if_neg (mt isDot_encode.mp hdot),
    nameOf_eq hscheme, written]

theorem foldl_passBy_encode (hscheme : scheme ≠ "file")
    (h : ∀ part ∈ parts, part ≠ ['.'] ∧ part ≠ ['.', '.']) (names : List String) :
    (parts.map (·.flatMap encodeChar)).foldl (passBy scheme) names =
      (parts.map written).reverse ++ names := by
  induction parts generalizing names with
  | nil => rfl
  | cons part parts ih =>
      obtain ⟨hdot, hdots⟩ := h part List.mem_cons_self
      rw [List.map_cons, List.foldl_cons, passBy_encode hscheme hdot hdots,
        ih fun part hpart => h part (List.mem_cons_of_mem _ hpart)]
      simp

/-- Parts that do not climb are followed as they are; those that stay are left out. -/
theorem followSegments_encode (hscheme : scheme ≠ "file") (hne : parts ≠ [])
    (hdots : ['.', '.'] ∉ parts) (hlast : parts.getLast? ≠ some ['.']) (names : List String) :
    followSegments scheme names (parts.map (·.flatMap encodeChar)) =
      ((parts.filter (· ≠ ['.'])).map written).reverse ++ names := by
  induction parts generalizing names with
  | nil => exact absurd rfl hne
  | cons part parts ih =>
      have hpart : part ≠ ['.', '.'] := fun heq => hdots (heq ▸ List.mem_cons_self)
      by_cases hparts : parts = []
      · -- The last part is not passed: a single dot would leave an empty name there.
        subst hparts
        have hdot : part ≠ ['.'] := fun heq => hlast (by rw [heq]; rfl)
        rw [List.map_singleton, followSegments, if_neg (mt isDoubleDot_encode.mp hpart),
          if_neg (mt isDot_encode.mp hdot), nameOf_eq hscheme]
        simp [hdot, written]
      · have hrest := ih hparts (fun hmem => hdots (List.mem_cons_of_mem _ hmem))
          (by rwa [List.getLast?_cons_of_ne_nil hparts] at hlast)
        rw [List.map_cons, followSegments_cons (by simpa using hparts)]
        by_cases hdot : part = ['.']
        · subst hdot
          rw [passBy, if_neg (by decide), if_pos (by decide), hrest]
          simp
        · rw [passBy_encode hscheme hdot hpart, hrest]
          simp [hdot]

end Follow

end ModuleDepot.HttpRepository
