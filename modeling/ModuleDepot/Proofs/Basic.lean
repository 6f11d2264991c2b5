import Mathlib.Data.List.Basic
import Mathlib.Data.List.TakeWhile

/-! # Results and lists

What is used of results and of lists wherever something is read: the steps that lead to a result
(`ok_of_bind`), and the parts of a list before and behind the first element that stops the reading.
-/

namespace ModuleDepot

/-- What comes last succeeds only if what comes first does. -/
theorem ok_of_bind {ε α β : Type} {x : Except ε α} {f : α → Except ε β} {b : β}
    (h : x >>= f = .ok b) : ∃ a, x = .ok a ∧ f a = .ok b := by
  cases x with
  | error => cases h
  | ok a => exact ⟨a, rfl, h⟩

theorem exists_of_map {ε α β : Type} {x : Except ε α} {f : α → β} {b : β}
    (h : x.map f = .ok b) : ∃ a, x = .ok a ∧ f a = b := by
  cases x with
  | error => cases h
  | ok a => exact ⟨a, rfl, Except.ok.inj h⟩

/-- If all of a list succeeds, every element does, and its result is among those of the list. -/
theorem exists_of_mapM {α β : Type} {f : α → Option β} {l : List α} {results : List β}
    (h : l.mapM f = some results) {a : α} (ha : a ∈ l) : ∃ b ∈ results, f a = some b := by
  induction l generalizing results with
  | nil => cases ha
  | cons first rest ih =>
      simp only [List.mapM_cons, Option.bind_eq_bind, Option.bind_eq_some_iff] at h
      obtain ⟨b, hb, others, hothers, h⟩ := h
      cases h
      rcases List.mem_cons.mp ha with rfl | ha
      · exact ⟨b, List.mem_cons_self, hb⟩
      · obtain ⟨c, hc, hac⟩ := ih hothers ha
        exact ⟨c, List.mem_cons_of_mem _ hc, hac⟩

section Stop

variable {α : Type} {p : α → Bool} {a b : List α}

theorem dropWhile_stop (ha : ∀ x ∈ a, p x = true) (hb : ∀ x ∈ b.head?, p x = false) :
    (a ++ b).dropWhile p = b := by
  rw [List.dropWhile_append_of_pos ha]
  cases b with
  | nil => rfl
  | cons x b => rw [List.dropWhile_cons_of_neg (by simp [hb x rfl])]

theorem takeWhile_stop (ha : ∀ x ∈ a, p x = true) (hb : ∀ x ∈ b.head?, p x = false) :
    (a ++ b).takeWhile p = a := by
  rw [List.takeWhile_append_of_pos ha]
  cases b with
  | nil => rw [List.takeWhile_nil, List.append_nil]
  | cons x b => rw [List.takeWhile_cons_of_neg (by simp [hb x rfl]), List.append_nil]

theorem takeWhile_append_cons {stop : α} (h : p stop = false) (before behind : List α) :
    (before ++ stop :: behind).takeWhile p = before.takeWhile p := by
  induction before with
  | nil => simp [h]
  | cons first rest ih => simp only [List.cons_append, List.takeWhile_cons, ih]

theorem dropWhile_append_cons {stop : α} (h : p stop = false) (before behind : List α) :
    (before ++ stop :: behind).dropWhile p = before.dropWhile p ++ stop :: behind := by
  induction before with
  | nil => simp [h]
  | cons first rest ih =>
      rw [List.cons_append, List.dropWhile_cons, ih, List.dropWhile_cons]
      split <;> rfl

end Stop

/-! ## Lists taken apart -/

/-- What a list ends in stands at the end of its last parts, too. -/
theorem exists_concat_of_suffix {α : Type} {l v : List α} {last : α} (h : l <:+ v ++ [last])
    (hne : l ≠ []) : ∃ init, l = init ++ [last] := by
  obtain ⟨before, hbefore⟩ := h
  rcases List.eq_nil_or_concat' l with rfl | ⟨init, c, rfl⟩
  · exact absurd rfl hne
  · rw [← List.append_assoc] at hbefore
    obtain ⟨-, hlast⟩ := List.append_inj' hbefore rfl
    exact ⟨init, by rw [hlast]⟩

/-- A part between separators holds none. -/
theorem not_mem_of_mem_splitOn {sep : Char} :
    ∀ {l part : List Char}, part ∈ l.splitOn sep → sep ∉ part
  | [], part, h => by
      rw [List.splitOn_nil, List.mem_singleton] at h
      simp [h]
  | c :: l, part, h => by
      rw [List.splitOn_cons_eq_if_modifyHead] at h
      split at h
      next =>
        rcases List.mem_cons.mp h with rfl | hrest
        · exact List.not_mem_nil
        · exact not_mem_of_mem_splitOn hrest
      next hc =>
        obtain ⟨first, parts, hl⟩ := List.exists_cons_of_ne_nil (List.splitOn_ne_nil sep l)
        rw [hl, List.modifyHead_cons] at h
        rcases List.mem_cons.mp h with rfl | hrest
        · have hfirst : sep ∉ first := not_mem_of_mem_splitOn (hl ▸ List.mem_cons_self)
          simpa [hfirst] using fun heq : sep = c => hc (beq_of_eq heq.symm)
        · exact not_mem_of_mem_splitOn (hl ▸ List.mem_cons_of_mem _ hrest)

/-- A character that does not separate is in a text if it is in one of the parts. -/
theorem mem_iff_exists_splitOn {sep c : Char} (h : c ≠ sep) :
    ∀ l : List Char, c ∈ l ↔ ∃ part ∈ l.splitOn sep, c ∈ part
  | [] => by simp
  | first :: l => by
      rw [List.splitOn_cons_eq_if_modifyHead, List.mem_cons, mem_iff_exists_splitOn h l]
      split
      next hsep =>
        have hfirst : c ≠ first := fun heq => h (heq.trans (eq_of_beq hsep))
        simp [hfirst]
      next =>
        obtain ⟨part, parts, hl⟩ := List.exists_cons_of_ne_nil (List.splitOn_ne_nil sep l)
        rw [hl, List.modifyHead_cons]
        simp [or_assoc]

section Separated

variable {α : Type} {p : α → Bool}

theorem splitOnP_append_of_neg {a : List α} (h : ∀ x ∈ a, p x = false) (b : List α) :
    (a ++ b).splitOnP p = (b.splitOnP p).modifyHead (a ++ ·) := by
  obtain ⟨first, rest, hb⟩ := List.exists_cons_of_ne_nil (List.splitOnP_ne_nil p b)
  rw [hb, List.modifyHead_cons]
  induction a with
  | nil => exact hb
  | cons x a ih =>
      rw [List.cons_append, List.splitOnP_cons_eq_if_modifyHead, if_neg (by simp [h x]),
        ih fun y hy => h y (List.mem_cons_of_mem _ hy), List.modifyHead_cons, List.cons_append]

theorem splitOnP_congr {q : α → Bool} {l : List α} (h : ∀ x ∈ l, p x = q x) :
    l.splitOnP p = l.splitOnP q := by
  induction l with
  | nil => simp
  | cons x l ih =>
      rw [List.splitOnP_cons_eq_if_modifyHead, List.splitOnP_cons_eq_if_modifyHead,
        h x List.mem_cons_self, ih fun y hy => h y (List.mem_cons_of_mem _ hy)]

/-- What is put in place of an element keeps the parts, if separators stay and none is put in. -/
theorem splitOnP_flatMap {f : α → List α} (hsep : ∀ x, p x = true → f x = [x])
    (hkeep : ∀ x, p x = false → ∀ y ∈ f x, p y = false) (l : List α) :
    (l.flatMap f).splitOnP p = (l.splitOnP p).map (·.flatMap f) := by
  induction l with
  | nil => simp
  | cons x l ih =>
      rw [List.flatMap_cons, List.splitOnP_cons_eq_if_modifyHead]
      cases hx : p x with
      | true =>
          rw [hsep x hx, List.singleton_append, List.splitOnP_cons_eq_if_modifyHead, if_pos hx,
            if_pos rfl, ih]
          rfl
      | false =>
          obtain ⟨first, rest, hl⟩ := List.exists_cons_of_ne_nil (List.splitOnP_ne_nil p l)
          rw [splitOnP_append_of_neg (hkeep x hx), ih, hl, if_neg Bool.false_ne_true]
          simp

end Separated

end ModuleDepot
