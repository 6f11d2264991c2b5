import ModuleDepot.Proofs.Fetch.SingleFlight

/-! # Locks that stay in the table

The last caller of a module should leave no lock of it behind. It does none the less if two
callers have both looked after the table before either of them goes: each one finds the lock in the
hand of the other, and neither takes it out. Some order of steps leads there for every module,
whatever is fetched (`exists_lock_left_behind`).

No other order does. A lock that is left behind, with nobody there to take it out, comes from a
state in which two callers of its module stood like this (`overlapped_or_tended`). Up to then every
lock in the table is that of a caller who has yet to look after it, and this is what the steps are
shown to keep (`Tended.step`).
-/

namespace ModuleDepot.Flights

variable {σ : Type} {f : Fetcher σ} {w : World σ} {s t u : Flights σ} {id : ModuleId}

/-- Nobody who came for the module has a lock in hand any more. -/
def IsQuiet (s : Flights σ) (id : ModuleId) : Prop :=
  ∀ c ∈ s.callers, c.id = id → c.isPresent = false

/-- **Whenever nobody is left who came for a module, the table has no lock for it.** -/
def LeavesNoLocks (f : Fetcher σ) (w : World σ) : Prop :=
  ∀ s id, Reachable f w s → s.IsQuiet id → s.table id = none

/-- Two callers of the module have looked after the table, and neither of them has gone. -/
def Overlaps (s : Flights σ) (id : ModuleId) : Prop :=
  ∃ (i j : Nat) (c d : Caller), i ≠ j ∧ s.callers[i]? = some c ∧ s.callers[j]? = some d ∧
    c.id = id ∧ d.id = id ∧ c.stage = .tidied ∧ d.stage = .tidied

/-! ## Locks belong to modules -/

/-- Every lock that is in use belongs to one module, which `owner` tells. -/
structure Numbered (s : Flights σ) (owner : Nat → ModuleId) : Prop where
  callers : ∀ c ∈ s.callers, c.lock < s.nextLock ∧ owner c.lock = c.id
  table : ∀ id lock, s.table id = some lock → lock < s.nextLock ∧ owner lock = id

theorem Numbered.start (w : World σ) (owner : Nat → ModuleId) :
    Numbered { world := w } owner :=
  ⟨fun _ hmem => (nomatch hmem), fun _ _ hlock => (nomatch hlock)⟩

theorem Numbered.arrive {owner : Nat → ModuleId} (h : s.Numbered owner) (id : ModuleId) :
    ∃ owner', (s.arrive id).Numbered owner' := by
  unfold Flights.arrive
  split
  next lock hlock =>
    refine ⟨owner, fun c hmem => ?_, h.table⟩
    rcases List.mem_append.mp hmem with hmem | hmem
    · exact h.callers c hmem
    · rw [List.mem_singleton] at hmem
      subst hmem
      exact h.table id lock hlock
  next hnone =>
    -- The fresh lock gets its owner; all others have smaller numbers.
    have hold : ∀ {lock : Nat}, lock < s.nextLock →
        Function.update owner s.nextLock id lock = owner lock :=
      fun hlt => Function.update_of_ne (Nat.ne_of_lt hlt) _ _
    have hnew : Function.update owner s.nextLock id s.nextLock = id := Function.update_self ..
    refine ⟨Function.update owner s.nextLock id, fun c hmem => ?_, fun other lock hlock => ?_⟩
    · rcases List.mem_append.mp hmem with hmem | hmem
      · obtain ⟨hlt, howner⟩ := h.callers c hmem
        exact ⟨Nat.lt_succ_of_lt hlt, (hold hlt).trans howner⟩
      · rw [List.mem_singleton] at hmem
        subst hmem
        exact ⟨Nat.lt_succ_self _, hnew⟩
    · by_cases hid : other = id
      · subst hid
        have hlock : s.nextLock = lock := by simpa [withEntry] using hlock
        subst hlock
        exact ⟨Nat.lt_succ_self _, hnew⟩
      · have hlock : s.table other = some lock := by simpa [withEntry, hid] using hlock
        obtain ⟨hlt, howner⟩ := h.table other lock hlock
        exact ⟨Nat.lt_succ_of_lt hlt, (hold hlt).trans howner⟩

/-- A caller that goes on keeps its lock, and the table gets no further ones. -/
theorem Numbered.put {owner : Nat → ModuleId} (h : s.Numbered owner) {i : Nat} {c c' : Caller}
    (hc : s.callers[i]? = some c) (hcallers : u.callers = s.callers.set i c')
    (hid : c'.id = c.id) (hlock : c'.lock = c.lock) (hnext : u.nextLock = s.nextLock)
    (htable : ∀ id lock, u.table id = some lock → s.table id = some lock) :
    u.Numbered owner := by
  refine ⟨fun d hmem => ?_, fun other lock hentry => ?_⟩
  · rw [hnext]
    rw [hcallers] at hmem
    rcases List.mem_or_eq_of_mem_set hmem with hmem | rfl
    · exact h.callers d hmem
    · rw [hid, hlock]
      exact h.callers c (List.mem_of_getElem? hc)
  · rw [hnext]
    exact h.table other lock (htable other lock hentry)

theorem nextLock_tidy (s : Flights σ) (id : ModuleId) : (s.tidy id).nextLock = s.nextLock := by
  unfold tidy
  split
  · rfl
  · split <;> rfl

theorem callers_put_tidy (s : Flights σ) (id : ModuleId) (i : Nat) (c : Caller) :
    ((s.tidy id).put i c).callers = s.callers.set i c := by
  rw [Flights.put, callers_tidy]

/-- Looking after the table puts nothing into it. -/
theorem table_of_table_tidy {other : ModuleId} {lock : Nat}
    (h : (s.tidy id).table other = some lock) : s.table other = some lock := by
  unfold tidy at h
  split at h
  · exact h
  split at h
  · by_cases hid : other = id
    · simp [withEntry, hid] at h
    · simpa [withEntry, hid] using h
  · exact h

theorem Numbered.step {owner : Nat → ModuleId} (h : s.Numbered owner) {a : FlightStep}
    (hstep : s.step f a = some t) : ∃ owner', t.Numbered owner' := by
  rcases step_cases hstep with ⟨id, -, rfl⟩ | ⟨i, c, -, hc, hadvance⟩
  · exact h.arrive id
  refine ⟨owner, ?_⟩
  have hsame : ∀ id lock, s.table id = some lock → s.table id = some lock := fun _ _ h => h
  cases hadvance with
  | acquire => exact h.put hc rfl rfl rfl rfl hsame
  | fetch => exact h.put hc rfl rfl rfl rfl hsame
  | letGo => exact h.put hc rfl rfl rfl rfl hsame
  | leave => exact h.put hc rfl rfl rfl rfl hsame
  | tidy =>
      exact h.put hc (callers_put_tidy s _ i _) rfl rfl (nextLock_tidy s c.id)
        fun _ _ => table_of_table_tidy

theorem exists_numbered_of_reachable (h : Reachable f w s) : ∃ owner, s.Numbered owner := by
  induction h with
  | start => exact ⟨fun _ => default, Numbered.start w _⟩
  | step a _ hstep ih =>
      obtain ⟨owner, hnumbered⟩ := ih
      exact hnumbered.step hstep

/-! ## Locks that someone will look after -/

/-- A lock that the table has for the module will be looked after by one of its callers. -/
def Tended (s : Flights σ) (id : ModuleId) : Prop :=
  s.table id ≠ none → ∃ c ∈ s.callers, c.id = id ∧ c.isListed = true

theorem Tended.start (w : World σ) (id : ModuleId) : Tended { world := w } id :=
  fun hentry => absurd rfl hentry

theorem Tended.arrive (h : s.Tended id) (other : ModuleId) : (s.arrive other).Tended id := by
  have hgrown : ∀ {u : Flights σ} {new : Caller}, u.callers = s.callers ++ [new] →
      new.id = other → new.isListed = true →
      (id ≠ other → u.table id = s.table id) → u.Tended id := by
    intro u new hcallers hnew hlisted htable hentry
    rw [hcallers]
    by_cases hid : id = other
    · exact ⟨new, by simp, hnew.trans hid.symm, hlisted⟩
    · rw [htable hid] at hentry
      obtain ⟨c, hmem, hc⟩ := h hentry
      exact ⟨c, List.mem_append_left _ hmem, hc⟩
  unfold Flights.arrive
  split
  · exact hgrown rfl rfl rfl fun _ => rfl
  · exact hgrown rfl rfl rfl fun hid => by simp [withEntry, hid]

/-- A caller may go on if it still will look after its lock, or never would have. -/
theorem Tended.put (h : s.Tended id) {i : Nat} {c c' : Caller} (hc : s.callers[i]? = some c)
    (hcallers : u.callers = s.callers.set i c') (hid : c'.id = c.id)
    (hlisted : c.id = id → c.isListed = true → c'.isListed = true)
    (htable : s.table id = none → u.table id = none) : u.Tended id := by
  intro hentry
  obtain ⟨d, hmem, hd, hdlisted⟩ := h (mt htable hentry)
  have hi : i < s.callers.length := (List.getElem?_eq_some_iff.mp hc).1
  obtain ⟨j, hj⟩ := List.mem_iff_getElem?.mp hmem
  rw [hcallers]
  by_cases hij : i = j
  · subst hij
    obtain rfl : c = d := Option.some.inj (hc.symm.trans hj)
    exact ⟨c', List.mem_set hi c', hid.trans hd, hlisted hd hdlisted⟩
  · refine ⟨d, List.mem_of_getElem? (i := j) ?_, hd, hdlisted⟩
    rw [List.getElem?_set_ne hij, hj]

/-- Among two there is another one than the given one. -/
theorem exists_other {α : Type} {p : α → Bool} {l : List α} {i : Nat} {a : α}
    (ha : l[i]? = some a) (htwo : 2 ≤ l.countP p) :
    ∃ j b, i ≠ j ∧ l[j]? = some b ∧ p b = true := by
  by_contra hnone
  have hfalse : ∀ j b, i ≠ j → l[j]? = some b → p b = false := by
    intro j b hij hb
    by_contra hp
    exact hnone ⟨j, b, hij, hb, by simpa using hp⟩
  have htake : (l.take i).countP p = 0 := by
    rw [List.countP_eq_zero]
    intro b hmem hp
    obtain ⟨j, hj⟩ := List.mem_iff_getElem?.mp hmem
    rw [List.getElem?_take] at hj
    split at hj
    next hlt => simp [hfalse j b (Nat.ne_of_gt hlt) hj] at hp
    next => cases hj
  have hdrop : (l.drop (i + 1)).countP p = 0 := by
    rw [List.countP_eq_zero]
    intro b hmem hp
    obtain ⟨j, hj⟩ := List.mem_iff_getElem?.mp hmem
    rw [List.getElem?_drop] at hj
    simp [hfalse (i + 1 + j) b (by omega) hj] at hp
  obtain ⟨hi, rfl⟩ := List.getElem?_eq_some_iff.mp ha
  rw [← List.take_append_drop i l, List.drop_eq_getElem_cons hi, List.countP_append,
    List.countP_cons, htake, hdrop] at htwo
  split at htwo <;> omega

theorem inHand_pos {c : Caller} (hmem : c ∈ s.callers) (hpresent : c.isPresent = true) :
    0 < s.inHand c.lock :=
  List.countP_pos_iff.mpr ⟨c, hmem, by simp [hpresent]⟩

/-- **A caller that leaves its lock in the table leaves it to another one**, who has yet to look
after it unless both stand before their last step now. -/
theorem tended_tidy (horderly : s.Orderly) {owner : Nat → ModuleId} (hnumbered : s.Numbered owner)
    {i : Nat} {c : Caller} (hc : s.callers[i]? = some c) (hstage : c.stage = .released)
    (hno : ¬ ((s.tidy c.id).put i { c with stage := .tidied }).Overlaps c.id) :
    ((s.tidy c.id).put i { c with stage := .tidied }).Tended c.id := by
  intro hentry
  have hmem := List.mem_of_getElem? hc
  have hi : i < s.callers.length := (List.getElem?_eq_some_iff.mp hc).1
  have hlock : s.table c.id = some c.lock :=
    horderly.listed c hmem (by simp [Caller.isListed, Caller.isPresent, hstage])
  have hne : s.inHand c.lock ≠ 1 := by
    intro hone
    exact hentry (by simp [Flights.put, tidy, hlock, hone, withEntry])
  have hpos := inHand_pos hmem (by simp [Caller.isPresent, hstage])
  have htwo : 2 ≤ s.inHand c.lock := by omega
  obtain ⟨j, d, hij, hd, hinhand⟩ := exists_other hc htwo
  obtain ⟨hpresent, hdlock⟩ := Bool.and_eq_true_iff.mp hinhand
  have hid : d.id = c.id := by
    rw [← (hnumbered.callers d (List.mem_of_getElem? hd)).2, eq_of_beq hdlock]
    exact (hnumbered.callers c hmem).2
  have hj : ((s.tidy c.id).put i { c with stage := .tidied }).callers[j]? = some d := by
    rw [callers_put_tidy, List.getElem?_set_ne hij, hd]
  refine ⟨d, List.mem_of_getElem? hj, hid, ?_⟩
  simp only [Caller.isListed, hpresent, Bool.true_and, bne_iff_ne]
  intro htidied
  refine hno ⟨i, j, { c with stage := .tidied }, d, hij, ?_, hj, rfl, hid, rfl, htidied⟩
  rw [callers_put_tidy, List.getElem?_set_self hi]

/-- **Each step leaves the locks of a module tended**, unless two of its callers overlap then. -/
theorem Tended.step (h : s.Tended id) (horderly : s.Orderly) {owner : Nat → ModuleId}
    (hnumbered : s.Numbered owner) {a : FlightStep} (hstep : s.step f a = some t)
    (hno : ¬ t.Overlaps id) : t.Tended id := by
  rcases step_cases hstep with ⟨other, -, rfl⟩ | ⟨i, c, -, hc, hadvance⟩
  · exact h.arrive other
  have hlisted : ∀ {stage : Stage}, c.stage = stage →
      c.isListed = (stage != .gone && stage != .tidied) := by
    rintro _ rfl
    rfl
  cases hadvance with
  | acquire hstage => exact h.put hc rfl rfl (fun _ _ => rfl) fun hnone => hnone
  | fetch _ _ hstage => exact h.put hc rfl rfl (fun _ _ => rfl) fun hnone => hnone
  | letGo hstage => exact h.put hc rfl rfl (fun _ _ => rfl) fun hnone => hnone
  | leave hstage =>
      refine h.put hc rfl rfl (fun _ hc' => ?_) fun hnone => hnone
      rw [hlisted hstage] at hc'
      cases hc'
  | tidy hstage =>
      by_cases hid : c.id = id
      · subst hid
        exact tended_tidy horderly hnumbered hc hstage hno
      · refine h.put hc (callers_put_tidy s _ i _) rfl (fun hcid => absurd hcid hid)
          fun hnone => ?_
        by_contra hentry
        obtain ⟨lock, hlock⟩ := Option.ne_none_iff_exists'.mp hentry
        cases hnone.symm.trans (table_of_table_tidy hlock)

/-- The locks of a module are tended as long as no two of its callers have overlapped. -/
theorem overlapped_or_tended (h : Reachable f w s) (id : ModuleId) :
    (∃ u, Reachable f w u ∧ Follows f u s ∧ u.Overlaps id) ∨ s.Tended id := by
  induction h with
  | start => exact .inr (Tended.start w id)
  | @step s t a hs hstep ih =>
      rcases ih with ⟨u, hu, hfollows, hoverlaps⟩ | htended
      · exact .inl ⟨u, hu, hfollows.tail ⟨a, hstep⟩, hoverlaps⟩
      by_cases hoverlaps : t.Overlaps id
      · exact .inl ⟨t, hs.step a hstep, .refl, hoverlaps⟩
      obtain ⟨owner, hnumbered⟩ := exists_numbered_of_reachable hs
      exact .inr (htended.step (orderly_of_reachable hs) hnumbered hstep hoverlaps)

/-! ## A lock that is left behind -/

/-- The steps of two callers of a module who both look after the table before one of them
goes. -/
def overlapping (id : ModuleId) : List FlightStep :=
  [.arrive id, .arrive id, .advance 0, .advance 0, .advance 0, .advance 1, .advance 1, .advance 1,
    .advance 0, .advance 1, .advance 0, .advance 1]

/-- Both callers have gone, and the table has their lock. -/
theorem after_overlapping (f : Fetcher σ) (w : World σ) (id : ModuleId) :
    let s := after f (overlapping id) { world := w }
    s.callers.map (·.stage) = [.gone, .gone] ∧ s.table id = some 0 := by
  constructor <;>
    simp [after, overlapping, Flights.step, Flights.arrive, advance, Flights.put, withEntry, tidy,
      inHand, isFree, Caller.isHolding, Caller.isPresent]

theorem exists_lock_left_behind (f : Fetcher σ) (w : World σ) (id : ModuleId) :
    ∃ s, Reachable f w s ∧ s.IsQuiet id ∧ s.table id ≠ none := by
  obtain ⟨hstages, htable⟩ := after_overlapping f w id
  refine ⟨_, reachable_of_follows .start (follows_after f (overlapping id) _), fun c hmem _ => ?_,
    htable ▸ Option.some_ne_none _⟩
  have hstage := List.mem_map_of_mem (f := (·.stage)) hmem
  rw [hstages] at hstage
  have hgone : c.stage = .gone := by simpa using hstage
  simp [Caller.isPresent, hgone]

/-- **Locks stay in the table, and only after overlaps.** Whatever is fetched, some order of steps
leaves the lock of a module in the table with nobody left who came for it; and whenever that has
happened, two callers of the module had looked after the table before either of them went. -/
theorem locks_left_behind_only_after_overlaps (f : Fetcher σ) (w : World σ) :
    ¬ LeavesNoLocks f w ∧
    ∀ s id, Reachable f w s → s.IsQuiet id → s.table id ≠ none →
      ∃ u, Reachable f w u ∧ Follows f u s ∧ u.Overlaps id := by
  refine ⟨fun hclean => ?_, fun s id hs hquiet hentry => ?_⟩
  · obtain ⟨s, hs, hquiet, hentry⟩ := exists_lock_left_behind f w ModuleId.system
    exact hentry (hclean s _ hs hquiet)
  · refine (overlapped_or_tended hs id).resolve_right fun htended => ?_
    obtain ⟨c, hmem, hid, hlisted⟩ := htended hentry
    simp [Caller.isListed, hquiet c hmem hid] at hlisted

/-- Two callers are enough. -/
theorem not_leavesNoLocks_of_two_callers : ¬ LeavesNoLocks sample (sampleWorld .empty) := by
  intro hclean
  obtain ⟨s, hs, hquiet, hentry⟩ :=
    exists_lock_left_behind sample (sampleWorld .empty) sampleModule
  exact hentry (hclean s sampleModule hs hquiet)

end ModuleDepot.Flights
