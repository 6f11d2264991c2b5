import ModuleDepot.Fetch.Flight
import ModuleDepot.Proofs.Fetch.Upkeep

/-! # One caller at a time

However the steps of callers are interleaved, at most one of the callers of a module fetches
it at a time, and a caller that still relies on the table has the lock that the table has for
its module (`single_flight`).

Both rest on one invariant, `Orderly`, which each step keeps. The step that decides it is the
one that takes a lock out of the table: it is done only if nobody else has the lock in hand,
and everybody who relies on the table has the same lock in hand.

So the fetches of a module follow each other, and a later one finds what an earlier one stored, if
nothing took it away. A link or a reader that touches the files can do that
(`not_requestsOnce_of_link_or_release`).
-/

namespace ModuleDepot.Flights

variable {σ : Type} {f : Fetcher σ} {s t : Flights σ}

/-! ## What a step does -/

/-- A caller of a number does its next step. -/
inductive Advances (f : Fetcher σ) (s : Flights σ) (i : Nat) (c : Caller) : Flights σ → Prop
  | acquire : c.stage = .waiting → s.isFree c.lock = true →
      Advances f s i c (s.put i { c with stage := .holding })
  | fetch (answer : Except LoadError (Option Report)) (world : World σ) : c.stage = .holding →
      f.fetch c.id s.world = (answer, world) →
      Advances f s i c
        { s.put i { c with stage := .answered, answer := some answer } with world := world }
  | letGo : c.stage = .answered → Advances f s i c (s.put i { c with stage := .released })
  | tidy : c.stage = .released →
      Advances f s i c ((s.tidy c.id).put i { c with stage := .tidied })
  | leave : c.stage = .tidied → Advances f s i c (s.put i { c with stage := .gone })

theorem advances_of_advance {i : Nat} {c : Caller} (h : s.advance f i c = some t) :
    Advances f s i c t := by
  unfold advance at h
  split at h
  next hstage =>
    split at h
    next hfree =>
      cases h
      exact .acquire hstage hfree
    next => cases h
  next hstage =>
    rcases hfetch : f.fetch c.id s.world with ⟨answer, world⟩
    rw [hfetch] at h
    cases h
    exact .fetch answer world hstage hfetch
  next hstage =>
    cases h
    exact .letGo hstage
  next hstage =>
    cases h
    exact .tidy hstage
  next hstage =>
    cases h
    exact .leave hstage
  next => cases h

/-- **All that a step can do.** -/
theorem step_cases {a : FlightStep} (h : s.step f a = some t) :
    (∃ id, a = .arrive id ∧ t = s.arrive id) ∨
    ∃ i c, a = .advance i ∧ s.callers[i]? = some c ∧ Advances f s i c t := by
  cases a with
  | arrive id => exact .inl ⟨id, rfl, (Option.some.inj h).symm⟩
  | advance i =>
      obtain ⟨c, hc, hadvance⟩ := Option.bind_eq_some_iff.mp h
      exact .inr ⟨i, c, rfl, hc, advances_of_advance hadvance⟩

/-! ## The invariant -/

/-- Callers that rely on the table have the lock of the table, and no two callers hold the
same lock. -/
structure Orderly (s : Flights σ) : Prop where
  listed : ∀ c ∈ s.callers, c.isListed = true → s.table c.id = some c.lock
  holders : ∀ (i j : Nat) (c d : Caller), s.callers[i]? = some c → s.callers[j]? = some d →
    c.isHolding = true → d.isHolding = true → c.lock = d.lock → i = j

theorem isListed_of_isHolding {c : Caller} (h : c.isHolding = true) : c.isListed = true := by
  simp only [Caller.isHolding, Bool.or_eq_true, beq_iff_eq] at h
  rcases h with h | h <;> simp [Caller.isListed, Caller.isPresent, h]

/-- Callers that hold a lock of the same module are the same caller. -/
theorem Orderly.eq_of_isHolding (h : s.Orderly) {i j : Nat} {c d : Caller}
    (hc : s.callers[i]? = some c) (hd : s.callers[j]? = some d) (hci : c.isHolding = true)
    (hdj : d.isHolding = true) (hid : c.id = d.id) : i = j := by
  have hlockc := h.listed c (List.mem_of_getElem? hc) (isListed_of_isHolding hci)
  have hlockd := h.listed d (List.mem_of_getElem? hd) (isListed_of_isHolding hdj)
  rw [hid, hlockd] at hlockc
  exact h.holders i j c d hc hd hci hdj (Option.some.inj hlockc).symm

theorem Orderly.start (w : World σ) : Orderly { world := w } :=
  ⟨fun _ hmem => (nomatch hmem), fun _ _ _ _ hc => (nomatch hc)⟩

theorem Orderly.arrive (h : s.Orderly) (id : ModuleId) : (s.arrive id).Orderly := by
  have hholders : ∀ (callers : List Caller) (new : Caller), callers = s.callers ++ [new] →
      new.isHolding = false → ∀ (i j : Nat) (c d : Caller), callers[i]? = some c →
      callers[j]? = some d → c.isHolding = true → d.isHolding = true → c.lock = d.lock → i = j := by
    rintro callers new rfl hnew i j c d hc hd hci hdj
    have hold : ∀ {k : Nat} {e : Caller}, (s.callers ++ [new])[k]? = some e →
        e.isHolding = true → s.callers[k]? = some e := by
      intro k e he hek
      rw [List.getElem?_append] at he
      split at he
      · exact he
      · have := List.mem_of_getElem? he
        rw [List.mem_singleton] at this
        rw [this, hnew] at hek
        cases hek
    exact h.holders i j c d (hold hc hci) (hold hd hdj) hci hdj
  unfold Flights.arrive
  split
  next lock hlock =>
    refine ⟨fun c hmem hlisted => ?_, hholders _ _ rfl rfl⟩
    rcases List.mem_append.mp hmem with hmem | hmem
    · exact h.listed c hmem hlisted
    · rw [List.mem_singleton] at hmem
      subst hmem
      exact hlock
  next hnone =>
    refine ⟨fun c hmem hlisted => ?_, hholders _ _ rfl rfl⟩
    rcases List.mem_append.mp hmem with hmem | hmem
    · have hold := h.listed c hmem hlisted
      have hne : c.id ≠ id := by
        rintro rfl
        cases hnone.symm.trans hold
      simpa [withEntry, hne] using hold
    · rw [List.mem_singleton] at hmem
      subst hmem
      simp [withEntry]

/-- A caller may go on if it holds a lock that it held before or that is free, and if the
table still has the locks of those who rely on it. -/
theorem Orderly.put (h : s.Orderly) {u : Flights σ} {i : Nat} {c c' : Caller}
    (hc : s.callers[i]? = some c) (hcallers : u.callers = s.callers.set i c')
    (hlock : c'.lock = c.lock)
    (hholding : c'.isHolding = true → c.isHolding = true ∨ s.isFree c.lock = true)
    (hlisted : ∀ d ∈ u.callers, d.isListed = true → u.table d.id = some d.lock) :
    u.Orderly := by
  refine ⟨hlisted, fun j k d e hd he hdj hek hsame => ?_⟩
  rw [hcallers] at hd he
  have hi : i < s.callers.length := (List.getElem?_eq_some_iff.mp hc).1
  -- A holder other than the caller excludes that the caller comes to hold its lock.
  have hother : ∀ {l : Nat} {x : Caller}, l ≠ i → s.callers[l]? = some x →
      x.isHolding = true → x.lock = c.lock → c'.isHolding = true → False := by
    intro l x hl hx hxl hxlock hc'
    rcases hholding hc' with hci | hfree
    · exact hl (h.holders l i x c hx hc hxl hci hxlock)
    · have := List.all_eq_true.mp hfree x (List.mem_of_getElem? hx)
      simp [hxl, hxlock] at this
  rw [List.getElem?_set] at hd he
  by_cases hj : i = j <;> by_cases hk : i = k
  · exact hj.symm.trans hk
  · rw [if_pos hj, if_pos (hj ▸ hi)] at hd
    rw [if_neg hk] at he
    cases hd
    exact (hother (Ne.symm hk) he hek (hsame.symm.trans hlock) hdj).elim
  · rw [if_neg hj] at hd
    rw [if_pos hk, if_pos (hk ▸ hi)] at he
    cases he
    exact (hother (Ne.symm hj) hd hdj (hsame.trans hlock) hek).elim
  · rw [if_neg hj] at hd
    rw [if_neg hk] at he
    exact h.holders j k d e hd he hdj hek hsame

theorem two_le_countP {α : Type} {p : α → Bool} {l : List α} {i j : Nat} {a b : α}
    (ha : l[i]? = some a) (hb : l[j]? = some b) (hij : i ≠ j) (hpa : p a = true)
    (hpb : p b = true) : 2 ≤ l.countP p := by
  have hsplit : ∀ {i j : Nat} {a b : α}, l[i]? = some a → l[j]? = some b → i < j →
      p a = true → p b = true → 2 ≤ l.countP p := by
    intro i j a b ha hb hlt hpa hpb
    have htake : 0 < (l.take j).countP p :=
      List.countP_pos_iff.mpr ⟨a, List.mem_of_getElem? (List.getElem?_take_of_lt hlt ▸ ha), hpa⟩
    have hdrop : 0 < (l.drop j).countP p := by
      refine List.countP_pos_iff.mpr ⟨b, List.mem_of_getElem? (i := 0) ?_, hpb⟩
      rw [List.getElem?_drop]
      exact hb
    have hcount : l.countP p = (l.take j).countP p + (l.drop j).countP p := by
      rw [← List.countP_append, List.take_append_drop]
    omega
  rcases Nat.lt_or_gt_of_ne hij with hlt | hlt
  · exact hsplit ha hb hlt hpa hpb
  · exact hsplit hb ha hlt hpb hpa

/-- **Taking a lock out of the table** leaves it to everyone else who relies on it. -/
theorem Orderly.table_tidy (h : s.Orderly) {i j : Nat} {c d : Caller}
    (hc : s.callers[i]? = some c) (hd : s.callers[j]? = some d) (hij : i ≠ j)
    (hlistedc : c.isListed = true) (hlistedd : d.isListed = true) :
    (s.tidy c.id).table d.id = some d.lock := by
  have hlockc := h.listed c (List.mem_of_getElem? hc) hlistedc
  have hlockd := h.listed d (List.mem_of_getElem? hd) hlistedd
  have hpresent : ∀ {x : Caller}, x.isListed = true → x.isPresent = true := by
    intro x hx
    exact (Bool.and_eq_true_iff.mp hx).1
  unfold Flights.tidy
  rw [hlockc]
  dsimp only
  split
  next hone =>
    -- A second caller of the module would have the same lock in hand, which makes two.
    have hne : d.id ≠ c.id := by
      intro hid
      have hlock : d.lock = c.lock := by
        rw [hid, hlockc] at hlockd
        exact (Option.some.inj hlockd).symm
      have htwo : 2 ≤ s.inHand c.lock :=
        two_le_countP hc hd hij (by simp [hpresent hlistedc])
          (by simp [hpresent hlistedd, hlock])
      omega
    simpa [withEntry, hne] using hlockd
  next => exact hlockd

@[simp] theorem callers_tidy (s : Flights σ) (id : ModuleId) :
    (s.tidy id).callers = s.callers := by
  unfold tidy
  split
  · rfl
  · split <;> rfl

/-- A caller that goes on relies on the table no more than before. -/
theorem Orderly.listed_put (h : s.Orderly) {i : Nat} {c c' : Caller}
    (hc : s.callers[i]? = some c) (hid : c'.id = c.id) (hlock : c'.lock = c.lock)
    (hlisted : c'.isListed = true → c.isListed = true) :
    ∀ d ∈ s.callers.set i c', d.isListed = true → s.table d.id = some d.lock := by
  intro d hmem hd
  rcases List.mem_or_eq_of_mem_set hmem with hmem | rfl
  · exact h.listed d hmem hd
  · rw [hid, hlock]
    exact h.listed c (List.mem_of_getElem? hc) (hlisted hd)

/-- **Each step keeps the order of the callers.** -/
theorem Orderly.step (h : s.Orderly) {a : FlightStep} (hstep : s.step f a = some t) :
    t.Orderly := by
  rcases step_cases hstep with ⟨id, -, rfl⟩ | ⟨i, c, -, hc, hadvance⟩
  · exact h.arrive id
  cases hadvance with
  | acquire hstage hfree =>
      refine h.put hc rfl rfl (fun _ => .inr hfree) (h.listed_put hc rfl rfl ?_)
      simp [Caller.isListed, Caller.isPresent, hstage]
  | fetch answer world hstage _ =>
      refine h.put hc rfl rfl (fun _ => .inl ?_) (h.listed_put hc rfl rfl ?_)
      · simp [Caller.isHolding, hstage]
      · simp [Caller.isListed, Caller.isPresent, hstage]
  | letGo hstage =>
      refine h.put hc rfl rfl (fun hholding => ?_) (h.listed_put hc rfl rfl ?_)
      · simp [Caller.isHolding] at hholding
      · simp [Caller.isListed, Caller.isPresent, hstage]
  | leave hstage =>
      refine h.put hc rfl rfl (fun hholding => ?_) (h.listed_put hc rfl rfl ?_)
      · simp [Caller.isHolding] at hholding
      · simp [Caller.isListed, Caller.isPresent]
  | tidy hstage =>
      have hlistedc : c.isListed = true := by
        simp [Caller.isListed, Caller.isPresent, hstage]
      have hcallers : ((s.tidy c.id).put i { c with stage := .tidied }).callers =
          s.callers.set i { c with stage := .tidied } := by simp [Flights.put]
      refine h.put hc hcallers rfl (fun hholding => ?_) (fun d hmem hd => ?_)
      · simp [Caller.isHolding] at hholding
      · -- Everyone who still relies on the table is another caller than the one that goes on.
        obtain ⟨j, hj⟩ := List.mem_iff_getElem?.mp hmem
        rw [hcallers, List.getElem?_set] at hj
        split at hj
        next =>
          split at hj
          · cases hj
            simp [Caller.isListed] at hd
          · cases hj
        next hij => exact h.table_tidy hc hj hij hlistedc hd

theorem orderly_of_reachable {w : World σ} (h : Reachable f w s) : s.Orderly := by
  induction h with
  | start => exact Orderly.start w
  | step a _ hstep ih => exact ih.step hstep

/-! ## What later callers request -/

/-- One state comes after the other, by any steps. -/
abbrev Follows (f : Fetcher σ) : Flights σ → Flights σ → Prop :=
  Relation.ReflTransGen fun s t => ∃ a, s.step f a = some t

/-- A step leaves the world as it is, or a caller that holds its lock fetches. -/
theorem world_step {a : FlightStep} (h : s.step f a = some t) :
    t.world = s.world ∨ ∃ i c, a = .advance i ∧ s.callers[i]? = some c ∧ c.stage = .holding ∧
      f.fetch c.id s.world = ((f.fetch c.id s.world).1, t.world) := by
  have htidy : ∀ id, (s.tidy id).world = s.world := by
    intro id
    unfold tidy
    split
    · rfl
    · split <;> rfl
  rcases step_cases h with ⟨id, -, rfl⟩ | ⟨i, c, ha, hc, hadvance⟩
  · unfold Flights.arrive
    split <;> exact .inl rfl
  cases hadvance with
  | acquire => exact .inl rfl
  | fetch answer world hstage hfetch =>
      exact .inr ⟨i, c, ha, hc, hstage, by rw [hfetch]⟩
  | letGo => exact .inl rfl
  | tidy => exact .inl (htidy c.id)
  | leave => exact .inl rfl

theorem evolves_step {a : FlightStep} (h : s.step f a = some t) :
    f.Evolves s.world t.world := by
  rcases world_step h with heq | ⟨i, c, -, -, -, hfetch⟩
  · rw [heq]
  · have hruns := Fetcher.runs_fetch f c.id s.world
    rw [hfetch] at hruns
    exact Fetcher.evolves_of_runs hruns

theorem evolves_of_follows (h : Follows f s t) : f.Evolves s.world t.world := by
  induction h with
  | refl => exact .refl
  | tail _ hstep ih =>
      obtain ⟨a, hstep⟩ := hstep
      exact ih.trans (evolves_step hstep)

theorem evolves_of_reachable {w : World σ} (h : Reachable f w s) : f.Evolves w s.world := by
  induction h with
  | start => exact .refl
  | step a _ hstep ih => exact ih.trans (evolves_step hstep)

/-- **What one caller has downloaded and stored, no later caller of the module requests.** -/
def RequestsOnce (f : Fetcher σ) (w : World σ) : Prop :=
  ∀ (s s' t t' : Flights σ) (i j : Nat) (c d : Caller) (name : String),
    Reachable f w s → s.callers[i]? = some c → s.step f (.advance i) = some s' →
    f.Persists c.id name s.world s'.world → Follows f s' t →
    t.callers[j]? = some d → d.id = c.id → t.step f (.advance j) = some t' →
    f.request c.id name ∉ t'.world.requests.drop t.world.requests.length

theorem requestsOnce (w : World σ) (hcalm : f.Calm w) : RequestsOnce f w := by
  intro s s' t t' i j c d name hs hc hstep hpersists hfollows hd hid hstep'
  have hcalms := (hcalm.evolves (evolves_of_reachable hs)).1
  have hcalms' := (hcalms.evolves (evolves_step hstep)).1
  have hcalmt := (hcalms'.evolves (evolves_of_follows hfollows)).1
  -- The artifact is in the cache when the second caller comes to fetch.
  have hcached : f.isCached c.id name t.world = true :=
    Fetcher.isCached_of_evolves hcalms' (evolves_of_follows hfollows)
      (hpersists.isCached hcalms)
  rcases world_step hstep' with heq | ⟨k, e, hk, he, -, hfetch⟩
  · rw [heq]
    simp
  · cases hk
    obtain rfl : d = e := Option.some.inj (hd.symm.trans he)
    have hruns := Fetcher.runs_fetch f d.id t.world
    rw [hfetch, hid] at hruns
    obtain ⟨new, hrequests, hnew⟩ := Fetcher.not_requested_of_runs hcalmt hruns hcached
    rw [hrequests, List.drop_left]
    exact hnew

/-- **Single flight.** In every state that some order of steps leads to, at most one caller of
a module holds its lock, and every caller that has not yet looked after the table has the lock
that the table has for its module. In a tree without links, and with readers that do not touch
the files, what one caller has downloaded and stored is not requested by a later one of the
same module. -/
theorem single_flight {w : World σ} (h : Reachable f w s) :
    (∀ (i j : Nat) (c d : Caller), s.callers[i]? = some c → s.callers[j]? = some d →
      c.isHolding = true → d.isHolding = true → c.id = d.id → i = j) ∧
    (∀ c ∈ s.callers, c.isListed = true → s.table c.id = some c.lock) ∧
    (w.tree.LinkFree → f.repository.LeavesFiles w.repository → RequestsOnce f w) :=
  ⟨fun _ _ _ _ hc hd => (orderly_of_reachable h).eq_of_isHolding hc hd,
    (orderly_of_reachable h).listed,
    fun hlinks hreaders => requestsOnce w ⟨hlinks, hreaders⟩⟩

/-! ## Particular orders -/

/-- The state after steps in a given order; a step that is not possible is left out. -/
def after (f : Fetcher σ) (steps : List FlightStep) (s : Flights σ) : Flights σ :=
  steps.foldl (fun s a => (s.step f a).getD s) s

theorem follows_after (f : Fetcher σ) (steps : List FlightStep) (s : Flights σ) :
    Follows f s (after f steps s) := by
  induction steps generalizing s with
  | nil => exact .refl
  | cons a rest ih =>
      have hfirst : Follows f s ((s.step f a).getD s) := by
        cases hstep : s.step f a with
        | none => exact .refl
        | some t => exact .single ⟨a, hstep⟩
      exact hfirst.trans (ih _)

theorem reachable_of_follows {w : World σ} (hs : Reachable f w s) (h : Follows f s t) :
    Reachable f w t := by
  induction h with
  | refl => exact hs
  | tail _ hstep ih =>
      obtain ⟨a, hstep⟩ := hstep
      exact ih.step a hstep

/-- A descriptor that declares a file in a directory and the directory itself. -/
def sample : Fetcher MemoryRepository :=
  ⟨⟨⟨"/c"⟩⟩, MemoryRepository.repository, fun _ => .ok ["lib/x", "lib"], "1"⟩

def sampleModule : ModuleId := ⟨"m", "main"⟩

def sampleWorld (t : FileTree) : World MemoryRepository :=
  ⟨t, { resources := [("1/m/main/module.xml", .ofBytes [60]), ("1/m/main/lib/x", .ofBytes [1]),
    ("1/m/main/lib", .ofBytes [2])] }, [], []⟩

theorem leavesFiles_sampleWorld (t : FileTree) :
    sample.repository.LeavesFiles (sampleWorld t).repository :=
  MemoryRepository.leavesFiles (by simp [sampleWorld, ByteStream.ofBytes])

/-- While one caller fetches, another one waits with the same lock. -/
theorem single_flight_of_two_callers :
    let s := after sample [.arrive sampleModule, .arrive sampleModule, .advance 0]
      { world := sampleWorld .empty }
    Reachable sample (sampleWorld .empty) s ∧
    s.callers.map (fun c => (c.stage, c.lock)) = [(.holding, 0), (.waiting, 0)] ∧
    (∀ c ∈ s.callers, c.isListed = true → s.table c.id = some c.lock) ∧
    RequestsOnce sample (sampleWorld .empty) := by
  intro s
  have hreachable : Reachable sample (sampleWorld .empty) s :=
    reachable_of_follows .start (follows_after ..)
  obtain ⟨-, hlisted, honce⟩ := single_flight hreachable
  exact ⟨hreachable, by decide +kernel, hlisted,
    honce FileTree.linkFree_empty (leavesFiles_sampleWorld .empty)⟩

/-! ## One fetch behind another -/

/-- The first caller of a module, as far as it has come, and later ones. -/
def opened (id : ModuleId) (w : World σ) (stage : Stage)
    (answer : Option (Except LoadError (Option Report))) (later : List Caller) : Flights σ :=
  { world := w
    table := fun other => if other = id then some 0 else none
    nextLock := 1
    callers := { id := id, lock := 0, stage := stage, answer := answer } :: later }

theorem reachable_opened (f : Fetcher σ) (id : ModuleId) (w : World σ) :
    Reachable f w (opened id w .holding none []) :=
  .step (.advance 0) (.step (.arrive id) .start rfl) rfl

/-- The first caller fetches. -/
theorem step_opened {id : ModuleId} {w v : World σ}
    {answer : Except LoadError (Option Report)} (h : f.fetch id w = (answer, v)) :
    (opened id w .holding none []).step f (.advance 0) =
      some (opened id v .answered (some answer) []) := by
  simp [opened, step, advance, h, Flights.put]

/-- It lets go of the lock, and a second caller arrives and takes it. -/
theorem follows_opened (f : Fetcher σ) (id : ModuleId) (v : World σ)
    (answer : Option (Except LoadError (Option Report))) :
    Follows f (opened id v .answered answer [])
      (opened id v .released answer [{ id := id, lock := 0, stage := .holding }]) := by
  have harrive : (opened id v .released answer []).step f (.arrive id) =
      some (opened id v .released answer [{ id := id, lock := 0 }]) := by
    simp [opened, step, Flights.arrive]
  exact ((Relation.ReflTransGen.single ⟨.advance 0, rfl⟩).tail ⟨.arrive id, harrive⟩).tail
    ⟨.advance 1, rfl⟩

/-- Then the second caller fetches. -/
theorem step_opened_second (f : Fetcher σ) (id : ModuleId) (v : World σ)
    (answer : Option (Except LoadError (Option Report))) :
    ∃ t, (opened id v .released answer [{ id := id, lock := 0, stage := .holding }]).step f
      (.advance 1) = some t ∧ t.world = (f.fetch id v).2 := by
  simp [opened, step, advance, Flights.put]

/-- **What the second of two fetches requests**, though the first one has stored it, the second of
two callers requests. -/
theorem not_requestsOnce_of_fetch {id : ModuleId} {w v : World σ} {report : Report}
    {entry : ResourceReport} (hfirst : f.fetch id w = (.ok (some report), v))
    (hmem : entry ∈ report.resources) (hfetched : entry.resource = .fetched)
    (hagain : f.request id entry.path ∈ (f.fetch id v).2.requests.drop v.requests.length) :
    ¬ RequestsOnce f w := by
  intro honce
  have hpersists : f.Persists id entry.path w v :=
    Fetcher.persists_of_fetch hfirst hmem hfetched
  obtain ⟨t, hstep, hworld⟩ := step_opened_second f id v (some (.ok (some report)))
  refine honce _ _ _ t 0 1 _ _ entry.path (reachable_opened f id w) rfl (step_opened hfirst)
    hpersists (follows_opened f id v _) rfl rfl hstep ?_
  rwa [hworld]

theorem fetch_eq_of_toOption {id : ModuleId} {w : World σ} {report? : Option Report}
    (h : (f.fetch id w).1.toOption = some report?) :
    f.fetch id w = (.ok report?, (f.fetch id w).2) := by
  generalize f.fetch id w = fetched at h ⊢
  obtain ⟨answer, v⟩ := fetched
  cases answer with
  | error e => exact nomatch h
  | ok result => rw [show result = report? from Option.some.inj h]

/-- A tree in which the directory `lib` of a module is a link to another one. -/
def linkedTree : FileTree :=
  ((((FileTree.empty.insert ["c"] .directory).insert ["c", "m"] .directory).insert
    ["c", "m", "main"] .directory).insert ["c", "m", "main", "real"] .directory).insert
    ["c", "m", "main", "lib"] (.link ⟨"real"⟩)

/-- A cache that is still empty, and a repository whose reader of `y` lets go of `x`. -/
def releasingWorld : World MemoryRepository :=
  ⟨.empty, Fetcher.pairResources (.ofBytes [1]) (Fetcher.releasing "x" [.data [2]]), [], []⟩

/-- An artifact may be requested twice where there are links: when `lib` is stored, it takes the
place of the link through which `lib/x` was there. So it may where a reader touches the files. -/
theorem not_requestsOnce_of_link_or_release :
    (sample.repository.LeavesFiles (sampleWorld linkedTree).repository ∧
      ¬ RequestsOnce sample (sampleWorld linkedTree)) ∧
    releasingWorld.tree.LinkFree ∧ ¬ RequestsOnce Fetcher.pair releasingWorld := by
  have hlinked : (sample.fetch sampleModule (sampleWorld linkedTree)).1.toOption =
      some (some ⟨sampleModule, .fetched,
        [⟨"lib/x", .fetched, .notFound⟩, ⟨"lib", .fetched, .notFound⟩]⟩) := by
    decide +kernel
  have hreleasing : (Fetcher.pair.fetch Fetcher.pairModule releasingWorld).1.toOption =
      some (some ⟨Fetcher.pairModule, .fetched,
        [⟨"x", .fetched, .notFound⟩, ⟨"y", .fetched, .notFound⟩]⟩) := by
    decide +kernel
  exact ⟨⟨leavesFiles_sampleWorld linkedTree,
      not_requestsOnce_of_fetch (fetch_eq_of_toOption hlinked) List.mem_cons_self rfl
        (by decide +kernel)⟩,
    FileTree.linkFree_empty,
    not_requestsOnce_of_fetch (fetch_eq_of_toOption hreleasing) List.mem_cons_self rfl
      (by decide +kernel)⟩

end ModuleDepot.Flights
