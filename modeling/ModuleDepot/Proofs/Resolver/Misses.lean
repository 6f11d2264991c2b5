import ModuleDepot.Proofs.Fetch.Failure
import ModuleDepot.Proofs.Fetch.Immutability

/-! # Both forms of a miss

A resolver that does not have a module may say so or give the error `notFound`. Which of the two the
resolvers of a chain do makes no difference to what the chain does: it asks them for the same
modules, makes the same requests and leaves the same files (`misses_alike`).

It makes a difference to what the chain answers, but only for the module that every process has. The
answer of the resolver of that module is passed on as it is, where every other answer of a chain is
settled (`settled_find`).
-/

namespace ModuleDepot

variable {ρ τ σ : Type}

namespace Lookup

theorem settled_settled (answer : Lookup) : answer.settled.settled = answer.settled := by
  rcases answer with e | found
  · cases e <;> rfl
  · rfl

/-- Settled answers are those that do not give a miss as an error. -/
theorem settled_eq_self_iff {answer : Lookup} :
    answer.settled = answer ↔ ∀ id, answer ≠ .error (.notFound id) := by
  constructor
  · rintro h id rfl
    cases h
  · intro h
    rcases answer with e | found
    · cases e with
      | notFound id => exact absurd rfl (h id)
      | _ => rfl
    · rfl

end Lookup

/-! ## Fetches do not miss with an error -/

theorem LoadError.isNotFound_ofStore (id : ModuleId) (e : StoreError) :
    (LoadError.ofStore id e).isNotFound = false := by
  cases e <;> rfl

/-- An artifact that cannot be stored is not a module that is absent. -/
theorem Store.isNotFound_of_settle {store : Store} {id : ModuleId} {name : String}
    {answer : Answer} {t : FileTree} {e : LoadError}
    (h : (store.settle id name answer t).1 = .error e) : e.isNotFound = false := by
  unfold settle at h
  split at h
  · cases h
  cases answer with
  | found stream =>
      dsimp only at h
      cases hwrite : (store.write t stream (Layout.file id name)).result with
      | ok path =>
          rw [hwrite] at h
          cases h
      | error cause =>
          rw [hwrite] at h
          obtain rfl := Except.error.inj h
          exact LoadError.isNotFound_ofStore id cause
  | notFound => cases h
  | unavailable reason => cases h

/-- The error of a fetch is never that the module is absent, whatever the root of the cache is. -/
theorem Fetcher.isNotFound_of_fetch {f : Fetcher σ} {id : ModuleId} {w : World σ} {e : LoadError}
    (h : (f.fetch id w).1 = .error e) : e.isNotFound = false := by
  cases failsAt_of_fetch h with
  | artifact before last _ hlast _ =>
      rw [result_bring] at hlast
      exact Store.isNotFound_of_settle hlast
  | descriptor _ _ hread =>
      rcases readDescriptor_eq_error hread with ⟨cause, -, rfl⟩ | ⟨stream, error, -, -, rfl⟩
      · rfl
      · rfl

/-! ## Resolvers and chains that say in one way that there is no module -/

/-- The resolver with all its misses in the same form. -/
def Resolver.settled (r : Resolver ρ) : Resolver ρ where
  find t id s := ((r.find t id s).1.settled, (r.find t id s).2)

/-- The resolver with a record of what it was asked for, oldest first. -/
def Resolver.recording (r : Resolver ρ) : Resolver (ρ × List ModuleId) where
  find t id s := ((r.find t id s.1).1, (r.find t id s.1).2, s.2 ++ [id])

namespace Chain

/-- The chain with both its resolvers settled. -/
def settled (c : Chain ρ τ σ) : Chain ρ τ σ :=
  ⟨c.primary.settled, c.system.settled, c.fetcher⟩

/-- The chain with a record for each of its resolvers. -/
def recording (c : Chain ρ τ σ) : Chain (ρ × List ModuleId) (τ × List ModuleId) σ :=
  ⟨c.primary.recording, c.system.recording, c.fetcher⟩

/-- The answers to calls, one after the other, and the state behind the last one. -/
def findAll (c : Chain ρ τ σ) : List ModuleId → ChainState ρ τ σ → List Lookup × ChainState ρ τ σ
  | [], s => ([], s)
  | id :: ids, s =>
    ((c.find id s).1 :: (findAll c ids (c.find id s).2).1, (findAll c ids (c.find id s).2).2)

theorem settled_recording (c : Chain ρ τ σ) : c.recording.settled = c.settled.recording := rfl

/-! ## One call -/

variable (c : Chain ρ τ σ) {id : ModuleId}

/-- A settled chain asks its primary resolver to the same effect. -/
theorem consult_settled (id : ModuleId) (s : ChainState ρ τ σ) :
    c.settled.consult id s = c.consult id s := by
  unfold consult settled Resolver.settled
  dsimp only
  rw [Lookup.settled_settled]

theorem isNotFound_of_fetchMissing {s s' : ChainState ρ τ σ} {e : LoadError}
    (h : c.fetchMissing id s = (.error e, s')) : e.isNotFound = false := by
  rw [fetchMissing_eq] at h
  have hresult := congrArg Prod.fst h
  cases hfetch : (c.fallback id s.world).1 with
  | error e' =>
      rw [hfetch] at hresult
      obtain rfl : e' = e := Except.error.inj hresult
      unfold fallback at hfetch
      exact Fetcher.isNotFound_of_fetch hfetch
  | ok report =>
      rw [hfetch] at hresult
      cases hresult

theorem find_of_isSystem (hid : id.isSystem = true) (s : ChainState ρ τ σ) :
    c.find id s = c.askSystem id s :=
  if_pos hid

/-- **The answers of a chain are settled**, but for the module that every process has. -/
theorem settled_find (hid : id.isSystem = false) (s : ChainState ρ τ σ) :
    (c.find id s).1.settled = (c.find id s).1 := by
  have hconsult : ∀ s, (c.consult id s).1.settled = (c.consult id s).1 := fun s =>
    Lookup.settled_settled _
  rw [find, if_neg (by simp [hid])]
  split
  next s' _ =>
    split
    next e s'' hmissing =>
      -- The error of the fetch is not normalised, but it is never a miss.
      have hne := c.isNotFound_of_fetchMissing hmissing
      cases e with
      | notFound id => cases hne
      | _ => rfl
    next => rfl
    next s'' _ => exact hconsult s''
  next => exact hconsult s

/-- **A settled chain does the same in a call**, and its answer is settled. -/
theorem find_settled (id : ModuleId) (s : ChainState ρ τ σ) :
    c.settled.find id s = ((c.find id s).1.settled, (c.find id s).2) := by
  cases hid : id.isSystem with
  | true =>
      rw [find_of_isSystem _ hid, find_of_isSystem _ hid]
      rfl
  | false =>
      have hfetch : c.settled.fetchMissing id = c.fetchMissing id := by
        unfold fetchMissing settled
        dsimp only
      have hsame : c.settled.find id s = c.find id s := by
        simp only [find, hid, Bool.false_eq_true, if_false, c.consult_settled, hfetch]
      rw [hsame, c.settled_find hid s]

/-! ## Calls in a row -/

/-- A settled chain does the same in every call, and its answers are settled. -/
theorem findAll_settled (ids : List ModuleId) (s : ChainState ρ τ σ) :
    c.settled.findAll ids s =
      ((c.findAll ids s).1.map Lookup.settled, (c.findAll ids s).2) := by
  induction ids generalizing s with
  | nil => rfl
  | cons id ids ih =>
      rw [findAll, findAll, c.find_settled id s, ih, List.map_cons]

/-- The answers are settled already, but for those of the module that every process has. -/
theorem forall₂_findAll (ids : List ModuleId) (s : ChainState ρ τ σ) :
    List.Forall₂ (fun id answer => id.isSystem = false → answer.settled = answer) ids
      (c.findAll ids s).1 := by
  induction ids generalizing s with
  | nil => exact .nil
  | cons id ids ih => exact .cons (fun hid => c.settled_find hid s) (ih _)

/-- **The two forms of a miss make no difference but to the answer for one module.** Let both
resolvers of a chain give as an answer what they gave as the error `notFound`, at any time and
depending on anything they were asked before. Over any calls the files and the repository with its
requests, the log and the states of the resolvers are the same, and so is the record of what each
resolver was asked for. The parser of the fetches is any that reads the stream alone.

The answers are those of the chain, settled; they were so already for every module but the one that
every process has. So they are the same if and only if the chain never gave `notFound`. -/
theorem misses_alike (ids : List ModuleId) (s : ChainState ρ τ σ) :
    let unasked : ChainState (ρ × List ModuleId) (τ × List ModuleId) σ :=
      ⟨s.world, (s.primary, []), (s.system, [])⟩
    (c.settled.findAll ids s).2 = (c.findAll ids s).2 ∧
    (c.settled.recording.findAll ids unasked).2 = (c.recording.findAll ids unasked).2 ∧
    (c.settled.findAll ids s).1 = (c.findAll ids s).1.map Lookup.settled ∧
    List.Forall₂ (fun id answer => id.isSystem = false → answer.settled = answer) ids
      (c.findAll ids s).1 ∧
    ((c.settled.findAll ids s).1 = (c.findAll ids s).1 ↔
      ∀ answer ∈ (c.findAll ids s).1, ∀ id, answer ≠ .error (.notFound id)) := by
  intro unasked
  have hsettled := c.findAll_settled ids s
  refine ⟨by rw [hsettled], ?_, by rw [hsettled], c.forall₂_findAll ids s, ?_⟩
  · -- The chain with records is a chain, too.
    rw [← settled_recording, findAll_settled]
  · rw [hsettled]
    nth_rewrite 2 [← List.map_id (c.findAll ids s).1]
    exact List.map_inj_left.trans (forall₂_congr fun _ _ => Lookup.settled_eq_self_iff)

/-- A resolver that has nothing, and says so by an error. -/
def nowhere : Resolver Unit where
  find _ id _ := (.error (.notFound id), ())

/-- **A miss of the module that every process has is passed on as an error**, where the same chain
with settled resolvers answers that there is no such module. -/
theorem passes_on_miss_of_system :
    let c : Chain Unit Unit MemoryRepository := ⟨nowhere, nowhere, sample.fetcher⟩
    (c.findAll [.system] sampleState).1 = [.error (.notFound .system)] ∧
    (c.settled.findAll [.system] sampleState).1 = [.ok none] := by
  exact ⟨rfl, rfl⟩

end Chain
end ModuleDepot
