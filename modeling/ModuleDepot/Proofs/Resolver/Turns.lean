import ModuleDepot.Proofs.Resolver.Agreement
import ModuleDepot.Proofs.Resolver.Misses

/-! # Whom a chain asks, and when

A call asks the resolver of the one module that every process has for this module, once, and that
is all. For any other module it asks the primary resolver. A hit or a hard error is the answer, and
nothing is fetched. After a miss there is one fetch, and if it ends with a report the primary
resolver is asked once more (`asks_in_turn`). This holds for all resolvers, whatever they answer and
whatever that depends on, for every tree and every repository.

A fetch that ends with a report has left the descriptor in the cache, if there are no links and the
readers leave the tree alone. Otherwise the report alone decides
(`asks_again_without_descriptor`).
-/

namespace ModuleDepot

open FileTree

variable {ρ τ σ : Type}

/-- Both ways to say that there is no such module. -/
def Lookup.IsMiss (answer : Lookup) : Prop :=
  answer = .ok none ∨ ∃ id, answer = .error (.notFound id)

namespace Lookup

theorem settled_of_isMiss {answer : Lookup} (h : answer.IsMiss) : answer.settled = .ok none := by
  rcases h with rfl | ⟨id, rfl⟩ <;> rfl

/-- Hits and hard errors are settled, and none of them is that there is no such module. -/
theorem settled_of_not_isMiss {answer : Lookup} (h : ¬ answer.IsMiss) :
    answer.settled = answer ∧ answer ≠ .ok none :=
  ⟨settled_eq_self_iff.mpr fun id hnot => h (.inr ⟨id, hnot⟩), fun hnone => h (.inl hnone)⟩

end Lookup

namespace Fetcher

variable {f : Fetcher σ} {id : ModuleId} {w : World σ}

/-- A fetch without a report has found no descriptor, neither in the cache nor elsewhere. -/
theorem not_isCached_of_fetch_none (h : (f.fetch id w).1 = .ok none) :
    f.isCached id Layout.descriptorName (f.fetch id w).2 = false := by
  obtain ⟨u, hcourse, hsame⟩ := course_fetch f id w
  rw [h] at hcourse
  cases hcourse with
  | @absent outcome _ hbring hsource =>
  rcases bring_eq_ok hbring with ⟨-, rfl, -⟩ | ⟨hmissing, rfl⟩
  · cases hsource
  have hanswer : ∀ stream, f.answer id Layout.descriptorName w ≠ .found stream := by
    intro stream hfound
    rw [hfound] at hsource
    cases hsource
  obtain ⟨v, hbring', htree, -⟩ := bring_of_not_found f id hmissing hanswer
  obtain rfl : u = v := congrArg Prod.snd (hbring.symm.trans hbring')
  rw [isCached, hsame.tree, htree]
  exact hmissing

/-- **A fetch ends with a report if and only if it succeeds and leaves the descriptor in the
cache.** -/
theorem exists_report_iff (h : f.Calm w) (ht : w.tree.Rooted) :
    (∃ report, (f.fetch id w).1 = .ok (some report)) ↔
      (∃ result, (f.fetch id w).1 = .ok result) ∧
        f.isCached id Layout.descriptorName (f.fetch id w).2 = true := by
  constructor
  · rintro ⟨report, hreport⟩
    exact ⟨⟨_, hreport⟩, (says_of_fetch h ht hreport).2.1⟩
  · rintro ⟨⟨result, hresult⟩, hcached⟩
    cases result with
    | none => cases (not_isCached_of_fetch_none hresult).symm.trans hcached
    | some report => exact ⟨report, hresult⟩

end Fetcher

namespace Chain

/-! ## The parts of a call -/

/-- What the primary resolver answers first. -/
def firstAnswer (c : Chain ρ τ σ) (id : ModuleId) (s : ChainState ρ τ σ) : Lookup × ρ :=
  c.primary.find s.world.tree id s.primary

/-- What the primary resolver answers after the fetch. -/
def secondAnswer (c : Chain ρ τ σ) (id : ModuleId) (s : ChainState ρ τ σ) : Lookup × ρ :=
  c.primary.find (c.fallback id s.world).2.tree id (c.firstAnswer id s).2

variable (c : Chain ρ τ σ) {id : ModuleId} {s : ChainState ρ τ σ}

theorem consult_eq (id : ModuleId) (s : ChainState ρ τ σ) :
    c.consult id s =
      ((c.firstAnswer id s).1.settled, { s with primary := (c.firstAnswer id s).2 }) := rfl

/-- **A hit or a hard error is passed on**, and nothing else happens. -/
theorem find_of_answered (hid : id.isSystem = false) (h : ¬ (c.firstAnswer id s).1.IsMiss) :
    c.find id s = ((c.firstAnswer id s).1, { s with primary := (c.firstAnswer id s).2 }) := by
  obtain ⟨hsettled, hne⟩ := Lookup.settled_of_not_isMiss h
  rw [find, if_neg (by simp [hid]), consult_eq, hsettled]
  split
  next hnone => exact absurd (congrArg Prod.fst hnone) hne
  next => rfl

/-- **After a miss the fetch decides.** -/
theorem find_of_isMiss (hid : id.isSystem = false) (hmiss : (c.firstAnswer id s).1.IsMiss) :
    c.find id s =
      let fetched : ChainState ρ τ σ :=
        ⟨(c.fallback id s.world).2, (c.firstAnswer id s).2, s.system⟩
      match (c.fallback id s.world).1.map Option.isSome with
      | .error e => (.error e, fetched)
      | .ok false => (.ok none, fetched)
      | .ok true => c.consult id fetched := by
  rw [find, if_neg (by simp [hid]), consult_eq, Lookup.settled_of_isMiss hmiss]
  dsimp only
  rw [fetchMissing_eq]
  generalize (c.fallback id s.world).1.map Option.isSome = result
  rcases result with e | present
  · rfl
  · cases present <;> rfl

theorem find_of_failed (hid : id.isSystem = false) (hmiss : (c.firstAnswer id s).1.IsMiss)
    {e : LoadError} (hfetch : (c.fallback id s.world).1 = .error e) :
    c.find id s = (.error e, ⟨(c.fallback id s.world).2, (c.firstAnswer id s).2, s.system⟩) := by
  rw [c.find_of_isMiss hid hmiss, hfetch]
  rfl

theorem find_of_absent (hid : id.isSystem = false) (hmiss : (c.firstAnswer id s).1.IsMiss)
    (hfetch : (c.fallback id s.world).1 = .ok none) :
    c.find id s = (.ok none, ⟨(c.fallback id s.world).2, (c.firstAnswer id s).2, s.system⟩) := by
  rw [c.find_of_isMiss hid hmiss, hfetch]
  rfl

theorem find_of_reported (hid : id.isSystem = false) (hmiss : (c.firstAnswer id s).1.IsMiss)
    {report : Report} (hfetch : (c.fallback id s.world).1 = .ok (some report)) :
    c.find id s = ((c.secondAnswer id s).1.settled,
      ⟨(c.fallback id s.world).2, (c.secondAnswer id s).2, s.system⟩) := by
  rw [c.find_of_isMiss hid hmiss, hfetch]
  rfl

/-- **A fetch after a miss ends with a report if and only if it succeeds and leaves the descriptor
in the cache**, where there are no links and the readers leave the tree alone. -/
theorem exists_report_iff (hlinks : s.world.tree.LinkFree) (ht : s.world.tree.Rooted)
    (hreaders : c.fetcher.repository.LeavesFiles s.world.repository) :
    (∃ report, (c.fallback id s.world).1 = .ok (some report)) ↔
      (∃ result, (c.fallback id s.world).1 = .ok result) ∧
        c.fetcher.isCached id Layout.descriptorName (c.fallback id s.world).2 = true := by
  unfold fallback
  exact Fetcher.exists_report_iff ⟨hlinks, hreaders⟩ ht

end Chain

/-! ## The record of a call -/

namespace ChainState

/-- The state of a chain with records, given what is in the records. -/
def recorded (s : ChainState ρ τ σ) (asked asked' : List ModuleId) :
    ChainState (ρ × List ModuleId) (τ × List ModuleId) σ :=
  ⟨s.world, (s.primary, asked), (s.system, asked')⟩

end ChainState

namespace Chain

variable (c : Chain ρ τ σ) {id : ModuleId} {s : ChainState ρ τ σ}

theorem firstAnswer_recording (id : ModuleId) (s : ChainState ρ τ σ) :
    c.recording.firstAnswer id (s.recorded [] []) =
      ((c.firstAnswer id s).1, (c.firstAnswer id s).2, [id]) := rfl

theorem fallback_recording (id : ModuleId) (w : World σ) :
    c.recording.fallback id w = c.fallback id w := by
  unfold fallback recording
  rfl

theorem secondAnswer_recording (id : ModuleId) (s : ChainState ρ τ σ) :
    c.recording.secondAnswer id (s.recorded [] []) =
      ((c.secondAnswer id s).1, (c.secondAnswer id s).2, [id, id]) := by
  unfold secondAnswer
  rw [firstAnswer_recording, fallback_recording]
  rfl

/-- The ways a call can go, with its result and with what the primary resolver and the one of the
system module are asked for. -/
inductive Turn (c : Chain ρ τ σ) (id : ModuleId) (s : ChainState ρ τ σ) :
    Lookup × ChainState ρ τ σ → List ModuleId → List ModuleId → Prop
  | system : id.isSystem = true → Turn c id s (c.askSystem id s) [] [id]
  | answered : id.isSystem = false → ¬ (c.firstAnswer id s).1.IsMiss →
      Turn c id s ((c.firstAnswer id s).1, { s with primary := (c.firstAnswer id s).2 }) [id] []
  | failed {e} : id.isSystem = false → (c.firstAnswer id s).1.IsMiss →
      (c.fallback id s.world).1 = .error e →
      Turn c id s (.error e, ⟨(c.fallback id s.world).2, (c.firstAnswer id s).2, s.system⟩) [id] []
  | absent : id.isSystem = false → (c.firstAnswer id s).1.IsMiss →
      (c.fallback id s.world).1 = .ok none →
      Turn c id s (.ok none, ⟨(c.fallback id s.world).2, (c.firstAnswer id s).2, s.system⟩) [id] []
  | reported {report} : id.isSystem = false → (c.firstAnswer id s).1.IsMiss →
      (c.fallback id s.world).1 = .ok (some report) →
      Turn c id s ((c.secondAnswer id s).1.settled,
        ⟨(c.fallback id s.world).2, (c.secondAnswer id s).2, s.system⟩) [id, id] []

/-- **How a call goes.** The records change nothing in it. -/
theorem exists_turn (id : ModuleId) (s : ChainState ρ τ σ) :
    ∃ asked asked', c.recording.find id (s.recorded [] []) =
        ((c.find id s).1, (c.find id s).2.recorded asked asked') ∧
      c.Turn id s (c.find id s) asked asked' := by
  cases hid : id.isSystem with
  | true =>
      rw [find_of_isSystem _ hid, find_of_isSystem _ hid]
      exact ⟨[], [id], rfl, .system hid⟩
  | false =>
  by_cases hmiss : (c.firstAnswer id s).1.IsMiss
  · -- The chain with records is a chain, too, and goes the same way.
    have hmiss' : (c.recording.firstAnswer id (s.recorded [] [])).1.IsMiss := hmiss
    have hfallback : c.recording.fallback id (s.recorded [] []).world = c.fallback id s.world :=
      c.fallback_recording id s.world
    rcases hfetch : (c.fallback id s.world).1 with e | report
    · rw [find_of_failed _ hid hmiss' (hfallback ▸ hfetch), find_of_failed _ hid hmiss hfetch,
        firstAnswer_recording, hfallback]
      exact ⟨[id], [], rfl, .failed hid hmiss hfetch⟩
    cases report with
    | none =>
        rw [find_of_absent _ hid hmiss' (hfallback ▸ hfetch), find_of_absent _ hid hmiss hfetch,
          firstAnswer_recording, hfallback]
        exact ⟨[id], [], rfl, .absent hid hmiss hfetch⟩
    | some report =>
        rw [find_of_reported _ hid hmiss' (hfallback ▸ hfetch),
          find_of_reported _ hid hmiss hfetch, secondAnswer_recording, hfallback]
        exact ⟨[id, id], [], rfl, .reported hid hmiss hfetch⟩
  · have hanswered : ¬ (c.recording.firstAnswer id (s.recorded [] [])).1.IsMiss := hmiss
    rw [find_of_answered _ hid hanswered, find_of_answered _ hid hmiss, firstAnswer_recording]
    exact ⟨[id], [], rfl, .answered hid hmiss⟩

namespace Turn

variable {c : Chain ρ τ σ} {call : Lookup × ChainState ρ τ σ} {asked asked' : List ModuleId}

theorem of_isSystem (h : c.Turn id s call asked asked') (hid : id.isSystem = true) :
    asked = [] ∧ asked' = [id] ∧ call.2.world = s.world ∧
      call.1 = (c.system.find s.world.tree id s.system).1 := by
  cases h with
  | system => exact ⟨rfl, rfl, rfl, rfl⟩
  | answered hid' | failed hid' | absent hid' | reported hid' => cases hid.symm.trans hid'

theorem not_asked_of_not_isSystem (h : c.Turn id s call asked asked')
    (hid : id.isSystem = false) : asked' = [] := by
  cases h with
  | system hid' => cases hid.symm.trans hid'
  | answered | failed | absent | reported => rfl

theorem of_answered (h : c.Turn id s call asked asked') (hid : id.isSystem = false)
    (hanswered : ¬ (c.firstAnswer id s).1.IsMiss) :
    asked = [id] ∧ call.2.world = s.world ∧ call.1 = (c.firstAnswer id s).1 := by
  cases h with
  | system hid' => cases hid.symm.trans hid'
  | answered => exact ⟨rfl, rfl, rfl⟩
  | failed _ hmiss | absent _ hmiss | reported _ hmiss => exact absurd hmiss hanswered

theorem of_isMiss (h : c.Turn id s call asked asked') (hid : id.isSystem = false)
    (hmiss : (c.firstAnswer id s).1.IsMiss) :
    call.2.world = (c.fallback id s.world).2 ∧
      (∀ e, (c.fallback id s.world).1 = .error e → asked = [id] ∧ call.1 = .error e) ∧
      ((c.fallback id s.world).1 = .ok none → asked = [id] ∧ call.1 = .ok none) ∧
      ∀ report, (c.fallback id s.world).1 = .ok (some report) →
        asked = [id, id] ∧ call.1 = (c.secondAnswer id s).1.settled := by
  cases h with
  | system hid' => cases hid.symm.trans hid'
  | answered _ hanswered => exact absurd hmiss hanswered
  | failed _ _ hfetch =>
      rw [hfetch]
      exact ⟨rfl, fun | _, rfl => ⟨rfl, rfl⟩, nofun, nofun⟩
  | absent _ _ hfetch =>
      rw [hfetch]
      exact ⟨rfl, nofun, fun _ => ⟨rfl, rfl⟩, nofun⟩
  | reported _ _ hfetch =>
      rw [hfetch]
      exact ⟨rfl, nofun, nofun, fun _ _ => ⟨rfl, rfl⟩⟩

/-- **The primary resolver is asked again exactly after a miss and a fetch that ended with a
report.** -/
theorem asked_again_iff (h : c.Turn id s call asked asked') (hid : id.isSystem = false) :
    asked = [id, id] ↔
      (c.firstAnswer id s).1.IsMiss ∧ ∃ report, (c.fallback id s.world).1 = .ok (some report) := by
  cases h with
  | system hsystem => cases hid.symm.trans hsystem
  | answered _ hanswered => simp [hanswered]
  | failed _ _ hfetch => simp [hfetch]
  | absent _ _ hfetch => simp [hfetch]
  | reported _ hmiss hfetch => simp [hmiss, hfetch]

end Turn

/-- **Whom a chain asks, and when.** Let the resolvers answer anything, depending on anything they
were asked before. A record of what they are asked for changes nothing. The parser of the fetches is
any that reads the stream alone.

For the module that every process has, the resolver of this module is asked once, and nothing else
happens. For any other module this resolver is not asked at all, and the primary resolver is asked
first. A hit or a hard error is the answer, and nothing else happens. After a miss there is one
fetch. Its error is the answer; if it ends without a report, the answer is that there is no such
module; and if it ends with a report, the primary resolver is asked once more, and its answer is
the answer, with a miss as an answer.

So the primary resolver is asked twice exactly after a miss and a fetch that ended with a report.
If there are no links and the readers leave the tree alone, that is a fetch that succeeded and left
the descriptor in the cache. -/
theorem asks_in_turn (c : Chain ρ τ σ) (id : ModuleId) (s : ChainState ρ τ σ) :
    let call := c.find id s
    let first := (c.firstAnswer id s).1
    let fetched := c.fallback id s.world
    ∃ asked asked' : List ModuleId,
    c.recording.find id (s.recorded [] []) = (call.1, call.2.recorded asked asked') ∧
    (id.isSystem = true → asked = [] ∧ asked' = [id] ∧ call.2.world = s.world ∧
      call.1 = (c.system.find s.world.tree id s.system).1) ∧
    (id.isSystem = false → asked' = [] ∧
      (¬ first.IsMiss → asked = [id] ∧ call.2.world = s.world ∧ call.1 = first) ∧
      (first.IsMiss → call.2.world = fetched.2 ∧
        (∀ e, fetched.1 = .error e → asked = [id] ∧ call.1 = .error e) ∧
        (fetched.1 = .ok none → asked = [id] ∧ call.1 = .ok none) ∧
        ∀ report, fetched.1 = .ok (some report) →
          asked = [id, id] ∧ call.1 = (c.secondAnswer id s).1.settled) ∧
      (asked = [id, id] ↔ first.IsMiss ∧ ∃ report, fetched.1 = .ok (some report)) ∧
      (s.world.tree.LinkFree → s.world.tree.Rooted →
        c.fetcher.repository.LeavesFiles s.world.repository →
        (asked = [id, id] ↔ first.IsMiss ∧ (∃ result, fetched.1 = .ok result) ∧
          c.fetcher.isCached id Layout.descriptorName fetched.2 = true))) := by
  intro call first fetched
  obtain ⟨asked, asked', hrecord, hturn⟩ := c.exists_turn id s
  refine ⟨asked, asked', hrecord, hturn.of_isSystem, fun hid =>
    ⟨hturn.not_asked_of_not_isSystem hid, hturn.of_answered hid, hturn.of_isMiss hid,
      hturn.asked_again_iff hid, fun hlinks ht hreaders => ?_⟩⟩
  rw [hturn.asked_again_iff hid]
  exact and_congr_right fun _ => c.exists_report_iff hlinks ht hreaders

/-- A chain over the cache of the sample module, with a parser that gives these resources. -/
def pairChain (resources : List String) : Chain Unit Unit MemoryRepository :=
  overCache (Fetcher.pair.withParser fun _ => .ok resources) systemResolver

/-- A cache before any call, and a repository. -/
def untouched (tree : FileTree) (repository : MemoryRepository) :
    ChainState Unit Unit MemoryRepository :=
  ⟨⟨tree, repository, [], []⟩, (), ()⟩

/-- A module that is not in the cache yet is asked for twice, and then its descriptor is there. -/
theorem asks_in_turn_over_empty_cache :
    let c := pairChain ["x", "y"]
    let s := untouched .empty (Fetcher.pairResources (.ofBytes [1]) (.ofBytes [2]))
    Fetcher.pairModule.isSystem = false ∧ s.world.tree.LinkFree ∧ s.world.tree.Rooted ∧
    c.fetcher.repository.LeavesFiles s.world.repository ∧
    (c.firstAnswer Fetcher.pairModule s).1.IsMiss ∧
    (c.fallback Fetcher.pairModule s.world).1 = .ok (some Fetcher.pairReport) ∧
    c.fetcher.isCached Fetcher.pairModule Layout.descriptorName
      (c.fallback Fetcher.pairModule s.world).2 = true ∧
    c.recording.find Fetcher.pairModule (s.recorded [] []) =
      ((c.find Fetcher.pairModule s).1,
        (c.find Fetcher.pairModule s).2.recorded [Fetcher.pairModule, Fetcher.pairModule] []) ∧
    (c.find Fetcher.pairModule s).1 = (c.secondAnswer Fetcher.pairModule s).1.settled := by
  dsimp only
  generalize hc : pairChain ["x", "y"] = c
  generalize hs : untouched .empty _ = s
  have hid : Fetcher.pairModule.isSystem = false := by decide
  have hlinks : s.world.tree.LinkFree := hs ▸ linkFree_empty
  have ht : s.world.tree.Rooted := hs ▸ rooted_empty
  have hreaders : c.fetcher.repository.LeavesFiles s.world.repository := by
    subst hc hs
    exact Fetcher.leavesFiles_pairResources rfl rfl
  have hmiss : (c.firstAnswer Fetcher.pairModule s).1.IsMiss := by
    subst hc hs
    exact .inl (by decide +kernel)
  have hreport :
      (c.fallback Fetcher.pairModule s.world).1 = .ok (some Fetcher.pairReport) := by
    subst hc hs
    decide +kernel
  obtain ⟨asked, asked', hrecord, -, hother⟩ := asks_in_turn c Fetcher.pairModule s
  obtain ⟨hsystem, -, hfetched, -, hagain⟩ := hother hid
  obtain ⟨hasked, hanswer⟩ := (hfetched hmiss).2.2.2 _ hreport
  have hcached := ((hagain hlinks ht hreaders).mp hasked).2.2
  rw [hasked, hsystem] at hrecord
  exact ⟨hid, hlinks, ht, hreaders, hmiss, hreport, hcached, hrecord, hanswer⟩

/-- A module directory behind a link, and a link from there to where the first one stands. -/
def linkedTree : FileTree :=
  ((((FileTree.empty.insert ["c"] .directory).insert ["c", "m"] .directory).insert
    ["c", "m", "main"] (.link ⟨"real"⟩)).insert ["c", "m", "real"] .directory).insert
    ["c", "m", "real", "up"] (.link ⟨".."⟩)

def linkedResources : MemoryRepository :=
  { resources := [("1/m/main/module.xml", .ofBytes [60]), ("1/m/main/up/main", .ofBytes [1])] }

/-- **A reader that touches the tree spoils this, and so does a link.** In both cases the fetch ends
with a report, and the primary resolver is asked again, although the descriptor is no longer in the
cache: the reader has removed it, or a resource was put in the place of the link to it. -/
theorem asks_again_without_descriptor :
    (let c := pairChain ["x"]
      let x := Fetcher.releasing "module.xml" [.data [1]]
      let s := untouched .empty (Fetcher.pairResources x (.ofBytes []))
      (c.recording.find Fetcher.pairModule (s.recorded [] [])).2.primary.2 =
        [Fetcher.pairModule, Fetcher.pairModule] ∧
      c.fetcher.isCached Fetcher.pairModule Layout.descriptorName
        (c.fallback Fetcher.pairModule s.world).2 = false) ∧
    (let c := pairChain ["up/main"]
      let s := untouched linkedTree linkedResources
      c.fetcher.repository.LeavesFiles s.world.repository ∧
      (c.recording.find Fetcher.pairModule (s.recorded [] [])).2.primary.2 =
        [Fetcher.pairModule, Fetcher.pairModule] ∧
      c.fetcher.isCached Fetcher.pairModule Layout.descriptorName
        (c.fallback Fetcher.pairModule s.world).2 = false) :=
  ⟨⟨by decide +kernel, by decide +kernel⟩, MemoryRepository.leavesFiles (by decide),
    by decide +kernel, by decide +kernel⟩

end Chain
end ModuleDepot
