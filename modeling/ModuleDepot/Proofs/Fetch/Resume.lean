import ModuleDepot.Proofs.Fetch.Upkeep

/-! # Resuming a fetch

A fetch that a broken stream has ended can be made again, as if the stream had not broken
(`fetch_resumes`). It ends in the same tree and in the same way as a single fetch would have, and
does not ask again for what the broken one stored.

The broken fetch leaves behind what it stored and the directories for the artifact that it did
not get. Up to that artifact the resumed fetch finds each artifact in the cache or gets none for
it once more. There the directories do not show, and from there on both fetches are the same,
since answers that are fixed make a fetch a function of the tree (`sameEnd_bringAll`).
-/

namespace ModuleDepot

/-- The first answer is the second one, or a stream in place of the one found there, and this
stream breaks. -/
inductive Answer.CutsOff : Answer → Answer → Prop
  | same {answer} : CutsOff answer answer
  | broken {stream stream'} : stream.contents.2 ≠ none → CutsOff (.found stream) (.found stream')

/-- The second answers hold whole streams only, and the first ones are the same but for streams
that break. -/
structure CutsOff (cut whole : Request → Answer) : Prop where
  cuts : ∀ request, (cut request).CutsOff (whole request)
  whole : ∀ request stream, whole request = .found stream → stream.contents.2 = none

namespace Fetcher

open FileTree

variable {σ : Type} {f : Fetcher σ} {id : ModuleId} {w v : World σ} {answers : Request → Answer}

/-- The results are the same, and so are the trees. -/
inductive SameEnd {α : Type} : α × World σ → α × World σ → Prop
  | intro (result : α) {w v : World σ} : w.tree = v.tree → SameEnd (result, w) (result, v)

theorem SameEnd.result {α : Type} {x y : α × World σ} (h : SameEnd x y) : x.1 = y.1 := by
  cases h
  rfl

theorem SameEnd.tree {α : Type} {x y : α × World σ} (h : SameEnd x y) :
    x.2.tree = y.2.tree := by
  cases h
  assumption

/-! ## Fixed answers -/

theorem sameEnd_bring {name : String}
    (h : f.store.settle id name (f.answer id name w) w.tree =
      f.store.settle id name (f.answer id name v) v.tree) :
    SameEnd (f.bring id name w) (f.bring id name v) := by
  have hresult := result_bring f id name w
  have htree := tree_bring f id name w
  rw [h, ← result_bring] at hresult
  rw [h, ← tree_bring] at htree
  generalize f.bring id name w = brought at hresult htree ⊢
  generalize f.bring id name v = brought' at hresult htree ⊢
  obtain ⟨result, w'⟩ := brought
  obtain ⟨result', v'⟩ := brought'
  obtain rfl : result = result' := hresult
  exact .intro result htree

theorem gives_bring (id : ModuleId) {name : String} (hname : Layout.isContained name = true)
    (h : f.repository.Gives w.repository answers) :
    f.repository.Gives (f.bring id name w).2.repository answers :=
  gives_of_runs h (runs_bring f id hname w)

/-- Two rows go on in the same way behind an artifact that came to the same in both. -/
theorem sameEnd_cons {name : String} {rest : List String}
    (hbring : SameEnd (f.bring id name w) (f.bring id name v))
    (hrest : SameEnd (f.bringAll id rest (f.bring id name w).2)
      (f.bringAll id rest (f.bring id name v).2)) :
    SameEnd (f.bringAll id (name :: rest) w) (f.bringAll id (name :: rest) v) := by
  rw [bringAll_cons, bringAll_cons]
  generalize f.bring id name w = brought at hbring hrest ⊢
  generalize f.bring id name v = brought' at hbring hrest ⊢
  cases hbring with | @intro result w' v' htree =>
  cases result with
  | error e => exact .intro _ htree
  | ok outcome =>
      dsimp only at hrest ⊢
      generalize f.bringAll id rest w' = others at hrest ⊢
      generalize f.bringAll id rest v' = others' at hrest ⊢
      cases hrest with | intro _ htree => exact .intro _ htree

/-- **With fixed answers a row depends on the tree alone.** -/
theorem sameEnd_bringAll {names : List String}
    (hnames : ∀ name ∈ names, Layout.isContained name = true)
    (hw : f.repository.Gives w.repository answers) (hv : f.repository.Gives v.repository answers)
    (htree : w.tree = v.tree) :
    SameEnd (f.bringAll id names w) (f.bringAll id names v) := by
  induction names generalizing w v with
  | nil => exact .intro _ htree
  | cons name rest ih =>
      have hname := hnames name List.mem_cons_self
      have hbring : SameEnd (f.bring id name w) (f.bring id name v) :=
        sameEnd_bring (by rw [answer_of_gives hw, answer_of_gives hv, htree])
      exact sameEnd_cons hbring (ih (fun n hn => hnames n (List.mem_cons_of_mem _ hn))
        (gives_bring id hname hw) (gives_bring id hname hv) hbring.tree)

/-- With fixed answers a fetch goes on in the same way behind a descriptor that came to the
same. -/
theorem sameEnd_outline
    (hw : f.repository.Gives w.repository answers) (hv : f.repository.Gives v.repository answers)
    (hbring : SameEnd (f.bring id Layout.descriptorName w) (f.bring id Layout.descriptorName v)) :
    SameEnd (f.outline id w) (f.outline id v) := by
  have hw' := gives_bring id Layout.isContained_descriptorName hw
  have hv' := gives_bring id Layout.isContained_descriptorName hv
  unfold outline
  generalize f.bring id Layout.descriptorName w = brought at hbring hw' ⊢
  generalize f.bring id Layout.descriptorName v = brought' at hbring hv' ⊢
  cases hbring with | @intro result w' v' htree =>
  cases result with
  | error e => exact .intro _ htree
  | ok outcome =>
    dsimp only
    cases outcome.source? with
    | none => exact .intro _ htree
    | some source =>
      dsimp only
      rw [htree]
      cases f.readDescriptor id v'.tree with
      | error e => exact .intro _ htree
      | ok paths =>
        have hall : SameEnd (f.bringAll id (Layout.artifacts paths) w')
            (f.bringAll id (Layout.artifacts paths) v') :=
          sameEnd_bringAll (Layout.isContained_of_mem_artifacts paths) hw' hv' htree
        dsimp only at hall ⊢
        generalize f.bringAll id (Layout.artifacts paths) w' = brought at hall ⊢
        generalize f.bringAll id (Layout.artifacts paths) v' = brought' at hall ⊢
        cases hall with | @intro result u u' htree =>
        cases result <;> exact .intro _ htree

/-! ## The artifact that broke -/

/-- An artifact breaks off only if it is missing and a stream was found for it that breaks; then
it leaves its directories behind. -/
theorem broken_of_bring (hreaders : f.repository.LeavesFiles w.repository) {name : String}
    {i : ModuleId} {path : Path} {cause : IoError}
    (h : f.bring id name w = (.error (.interrupted i path cause), v)) :
    f.isCached id name w = false ∧
    (∃ stream, f.answer id name w = .found stream ∧ stream.contents.2 ≠ none) ∧
    (w.tree.makeDirectories (f.store.directoryOf (Layout.file id name))).2 = .ok () ∧
    v.tree = f.store.prepared w.tree (Layout.file id name) := by
  cases hcached : f.isCached id name w with
  | true =>
      rw [bring_of_cached f id hcached] at h
      cases h
  | false =>
      have hresult := result_bring f id name w
      have htree := tree_bring f id name w
      rw [h] at hresult htree
      by_cases hfound : ∃ stream, f.answer id name w = .found stream
      · obtain ⟨stream, hfound⟩ := hfound
        rw [hfound, Store.settle_of_found hcached] at hresult htree
        dsimp only at hresult htree
        have hbroken : (f.store.write w.tree stream (Layout.file id name)).result =
            .error (.brokenSource path cause) := by
          generalize (f.store.write w.tree stream (Layout.file id name)).result = written
            at hresult
          cases written with
          | ok => cases hresult
          | error e =>
              cases e <;> cases hresult
              rfl
        obtain ⟨hmade, hcontents⟩ := Store.write_of_brokenSource hbroken
        refine ⟨rfl, ⟨stream, hfound, by simp [hcontents]⟩, hmade, ?_⟩
        rcases Store.write_cases f.store w.tree stream (Layout.file id name) with
          ⟨_, -, hwrite⟩ | ⟨_, _, -, hok, -⟩
        · rw [Store.release_of_none (hreaders.now hfound)] at hwrite
          rw [htree, hwrite]
        · cases hok.symm.trans hbroken
      · rw [Store.settle_of_not_found hcached (not_exists.mp hfound)] at hresult
        cases hresult

/-! ## Three fetches

The first one is broken off, the second one starts in the tree that it leaves, and the third one
starts where the first one started. -/

section Resume

variable {cut whole : Request → Answer} {w₁ w₂ w₃ u : World σ} {name : String}

/-- Where the first one broke off, the directories it left do not show. -/
theorem sameEnd_of_broken (hcut : CutsOff cut whole) (hready : f.Ready id w₁)
    (h₁ : f.repository.Gives w₁.repository cut) (h₂ : f.repository.Gives w₂.repository whole)
    (h₃ : f.repository.Gives w₃.repository whole) (hname : Layout.isContained name = true)
    {i : ModuleId} {path : Path} {cause : IoError}
    (hfirst : f.bring id name w₁ = (.error (.interrupted i path cause), u))
    (htree₂ : w₂.tree = u.tree) (htree₃ : w₃.tree = w₁.tree) :
    SameEnd (f.bring id name w₂) (f.bring id name w₃) := by
  obtain ⟨hmissing, ⟨stream, hfound, hbroken⟩, hmade, htree⟩ :=
    broken_of_bring hready.calm.leavesFiles hfirst
  rw [answer_of_gives h₁] at hfound
  have hcuts := hcut.cuts (f.request id name)
  rw [hfound] at hcuts
  generalize hanswer : whole (f.request id name) = answer at hcuts
  cases hcuts with
  | same => exact absurd (hcut.whole _ _ hanswer) hbroken
  | @broken _ stream' _ =>
      have hmissing' : f.store.has (f.store.prepared w₁.tree (Layout.file id name))
          (Layout.file id name) = false :=
        (Store.has_prepared hready.calm.linkFree hready.rooted (hready.down name hname)).trans
          hmissing
      refine sameEnd_bring ?_
      rw [answer_of_gives h₂, answer_of_gives h₃, hanswer, htree₂, htree, htree₃,
        Store.settle_of_found hmissing', Store.settle_of_found hmissing,
        Store.write_prepared hmade]

/-- As long as the first one is not broken off, the third one does the same. -/
theorem sameEnd_of_ok (hcut : CutsOff cut whole)
    (h₁ : f.repository.Gives w₁.repository cut) (h₃ : f.repository.Gives w₃.repository whole)
    {outcome : Outcome} (hfirst : f.bring id name w₁ = (.ok outcome, u))
    (htree₃ : w₃.tree = w₁.tree) : SameEnd (f.bring id name w₁) (f.bring id name w₃) := by
  refine sameEnd_bring ?_
  rw [htree₃, answer_of_gives h₁, answer_of_gives h₃]
  rcases bring_eq_ok hfirst with ⟨hcached, -, -⟩ | ⟨hmissing, -⟩
  · rw [Store.settle_of_has hcached, Store.settle_of_has hcached]
  have hresult := result_bring f id name w₁
  rw [hfirst, answer_of_gives h₁] at hresult
  have hcuts := hcut.cuts (f.request id name)
  generalize cut (f.request id name) = answer at hcuts hresult ⊢
  generalize whole (f.request id name) = answer' at hcuts ⊢
  cases hcuts with
  | same => rfl
  | @broken stream stream' hbroken =>
      -- A stream that breaks is not stored.
      have hwrite : ∃ e, (f.store.write w₁.tree stream (Layout.file id name)).result = .error e :=
        Store.write_of_broken hbroken
      obtain ⟨e, he⟩ := hwrite
      rw [Store.settle_of_found hmissing, he] at hresult
      cases hresult

/-- What the first one brought the second one finds in the cache, or it gets none once more. -/
theorem bring_again (hcut : CutsOff cut whole) (hready : f.Ready id w₁)
    (h₁ : f.repository.Gives w₁.repository cut) (h₂ : f.repository.Gives w₂.repository whole)
    (hname : Layout.isContained name = true) {outcome : Outcome} {v : World σ}
    (hfirst : f.bring id name w₁ = (.ok outcome, v)) (hruns : f.Runs id v u)
    (htree₂ : w₂.tree = u.tree) :
    ∃ outcome₂ v₂, f.bring id name w₂ = (.ok outcome₂, v₂) ∧ v₂.tree = w₂.tree := by
  cases hcached : f.isCached id name w₂ with
  | true => exact ⟨_, _, bring_of_cached f id hcached, rfl⟩
  | false =>
      -- The first one did not get it either, or it would still be there. So the repository did
      -- not have it, and it does not have it now.
      have hskipped : outcome.isCached ≠ true := by
        intro havailable
        have hruns' := runs_bring f id hname w₁
        rw [hfirst] at hruns'
        have hu := (hready.of_runs hruns').isCached_of_runs hruns
          (hready.calm.isCached_of_bring hname hfirst havailable)
        rw [isCached, htree₂] at hcached
        cases hcached.symm.trans hu
      have hanswer : ∀ stream, f.answer id name w₂ ≠ .found stream := by
        intro stream hfound
        rw [answer_of_gives h₂] at hfound
        have hcuts := hcut.cuts (f.request id name)
        rw [hfound] at hcuts
        rcases bring_eq_ok hfirst with ⟨-, rfl, -⟩ | ⟨-, rfl⟩
        · exact hskipped rfl
        rw [answer_of_gives h₁] at hskipped
        generalize cut (f.request id name) = answer at hcuts hskipped
        cases hcuts <;> exact hskipped rfl
      obtain ⟨v₂, hbring, htree, -⟩ := bring_of_not_found f id hcached hanswer
      exact ⟨_, v₂, hbring, htree⟩

/-- Both end in the same tree and in the same way. -/
structure EndsAlike {α : Type} (x y : Except LoadError α × World σ) : Prop where
  result : x.1.map (fun _ => ()) = y.1.map fun _ => ()
  tree : x.2.tree = y.2.tree

theorem SameEnd.endsAlike {α : Type} {x y : Except LoadError α × World σ} (h : SameEnd x y) :
    EndsAlike x y :=
  ⟨congrArg _ h.result, h.tree⟩

/-- What is made of the results does not matter, as long as it is of one kind. -/
theorem EndsAlike.map_map {α β κ : Type} {x y : Except LoadError α × World σ}
    (h : EndsAlike x y) {g g' : α → β} {kind : β → κ} (hkind : ∀ a b, kind (g a) = kind (g' b)) :
    (x.1.map g).map kind = (y.1.map g').map kind := by
  have hresult := h.result
  generalize x.1 = result at hresult ⊢
  generalize y.1 = result' at hresult ⊢
  cases result with
  | error e =>
      cases result' with
      | error e' =>
          cases hresult
          rfl
      | ok b => cases hresult
  | ok a =>
      cases result' with
      | error e => cases hresult
      | ok b => exact congrArg Except.ok (hkind a b)

/-- **A row that was broken off can be resumed.** -/
theorem endsAlike_bringAll (hcut : CutsOff cut whole) {names : List String}
    (hnames : ∀ name ∈ names, Layout.isContained name = true) (hready : f.Ready id w₁)
    (h₁ : f.repository.Gives w₁.repository cut) (h₂ : f.repository.Gives w₂.repository whole)
    (h₃ : f.repository.Gives w₃.repository whole) {i : ModuleId} {path : Path} {cause : IoError}
    (hfirst : f.bringAll id names w₁ = (.error (.interrupted i path cause), u))
    (htree₂ : w₂.tree = u.tree) (htree₃ : w₃.tree = w₁.tree) :
    EndsAlike (f.bringAll id names w₂) (f.bringAll id names w₃) := by
  induction names generalizing w₁ w₂ w₃ with
  | nil => cases hfirst
  | cons name rest ih =>
      have hname := hnames name List.mem_cons_self
      have hrest := fun n hn => hnames n (List.mem_cons_of_mem name hn)
      rcases bringAll_cons_eq_error hfirst with hbring | ⟨outcome, v₁, hbring, hothers⟩
      · -- It was broken off here.
        have hsame := sameEnd_of_broken hcut hready h₁ h₂ h₃ hname hbring htree₂ htree₃
        exact (sameEnd_cons hsame (sameEnd_bringAll hrest (gives_bring id hname h₂)
          (gives_bring id hname h₃) hsame.tree)).endsAlike
      · -- It was broken off further on.
        have hruns := runs_bring f id hname w₁
        have hruns' := runs_bringAll f id hrest v₁
        rw [hothers] at hruns'
        have hsame := sameEnd_of_ok hcut h₁ h₃ hbring htree₃
        obtain ⟨outcome₂, v₂, hbring₂, htree⟩ :=
          bring_again hcut hready h₁ h₂ hname hbring hruns' htree₂
        rw [hbring] at hsame hruns
        rcases hbring₃ : f.bring id name w₃ with ⟨result₃, v₃⟩
        rw [hbring₃] at hsame
        obtain rfl : .ok outcome = result₃ := hsame.result
        have hgives₂ := gives_bring id hname h₂
        have hgives₃ := gives_bring id hname h₃
        rw [hbring₂] at hgives₂
        rw [hbring₃] at hgives₃
        have hends := ih hrest (hready.of_runs hruns) (gives_of_runs h₁ hruns) hgives₂ hgives₃
          hothers (htree.trans htree₂) hsame.tree.symm
        rw [bringAll_of_ok f id hbring₂, bringAll_of_ok f id hbring₃]
        exact ⟨hends.map_map fun _ _ => rfl, hends.tree⟩

theorem readDescriptor_ne_interrupted (t : FileTree) {i : ModuleId} {path : Path}
    {cause : IoError} : f.readDescriptor id t ≠ .error (.interrupted i path cause) := by
  intro h
  unfold readDescriptor at h
  extract_lets descriptor at h
  split at h
  · cases h
  · split at h <;> cases h

/-- The outline of a fetch that was broken off can be resumed. -/
theorem outline_resumes (hcut : CutsOff cut whole) (hready : f.Ready id w₁)
    (h₁ : f.repository.Gives w₁.repository cut) (h₂ : f.repository.Gives w₂.repository whole)
    (h₃ : f.repository.Gives w₃.repository whole) {i : ModuleId} {path : Path} {cause : IoError}
    (hfirst : f.Course id w₁ (.error (.interrupted i path cause)) u)
    (htree₂ : w₂.tree = u.tree) (htree₃ : w₃.tree = w₁.tree) :
    (f.outline id w₂).1.map Option.isSome = (f.outline id w₃).1.map Option.isSome ∧
      (f.outline id w₂).2.tree = (f.outline id w₃).2.tree := by
  have hname := Layout.isContained_descriptorName
  cases hfirst with
  | failed hbring =>
      have hsame := sameEnd_outline h₂ h₃
        (sameEnd_of_broken hcut hready h₁ h₂ h₃ hname hbring htree₂ htree₃)
      exact ⟨congrArg _ hsame.result, hsame.tree⟩
  | unreadable _ _ hread => exact absurd hread (readDescriptor_ne_interrupted _)
  | @brokenOff outcome source v paths _ _ hbring hsource hread hall =>
      -- The descriptor is there, and all three fetches read the same in it.
      obtain ⟨hcached, hready'⟩ := ready_of_descriptor hready.calm hready.rooted hbring hsource
      have hnames := Layout.isContained_of_mem_artifacts paths
      have hruns := runs_bring f id hname w₁
      have hruns' := runs_bringAll f id hnames v
      rw [hbring] at hruns
      rw [hall] at hruns'
      have hcached₂ : f.isCached id Layout.descriptorName w₂ = true := by
        rw [isCached, htree₂]
        exact hready'.isCached_of_runs hruns' hcached
      have hread₂ : f.readDescriptor id w₂.tree = .ok paths := by
        rw [htree₂, hready'.readDescriptor_of_runs hruns' hcached, hread]
      have hsame := sameEnd_of_ok hcut h₁ h₃ hbring htree₃
      have hgives₃ := gives_bring id hname h₃
      rcases hbring₃ : f.bring id Layout.descriptorName w₃ with ⟨result₃, v₃⟩
      rw [hbring, hbring₃] at hsame
      rw [hbring₃] at hgives₃
      obtain rfl : .ok outcome = result₃ := hsame.result
      have htree : v.tree = v₃.tree := hsame.tree
      have hread₃ : f.readDescriptor id v₃.tree = .ok paths := htree ▸ hread
      have hends := endsAlike_bringAll hcut hnames hready' (gives_of_runs h₁ hruns) h₂ hgives₃
        hall htree₂ htree.symm
      rw [outline_of_read f id (bring_of_cached f id hcached₂) rfl hread₂,
        outline_of_read f id hbring₃ hsource hread₃]
      exact ⟨hends.map_map fun _ _ => rfl, hends.tree⟩

/-- The fetch of the third world asks for nothing that was stored between the first two. -/
def RequestsNothingStored (f : Fetcher σ) (id : ModuleId) (w w' v : World σ) : Prop :=
  ∃ new, (f.fetch id v).2.requests = v.requests ++ new ∧
    ∀ name, f.Persists id name w w' → f.request id name ∉ new

/-- **A fetch that was broken off can be resumed.** Let the repository give fixed answers and a
first fetch of a plain module be broken off by one of its streams. In a tree without links, and
with readers that leave the tree alone, a second fetch without breaks then ends in the same tree
and in the same way as a single one from the start would have: in the same error, or with a report
or without one. It asks for nothing that the first fetch stored. The parser is any that reads the
stream alone. -/
theorem fetch_resumes (f : Fetcher σ) (id : ModuleId) (w₁ w₂ w₃ : World σ)
    (cut whole : Request → Answer) (hid : id.IsPlain) (hroot : ".." ∉ f.store.root.names)
    (hlinks : w₁.tree.LinkFree) (ht : w₁.tree.Rooted) (hcut : CutsOff cut whole)
    (h₁ : f.repository.Gives w₁.repository cut) (h₂ : f.repository.Gives w₂.repository whole)
    (h₃ : f.repository.Gives w₃.repository whole)
    (hreaders₁ : f.repository.LeavesFiles w₁.repository)
    (hreaders₂ : f.repository.LeavesFiles w₂.repository)
    {i : ModuleId} {path : Path} {cause : IoError}
    (hfirst : (f.fetch id w₁).1 = .error (.interrupted i path cause))
    (htree₂ : w₂.tree = (f.fetch id w₁).2.tree) (htree₃ : w₃.tree = w₁.tree) :
    (f.fetch id w₂).2.tree = (f.fetch id w₃).2.tree ∧
    (f.fetch id w₂).1.map Option.isSome = (f.fetch id w₃).1.map Option.isSome ∧
    f.RequestsNothingStored id w₁ (f.fetch id w₁).2 w₂ := by
  have hcalm : f.Calm w₁ := ⟨hlinks, hreaders₁⟩
  obtain ⟨u, hcourse, hsame⟩ := course_fetch f id w₁
  rw [hfirst] at hcourse
  rw [hsame.tree] at htree₂
  obtain ⟨hresult, htree⟩ := outline_resumes hcut (ready_of_isPlain hid hroot hcalm ht) h₁ h₂ h₃
    hcourse htree₂ htree₃
  obtain ⟨hresult₂, hsame₂⟩ := fetch_eq_outline f id w₂
  obtain ⟨hresult₃, hsame₃⟩ := fetch_eq_outline f id w₃
  refine ⟨by rw [hsame₂.tree, hsame₃.tree, htree], by rw [hresult₂, hresult₃, hresult], ?_⟩
  have hlinks₂ : w₂.tree.LinkFree := by
    rw [htree₂, ← hsame.tree]
    exact (hcalm.evolves (evolves_of_runs (runs_fetch f id w₁))).1.linkFree
  obtain ⟨new, hnew, hnot⟩ := Calm.requests_of_runs ⟨hlinks₂, hreaders₂⟩ (runs_fetch f id w₂)
  refine ⟨new, hnew, fun name hpersists => hnot name ?_⟩
  rw [isCached, htree₂, ← hsame.tree]
  exact hpersists.isCached hcalm

end Resume

/-! ## A stream that breaks -/

theorem cutsOff_pairResources {x broken whole : ByteStream} (hx : x.contents.2 = none)
    (hbroken : broken.contents.2 ≠ none) (hwhole : whole.contents.2 = none) :
    CutsOff (pairResources x broken).answer (pairResources x whole).answer := by
  refine ⟨fun request => ?_, fun request stream hfound => ?_⟩
  · simp only [MemoryRepository.answer, pairResources, List.lookup_cons, List.lookup_nil,
      Option.none_or]
    cases request.path == "1/m/main/module.xml" with
    | true => exact .same
    | false =>
    cases request.path == "1/m/main/x" with
    | true => exact .same
    | false =>
    cases request.path == "1/m/main/y" with
    | true => exact .broken hbroken
    | false => exact .same
  · have hmem := MemoryRepository.mem_of_answer hfound
    simp only [pairResources, List.mem_cons, List.not_mem_nil, Prod.mk.injEq, or_false] at hmem
    rcases hmem with ⟨-, rfl⟩ | ⟨-, rfl⟩ | ⟨-, rfl⟩
    · simp
    · exact hx
    · exact hwhole

/-- The second resource, where the connection breaks behind the content. -/
def brokenY : ByteStream :=
  ⟨[.data [2], .broken (.general .connectionReset none)], none⟩

/-- How the sample fetch ends if the second resource breaks. -/
def pairInterrupted : LoadError :=
  .interrupted pairModule ⟨"/c/m/main/y"⟩ (.general .connectionReset none)

/-- A broken fetch and its resumption. -/
theorem fetch_resumes_of_broken_stream :
    let broken := pairResources (.ofBytes [1]) brokenY
    let whole := pairResources (.ofBytes [1]) (.ofBytes [2])
    let w₁ : World MemoryRepository := ⟨.empty, broken, [], []⟩
    let w₂ : World MemoryRepository := ⟨(pair.fetch pairModule w₁).2.tree, whole, [], []⟩
    let w₃ : World MemoryRepository := ⟨.empty, whole, [], []⟩
    pairModule.IsPlain ∧ ".." ∉ pair.store.root.names ∧ w₁.tree.LinkFree ∧ w₁.tree.Rooted ∧
    CutsOff broken.answer whole.answer ∧ pair.repository.Gives w₁.repository broken.answer ∧
    pair.repository.Gives w₂.repository whole.answer ∧
    pair.repository.Gives w₃.repository whole.answer ∧
    pair.repository.LeavesFiles w₁.repository ∧ pair.repository.LeavesFiles w₂.repository ∧
    (pair.fetch pairModule w₁).1 = .error pairInterrupted ∧
    (pair.fetch pairModule w₂).2.tree = (pair.fetch pairModule w₃).2.tree := by
  intro broken whole w₁ w₂ w₃
  have hid : pairModule.IsPlain := by decide
  have hroot : ".." ∉ pair.store.root.names := by decide
  have hcut : CutsOff broken.answer whole.answer :=
    cutsOff_pairResources (by decide) (by decide) (by decide)
  have h₁ : pair.repository.Gives w₁.repository broken.answer := Repository.gives_memory broken
  have h₂ : pair.repository.Gives w₂.repository whole.answer := Repository.gives_memory whole
  have hreaders₁ : pair.repository.LeavesFiles w₁.repository := leavesFiles_pairResources rfl rfl
  have hreaders₂ : pair.repository.LeavesFiles w₂.repository := leavesFiles_pairResources rfl rfl
  have hfirst : (pair.fetch pairModule w₁).1 = .error pairInterrupted := by decide +kernel
  have hresumes := fetch_resumes pair pairModule w₁ w₂ w₃ broken.answer whole.answer hid hroot
    linkFree_empty rooted_empty hcut h₁ h₂ h₂ hreaders₁ hreaders₂ hfirst rfl rfl
  exact ⟨hid, hroot, linkFree_empty, rooted_empty, hcut, h₁, h₂, h₂, hreaders₁, hreaders₂, hfirst,
    hresumes.1⟩

/-- **A reader that touches the tree spoils this.** The descriptor declares itself as the last
resource. The first fetch stores it, and breaks off at `y`. In the resumed one the reader of `x`
removes it, and so it is requested once more. -/
theorem not_requestsNothingStored_of_releasing_reader :
    let f := pair.withParser fun _ => .ok ["y", "x", "module.xml"]
    let x := releasing "module.xml" [.data [1]]
    let broken := pairResources x brokenY
    let whole := pairResources x (.ofBytes [2])
    let w₁ : World MemoryRepository := ⟨.empty, broken, [], []⟩
    let w₂ : World MemoryRepository := ⟨(f.fetch pairModule w₁).2.tree, whole, [], []⟩
    pairModule.IsPlain ∧ ".." ∉ f.store.root.names ∧ w₁.tree.LinkFree ∧ w₁.tree.Rooted ∧
    CutsOff broken.answer whole.answer ∧ (f.fetch pairModule w₁).1 = .error pairInterrupted ∧
    f.isCached pairModule Layout.descriptorName w₂ = true ∧
    ¬ f.RequestsNothingStored pairModule w₁ (f.fetch pairModule w₁).2 w₂ := by
  intro f x broken whole w₁ w₂
  refine ⟨by decide, by decide, linkFree_empty, rooted_empty,
    cutsOff_pairResources (by decide) (by decide) (by decide), by decide +kernel,
    by decide +kernel, ?_⟩
  rintro ⟨new, hnew, hnot⟩
  have hmissing : f.isCached pairModule Layout.descriptorName w₁ = false := by decide +kernel
  have hpersists : f.Persists pairModule Layout.descriptorName w₁ (f.fetch pairModule w₁).2 := by
    refine ⟨w₁, .refl, ⟨Layout.isContained_descriptorName, hmissing, .ofBytes [60],
      f.store.path (Layout.file pairModule Layout.descriptorName), by decide +kernel,
      by decide +kernel⟩, ?_⟩
    exact (runs_bringDescriptor_of_missing f pairModule hmissing).trans
      (runs_fetch_of_bringDescriptor f pairModule w₁)
  have hrequested : f.request pairModule Layout.descriptorName ∈
      (f.fetch pairModule w₂).2.requests := by decide +kernel
  rw [hnew] at hrequested
  exact hnot _ hpersists hrequested

end Fetcher
end ModuleDepot
