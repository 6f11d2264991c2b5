import ModuleDepot.Proofs.Layout
import ModuleDepot.Proofs.Store.Effect

/-! # Why a write fails

There are three reasons for a write to fail, and the error says which it is (`write_eq_error_iff`).
The directory for the artifact cannot be made, and then the stream is not read
(`write_of_unread`). Or the stream breaks. Or its content is complete and cannot be moved into
place. That the content cannot be gathered is none of them: behind a directory that was made there
is a directory to gather it in.
-/

namespace ModuleDepot.Store

open FileTree
open ModuleDepot.Path (undotted)

variable {store : Store} {t : FileTree} {stream : ByteStream} {name : Path}

/-- What goes wrong in a write that fails with an error. -/
inductive Fault (store : Store) (t : FileTree) (stream : ByteStream) (name : Path) :
    StoreError → Prop
  | directory {cause} : (t.makeDirectories (store.directoryOf name)).2 = .error cause →
      Fault store t stream name (.createDirectory (store.directoryOf name) cause)
  | source {cause} : (t.makeDirectories (store.directoryOf name)).2 = .ok () →
      stream.contents.2 = some cause → Fault store t stream name (.brokenSource (store.path name) cause)
  | place {content gathered temporary cause} :
      (t.makeDirectories (store.directoryOf name)).2 = .ok () →
      stream.contents = (content, none) →
      (store.prepared t name).makeTemporary (store.directoryOf name) = .ok (gathered, temporary) →
      (gathered.insert temporary (.file content)).moveFile temporary (store.path name) =
        .error cause →
      Fault store t stream name (.notWritten (store.path name) cause)

/-- The directory of an artifact has a text, if the root has one. -/
theorem text_directoryOf_ne_empty (hroot : store.root.text ≠ "") (hne : undotted name.names ≠ []) :
    (store.directoryOf name).text ≠ "" := by
  have hrelative : (⟨""⟩ : Path).isAbsolute = false := rfl
  -- Above an absolute path stands an absolute one.
  have habsolute : (store.path name).isAbsolute = true → undotted (store.path name).names ≠ [] →
      (store.directoryOf name).text ≠ "" := fun habs hnames =>
    Path.text_ne_empty_of_isAbsolute ((below_directoryOf hnames).isAbsolute.trans habs)
  cases habs : name.isAbsolute with
  | true =>
      have hpath : store.path name = name := Path.join_of_isAbsolute habs
      exact habsolute (by rw [hpath, habs]) (by rwa [hpath])
  | false =>
      have hnames : (store.path name).names = store.root.names ++ name.names :=
        Path.names_join habs
      have hundotted : undotted (store.path name).names ≠ [] := by
        rw [hnames, Path.undotted_append]
        exact List.append_ne_nil_of_right_ne_nil _ hne
      cases hstart : store.root.isAbsolute with
      | true => exact habsolute ((Path.isAbsolute_join habs).trans hstart) hundotted
      | false =>
          -- The first name of the root is also the first one of the path, and not its last.
          intro hempty
          have hdirectory : store.directoryOf name = ⟨""⟩ := congrArg Path.mk hempty
          have hparent := parent?_eq_directoryOf hundotted
          rw [hdirectory] at hparent
          obtain ⟨first, hfirst, hone⟩ := Path.names_of_parent?_empty hparent hundotted
          obtain ⟨other, rest, hrest⟩ :=
            List.exists_cons_of_ne_nil (Path.names_ne_nil_of_relative hstart hroot)
          rw [hnames, hrest] at hfirst hone
          obtain rfl : other = first := Option.some.inj hfirst
          have hdot : other ≠ "." := by
            rintro rfl
            have hmem : "." ∈ undotted (("." :: rest) ++ name.names) := by
              rw [hone]
              exact List.mem_singleton.mpr rfl
            exact Path.dot_not_mem_undotted _ hmem
          rw [List.cons_append, Path.undotted_cons hdot, Path.undotted_append] at hone
          exact hne (List.append_eq_nil_iff.mp (List.cons.inj hone).2).2

/-- Content can be gathered in a directory that was made. -/
theorem exists_makeTemporary {u : FileTree} {p : Path} (htext : p.text ≠ "")
    (hmade : t.makeDirectories p = (u, .ok ())) :
    ∃ gathered temporary, u.makeTemporary p = .ok (gathered, temporary) := by
  obtain ⟨temporary, -, -, hmake⟩ :=
    exists_temporary ((isDirectory_of_makeChain hmade).resolve_left htext)
  exact ⟨_, temporary, hmake⟩

/-- Where content can be gathered, it does not become an artifact if the stream breaks or if it
cannot be moved, and only then. -/
theorem fill_eq_error_iff {u gathered : FileTree} {directory p : Path} {temporary : Location}
    (hgather : u.makeTemporary directory = .ok (gathered, temporary)) {e : StoreError} :
    (fill u directory p stream).result = .error e ↔
      (∃ cause, stream.contents.2 = some cause ∧ e = .brokenSource p cause) ∨
      ∃ content cause, stream.contents = (content, none) ∧
        (gathered.insert temporary (.file content)).moveFile temporary p = .error cause ∧
        e = .notWritten p cause := by
  unfold fill
  rw [hgather]
  dsimp only
  rcases stream.contents with ⟨content, _ | broken⟩
  · dsimp only
    cases hmoved : (gathered.insert temporary (.file content)).moveFile temporary p with
    | error cause =>
        constructor
        · intro h
          cases h
          exact .inr ⟨content, cause, rfl, hmoved, rfl⟩
        · rintro (⟨_, hbroken, -⟩ | ⟨_, _, hcontents, hmove, rfl⟩)
          · cases hbroken
          · cases hcontents
            cases hmoved.symm.trans hmove
            rfl
    | ok moved =>
        constructor
        · exact nofun
        · rintro (⟨_, hbroken, -⟩ | ⟨_, _, hcontents, hmove, -⟩)
          · cases hbroken
          · cases hcontents
            cases hmoved.symm.trans hmove
  · constructor
    · intro h
      cases h
      exact .inl ⟨broken, rfl, rfl⟩
    · rintro (⟨_, hbroken, rfl⟩ | ⟨_, _, hcontents, -⟩)
      · cases hbroken
        rfl
      · cases hcontents

/-- **A write fails with an error if and only if that is what goes wrong.** -/
theorem write_eq_error_iff (htext : (store.directoryOf name).text ≠ "") {e : StoreError} :
    (store.write t stream name).result = .error e ↔ Fault store t stream name e := by
  have hprepared : store.prepared t name = (t.makeDirectories (store.directoryOf name)).1 := rfl
  have hresult := congrArg Written.result (write_eq store t stream name)
  rcases hmade : t.makeDirectories (store.directoryOf name) with ⟨u, cause | ⟨⟩⟩
  · rw [hmade] at hresult
    have hcause : (t.makeDirectories (store.directoryOf name)).2 = .error cause := by rw [hmade]
    rw [hresult]
    constructor
    · intro h
      cases h
      exact .directory hcause
    · intro h
      cases h with
      | directory hcause' =>
          cases hcause.symm.trans hcause'
          rfl
      | source hok => cases hcause.symm.trans hok
      | place hok => cases hcause.symm.trans hok
  · rw [hmade] at hresult hprepared
    have hok : (t.makeDirectories (store.directoryOf name)).2 = .ok () := by rw [hmade]
    obtain ⟨gathered, temporary, hgather⟩ := exists_makeTemporary htext hmade
    have hgather' : (store.prepared t name).makeTemporary (store.directoryOf name) =
        .ok (gathered, temporary) := hprepared ▸ hgather
    rw [hresult]
    refine (fill_eq_error_iff hgather).trans ?_
    constructor
    · rintro (⟨cause, hbroken, rfl⟩ | ⟨content, cause, hcontents, hmove, rfl⟩)
      · exact .source hok hbroken
      · exact .place hok hcontents hgather' hmove
    · intro h
      cases h with
      | directory hcause => cases hok.symm.trans hcause
      | source _ hbroken => exact .inl ⟨_, hbroken, rfl⟩
      | place _ hcontents hgather'' hmove =>
          cases hgather'.symm.trans hgather''
          exact .inr ⟨_, _, hcontents, hmove, rfl⟩

/-- **A stream whose directory cannot be made is not read**: another one in its place makes no
difference. -/
theorem write_of_unread {cause : IoError}
    (h : (t.makeDirectories (store.directoryOf name)).2 = .error cause) {other : ByteStream}
    (hreleases : other.releases = stream.releases) :
    store.write t other name = store.write t stream name := by
  rw [write_eq, write_eq]
  rcases hmade : t.makeDirectories (store.directoryOf name) with ⟨u, result⟩
  rw [hmade] at h
  obtain rfl : result = .error cause := h
  simp only [release, hreleases]

end ModuleDepot.Store
