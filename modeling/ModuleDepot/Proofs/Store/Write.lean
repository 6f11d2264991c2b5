import ModuleDepot.Proofs.FileTree.Directories
import ModuleDepot.Store

/-! # What a write leaves behind

`write` has two ends (`write_cases`). Either it fails, and of all it did only new
directories remain; or it succeeds, and the place of the last name of the path holds the
whole content of the stream. In between there is a file of a fresh name, which neither end
shows.

Which end it is, once the directory is there, can be told from the tree as it was before the fresh
file: `deliver` says what becomes of the content, and `fill` comes to the same (`fill_eq_deliver`).

After that the stream lets go of the file it held on to, if it did.
-/

namespace ModuleDepot

namespace FileTree

variable {t : FileTree}

/-! ## Files of a fresh name -/

theorem length_le_foldl (names : List String) (n : Nat) :
    n ≤ names.foldl (fun n name => max n name.length) n ∧
      ∀ name ∈ names, name.length ≤ names.foldl (fun n name => max n name.length) n := by
  induction names generalizing n with
  | nil => simp
  | cons first rest ih =>
      obtain ⟨hstart, hrest⟩ := ih (max n first.length)
      refine ⟨le_trans (le_max_left _ _) hstart, fun name hmem => ?_⟩
      rcases List.mem_cons.mp hmem with rfl | hmem
      · exact le_trans (le_max_right _ _) hstart
      · exact hrest name hmem

theorem length_le_longest (entries : List (Location × Entry)) (n : Nat) :
    let longest := entries.foldl (fun n e =>
      e.1.foldl (fun n name => max n name.length) n) n
    n ≤ longest ∧ ∀ e ∈ entries, ∀ name ∈ e.1, name.length ≤ longest := by
  induction entries generalizing n with
  | nil => simp
  | cons first rest ih =>
      obtain ⟨hstart, hrest⟩ := ih (first.1.foldl (fun n name => max n name.length) n)
      obtain ⟨hn, hfirst⟩ := length_le_foldl first.1 n
      refine ⟨le_trans hn hstart, fun e hmem name hname => ?_⟩
      rcases List.mem_cons.mp hmem with rfl | hmem
      · exact le_trans (hfirst name hname) hstart
      · exact hrest e hmem name hname

/-- Nothing in the tree has the fresh name. -/
theorem lookup_freshName (t : FileTree) (loc : Location) :
    t.lookup (loc ++ [t.freshName]) = none := by
  rw [lookup, if_neg (by simp)]
  by_contra hsome
  obtain ⟨e, he⟩ := Option.ne_none_iff_exists'.mp hsome
  have hmem : (loc ++ [t.freshName], e) ∈ t.entries.toList :=
    Std.ExtTreeMap.mem_toList_iff_getElem?_eq_some.mpr he
  have hle := (length_le_longest t.entries.toList 0).2 _ hmem t.freshName (by simp)
  generalize hlongest : t.entries.toList.foldl (fun n e =>
    e.1.foldl (fun n name => max n name.length) n) 0 = longest at hle
  have hlength : t.freshName.length = 4 + longest := by
    simp [freshName, hlongest, String.length_append]
    rfl
  omega

theorem erase_insert {loc : Location} (hne : loc ≠ []) (hnone : t.lookup loc = none)
    (e : Entry) : (t.insert loc e).erase loc = t := by
  refine ext_entries (fun l => ?_) rfl
  rw [lookup, if_neg hne] at hnone
  simp only [erase, insert, Std.ExtTreeMap.getElem?_erase, Std.ExtTreeMap.getElem?_insert]
  split
  next heq => rw [← Std.LawfulEqCmp.eq_of_compare heq, hnone]
  next => rfl

theorem insert_insert {loc : Location} (e e' : Entry) :
    (t.insert loc e).insert loc e' = t.insert loc e' := by
  refine ext_entries (fun l => ?_) rfl
  simp only [insert, Std.ExtTreeMap.getElem?_insert]
  split <;> rfl

theorem makeTemporary_eq_ok {t₁ : FileTree} {directory : Path} {temporary : Location}
    (h : t.makeTemporary directory = .ok (t₁, temporary)) :
    ∃ loc, (directory.text = "" ∧ loc = t.workingDirectory ∨ t.resolve directory = .ok loc) ∧
      temporary = loc ++ [t.freshName] ∧ t₁ = t.insert temporary (.file []) := by
  have hput : ∀ {loc : Location},
      (if t.isDirectoryAt loc = true then
        .ok (t.insert (loc ++ [t.freshName]) (.file []), loc ++ [t.freshName])
      else .error .notDirectory : Except IoError (FileTree × Location)) = .ok (t₁, temporary) →
      temporary = loc ++ [t.freshName] ∧ t₁ = t.insert temporary (.file []) := by
    intro loc h
    split at h
    · cases h
      exact ⟨rfl, rfl⟩
    · cases h
  unfold makeTemporary at h
  dsimp only at h
  split at h
  next hempty => exact ⟨_, .inl ⟨by simpa using hempty, rfl⟩, hput h⟩
  next =>
    obtain ⟨loc, hresolve, h⟩ := ok_of_bind h
    exact ⟨loc, .inr hresolve, hput h⟩

/-- In a directory a file of a fresh name can be made. -/
theorem exists_temporary {directory : Path} (h : t.isDirectory directory = true) :
    ∃ temporary, temporary ≠ [] ∧ t.lookup temporary = none ∧
      t.makeTemporary directory = .ok (t.insert temporary (.file []), temporary) := by
  obtain ⟨loc, hresolve, hloc⟩ := isDirectory_iff.mp h
  have htext := (checkPath_eq_ok_iff.mp (resolve_eq_ok_iff.mp hresolve).1).2.1
  refine ⟨loc ++ [t.freshName], by simp, t.lookup_freshName loc, ?_⟩
  simp [makeTemporary, htext, hresolve, hloc, bind, Except.bind]

/-- What is removed is the entry at the place of the last name of the path, and no directory. -/
theorem removeFile_eq_ok {u : FileTree} {p : Path} (h : t.removeFile p = .ok u) :
    ∃ s e, HasSlot t p s ∧ t.lookup s.location = some e ∧ e ≠ .directory ∧
      u = t.erase s.location := by
  obtain ⟨slot?, hslot, h⟩ := ok_of_bind h
  cases slot? with
  | none => cases h
  | some s =>
      dsimp only at h
      split at h
      · cases h
      · cases h
      next e hdirectory hentry =>
        split at h
        · cases h
        · exact ⟨s, e, hasSlot_of_slot hslot, hentry, hdirectory, (Except.ok.inj h).symm⟩

/-- A walk to a directory does not touch a file that was added. -/
theorem Leads.of_insert_file {temporary : Location} {content : List UInt8}
    (hne : temporary ≠ []) {n : Nat} {loc d : Location} {steps : List String}
    (h : Leads (t.insert temporary (.file content)) n loc steps d)
    (hdir : (t.insert temporary (.file content)).isDirectoryAt d) : Leads t n loc steps d := by
  have hold : ∀ {l : Location} {e : Entry}, e ≠ .file content →
      (t.insert temporary (.file content)).lookup l = some e → t.lookup l = some e := by
    intro l e he hl
    rw [lookup_insert t hne] at hl
    split at hl
    · exact absurd (Option.some.inj hl).symm he
    · exact hl
  have holddir : ∀ {l : Location},
      (t.insert temporary (.file content)).isDirectoryAt l → t.isDirectoryAt l :=
    fun hl => isDirectoryAt_iff.mpr (hold nofun (isDirectoryAt_iff.mp hl))
  induction h with
  | done => exact .done
  | stay hloc _ ih => exact .stay (holddir hloc) (ih hdir)
  | up hloc _ ih => exact .up (holddir hloc) (ih hdir)
  | follow hloc hn he _ ih => exact .follow (holddir hloc) hn (hold nofun he) (ih hdir)
  | @down _ l name e rest d hloc hn he hlink hrest ih =>
      -- The walk goes on from the entry or ends there, so that it is a directory.
      have hnext : (t.insert temporary (.file content)).isDirectoryAt (l ++ [name]) := by
        cases rest with
        | nil =>
            cases hrest
            exact hdir
        | cons => exact hrest.isDirectoryAt_start
      have hdirectory : e = .directory :=
        Option.some.inj (he.symm.trans (isDirectoryAt_iff.mp hnext))
      subst hdirectory
      exact .down (holddir hloc) hn (hold (e := .directory) nofun he) hlink (ih hdir)

/-! ## Where a file lands -/

variable {u : FileTree} {p : Path} {loc : Location}

/-- The place onto which a file is moved that is to be at a path. -/
def landing (t : FileTree) (p : Path) : Except IoError Slot :=
  if p.hasNul then .error .invalidArgument
  else
    match t.slot p with
    | .error e => .error e
    | .ok none => .error .busy
    | .ok (some s) =>
      if s.asDirectory then .error .notDirectory
      else if t.isDirectoryAt s.location then .error .isDirectory
      else .ok s

/-- A file is moved to where it lands. -/
theorem moveFile_eq {e : Entry} (h : t.lookup loc = some e) (p : Path) :
    t.moveFile loc p =
      match t.landing p with
      | .error e => .error e
      | .ok s => .ok ((t.erase loc).insert s.location e) := by
  unfold moveFile landing
  split
  · rfl
  rcases t.slot p with e | _ | s
  · rfl
  · rfl
  · simp only [bind, Except.bind, h]
    split
    · rfl
    split <;> rfl

theorem hasSlot_of_landing {s : Slot} (h : t.landing p = .ok s) : HasSlot t p s := by
  unfold landing at h
  split at h
  · cases h
  split at h
  · cases h
  · cases h
  next s' hslot =>
  split at h
  · cases h
  split at h
  · cases h
  · cases h
    exact hasSlot_of_slot hslot

/-- The names before the last one lead to a directory. -/
def HasWay (t : FileTree) (p : Path) : Prop :=
  ∃ d, Leads t maxLinks (t.start p) p.names.dropLast d ∧ t.isDirectoryAt d = true

theorem HasSlot.hasWay {s : Slot} (hs : HasSlot t p s) : HasWay t p := by
  obtain ⟨init, hnames, hlead⟩ := hs.names
  refine ⟨s.directory, ?_, hs.directory⟩
  rw [hnames, List.dropLast_concat]
  exact hlead

/-- A path has its place in a later tree, if there was a way to it. -/
theorem HasWay.slot_eq (h : HasWay t p) (hkeep : KeepsKinds t u) : u.slot p = t.slot p := by
  obtain ⟨d, hlead, hdir⟩ := h
  have hlead' := hlead.mono hkeep
  unfold slot
  rw [hkeep.start, hlead.walk, hlead'.walk]
  simp only [bind, Except.bind, hdir, hkeep.isDirectoryAt hdir]

theorem isDirectoryAt_insert_file (hne : loc ≠ []) (hnone : t.lookup loc = none)
    (content : List UInt8) (l : Location) :
    (t.insert loc (.file content)).isDirectoryAt l = t.isDirectoryAt l := by
  rw [isDirectoryAt, isDirectoryAt, lookup_insert t hne]
  split
  next heq =>
    rw [← heq, hnone]
    rfl
  next => rfl

/-- A file that is gathered does not change where it lands. -/
theorem HasWay.landing_insert_file (h : HasWay t p) (hne : loc ≠ []) (hnone : t.lookup loc = none)
    (content : List UInt8) : (t.insert loc (.file content)).landing p = t.landing p := by
  unfold landing
  rw [h.slot_eq (keepsKinds_insert hne hnone _)]
  simp only [isDirectoryAt_insert_file hne hnone]

end FileTree

namespace Store

open FileTree

variable {t : FileTree}

theorem fill_cases (t : FileTree) (directory p : Path) (stream : ByteStream) :
    (∃ e, (fill t directory p stream).result = .error e ∧
      (fill t directory p stream).tree = t) ∨
    ∃ content s, stream.contents = (content, none) ∧ HasSlot t p s ∧ s.asDirectory = false ∧
      t.isDirectoryAt s.location = false ∧ (fill t directory p stream).result = .ok p ∧
      (fill t directory p stream).tree = t.insert s.location (.file content) := by
  unfold fill
  split
  next e _ => exact .inl ⟨_, rfl, rfl⟩
  next t₁ temporary htemp =>
  obtain ⟨loc, -, rfl, rfl⟩ := makeTemporary_eq_ok htemp
  have hne : loc ++ [t.freshName] ≠ [] := by simp
  have hfresh := t.lookup_freshName loc
  generalize htemporary : loc ++ [t.freshName] = temporary at *
  -- Whichever way it fails from here on, the fresh file is erased, and nothing else was there.
  split
  next e _ => exact .inl ⟨_, rfl, erase_insert hne hfresh _⟩
  next content hcontents =>
  simp only [insert_insert]
  split
  next e _ => exact .inl ⟨_, rfl, erase_insert hne hfresh _⟩
  next t₃ hmove =>
  right
  unfold moveFile at hmove
  split at hmove
  · cases hmove
  have hsource : (t.insert temporary (.file content)).lookup temporary = some (.file content) := by
    rw [lookup_insert t hne, if_pos rfl]
  obtain ⟨slot?, hslot, hmove⟩ := ok_of_bind hmove
  rw [hsource] at hmove
  cases slot? with
  | none => cases hmove
  | some s =>
      dsimp only at hmove
      split at hmove
      · cases hmove
      next hfile =>
      split at hmove
      · cases hmove
      next hdir =>
      cases hmove
      have hs := hasSlot_of_slot hslot
      obtain ⟨init, hnames, hlead⟩ := hs.names
      have hdirectory : t.isDirectoryAt s.directory := by
        have := isDirectoryAt_iff.mp hs.directory
        rw [lookup_insert t hne] at this
        split at this
        · cases this
        · exact isDirectoryAt_iff.mpr this
      -- The place was found in a tree with the fresh file, which no walk to it can have met.
      have hplace : HasSlot t p s :=
        ⟨hs.check, ⟨init, hnames, hlead.of_insert_file hne hs.directory⟩, hdirectory,
          hs.ordinary, hs.asDirectory⟩
      refine ⟨content, s, hcontents, hplace, by simpa using hfile, ?_, rfl, ?_⟩
      · rw [Bool.not_eq_true] at hdir
        rw [← Bool.not_eq_true, isDirectoryAt_iff] at hdir ⊢
        rw [lookup_insert t hne] at hdir
        split at hdir
        next heq => simp [← heq, hfresh]
        next => exact hdir
      · rw [erase_insert hne hfresh]

/-- What becomes of the content that was gathered for a path, and of the tree. -/
def deliver (t : FileTree) (p : Path) :
    List UInt8 × Option IoError → Except StoreError Path × FileTree
  | (_, some e) => (.error (.brokenSource p e), t)
  | (content, none) =>
    match t.landing p with
    | .error e => (.error (.notWritten p e), t)
    | .ok s => (.ok p, t.insert s.location (.file content))

/-- **A stream is delivered** once it can be gathered and there is a way to its place. -/
theorem fill_eq_deliver_of_makeTemporary {directory p : Path} {made : FileTree × Location}
    (hmade : t.makeTemporary directory = .ok made) (hway : HasWay t p) (stream : ByteStream) :
    (fill t directory p stream).result = (deliver t p stream.contents).1 ∧
      (fill t directory p stream).tree = (deliver t p stream.contents).2 := by
  obtain ⟨gathered, temporary⟩ := made
  obtain ⟨loc, -, htemporary, rfl⟩ := makeTemporary_eq_ok hmade
  have hne : temporary ≠ [] := by simp [htemporary]
  have hfresh : t.lookup temporary = none := htemporary ▸ t.lookup_freshName loc
  unfold fill
  rw [hmade]
  dsimp only
  rcases stream.contents with ⟨content, _ | e⟩
  · have hgathered : (t.insert temporary (.file content)).lookup temporary =
        some (.file content) := by
      rw [lookup_insert t hne, if_pos rfl]
    simp only [insert_insert]
    rw [moveFile_eq hgathered, hway.landing_insert_file hne hfresh content, deliver]
    cases t.landing p with
    | error e => exact ⟨rfl, erase_insert hne hfresh _⟩
    | ok s =>
        refine ⟨rfl, ?_⟩
        dsimp only
        rw [erase_insert hne hfresh]
  · exact ⟨rfl, erase_insert hne hfresh _⟩

/-- It can be gathered in every directory. -/
theorem fill_eq_deliver {directory p : Path} (hdir : t.isDirectory directory = true)
    (hway : HasWay t p) (stream : ByteStream) :
    (fill t directory p stream).result = (deliver t p stream.contents).1 ∧
      (fill t directory p stream).tree = (deliver t p stream.contents).2 := by
  obtain ⟨temporary, -, -, hmake⟩ := exists_temporary hdir
  exact fill_eq_deliver_of_makeTemporary hmake hway stream

/-- A file lands at a place that is no directory. -/
theorem landing_of_hasSlot {p : Path} {s : Slot} (hs : HasSlot t p s)
    (hfile : s.asDirectory = false) (hnot : t.isDirectoryAt s.location = false) :
    t.landing p = .ok s := by
  simp [landing, (checkPath_eq_ok_iff.mp hs.check).1, hs.slot, hfile, hnot]

/-- A stream that does not break is stored at a place that is no directory. -/
theorem fill_of_hasSlot {directory p : Path} {stream : ByteStream} {s : Slot}
    {content : List UInt8} (hdir : t.isDirectory directory = true) (hs : HasSlot t p s)
    (hfile : s.asDirectory = false) (hnot : t.isDirectoryAt s.location = false)
    (hcontents : stream.contents = (content, none)) :
    (fill t directory p stream).tree = t.insert s.location (.file content) := by
  rw [(fill_eq_deliver hdir hs.hasWay stream).2, hcontents, deliver,
    landing_of_hasSlot hs hfile hnot]

/-- The directory in which an artifact is stored. -/
def directoryOf (store : Store) (name : Path) : Path :=
  (store.path name).parent?.getD store.root

/-- The tree with the directory for an artifact, as far as it could be made. -/
def prepared (store : Store) (t : FileTree) (name : Path) : FileTree :=
  (t.makeDirectories (store.directoryOf name)).1

/-- The location at which an artifact would be stored, once its directory is there. -/
def target (store : Store) (t : FileTree) (name : Path) : Option Location :=
  match (store.prepared t name).slot (store.path name) with
  | .ok (some s) => some s.location
  | _ => none

theorem makes_prepared (store : Store) (t : FileTree) (name : Path) :
    Makes (store.directoryOf name :: (store.directoryOf name).parents) t
      (store.prepared t name) :=
  makes_makeChain ..

theorem write_eq (store : Store) (t : FileTree) (stream : ByteStream) (name : Path) :
    store.write t stream name =
      match t.makeDirectories (store.directoryOf name) with
      | (t₁, .error e) =>
        ⟨release t₁ stream, [], .error (.createDirectory (store.directoryOf name) e)⟩
      | (t₁, .ok ()) =>
        let written := fill t₁ (store.directoryOf name) (store.path name) stream
        { written with tree := release written.tree stream } := by
  unfold write directoryOf
  extract_lets path directory
  generalize t.makeDirectories directory = made
  rfl

/-- A write that succeeded, as it left the tree before the stream let go of its file. -/
structure Stores (store : Store) (t : FileTree) (stream : ByteStream) (name : Path)
    (s : Slot) (content : List UInt8) : Prop where
  contents : stream.contents = (content, none)
  made : (t.makeDirectories (store.directoryOf name)).2 = .ok ()
  slot : HasSlot (store.prepared t name) (store.path name) s
  asFile : s.asDirectory = false
  notDirectory : (store.prepared t name).isDirectoryAt s.location = false

/-- **A write leaves new directories and nothing else, or the whole content as well.** -/
theorem write_cases (store : Store) (t : FileTree) (stream : ByteStream) (name : Path) :
    (∃ e, (store.write t stream name).result = .error e ∧
      (store.write t stream name).tree = release (store.prepared t name) stream) ∨
    ∃ content s, Stores store t stream name s content ∧
      (store.write t stream name).result = .ok (store.path name) ∧
      (store.write t stream name).tree =
        release ((store.prepared t name).insert s.location (.file content)) stream := by
  have hprepared : store.prepared t name = (t.makeDirectories (store.directoryOf name)).1 := rfl
  rw [write_eq]
  rcases hmake : t.makeDirectories (store.directoryOf name) with ⟨t₁, e | ⟨⟩⟩
  · rw [hmake] at hprepared
    exact .inl ⟨.createDirectory (store.directoryOf name) e, rfl, by rw [hprepared]⟩
  · rw [hmake] at hprepared
    rw [hprepared]
    rcases fill_cases t₁ (store.directoryOf name) (store.path name) stream with
      ⟨e, he, htree⟩ | ⟨content, s, hcontents, hslot, hfile, hdir, hok, htree⟩
    · exact .inl ⟨e, he, congrArg (release · stream) htree⟩
    · exact .inr ⟨content, s, ⟨hcontents, by rw [hmake], hprepared ▸ hslot, hfile,
        hprepared ▸ hdir⟩, hok, congrArg (release · stream) htree⟩

theorem Stores.target_eq {store : Store} {stream : ByteStream} {name : Path} {s : Slot}
    {content : List UInt8} (h : Stores store t stream name s content) :
    store.target t name = some s.location := by
  simp [target, h.slot.slot]

end Store
end ModuleDepot
