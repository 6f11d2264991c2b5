import ModuleDepot.Proofs.Store.Effect

/-! # A write stores everything or nothing

A file of a fresh name is made, takes the content piece by piece, keeps it, and is moved into
place. Each of these steps can fail for reasons that are not in the tree; a `Device` says which do.
`write` is a write on a device where none fails (`writeOn_sound`).

Wherever it fails, and wherever the stream breaks, a write leaves the files as they were. If it does
not fail, the place of the artifact has all bytes of the stream, and nothing else is changed but for
new directories (`write_is_atomic`). The artifact is found there again, unless a link was replaced
over which its own path leads (`HoldsAll`).
-/

namespace ModuleDepot

/-! ## What a stream gives -/

/-- The bytes that a read gives. -/
def Signal.bytes : Signal → List UInt8
  | .data bytes => bytes
  | _ => []

namespace ByteStream

/-- What ends a stream early: a read that fails, and not because it was interrupted. -/
def Breaks (signal : Signal) (e : IoError) : Prop :=
  signal = .broken e ∧ e.isInterruption = false

/-- A stream breaks with an error before it ends, and not before that. -/
def BreaksWith (signals : List Signal) (e : IoError) : Prop :=
  ∃ before signal behind, signals = before ++ signal :: behind ∧ Breaks signal e ∧
    ∀ s ∈ before, ∀ other, ¬ Breaks s other

/-- A stream ends. -/
def Ends (signals : List Signal) : Prop :=
  ∀ s ∈ signals, ∀ e, ¬ Breaks s e

/-- All bytes that a stream gives, in order. -/
def allBytes (signals : List Signal) : List UInt8 :=
  signals.flatMap Signal.bytes

theorem not_breaks_of_isInterruption {error : IoError} (h : error.isInterruption = true)
    (e : IoError) : ¬ Breaks (.broken error) e := by
  rintro ⟨heq, hbreak⟩
  cases heq
  cases h.symm.trans hbreak

theorem not_breaks_interrupted (e : IoError) : ¬ Breaks .interrupted e :=
  fun h => nomatch h.1

theorem not_breaks_data (bytes : List UInt8) (e : IoError) : ¬ Breaks (.data bytes) e :=
  fun h => nomatch h.1

theorem ends_cons {signal : Signal} {signals : List Signal} :
    Ends (signal :: signals) ↔ (∀ e, ¬ Breaks signal e) ∧ Ends signals :=
  List.forall_mem_cons

/-- A signal that does not end the stream does not show in how it ends. -/
theorem breaksWith_cons {signal : Signal} (h : ∀ other, ¬ Breaks signal other)
    {signals : List Signal} {e : IoError} :
    BreaksWith (signal :: signals) e ↔ BreaksWith signals e := by
  constructor
  · rintro ⟨_ | ⟨first, before⟩, last, behind, hsignals, hbreaks, hbefore⟩
    · obtain ⟨rfl, -⟩ := List.cons.inj hsignals
      exact absurd hbreaks (h e)
    · obtain ⟨rfl, hrest⟩ := List.cons.inj hsignals
      exact ⟨before, last, behind, hrest, hbreaks, (List.forall_mem_cons.mp hbefore).2⟩
  · rintro ⟨before, last, behind, rfl, hbreaks, hbefore⟩
    exact ⟨signal :: before, last, behind, rfl, hbreaks, List.forall_mem_cons.mpr ⟨h, hbefore⟩⟩

theorem breaksWith_broken {first e : IoError} (h : first.isInterruption = false)
    {signals : List Signal} : BreaksWith (.broken first :: signals) e ↔ first = e := by
  constructor
  · rintro ⟨_ | ⟨signal, before⟩, last, behind, hsignals, hbreaks, hbefore⟩
    · obtain ⟨rfl, -⟩ := List.cons.inj hsignals
      exact Signal.broken.inj hbreaks.1
    · obtain ⟨rfl, -⟩ := List.cons.inj hsignals
      exact absurd ⟨rfl, h⟩ (hbefore _ List.mem_cons_self first)
  · rintro rfl
    exact ⟨[], _, signals, rfl, ⟨rfl, h⟩, List.forall_mem_nil _⟩

end ByteStream

/-! ## Where a file is found that was put -/

namespace FileTree

variable {t : FileTree} {loc : Location} {p : Path} {content : List UInt8}

theorem insert_erase (t : FileTree) (loc : Location) (e : Entry) :
    (t.erase loc).insert loc e = t.insert loc e := by
  refine ext_entries (fun l => ?_) rfl
  simp only [erase, insert, Std.ExtTreeMap.getElem?_erase, Std.ExtTreeMap.getElem?_insert]
  split <;> rfl

/-- The way to a path does not lead over a file. -/
theorem HasWay.of_insert_file (hne : loc ≠ [])
    (h : HasWay (t.insert loc (.file content)) p) : HasWay (t.erase loc) p := by
  obtain ⟨d, hlead, hdir⟩ := h
  rw [← insert_erase] at hlead hdir
  refine ⟨d, hlead.of_insert_file hne hdir, ?_⟩
  rw [isDirectoryAt_iff, lookup_insert _ hne] at hdir
  split at hdir
  next => cases hdir
  next => exact isDirectoryAt_iff.mpr hdir

theorem HasSlot.hasWay_erase {s : Slot} (h : HasSlot t p s)
    (hdir : t.isDirectoryAt s.location = false)
    (hlink : ∀ target, t.lookup s.location ≠ some (.link target)) :
    HasWay (t.erase s.location) p := by
  obtain ⟨d, hlead, hd⟩ := h.hasWay
  have hkeeps := keepsKinds_insert_file s.location_ne_nil hdir hlink []
  have hway : HasWay (t.insert s.location (.file [])) p := by
    refine ⟨d, ?_, hkeeps.isDirectoryAt hd⟩
    rw [hkeeps.start]
    exact hlead.mono hkeeps
  exact hway.of_insert_file s.location_ne_nil

/-- A path leads to the file that was put at its place, if it leads there without that file. -/
theorem HasSlot.resolve_insert {s : Slot} (h : HasSlot t p s) (hfile : s.asDirectory = false)
    (hway : HasWay (t.erase s.location) p) :
    (t.insert s.location (.file content)).resolve p = .ok s.location := by
  obtain ⟨init, hnames, hlead⟩ := h.names
  obtain ⟨d, hd, hdir⟩ := hway
  rw [hnames, List.dropLast_concat] at hd
  have herased : KeepsKinds (t.erase s.location) t := by
    refine ⟨rfl, fun {l e} he => ⟨e, ?_, .refl e⟩⟩
    rw [lookup_erase t s.location_ne_nil] at he
    split at he
    next => cases he
    next => exact he
  -- Without the file the way is the one to its place, and it stays with the file.
  obtain rfl : d = s.directory := (hd.mono herased).unique hlead
  have hslot : HasSlot (t.erase s.location) p s :=
    ⟨h.check, ⟨init, hnames, hd⟩, hdir, h.ordinary, h.asDirectory⟩
  have hput : KeepsKinds (t.erase s.location) (t.insert s.location (.file content)) := by
    rw [← insert_erase]
    exact keepsKinds_insert s.location_ne_nil
      (by rw [lookup_erase t s.location_ne_nil, if_pos rfl]) _
  exact hslot.resolve_of_keepsKinds hfile hput
    (by rw [lookup_insert t s.location_ne_nil, if_pos rfl])

/-- **A file that was put at the place of a path is found by it if and only if the way to it does
not lead over what was there.** -/
theorem HasSlot.isFile_insert_iff {s : Slot} (h : HasSlot t p s) (hfile : s.asDirectory = false)
    (content : List UInt8) :
    (t.insert s.location (.file content)).isFile p = true ↔ HasWay (t.erase s.location) p := by
  constructor
  · intro hfound
    obtain ⟨d, _, hresolve, -⟩ := isFile_iff.mp hfound
    obtain ⟨init, hnames, hsteps, -⟩ := h.steps hfile
    have hwalk := (resolve_eq_ok_iff.mp hresolve).2
    rw [hsteps] at hwalk
    obtain ⟨m, -, hm, hdir, -⟩ := hwalk.last h.ordinary.ne_dot h.ordinary.ne_dots
    refine HasWay.of_insert_file s.location_ne_nil ⟨m, ?_, hdir⟩
    rw [hnames, List.dropLast_concat]
    exact hm
  · intro hway
    exact isFile_iff.mpr ⟨_, content, h.resolve_insert hfile hway,
      by rw [lookup_insert t s.location_ne_nil, if_pos rfl]⟩

/-- What is found is the content. -/
theorem HasSlot.openFile_insert {s : Slot} (h : HasSlot t p s) (hfile : s.asDirectory = false)
    (hway : HasWay (t.erase s.location) p) :
    (t.insert s.location (.file content)).openFile p = .ok (.ofBytes content) := by
  simp [openFile, entryAt, h.resolve_insert hfile hway, lookup_insert t s.location_ne_nil, bind,
    Except.bind]

end FileTree

namespace Store

open FileTree ByteStream

/-! ## Devices -/

/-- What can fail on a device. -/
structure Device where
  /-- Making a file of a fresh name. -/
  making : Option IoError
  /-- Taking a piece, the last one of all pieces so far. -/
  taking : List (List UInt8) → Option IoError
  /-- Keeping the whole content. -/
  keeping : List UInt8 → Option IoError
  /-- Moving the file into place. -/
  moving : Option IoError

/-- A device on which nothing fails. -/
def Device.sound : Device := ⟨none, fun _ => none, fun _ => none, none⟩

/-- A device on which content can be gathered. -/
structure Device.Gathers (device : Device) : Prop where
  making : device.making = none
  taking : ∀ pieces, device.taking pieces = none

/-- The content that is gathered for a path, behind the pieces already there, last first. -/
def Device.gather (device : Device) (p : Path) (pieces : List (List UInt8)) :
    List Signal → Except StoreError (List UInt8)
  | [] => .ok pieces.reverse.flatten
  | .interrupted :: rest => device.gather p pieces rest
  | .broken e :: rest =>
    if e.isInterruption then device.gather p pieces rest else .error (.brokenSource p e)
  | .data bytes :: rest =>
    match device.taking (bytes :: pieces) with
    | some e => .error (.notWritten p e)
    | none => device.gather p (bytes :: pieces) rest

/-- Puts gathered content into its file, and moves that into place. -/
def Device.place (device : Device) (t : FileTree) (temporary : Location) (p : Path)
    (content : List UInt8) : Written :=
  let t' := t.insert temporary (.file content)
  match device.keeping content, device.moving, t'.moveFile temporary p with
  | some e, _, _ | none, some e, _ | none, none, .error e =>
    ⟨t'.erase temporary, [savingEvent p], .error (.notWritten p e)⟩
  | none, none, .ok t'' => ⟨t'', [savingEvent p, savedEvent p content.length], .ok p⟩

/-- Gathers the stream on a device and moves it into place there, as `fill` does. -/
def fillOn (device : Device) (t : FileTree) (directory p : Path) (stream : ByteStream) : Written :=
  match device.making, t.makeTemporary directory with
  | some e, _ | none, .error e => ⟨t, [savingEvent p], .error (.notWritten p e)⟩
  | none, .ok (t₁, temporary) =>
    match device.gather p [] stream.signals with
    | .error e => ⟨t₁.erase temporary, [savingEvent p], .error e⟩
    | .ok content => device.place t₁ temporary p content

/-- Stores the whole content of a stream on a device, as `write` does. -/
def writeOn (store : Store) (device : Device) (t : FileTree) (stream : ByteStream) (name : Path) :
    Written :=
  match t.makeDirectories (store.directoryOf name) with
  | (t₁, .error e) =>
    ⟨release t₁ stream, [], .error (.createDirectory (store.directoryOf name) e)⟩
  | (t₁, .ok ()) =>
    let written := fillOn device t₁ (store.directoryOf name) (store.path name) stream
    { written with tree := release written.tree stream }

variable {device : Device} {store : Store} {t : FileTree} {stream : ByteStream} {name p : Path}

/-- On a device where nothing fails the content is what the stream gives. -/
theorem gather_sound (p : Path) (pieces : List (List UInt8)) (signals : List Signal) :
    Device.sound.gather p pieces signals =
      match copy pieces signals with
      | (_, some e) => .error (.brokenSource p e)
      | (content, none) => .ok content := by
  induction signals generalizing pieces with
  | nil => rfl
  | cons signal rest ih =>
      cases signal with
      | data bytes => exact ih (bytes :: pieces)
      | interrupted => exact ih pieces
      | broken e =>
          rw [Device.gather, copy]
          split
          · exact ih pieces
          · rfl

theorem fillOn_sound (t : FileTree) (directory p : Path) (stream : ByteStream) :
    fillOn .sound t directory p stream = fill t directory p stream := by
  unfold fillOn fill
  cases t.makeTemporary directory with
  | error e => rfl
  | ok made =>
      have hgather := gather_sound p [] stream.signals
      have hmaking : Device.sound.making = none := rfl
      rw [contents, hmaking]
      rcases hcopy : copy [] stream.signals with ⟨content, _ | e⟩
      · rw [hcopy] at hgather
        dsimp only at hgather ⊢
        rw [hgather]
        dsimp only [Device.place, Device.sound]
        cases (made.1.insert made.2 (.file content)).moveFile made.2 p <;> rfl
      · rw [hcopy] at hgather
        dsimp only at hgather ⊢
        rw [hgather]

/-- **A write is one on a device where nothing fails.** -/
theorem writeOn_sound (store : Store) (t : FileTree) (stream : ByteStream) (name : Path) :
    store.writeOn .sound t stream name = store.write t stream name := by
  rw [write_eq]
  unfold writeOn
  rcases t.makeDirectories (store.directoryOf name) with ⟨t₁, e | ⟨⟩⟩
  · rfl
  · dsimp only
    rw [fillOn_sound]

/-- Content that is gathered is all that the stream gave, and the stream ended. -/
theorem gather_eq_ok {pieces : List (List UInt8)} {signals : List Signal} {content : List UInt8}
    (h : device.gather p pieces signals = .ok content) :
    Ends signals ∧ content = pieces.reverse.flatten ++ allBytes signals := by
  induction signals generalizing pieces with
  | nil =>
      cases h
      exact ⟨List.forall_mem_nil _, by simp [allBytes]⟩
  | cons signal rest ih =>
      cases signal with
      | broken e =>
          rw [Device.gather] at h
          split at h
          next hinterruption =>
            obtain ⟨hends, hcontent⟩ := ih h
            exact ⟨ends_cons.mpr ⟨not_breaks_of_isInterruption hinterruption, hends⟩, hcontent⟩
          next => cases h
      | interrupted =>
          obtain ⟨hends, hcontent⟩ := ih h
          exact ⟨ends_cons.mpr ⟨not_breaks_interrupted, hends⟩, hcontent⟩
      | data bytes =>
          rw [Device.gather] at h
          split at h
          next => cases h
          next =>
            obtain ⟨hends, hcontent⟩ := ih h
            exact ⟨ends_cons.mpr ⟨not_breaks_data bytes, hends⟩,
              by simpa [allBytes, Signal.bytes] using hcontent⟩

/-- Where all pieces are taken, gathering fails if and only if the stream breaks. -/
theorem gather_eq_error_iff (h : ∀ pieces, device.taking pieces = none) {failure : StoreError}
    (pieces : List (List UInt8)) {signals : List Signal} :
    device.gather p pieces signals = .error failure ↔
      ∃ e, failure = .brokenSource p e ∧ BreaksWith signals e := by
  induction signals generalizing pieces with
  | nil => simp [Device.gather, BreaksWith]
  | cons signal rest ih =>
      cases signal with
      | broken e =>
          rw [Device.gather]
          split
          next hinterruption =>
            simp only [ih, breaksWith_cons (not_breaks_of_isInterruption hinterruption)]
          next hbreak =>
            simp [breaksWith_broken ((Bool.not_eq_true _).mp hbreak), eq_comm]
      | interrupted =>
          rw [Device.gather, ih]
          simp only [breaksWith_cons not_breaks_interrupted]
      | data bytes =>
          rw [Device.gather, h, ih]
          simp only [breaksWith_cons (not_breaks_data bytes)]

/-- What a stream gives to its end is known from its signals. -/
theorem contents_eq_iff {content : List UInt8} :
    stream.contents = (content, none) ↔
      Ends stream.signals ∧ content = allBytes stream.signals := by
  have hsound := gather_sound ⟨""⟩ [] stream.signals
  rw [contents]
  constructor
  · intro h
    rw [h] at hsound
    exact gather_eq_ok hsound
  · rintro ⟨hends, rfl⟩
    rcases hcopy : copy [] stream.signals with ⟨content, _ | e⟩
    · rw [hcopy] at hsound
      rw [(gather_eq_ok hsound).2]
      rfl
    · rw [hcopy] at hsound
      obtain ⟨cause, -, before, signal, behind, hsignals, hbreaks, -⟩ :=
        (gather_eq_error_iff (fun _ => rfl) []).mp hsound
      exact absurd hbreaks (hends signal (by simp [hsignals]) cause)

/-! ## What a device changes -/

/-- Either nothing is changed, or nothing failed on the device. -/
theorem fillOn_cases (device : Device) (t : FileTree) (directory p : Path) (stream : ByteStream) :
    (∃ e, (fillOn device t directory p stream).result = .error e ∧
      (fillOn device t directory p stream).tree = t) ∨
    fillOn device t directory p stream = fill t directory p stream ∧
      (fill t directory p stream).result = .ok p := by
  unfold fillOn fill
  cases device.making with
  | some e => exact .inl ⟨_, rfl, rfl⟩
  | none =>
  cases hmade : t.makeTemporary directory with
  | error e => exact .inl ⟨_, rfl, rfl⟩
  | ok made =>
  obtain ⟨loc, -, htemporary, htree⟩ := makeTemporary_eq_ok hmade
  have hne : made.2 ≠ [] := by simp [htemporary]
  have hfresh : t.lookup made.2 = none := htemporary ▸ t.lookup_freshName loc
  -- Whichever step fails, the file of the fresh name is erased again.
  have herased : ∀ content, (made.1.insert made.2 (.file content)).erase made.2 = t := by
    intro content
    rw [htree, insert_insert, erase_insert hne hfresh]
  dsimp only
  cases hgather : device.gather p [] stream.signals with
  | error e => exact .inl ⟨_, rfl, by rw [htree, erase_insert hne hfresh]⟩
  | ok content =>
  rw [contents_eq_iff.mpr (gather_eq_ok hgather)]
  dsimp only [Device.place]
  cases device.keeping content with
  | some e => exact .inl ⟨_, rfl, herased content⟩
  | none =>
  cases device.moving with
  | some e => exact .inl ⟨_, rfl, herased content⟩
  | none =>
  cases (made.1.insert made.2 (.file content)).moveFile made.2 p with
  | error e => exact .inl ⟨_, rfl, herased content⟩
  | ok moved => exact .inr ⟨rfl, rfl⟩

theorem writeOn_cases (store : Store) (device : Device) (t : FileTree) (stream : ByteStream)
    (name : Path) :
    (∃ e, (store.writeOn device t stream name).result = .error e ∧
      (store.writeOn device t stream name).tree = release (store.prepared t name) stream) ∨
    store.writeOn device t stream name = store.write t stream name ∧
      (store.write t stream name).result = .ok (store.path name) := by
  have hprepared : store.prepared t name = (t.makeDirectories (store.directoryOf name)).1 := rfl
  rw [write_eq]
  unfold writeOn
  rcases hmake : t.makeDirectories (store.directoryOf name) with ⟨t₁, e | ⟨⟩⟩
  · rw [hmake] at hprepared
    exact .inl ⟨_, rfl, by rw [hprepared]⟩
  · rw [hmake] at hprepared
    rw [hprepared]
    dsimp only
    rcases fillOn_cases device t₁ (store.directoryOf name) (store.path name) stream with
      ⟨e, he, htree⟩ | ⟨heq, hok⟩
    · exact .inl ⟨e, he, congrArg (release · stream) htree⟩
    · exact .inr ⟨by rw [heq], hok⟩

/-- A write that succeeds has stored all that the stream gave. -/
theorem stores_of_writeOn {q : Path} (h : (store.writeOn device t stream name).result = .ok q) :
    ∃ content s, q = store.path name ∧ Stores store t stream name s content ∧
      (store.writeOn device t stream name).tree =
        release ((store.prepared t name).insert s.location (.file content)) stream := by
  rcases writeOn_cases store device t stream name with ⟨_, herror, -⟩ | ⟨heq, hpath⟩
  · cases h.symm.trans herror
  rw [heq] at h ⊢
  rcases write_cases store t stream name with ⟨_, herror, -⟩ | ⟨content, s, hstores, -, htree⟩
  · cases h.symm.trans herror
  · exact ⟨content, s, Except.ok.inj (h.symm.trans hpath), hstores, htree⟩

/-- A write that fails has only made directories. -/
theorem tree_writeOn_of_error {e : StoreError}
    (h : (store.writeOn device t stream name).result = .error e) :
    (store.writeOn device t stream name).tree = release (store.prepared t name) stream := by
  rcases writeOn_cases store device t stream name with ⟨_, -, htree⟩ | ⟨heq, hok⟩
  · exact htree
  · rw [heq] at h
    cases h.symm.trans hok

/-- Once the content is gathered, its source is not to blame. -/
theorem place_ne_brokenSource (device : Device) (t : FileTree) (temporary : Location) (p : Path)
    (content : List UInt8) (q : Path) (e : IoError) :
    (device.place t temporary p content).result ≠ .error (.brokenSource q e) := by
  unfold Device.place
  dsimp only
  split <;> exact nofun

/-- Where content can be gathered, the source is to blame if and only if it breaks. -/
theorem fillOn_eq_brokenSource_iff (hdevice : device.Gathers) {directory : Path}
    {made : FileTree × Location} (hmade : t.makeTemporary directory = .ok made) {q : Path}
    {e : IoError} :
    (fillOn device t directory p stream).result = .error (.brokenSource q e) ↔
      q = p ∧ BreaksWith stream.signals e := by
  unfold fillOn
  rw [hdevice.making, hmade]
  dsimp only
  cases hgather : device.gather p [] stream.signals with
  | error failure =>
      obtain ⟨cause, rfl, hbreaks⟩ := (gather_eq_error_iff hdevice.taking []).mp hgather
      constructor
      · intro h
        cases h
        exact ⟨rfl, hbreaks⟩
      · rintro ⟨rfl, h⟩
        have hfailed := (gather_eq_error_iff (p := q) hdevice.taking []).mpr ⟨e, rfl, h⟩
        cases hgather.symm.trans hfailed
        rfl
  | ok content =>
      constructor
      · intro h
        exact (place_ne_brokenSource _ _ _ _ _ _ _ h).elim
      · rintro ⟨rfl, h⟩
        have hfailed := (gather_eq_error_iff (p := q) hdevice.taking []).mpr ⟨e, rfl, h⟩
        cases hgather.symm.trans hfailed

/-- A file of a fresh name can be made in every directory that was made. -/
theorem exists_makeTemporary_of_made (hwork : t.isDirectoryAt t.workingDirectory = true)
    {directory : Path} {u : FileTree} (hmade : t.makeDirectories directory = (u, .ok ())) :
    ∃ made, u.makeTemporary directory = .ok made := by
  rcases isDirectory_of_makeChain hmade with hempty | hdir
  · have hgrows : Grows t u := by
      have := (makes_makeDirectories t directory).grows
      rwa [hmade] at this
    have hwork' : u.isDirectoryAt u.workingDirectory = true := by
      rw [hgrows.workingDirectory]
      exact hgrows.keepsKinds.isDirectoryAt hwork
    rw [makeTemporary, hempty]
    exact ⟨_, if_pos hwork'⟩
  · obtain ⟨temporary, -, -, hmake⟩ := exists_temporary hdir
    exact ⟨_, hmake⟩

/-- **The source is to blame if and only if it breaks behind directories that could be made.** -/
theorem writeOn_eq_brokenSource_iff (hdevice : device.Gathers)
    (hwork : t.isDirectoryAt t.workingDirectory = true) {q : Path} {e : IoError} :
    (store.writeOn device t stream name).result = .error (.brokenSource q e) ↔
      q = store.path name ∧ (t.makeDirectories (store.directoryOf name)).2 = .ok () ∧
        BreaksWith stream.signals e := by
  unfold writeOn
  rcases hmade : t.makeDirectories (store.directoryOf name) with ⟨u, cause | ⟨⟩⟩
  · constructor
    · exact nofun
    · exact fun ⟨_, hok, _⟩ => nomatch hok
  · obtain ⟨made, hmake⟩ := exists_makeTemporary_of_made hwork hmade
    exact (fillOn_eq_brokenSource_iff hdevice hmake).trans (by simp)

/-! ## Everything or nothing -/

/-- `u` is `t` with the bytes stored under the name, at a location that new directories may lead
to. -/
structure HoldsAll (store : Store) (t u : FileTree) (name : Path) (bytes : List UInt8)
    (loc : Location) : Prop where
  target : store.target t name = some loc
  content : u.lookup loc = some (.file bytes)
  elsewhere : ∀ other, other ≠ loc → u.lookup other = t.lookup other ∨
    (t.lookup other = none ∧ u.lookup other = some .directory)
  found : store.has u name = true ↔
    HasWay ((store.prepared t name).erase loc) (store.path name)
  opened : store.has u name = true → store.openArtifact u name = .ok (.ofBytes bytes)
  unlinked : (∀ goal, t.lookup loc ≠ some (.link goal)) → store.has u name = true

theorem Stores.holdsAll {s : Slot} {content : List UInt8}
    (h : Stores store t stream name s content) :
    HoldsAll store t ((store.prepared t name).insert s.location (.file content)) name content
      s.location := by
  have hgrows := (makes_prepared store t name).grows
  have hfound := h.slot.isFile_insert_iff h.asFile content
  refine ⟨h.target_eq, ?_, fun other hother => ?_, hfound, fun hhas => ?_, fun hlink => ?_⟩
  · rw [lookup_insert _ s.location_ne_nil, if_pos rfl]
  · rw [lookup_insert _ s.location_ne_nil, if_neg hother.symm]
    exact hgrows.lookup other
  · delta openArtifact
    rw [h.slot.openFile_insert h.asFile (hfound.mp hhas)]
  · refine hfound.mpr (h.slot.hasWay_erase h.notDirectory fun goal hlinked => ?_)
    rcases hgrows.lookup s.location with heq | ⟨-, hdir⟩
    · exact hlink goal (heq.symm.trans hlinked)
    · cases hdir.symm.trans hlinked

/-- **What can be stored is stored**: a stream that ends, in a directory that could be made, at a
place that is no directory. -/
theorem exists_write_eq_ok_iff (hwork : t.isDirectoryAt t.workingDirectory = true) :
    (∃ p, (store.write t stream name).result = .ok p) ↔
      (t.makeDirectories (store.directoryOf name)).2 = .ok () ∧ Ends stream.signals ∧
        ∃ s, HasSlot (store.prepared t name) (store.path name) s ∧ s.asDirectory = false ∧
          (store.prepared t name).isDirectoryAt s.location = false := by
  constructor
  · rintro ⟨p, hok⟩
    rcases write_cases store t stream name with ⟨_, herror, -⟩ | ⟨content, s, hstores, -, -⟩
    · cases hok.symm.trans herror
    · exact ⟨hstores.made, (contents_eq_iff.mp hstores.contents).1, s, hstores.slot, hstores.asFile,
        hstores.notDirectory⟩
  · rintro ⟨hok, hends, s, hslot, hfile, hnot⟩
    have hmade : t.makeDirectories (store.directoryOf name) = (store.prepared t name, .ok ()) := by
      rw [prepared, ← hok]
    obtain ⟨made, hmake⟩ := exists_makeTemporary_of_made hwork hmade
    have hfill := (fill_eq_deliver_of_makeTemporary hmake hslot.hasWay stream).1
    rw [contents_eq_iff.mpr ⟨hends, rfl⟩, deliver, landing_of_hasSlot hslot hfile hnot] at hfill
    rw [write_eq, hmade]
    dsimp only
    exact ⟨_, hfill⟩

/-- **A write stores everything or nothing.** It is a write on a device where nothing fails. Let
anything fail on a device.

If a write succeeds, it gives the path of the artifact, and the stream ended. The source is to blame
if and only if it breaks behind directories that could be made, where all that it gives can be
gathered. Where nothing fails, what can be stored is stored.

Let the stream, moreover, not touch the tree itself. If a write succeeds, the place of the artifact
has all bytes of the stream, and nothing else is different but for new directories. The artifact is
found and read back, unless its own path leads over a link that stood at its place. If a write
fails, only new directories are different. -/
theorem write_is_atomic (store : Store) (t : FileTree) (stream : ByteStream) (name : Path) :
    store.writeOn .sound t stream name = store.write t stream name ∧
    (t.isDirectoryAt t.workingDirectory = true →
      ((∃ p, (store.write t stream name).result = .ok p) ↔
        (t.makeDirectories (store.directoryOf name)).2 = .ok () ∧ Ends stream.signals ∧
          ∃ s, HasSlot (store.prepared t name) (store.path name) s ∧ s.asDirectory = false ∧
            (store.prepared t name).isDirectoryAt s.location = false)) ∧
    ∀ device : Device,
      let written := store.writeOn device t stream name
      (∀ p, written.result = .ok p → p = store.path name ∧ Ends stream.signals) ∧
      (device.Gathers → t.isDirectoryAt t.workingDirectory = true → ∀ p e,
        written.result = .error (.brokenSource p e) ↔
          p = store.path name ∧ (t.makeDirectories (store.directoryOf name)).2 = .ok () ∧
            BreaksWith stream.signals e) ∧
      (stream.releases = none →
        (∀ p, written.result = .ok p →
          ∃ loc, HoldsAll store t written.tree name (allBytes stream.signals) loc) ∧
        (∀ e, written.result = .error e → Grows t written.tree ∧ ∀ loc content,
          written.tree.lookup loc = some (.file content) ↔
            t.lookup loc = some (.file content))) := by
  refine ⟨writeOn_sound store t stream name, exists_write_eq_ok_iff, fun device => ?_⟩
  intro written
  refine ⟨fun p hok => ?_, fun hdevice hwork p e => writeOn_eq_brokenSource_iff hdevice hwork,
    fun hreleases => ⟨fun p hok => ?_, fun e herror => ?_⟩⟩
  · obtain ⟨content, s, hpath, hstores, -⟩ := stores_of_writeOn hok
    exact ⟨hpath, (contents_eq_iff.mp hstores.contents).1⟩
  · obtain ⟨content, s, -, hstores, htree⟩ := stores_of_writeOn hok
    obtain ⟨-, rfl⟩ := contents_eq_iff.mp hstores.contents
    rw [htree, release_of_none hreleases]
    exact ⟨s.location, hstores.holdsAll⟩
  · have hgrows := (makes_prepared store t name).grows
    rw [tree_writeOn_of_error herror, release_of_none hreleases]
    exact ⟨hgrows, fun _ _ => hgrows.lookup_file_iff⟩

/-- A store with an old artifact. -/
def treeOfOld : FileTree :=
  (FileTree.empty.insert ["c"] .directory).insert ["c", "x"] (.file [0])

/-- An artifact is replaced by what an interrupted reader gives, and is kept where its pieces cannot
be taken. -/
theorem write_is_atomic_of_old :
    let store : Store := ⟨⟨"/c"⟩⟩
    let stream : ByteStream := ⟨[.data [1], .interrupted, .data [2, 3]], none⟩
    let full : Device := { Device.sound with taking := fun _ => some .invalidArgument }
    stream.releases = none ∧
    (store.write treeOfOld stream ⟨"x"⟩).result = .ok ⟨"/c/x"⟩ ∧
    (store.write treeOfOld stream ⟨"x"⟩).tree.lookup ["c", "x"] = some (.file [1, 2, 3]) ∧
    (store.writeOn full treeOfOld stream ⟨"x"⟩).result =
      .error (.notWritten ⟨"/c/x"⟩ .invalidArgument) ∧
    (store.writeOn full treeOfOld stream ⟨"x"⟩).tree.lookup ["c", "x"] = some (.file [0]) := by
  intro store stream full
  have hok : (store.write treeOfOld stream ⟨"x"⟩).result = .ok ⟨"/c/x"⟩ := by decide +kernel
  have herror : (store.writeOn full treeOfOld stream ⟨"x"⟩).result =
      .error (.notWritten ⟨"/c/x"⟩ .invalidArgument) := by decide +kernel
  obtain ⟨hsound, -, hdevice⟩ := write_is_atomic store treeOfOld stream ⟨"x"⟩
  obtain ⟨loc, hloc⟩ := ((hdevice .sound).2.2 rfl).1 _ (hsound ▸ hok)
  have htarget : loc = ["c", "x"] := by
    have : store.target treeOfOld ⟨"x"⟩ = some ["c", "x"] := by decide +kernel
    exact Option.some.inj (hloc.target.symm.trans this)
  refine ⟨rfl, hok, ?_, herror, ?_⟩
  · rw [← hsound, ← htarget]
    exact hloc.content
  · exact ((((hdevice full).2.2 rfl).2 _ herror).2 ["c", "x"] [0]).mpr (by decide +kernel)

/-- **What was stored is not always found.** A path can lead over the link that is replaced at its
end, and a reader can remove what was stored. So can a reader that breaks remove another file. -/
theorem stored_but_not_found :
    let store : Store := ⟨⟨"/c"⟩⟩
    let linked : FileTree :=
      ((FileTree.empty.insert ["c"] .directory).insert ["c", "d"] .directory).insert ["c", "l"]
        (.link ⟨"d"⟩)
    let filed : FileTree :=
      (FileTree.empty.insert ["c"] .directory).insert ["c", "y"] (.file [0])
    let whole : ByteStream := ⟨[.data [1]], none⟩
    let releasing : ByteStream := ⟨[.data [1]], some ⟨"/c/x"⟩⟩
    let breaking : ByteStream := ⟨[.broken (.general .unexpectedEof none)], some ⟨"/c/y"⟩⟩
    (store.write linked whole ⟨"l/../l"⟩).result = .ok ⟨"/c/l/../l"⟩ ∧
    store.has (store.write linked whole ⟨"l/../l"⟩).tree ⟨"l/../l"⟩ = false ∧
    (store.write FileTree.empty releasing ⟨"x"⟩).result = .ok ⟨"/c/x"⟩ ∧
    store.has (store.write FileTree.empty releasing ⟨"x"⟩).tree ⟨"x"⟩ = false ∧
    (store.write filed breaking ⟨"x"⟩).result =
      .error (.brokenSource ⟨"/c/x"⟩ (.general .unexpectedEof none)) ∧
    (store.write filed breaking ⟨"x"⟩).tree.lookup ["c", "y"] = none := by
  intro store linked filed whole releasing breaking
  exact ⟨by decide +kernel, by decide +kernel, by decide +kernel, by decide +kernel,
    by decide +kernel, by decide +kernel⟩

end Store
end ModuleDepot
